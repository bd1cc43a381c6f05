import Chitragupt.StateMachine.Runs

/-!
# Duplicates among the captured entities

An item of a collection stems from the entity whose arrival made the collection longer.
Assumptions and open questions are kept once for each value.  Actors, requirements and
constraints are appended whenever they arrive, so a run captures no duplicate exactly when
it does not deliver one of those twice.
-/

namespace Chitragupt

open Machines (Machine Event)

/-- The five kinds of entities, one for each collection. -/
inductive EntityKind where
  | actor
  | requirement
  | constraint
  | assumption
  | gap
  deriving DecidableEq, Repr

namespace EntityKind

/-- The entity type on the wire. -/
def name : EntityKind → String
  | .actor => "actor"
  | .requirement => "requirement"
  | .constraint => "constraint"
  | .assumption => "assumption"
  | .gap => "gap"

/-- Number of items that a session has of this kind. -/
def size (kind : EntityKind) (state : SessionState) : Nat :=
  match kind with
  | .actor => state.actors.length
  | .requirement => state.requirements.length
  | .constraint => state.constraints.length
  | .assumption => state.assumptions.length
  | .gap => state.openQuestions.length

/-- Every arrival is appended. -/
def appends : EntityKind → Bool
  | .actor | .requirement | .constraint => true
  | .assumption | .gap => false

/-- The values of a kind that is kept once for each value. -/
def kept (kind : EntityKind) (state : SessionState) : List String :=
  match kind with
  | .actor | .requirement | .constraint => []
  | .assumption => state.assumptions
  | .gap => state.openQuestions

end EntityKind

/-- A call of `apply_entity`, with the identifier and the clock reading that it draws. -/
structure EntityCall where
  id : Uuid
  now : DateTime
  entity : ExtractedEntity

/-- The call is about an entity of this kind. -/
def EntityCall.Is (call : EntityCall) (kind : EntityKind) : Prop :=
  call.entity.entityType = kind.name

instance (call : EntityCall) (kind : EntityKind) : Decidable (call.Is kind) :=
  inferInstanceAs (Decidable (_ = _))

section Captured

variable [Runtime]

/-- The session that receives entities; a refused one leaves it as it is. -/
def entityMachine : Machine SessionState EntityCall (Except StateError Unit) where
  step state call :=
    match state.applyEntity call.id call.now call.entity with
    | .ok after => (after, .ok ())
    | .error error => (state, .error error)

/-- An event of a session that receives entities. -/
abbrev EntityEvent := Event SessionState EntityCall (Except StateError Unit)

/-- The values from which the items of one kind stem, in the order of their arrival. -/
def captured (kind : EntityKind) (events : List EntityEvent) : List String :=
  (events.filter fun event => kind.size event.before < kind.size event.after).map
    fun event => event.input.entity.value

/-- The values delivered as entities of one kind. -/
def delivered (kind : EntityKind) (calls : List EntityCall) : List String :=
  (calls.filter fun call => call.Is kind).map fun call => call.entity.value

omit [Runtime] in
/-- The sessions differ at most in the time of the last change, so all criteria are evaluated
alike. -/
structure SameButTime (before after : SessionState) : Prop where
  fields : after = { before with updatedAt := after.updatedAt }
  criteria : ∀ phase : SessionPhase, phase.evaluateAc after = phase.evaluateAc before

/-- No two items of one kind stem from the same value, and an entity that arrives again
changes nothing but the time of the last change. -/
structure Deduplicated (start : SessionState) (calls : List EntityCall) : Prop where
  distinct : ∀ kind, (captured kind (entityMachine.trace start calls)).Nodup
  repeated : ∀ earlier call later, calls = earlier ++ call :: later →
    (∃ first ∈ earlier, first.entity.entityType = call.entity.entityType ∧
      first.entity.value = call.entity.value) →
    SameButTime (entityMachine.run start earlier) (entityMachine.run start (earlier ++ [call]))

/-! ## One call -/

/-- What a call does: it is refused, adds one item, or repeats a kept value. -/
inductive CallStep (state : SessionState) (call : EntityCall) : SessionState → Prop where
  | refused : (∀ kind, ¬call.Is kind) → CallStep state call state
  | added (kind : EntityKind) (after : SessionState) :
      call.Is kind → call.entity.value ∉ kind.kept state →
      (∀ other, other.size after = other.size state + if other = kind then 1 else 0) →
      (∀ other, other.kept after = other.kept state ++
        if other = kind ∧ other.appends = false then [call.entity.value] else []) →
      CallStep state call after
  | repeated (kind : EntityKind) :
      call.Is kind → call.entity.value ∈ kind.kept state →
      CallStep state call { state with updatedAt := call.now }

theorem entityMachine_step (state : SessionState) (call : EntityCall) :
    CallStep state call (entityMachine.next state call) := by
  simp only [Machine.next, entityMachine]
  cases applied : state.applyEntity call.id call.now call.entity with
  | error error =>
      refine .refused fun kind same => ?_
      have unknown := SessionState.applyEntity_eq_error_iff.mp ⟨error, applied⟩
      rw [EntityCall.Is] at same
      rw [same] at unknown
      cases kind <;> exact unknown (by decide)
  | ok after =>
      rcases SessionState.applyEntity_cases applied with
        ⟨type, rfl⟩ | ⟨type, rfl⟩ | ⟨type, rfl⟩ | ⟨type, fresh, rfl⟩ | ⟨type, fresh, rfl⟩ |
          ⟨⟨type, known⟩ | ⟨type, known⟩, rfl⟩
      case inr.inr.inr.inr.inr.inl => exact .repeated .assumption type known
      case inr.inr.inr.inr.inr.inr => exact .repeated .gap type known
      · refine .added .actor _ type List.not_mem_nil ?_ ?_ <;>
          intro other <;> cases other <;> simp [EntityKind.size, EntityKind.kept, EntityKind.appends]
      · refine .added .requirement _ type List.not_mem_nil ?_ ?_ <;>
          intro other <;> cases other <;> simp [EntityKind.size, EntityKind.kept, EntityKind.appends]
      · refine .added .constraint _ type List.not_mem_nil ?_ ?_ <;>
          intro other <;> cases other <;> simp [EntityKind.size, EntityKind.kept, EntityKind.appends]
      · refine .added .assumption _ type fresh ?_ ?_ <;>
          intro other <;> cases other <;> simp [EntityKind.size, EntityKind.kept, EntityKind.appends]
      · refine .added .gap _ type fresh ?_ ?_ <;>
          intro other <;> cases other <;> simp [EntityKind.size, EntityKind.kept, EntityKind.appends]

omit [Runtime] in
/-- A call is about one kind at most. -/
theorem EntityCall.Is.unique {call : EntityCall} {kind other : EntityKind} (first : call.Is kind)
    (second : call.Is other) : kind = other := by
  have same : kind.name = other.name := first.symm.trans second
  revert same
  cases kind <;> cases other <;> decide

omit [Runtime] in
/-- A value that its kind does not keep is captured for that kind alone. -/
theorem captures_iff_of_fresh {kind other : EntityKind} {state : SessionState} {call : EntityCall}
    (is : call.Is other) (fresh : call.entity.value ∉ other.kept state) :
    call.Is kind ∧ call.entity.value ∉ kind.kept state ↔ kind = other := by
  constructor
  · exact fun captured => captured.1.unique is
  · rintro rfl
    exact ⟨is, fresh⟩

omit [Runtime] in
theorem not_captures_of_kept {kind other : EntityKind} {state : SessionState} {call : EntityCall}
    (is : call.Is other) (known : call.entity.value ∈ other.kept state) :
    ¬(call.Is kind ∧ call.entity.value ∉ kind.kept state) := by
  rintro ⟨here, fresh⟩
  obtain rfl := here.unique is
  exact fresh known

/-- A call adds at most one item, to the collection of its kind. -/
theorem size_next (kind : EntityKind) (state : SessionState) (call : EntityCall) :
    kind.size (entityMachine.next state call) = kind.size state +
      if call.Is kind ∧ call.entity.value ∉ kind.kept state then 1 else 0 := by
  have step := entityMachine_step state call
  generalize entityMachine.next state call = after at step ⊢
  cases step with
  | refused unknown => simp [unknown kind]
  | added other after is fresh sizes kept =>
      rw [sizes kind]
      simp only [captures_iff_of_fresh is fresh]
  | repeated other is known =>
      rw [if_neg (not_captures_of_kept is known), Nat.add_zero]
      cases kind <;> rfl

/-- A call makes a collection longer exactly when it adds an item of its kind. -/
theorem size_lt_next_iff (kind : EntityKind) (state : SessionState) (call : EntityCall) :
    kind.size state < kind.size (entityMachine.next state call) ↔
      call.Is kind ∧ call.entity.value ∉ kind.kept state := by
  rw [size_next]
  split <;> simp_all

/-- A call extends the kept values of its kind by what they do not contain. -/
theorem kept_next (kind : EntityKind) (state : SessionState) (call : EntityCall) :
    kind.kept (entityMachine.next state call) = kind.kept state ++
      if kind.appends = false ∧ call.Is kind ∧ call.entity.value ∉ kind.kept state then
        [call.entity.value]
      else [] := by
  have step := entityMachine_step state call
  generalize entityMachine.next state call = after at step ⊢
  cases step with
  | refused unknown => simp [unknown kind]
  | added other after is fresh sizes kept =>
      rw [kept kind]
      simp only [captures_iff_of_fresh is fresh, and_comm]
  | repeated other is known =>
      rw [if_neg fun parts => not_captures_of_kept is known parts.2, List.append_nil]
      cases kind <;> rfl

omit [Runtime] in
/-- No criterion looks at the time. -/
theorem sameButTime (state : SessionState) (now : DateTime) :
    SameButTime state { state with updatedAt := now } where
  fields := rfl
  criteria phase := by cases phase <;> rfl

/-! ## Runs -/

omit [Runtime] in
theorem kept_eq_nil_of_appends {kind : EntityKind} (appends : kind.appends = true)
    (state : SessionState) : kind.kept state = [] := by
  cases kind <;> first | rfl | cases appends

/-- What the first call of a run captures. -/
theorem captured_trace_cons (kind : EntityKind) (state : SessionState) (call : EntityCall)
    (calls : List EntityCall) :
    captured kind (entityMachine.trace state (call :: calls)) =
      (if call.Is kind ∧ call.entity.value ∉ kind.kept state then [call.entity.value] else []) ++
        captured kind (entityMachine.trace (entityMachine.next state call) calls) := by
  rw [Machine.trace_cons, captured, captured, List.filter_cons]
  simp only [Machine.event, size_lt_next_iff, decide_eq_true_eq]
  split <;> rfl

/-- Everything delivered of an appended kind is captured. -/
theorem captured_of_appends {kind : EntityKind} (appends : kind.appends = true)
    (state : SessionState) (calls : List EntityCall) :
    captured kind (entityMachine.trace state calls) = delivered kind calls := by
  induction calls generalizing state with
  | nil => rfl
  | cons call calls ih =>
      rw [captured_trace_cons, ih, delivered, delivered, List.filter_cons]
      simp only [kept_eq_nil_of_appends appends, List.not_mem_nil, not_false_eq_true, and_true,
        decide_eq_true_eq]
      split <;> rfl

/-- The kept values are those from before and those captured, without repetitions. -/
theorem kept_run {kind : EntityKind} (once : kind.appends = false) (state : SessionState)
    (calls : List EntityCall) (nodup : (kind.kept state).Nodup) :
    kind.kept (entityMachine.run state calls) =
        kind.kept state ++ captured kind (entityMachine.trace state calls) ∧
      (kind.kept (entityMachine.run state calls)).Nodup := by
  induction calls generalizing state with
  | nil => exact ⟨(List.append_nil _).symm, nodup⟩
  | cons call calls ih =>
      have next := kept_next kind state call
      by_cases added : call.Is kind ∧ call.entity.value ∉ kind.kept state
      · rw [if_pos ⟨once, added⟩] at next
        have distinct : (kind.kept (entityMachine.next state call)).Nodup := by
          rw [next, ← List.concat_eq_append]
          exact List.Nodup.concat added.2 nodup
        rcases ih _ distinct with ⟨later, still⟩
        refine ⟨?_, still⟩
        rw [Machine.run_cons, later, next, captured_trace_cons, if_pos added, List.append_assoc]
      · rw [if_neg fun parts => added parts.2, List.append_nil] at next
        rcases ih (entityMachine.next state call) (next ▸ nodup) with ⟨later, still⟩
        refine ⟨?_, still⟩
        rw [Machine.run_cons, later, next, captured_trace_cons, if_neg added, List.nil_append]

/-- A value delivered to a kind that is kept once stays. -/
theorem mem_kept_run {kind : EntityKind} (once : kind.appends = false) {call : EntityCall}
    (is : call.Is kind) {calls : List EntityCall} (member : call ∈ calls) (state : SessionState) :
    call.entity.value ∈ kind.kept (entityMachine.run state calls) := by
  have stays : ∀ (calls : List EntityCall) (state : SessionState),
      call.entity.value ∈ kind.kept state →
        call.entity.value ∈ kind.kept (entityMachine.run state calls) := by
    intro calls
    induction calls with
    | nil => intro state here; exact here
    | cons other calls ih =>
        intro state here
        apply ih
        rw [kept_next]
        exact List.mem_append_left _ here
  induction calls generalizing state with
  | nil => cases member
  | cons other calls ih =>
      rcases List.mem_cons.mp member with rfl | later
      · apply stays calls
        rw [kept_next]
        by_cases known : call.entity.value ∈ kind.kept state
        · exact List.mem_append_left _ known
        · rw [if_pos ⟨once, is, known⟩]
          exact List.mem_append_right _ List.mem_cons_self
      · exact ih later _

/-- A kept value that arrives again changes the time only. -/
theorem next_of_kept {kind : EntityKind} {call : EntityCall} (is : call.Is kind)
    {state : SessionState} (known : call.entity.value ∈ kind.kept state) :
    entityMachine.next state call = { state with updatedAt := call.now } := by
  have step := entityMachine_step state call
  generalize entityMachine.next state call = after at step ⊢
  cases step with
  | refused unknown => exact absurd is (unknown kind)
  | added other after here fresh sizes kept =>
      rw [here.unique is] at fresh
      exact absurd known fresh
  | repeated other here again => rfl

/-! ## Runs of a new session -/

/-- No actor, requirement or constraint is delivered twice with one value. -/
def DeliveredOnce (calls : List EntityCall) : Prop :=
  ∀ kind : EntityKind, kind.appends = true → (delivered kind calls).Nodup

omit [Runtime] in
/-- What is delivered again is of a kind that is kept once. -/
theorem not_repeated_of_deliveredOnce {earlier later : List EntityCall} {first call : EntityCall}
    (once : DeliveredOnce (earlier ++ call :: later)) (member : first ∈ earlier)
    (sameType : first.entity.entityType = call.entity.entityType)
    (sameValue : first.entity.value = call.entity.value) {kind : EntityKind}
    (is : call.Is kind) : kind.appends = false := by
  by_contra appends
  have nodup := once kind (Bool.not_eq_false _ ▸ appends)
  rw [delivered, List.filter_append, List.map_append, List.nodup_append] at nodup
  have first' : first.Is kind := sameType.trans is
  apply nodup.2.2 first.entity.value
  · exact List.mem_map_of_mem (List.mem_filter.mpr ⟨member, decide_eq_true first'⟩)
  · rw [List.filter_cons, if_pos (decide_eq_true is), List.map_cons]
    exact List.mem_cons_self
  · exact sameValue

/-- A new session captures no duplicates from entities of the known types exactly when no
actor, requirement or constraint is delivered twice. -/
theorem deduplicated_iff (id : Uuid) (now : DateTime) (workspaceId projectId : Uuid)
    {calls : List EntityCall}
    (known : ∀ call ∈ calls, call.entity.entityType ∈ SessionState.knownEntityTypes) :
    Deduplicated (.new id now workspaceId projectId) calls ↔ DeliveredOnce calls := by
  constructor
  · intro deduplicated kind appends
    have distinct := deduplicated.distinct kind
    rwa [captured_of_appends appends] at distinct
  · intro once
    refine ⟨fun kind => ?_, ?_⟩
    · cases appends : kind.appends with
      | true =>
          rw [captured_of_appends appends]
          exact once kind appends
      | false =>
          have fresh : kind.kept (.new id now workspaceId projectId) = [] := by
            cases kind <;> rfl
          have kept := kept_run appends (.new id now workspaceId projectId) calls
            (fresh ▸ List.nodup_nil)
          rw [fresh, List.nil_append] at kept
          rw [← kept.1]
          exact kept.2
    · rintro earlier call later rfl ⟨first, member, sameType, sameValue⟩
      obtain ⟨kind, is⟩ : ∃ kind, call.Is kind := by
        have listed := known call (List.mem_append_right _ List.mem_cons_self)
        simp only [SessionState.knownEntityTypes, List.mem_cons, List.not_mem_nil,
          or_false] at listed
        rcases listed with type | type | type | type | type
        · exact ⟨.actor, type⟩
        · exact ⟨.requirement, type⟩
        · exact ⟨.constraint, type⟩
        · exact ⟨.assumption, type⟩
        · exact ⟨.gap, type⟩
      have appends := not_repeated_of_deliveredOnce once member sameType sameValue is
      have there := mem_kept_run appends (sameType.trans is) member
        (.new id now workspaceId projectId)
      rw [sameValue] at there
      rw [Machine.run_append, Machine.run_cons, Machine.run_nil, next_of_kept is there]
      exact sameButTime _ call.now

end Captured

/-! ### One stakeholder, mentioned twice -/

section Sample

attribute [local instance] referenceRuntime

/-- The same actor, extracted in two turns. -/
def sampleMentions : List EntityCall :=
  [ ⟨0xB1, 1700000000000000000, ⟨"actor", "Meera, Finance", .finite 1, "conversation", []⟩⟩,
    ⟨0xB2, 1700000060000000000, ⟨"actor", "Meera, Finance", .finite 1, "conversation", []⟩⟩ ]

/-- Two actors stem from one mention. -/
theorem not_deduplicated_of_sampleMentions :
    ¬∀ id now workspaceId projectId calls,
      (∀ call ∈ calls, call.entity.entityType ∈ SessionState.knownEntityTypes) →
        Deduplicated (.new id now workspaceId projectId) calls := by
  intro all
  have distinct := (all 0xA1 1700000000000000000 1 2 sampleMentions (by decide)).distinct .actor
  rw [captured_of_appends rfl] at distinct
  exact absurd distinct (by decide)

/-- An actor, and a question that comes up twice. -/
theorem deduplicated_sampleQuestions :
    let calls : List EntityCall :=
      [ ⟨0xB1, 1, ⟨"actor", "Meera, Finance", .finite 1, "conversation", []⟩⟩,
        ⟨0xB2, 2, ⟨"gap", "Who signs off?", .finite 1, "conversation", []⟩⟩,
        ⟨0xB3, 3, ⟨"gap", "Who signs off?", .finite 1, "conversation", []⟩⟩ ]
    Deduplicated (.new 0xA1 0 1 2) calls ↔ DeliveredOnce calls := by
  intro calls
  exact deduplicated_iff 0xA1 0 1 2 (by decide)

end Sample

end Chitragupt
