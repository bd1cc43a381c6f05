import Chitragupt.StateMachine.Runs

/-!
# The ledger of acceptance criteria

A criterion is met by its last update, whatever came before.  A met criterion loses its
waiver for good, and an unmet one does not get it back.
-/

namespace Chitragupt

namespace SessionState

/-- The session after a sequence of AC updates, each with its clock reading. -/
def afterAcUpdates (state : SessionState) (calls : List (DateTime × AcUpdate)) : SessionState :=
  calls.foldl (fun state (now, update) => state.applyAcUpdate now update) state

/-- The last of the calls that is about a criterion. -/
def lastAcUpdate (criterionId : String) (calls : List (DateTime × AcUpdate)) :
    Option AcUpdate :=
  ((calls.map Prod.snd).filter (·.criterionId = criterionId)).getLast?

/-- The calls as ledger updates. -/
def acChanges (calls : List (DateTime × AcUpdate)) : List (String × Bool) :=
  calls.map fun (_, update) => (update.criterionId, update.met)

theorem ledger_afterAcUpdates (state : SessionState) (calls : List (DateTime × AcUpdate)) :
    (state.afterAcUpdates calls).ledger = state.ledger.updates (acChanges calls) := by
  induction calls generalizing state with
  | nil => rfl
  | cons call calls ih =>
      rw [afterAcUpdates, List.foldl_cons, ← afterAcUpdates, ih, ledger_applyAcUpdate]
      rfl

theorem lastFlag_acChanges (criterionId : String) (calls : List (DateTime × AcUpdate)) :
    Ledger.lastFlag criterionId (acChanges calls) =
      (lastAcUpdate criterionId calls).map AcUpdate.met := by
  have changes : acChanges calls =
      (calls.map Prod.snd).map fun update => (update.criterionId, update.met) := by
    rw [List.map_map]
    rfl
  rw [Ledger.lastFlag_eq_getLast?, changes, List.filter_map, List.getLast?_map,
    Option.map_map]
  rfl

/-- After any AC updates of a session whose met criteria are distinct and not waived, they
still are.  A criterion is met by its last update, or as before when it has none, and stays
waived as long as no update reports it met. -/
theorem acLedger_afterAcUpdates {state : SessionState} (nodup : state.acMet.Nodup)
    (disjoint : state.acMet.Disjoint state.acWaived) (calls : List (DateTime × AcUpdate)) :
    (state.afterAcUpdates calls).acMet.Nodup ∧
      (state.afterAcUpdates calls).acMet.Disjoint (state.afterAcUpdates calls).acWaived ∧
      ∀ criterionId,
        (criterionId ∈ (state.afterAcUpdates calls).acMet ↔
          (∃ last, lastAcUpdate criterionId calls = some last ∧ last.met = true) ∨
            lastAcUpdate criterionId calls = none ∧ criterionId ∈ state.acMet) ∧
        (criterionId ∈ (state.afterAcUpdates calls).acWaived ↔
          criterionId ∈ state.acWaived ∧
            ∀ call ∈ calls, call.2.criterionId = criterionId → call.2.met = false) := by
  have ledger := ledger_afterAcUpdates state calls
  have wellFormed : (state.afterAcUpdates calls).ledger.WellFormed := by
    rw [ledger]
    exact Ledger.WellFormed.updates ⟨nodup, disjoint⟩ (acChanges calls)
  refine ⟨wellFormed.nodup, wellFormed.disjoint, fun criterionId => ⟨?_, ?_⟩⟩
  · change criterionId ∈ (state.afterAcUpdates calls).ledger.recorded ↔ _
    rw [ledger, Ledger.mem_recorded_updates, lastFlag_acChanges]
    cases lastAcUpdate criterionId calls with
    | none => simp [SessionState.ledger]
    | some last => simp
  · change criterionId ∈ (state.afterAcUpdates calls).ledger.waived ↔ _
    rw [ledger, Ledger.mem_waived_updates]
    refine and_congr Iff.rfl ?_
    simp only [acChanges, List.mem_map, not_exists, not_and, Prod.mk.injEq]
    constructor
    · intro never call member same
      exact Bool.eq_false_iff.mpr fun met => never call member same met
    · intro unmet call member same met
      rw [unmet call member same] at met
      cases met

/-- A waived criterion is reported met and then unmet. -/
theorem acLedger_afterAcUpdates_sampleWaived :
    let state := { new 0xA1 0 1 2 with acWaived := ["AC-S1-01", "AC-S1-02"] }
    let calls := [(1, ⟨"AC-S1-01", true, ""⟩), (2, ⟨"AC-S1-01", false, ""⟩)]
    (state.afterAcUpdates calls).acMet.Nodup ∧
      (state.afterAcUpdates calls).acMet.Disjoint (state.afterAcUpdates calls).acWaived ∧
      ∀ criterionId,
        (criterionId ∈ (state.afterAcUpdates calls).acMet ↔
          (∃ last, lastAcUpdate criterionId calls = some last ∧ last.met = true) ∨
            lastAcUpdate criterionId calls = none ∧ criterionId ∈ state.acMet) ∧
        (criterionId ∈ (state.afterAcUpdates calls).acWaived ↔
          criterionId ∈ state.acWaived ∧
            ∀ call ∈ calls, call.2.criterionId = criterionId → call.2.met = false) := by
  intro state calls
  have nodup : state.acMet.Nodup := List.nodup_nil
  have disjoint : state.acMet.Disjoint state.acWaived := List.disjoint_nil_left _
  exact acLedger_afterAcUpdates nodup disjoint calls

end SessionState

section Service

variable [Runtime]

/-- The ledger of every session of every run is well-formed. -/
theorem ledger_wellFormed_of_run (requests : List ServiceRequest) :
    (serviceMachine.run .new requests).sessions.All fun state => state.ledger.WellFormed := by
  apply all_of_run
  · intro id now workspaceId projectId
    exact ⟨List.nodup_nil, List.disjoint_nil_left _⟩
  · intro state request wellFormed
    have step := sessionMachine_step state request
    generalize sessionMachine.next state request = after at step ⊢
    cases step with
    | turn ambient request reply _ _ =>
        rw [StateEngineService.ledger_turnResult]
        exact wellFormed.updates _
    | approve request target reply _ _ _ _ => exact wellFormed
    | block request reply _ _ _ => exact wellFormed
    | refuse ambient request reply _ _ _ => exact wellFormed
    | revisit ambient request target _ reply _ attempted _ _ =>
        rcases TransitionEngine.revisit_eq_ok.mp attempted with ⟨_, _, rfl⟩
        exact wellFormed

end Service

end Chitragupt
