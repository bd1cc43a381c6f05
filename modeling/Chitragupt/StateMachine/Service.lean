import Chitragupt.Lib.Machine
import Chitragupt.StateMachine.Transition
import Chitragupt.StateMachine.Wire

/-!
# The state engine service

The five RPCs over the in-memory map of sessions.  Each RPC takes the map lock for
its whole body, so a run of the service is a sequence of atomic requests.
-/

namespace Chitragupt

open Machines (Store)

inductive StatusCode where
  | invalidArgument
  | notFound
  deriving DecidableEq, Repr

structure Status where
  code : StatusCode
  message : String
  deriving DecidableEq, Repr

structure StateEngineService where
  sessions : Store Uuid SessionState

namespace StateEngineService

variable [Runtime]

def new : StateEngineService where
  sessions := .empty

/-! ## Mapping helpers -/

def parseUuid (text field : String) : Except Status Uuid :=
  match Runtime.parse text with
  | some id => .ok id
  | none => .error ⟨.invalidArgument, s!"invalid {field}: {text}"⟩

def parsePhase (text : String) : Except Status SessionPhase :=
  match SessionPhase.fromStr text with
  | .ok phase => .ok phase
  | .error _ => .error ⟨.invalidArgument, s!"unknown phase: {text}"⟩

def sessionNotFound (id : Uuid) : Status :=
  ⟨.notFound, s!"session {Runtime.hyphenated id} not found"⟩

def stateToProto (state : SessionState) : SessionStateProto where
  sessionId := Runtime.hyphenated state.sessionId
  workspaceId := Runtime.hyphenated state.workspaceId
  projectId := Runtime.hyphenated state.projectId
  currentPhase := state.currentPhase.displayName
  turnCount := state.turnCount.toInt32
  totalCostUsd := state.totalLlmCostUsd
  acMet := state.acMet
  acWaived := state.acWaived
  documentsIndexed := state.documentsIndexed.map Runtime.hyphenated
  stateJson := some (.ok state.toJson)

def protoToEntity (proto : EntityProto) : ExtractedEntity where
  entityType := proto.entityType
  value := proto.value
  confidence := proto.confidence
  source := proto.source
  sourceChunkIds := proto.sourceChunkIds.filterMap Runtime.parse

def protoToAcUpdate (proto : AcUpdateProto) : AcUpdate where
  criterionId := proto.criterionId
  met := proto.met
  evidence := proto.evidence

/-! ## Applying a turn result to one session -/

/-- One round of the entity loop; `drawn` counts the draws made so far.  An entity
of an unknown type is logged and skipped. -/
def acceptEntity (ambient : Ambient) (drawn : Nat) (proto : EntityProto)
    (state : SessionState) : SessionState :=
  let entity := protoToEntity proto
  match state.applyEntity (ambient.newV4 drawn) (ambient.now drawn) entity with
  | .ok applied => applied
  | .error _ => state

def applyEntities (ambient : Ambient) (drawn : Nat) :
    List EntityProto → SessionState → SessionState
  | [], state => state
  | proto :: protos, state =>
      applyEntities ambient (drawn + 1) protos (acceptEntity ambient drawn proto state)

/-- The loop over the AC updates. -/
def applyAcUpdates (ambient : Ambient) (drawn : Nat) :
    List AcUpdateProto → SessionState → SessionState
  | [], state => state
  | proto :: protos, state =>
      applyAcUpdates ambient (drawn + 1) protos
        (state.applyAcUpdate (ambient.now drawn) (protoToAcUpdate proto))

/-- The changes of `apply_turn_result` to the session, in order: entities, AC
updates, cost, turn counter.  The counter wraps, as in a release build. -/
def turnResult (ambient : Ambient) (request : TurnResultRequest) (state : SessionState) :
    SessionState :=
  let state := applyEntities ambient 0 request.entities state
  let state := applyAcUpdates ambient request.entities.length request.acUpdates state
  { state with
    totalLlmCostUsd := state.totalLlmCostUsd + request.costUsd
    turnCount := state.turnCount + (max request.turnCountDelta 0).toUInt32 }

/-- The AC evaluation reported after a turn result. -/
def turnResultResponse (state : SessionState) : TurnResultResponse :=
  let acResult := state.currentPhase.evaluateAc state
  { currentPhase := state.currentPhase.displayName
    transitionReady := acResult.transitionReady
    unmetAcCount := acResult.unmetCount }

/-! ### What a turn result writes -/

section Frame

variable (ambient : Ambient) (drawn : Nat)

/-- What an accepted entity keeps, a round of the loop keeps. -/
theorem acceptEntity_keeps {α : Type} {view : SessionState → α}
    (kept : ∀ id now entity state after,
      SessionState.applyEntity id now entity state = .ok after → view after = view state)
    (proto : EntityProto) (state : SessionState) :
    view (acceptEntity ambient drawn proto state) = view state := by
  unfold acceptEntity
  dsimp only
  split
  next applied accepted => exact kept _ _ _ _ _ accepted
  next => rfl

/-- And so does the whole loop. -/
theorem applyEntities_keeps {α : Type} {view : SessionState → α}
    (kept : ∀ id now entity state after,
      SessionState.applyEntity id now entity state = .ok after → view after = view state)
    (protos : List EntityProto) (state : SessionState) :
    view (applyEntities ambient drawn protos state) = view state := by
  induction protos generalizing drawn state with
  | nil => rfl
  | cons proto protos ih => rw [applyEntities, ih, acceptEntity_keeps ambient drawn kept]

@[simp] theorem withoutTurnFields_applyEntities (protos : List EntityProto)
    (state : SessionState) :
    (applyEntities ambient drawn protos state).withoutTurnFields = state.withoutTurnFields := by
  apply applyEntities_keeps
  intro _ _ _ _ _ applied
  exact SessionState.withoutTurnFields_applyEntity applied

@[simp] theorem ledger_applyEntities (protos : List EntityProto) (state : SessionState) :
    (applyEntities ambient drawn protos state).ledger = state.ledger := by
  apply applyEntities_keeps
  intro _ _ _ _ _ applied
  exact SessionState.ledger_applyEntity applied

@[simp] theorem totalLlmCostUsd_applyEntities (protos : List EntityProto)
    (state : SessionState) :
    (applyEntities ambient drawn protos state).totalLlmCostUsd = state.totalLlmCostUsd := by
  apply applyEntities_keeps
  intro _ _ _ _ _ applied
  exact SessionState.totalLlmCostUsd_applyEntity applied

/-- A refused entity has none of the known types. -/
theorem ne_of_refused {id : Uuid} {now : DateTime} {proto : EntityProto}
    {state : SessionState} {error : StateError} {known : String}
    (refused : state.applyEntity id now (protoToEntity proto) = .error error)
    (member : known ∈ SessionState.knownEntityTypes) : proto.entityType ≠ known := by
  intro same
  have unknown := SessionState.applyEntity_eq_error_iff.mp ⟨error, refused⟩
  apply unknown
  change proto.entityType ∈ _
  rwa [same]

theorem actors_acceptEntity (proto : EntityProto) (state : SessionState) :
    (acceptEntity ambient drawn proto state).actors = state.actors ++
      if proto.entityType = "actor" then
        [Actor.fromEntityValue (ambient.newV4 drawn) proto.value]
      else [] := by
  unfold acceptEntity
  dsimp only
  split
  next applied accepted => exact SessionState.actors_applyEntity accepted
  next error refused =>
    rw [if_neg (ne_of_refused refused (by decide)), List.append_nil]

theorem requirements_acceptEntity (proto : EntityProto) (state : SessionState) :
    (acceptEntity ambient drawn proto state).requirements = state.requirements ++
      if proto.entityType = "requirement" then
        [DraftRequirement.fromEntity (ambient.newV4 drawn) (protoToEntity proto)]
      else [] := by
  unfold acceptEntity
  dsimp only
  split
  next applied accepted => exact SessionState.requirements_applyEntity accepted
  next error refused =>
    rw [if_neg (ne_of_refused refused (by decide)), List.append_nil]

/-- One round keeps the collections exactly when the entity is idle; otherwise they
grow. -/
theorem collections_acceptEntity (proto : EntityProto) (state : SessionState) :
    (state.collections.Idle proto.entityType proto.value ∧
      (acceptEntity ambient drawn proto state).collections = state.collections) ∨
    (¬state.collections.Idle proto.entityType proto.value ∧
      state.collections.size <
        (acceptEntity ambient drawn proto state).collections.size) := by
  unfold acceptEntity
  dsimp only
  split
  next applied accepted => exact SessionState.collections_applyEntity accepted
  next error refused =>
    exact .inl ⟨.inl (SessionState.applyEntity_eq_error_iff.mp ⟨error, refused⟩), rfl⟩

theorem size_le_applyEntities (protos : List EntityProto) (state : SessionState) :
    state.collections.size ≤
      (applyEntities ambient drawn protos state).collections.size := by
  induction protos generalizing drawn state with
  | nil => exact le_rfl
  | cons proto protos ih =>
      refine le_trans ?_ (ih (drawn + 1) (acceptEntity ambient drawn proto state))
      rcases collections_acceptEntity ambient drawn proto state with ⟨_, same⟩ | ⟨_, grown⟩
      · rw [same]
      · exact grown.le

/-- The entities of a turn keep the collections exactly when all of them are idle. -/
theorem collections_applyEntities_eq_iff {protos : List EntityProto}
    {state : SessionState} :
    (applyEntities ambient drawn protos state).collections = state.collections ↔
      ∀ proto ∈ protos, state.collections.Idle proto.entityType proto.value := by
  induction protos generalizing drawn state with
  | nil => simp [applyEntities]
  | cons proto protos ih =>
      rw [applyEntities, List.forall_mem_cons]
      rcases collections_acceptEntity ambient drawn proto state with
        ⟨idle, same⟩ | ⟨busy, grown⟩
      · rw [← same, ih, same]
        exact ⟨fun rest => ⟨idle, rest⟩, fun all => all.2⟩
      · refine ⟨fun kept => ?_, fun all => absurd all.1 busy⟩
        have bound := size_le_applyEntities ambient (drawn + 1) protos
          (acceptEntity ambient drawn proto state)
        rw [kept] at bound
        omega

/-- The AC updates of a turn as ledger updates. -/
def ledgerChanges (protos : List AcUpdateProto) : List (String × Bool) :=
  protos.map fun proto => (proto.criterionId, proto.met)

omit [Runtime] in
/-- What an AC update keeps, the loop keeps. -/
theorem applyAcUpdates_keeps {α : Type} {view : SessionState → α}
    (kept : ∀ now update (state : SessionState),
      view (state.applyAcUpdate now update) = view state)
    (protos : List AcUpdateProto) (state : SessionState) :
    view (applyAcUpdates ambient drawn protos state) = view state := by
  induction protos generalizing drawn state with
  | nil => rfl
  | cons proto protos ih => rw [applyAcUpdates, ih, kept]

omit [Runtime] in
@[simp] theorem withoutTurnFields_applyAcUpdates (protos : List AcUpdateProto)
    (state : SessionState) :
    (applyAcUpdates ambient drawn protos state).withoutTurnFields =
      state.withoutTurnFields :=
  applyAcUpdates_keeps ambient drawn SessionState.withoutTurnFields_applyAcUpdate protos state

omit [Runtime] in
@[simp] theorem totalLlmCostUsd_applyAcUpdates (protos : List AcUpdateProto)
    (state : SessionState) :
    (applyAcUpdates ambient drawn protos state).totalLlmCostUsd = state.totalLlmCostUsd :=
  applyAcUpdates_keeps ambient drawn SessionState.totalLlmCostUsd_applyAcUpdate protos state

omit [Runtime] in
@[simp] theorem collections_applyAcUpdates (protos : List AcUpdateProto)
    (state : SessionState) :
    (applyAcUpdates ambient drawn protos state).collections = state.collections :=
  applyAcUpdates_keeps ambient drawn SessionState.collections_applyAcUpdate protos state

omit [Runtime] in
@[simp] theorem ledger_applyAcUpdates (protos : List AcUpdateProto)
    (state : SessionState) :
    (applyAcUpdates ambient drawn protos state).ledger =
      state.ledger.updates (ledgerChanges protos) := by
  induction protos generalizing drawn state with
  | nil => rfl
  | cons proto protos ih =>
      rw [applyAcUpdates, ih, SessionState.ledger_applyAcUpdate]
      rfl

variable (request : TurnResultRequest) (state : SessionState)

@[simp] theorem withoutTurnFields_turnResult :
    (turnResult ambient request state).withoutTurnFields = state.withoutTurnFields :=
  (withoutTurnFields_applyAcUpdates _ _ _ _).trans (withoutTurnFields_applyEntities _ _ _ _)

@[simp] theorem collections_turnResult :
    (turnResult ambient request state).collections =
      (applyEntities ambient 0 request.entities state).collections :=
  collections_applyAcUpdates _ _ _ _

@[simp] theorem ledger_turnResult :
    (turnResult ambient request state).ledger =
      state.ledger.updates (ledgerChanges request.acUpdates) :=
  (ledger_applyAcUpdates _ _ _ _).trans
    (congrArg (Ledger.updates · _) (ledger_applyEntities _ _ _ _))

@[simp] theorem totalLlmCostUsd_turnResult :
    (turnResult ambient request state).totalLlmCostUsd =
      state.totalLlmCostUsd + request.costUsd := by
  rw [turnResult, totalLlmCostUsd_applyAcUpdates, totalLlmCostUsd_applyEntities]

@[simp] theorem currentPhase_turnResult :
    (turnResult ambient request state).currentPhase = state.currentPhase := by
  have same := congrArg SessionState.currentPhase
    (withoutTurnFields_turnResult ambient request state)
  exact same

/-- No pipeline result reaches a field behind a hard gate. -/
@[simp] theorem gateFields_turnResult :
    GateManager.gateFields (turnResult ambient request state) =
      GateManager.gateFields state := by
  have same := congrArg GateManager.gateFields
    (withoutTurnFields_turnResult ambient request state)
  exact same

end Frame

/-! ## Moving one session -/

/-- The body of `request_transition` on the session found. -/
def transitionTo (target : SessionPhase) (state : SessionState) :
    SessionState × TransitionResponse :=
  match TransitionEngine.attempt state target with
  | .ok () =>
      ({ state with currentPhase := target },
        { approved := true, errorMessage := "", currentPhase := target.displayName })
  | .error error =>
      (state,
        { approved := false
          errorMessage := error.toString
          currentPhase := state.currentPhase.displayName })

/-- The body of `revisit_phase` on the session found. -/
def revisitTo (now : Nat → DateTime) (target : SessionPhase) (state : SessionState) :
    SessionState × RevisitResponse :=
  match TransitionEngine.revisit now state target with
  | .ok state =>
      (state, { ok := true, errorMessage := "", currentPhase := target.displayName })
  | .error error =>
      (state,
        { ok := false
          errorMessage := error.toString
          currentPhase := state.currentPhase.displayName })

/-! ## The RPCs -/

variable (service : StateEngineService)

def createSession (ambient : Ambient) (request : CreateSessionRequest) :
    StateEngineService × Except Status CreateSessionResponse :=
  match parseUuid request.workspaceId "workspace_id" with
  | .error status => (service, .error status)
  | .ok workspaceId =>
      match parseUuid request.projectId "project_id" with
      | .error status => (service, .error status)
      | .ok projectId =>
          let sessionId := ambient.newV4 0
          let state := SessionState.new sessionId (ambient.now 0) workspaceId projectId
          ({ service with sessions := service.sessions.insert sessionId state },
            .ok
              { sessionId := Runtime.hyphenated sessionId
                currentPhase := state.currentPhase.displayName })

def getSessionState (request : SessionQuery) : Except Status SessionStateProto :=
  match parseUuid request.sessionId "session_id" with
  | .error status => .error status
  | .ok sessionId =>
      match service.sessions sessionId with
      | none => .error (sessionNotFound sessionId)
      | some state => .ok (stateToProto state)

def applyTurnResult (ambient : Ambient) (request : TurnResultRequest) :
    StateEngineService × Except Status TurnResultResponse :=
  match parseUuid request.sessionId "session_id" with
  | .error status => (service, .error status)
  | .ok sessionId =>
      match service.sessions sessionId with
      | none => (service, .error (sessionNotFound sessionId))
      | some state =>
          let state := turnResult ambient request state
          ({ service with sessions := service.sessions.insert sessionId state },
            .ok (turnResultResponse state))

def requestTransition (request : TransitionRequest) :
    StateEngineService × Except Status TransitionResponse :=
  match parseUuid request.sessionId "session_id" with
  | .error status => (service, .error status)
  | .ok sessionId =>
      match parsePhase request.targetPhase with
      | .error status => (service, .error status)
      | .ok target =>
          match service.sessions sessionId with
          | none => (service, .error (sessionNotFound sessionId))
          | some state =>
              let (state, response) := transitionTo target state
              ({ service with sessions := service.sessions.insert sessionId state },
                .ok response)

def revisitPhase (ambient : Ambient) (request : RevisitRequest) :
    StateEngineService × Except Status RevisitResponse :=
  match parseUuid request.sessionId "session_id" with
  | .error status => (service, .error status)
  | .ok sessionId =>
      match parsePhase request.targetPhase with
      | .error status => (service, .error status)
      | .ok target =>
          match service.sessions sessionId with
          | none => (service, .error (sessionNotFound sessionId))
          | some state =>
              let (state, response) := revisitTo ambient.now target state
              ({ service with sessions := service.sessions.insert sessionId state },
                .ok response)

end StateEngineService

end Chitragupt
