import Chitragupt.Gateway.Platform
import Chitragupt.Gateway.Readiness
import Chitragupt.StateMachine.TurnCount

/-!
# What clients are told about their turns

Turns of one session can overlap, and the calls behind them can fail on the way there and
on the way back.  Every turn that a client sees applied is counted and charged exactly
once, and nothing else is.
-/

namespace Chitragupt

open Python (PyError Json)
open Machines (Machine Event Store)

/-! ## The turns of a session -/

/-- The turn result of a request. -/
def SessionRequest.turnResult? : SessionRequest → Option TurnResultRequest
  | .applyTurnResult _ request => some request
  | .requestTransition _ | .revisitPhase _ _ => none

section Session

variable [Runtime]

/-- A step of a session charges its turn and nothing else. -/
theorem totalLlmCostUsd_next (state : SessionState) (request : SessionRequest) :
    (sessionMachine.next state request).totalLlmCostUsd =
      request.turnResult?.elim state.totalLlmCostUsd fun turn =>
        state.totalLlmCostUsd + turn.costUsd := by
  have step := sessionMachine_step state request
  generalize sessionMachine.next state request = after at step ⊢
  cases step with
  | turn ambient request reply _ _ =>
      exact StateEngineService.totalLlmCostUsd_turnResult ambient request state
  | approve request target reply _ _ _ _ => rfl
  | block request reply _ _ _ => rfl
  | refuse ambient request reply _ _ _ => rfl
  | revisit ambient request target _ reply _ attempted _ _ =>
      rcases TransitionEngine.revisit_eq_ok.mp attempted with ⟨_, _, rfl⟩
      rfl

/-- A run charges the turns one after the other. -/
theorem totalLlmCostUsd_run (state : SessionState) (requests : List SessionRequest) :
    (sessionMachine.run state requests).totalLlmCostUsd =
      (requests.filterMap (·.turnResult?)).foldl (fun total turn => total + turn.costUsd)
        state.totalLlmCostUsd := by
  induction requests generalizing state with
  | nil => rfl
  | cons request requests ih =>
      rw [Machine.run_cons, ih, totalLlmCostUsd_next, List.filterMap_cons]
      cases request.turnResult? <;> rfl

omit [Runtime] in
/-- Where every turn result is for one turn, the turns are as many as their results. -/
theorem sum_turns (requests : List SessionRequest)
    (single : ∀ request ∈ requests, ∀ turn, request.turnResult? = some turn →
      turn.turnCountDelta = 1) :
    (requests.map SessionRequest.turns).sum =
      (requests.filterMap (·.turnResult?)).length := by
  induction requests with
  | nil => rfl
  | cons request requests ih =>
      rw [List.forall_mem_cons] at single
      rw [List.map_cons, List.sum_cons, List.filterMap_cons, ih single.2]
      cases request with
      | applyTurnResult ambient turn =>
          have one := single.1 turn rfl
          simp only [SessionRequest.turns, SessionRequest.turnResult?, one, List.length_cons]
          rw [Nat.add_comm]
          rfl
      | requestTransition _ | revisitPhase _ _ => exact Nat.zero_add _

end Session

/-- Whatever is read off one way everywhere can be read off the other way. -/
theorem filterMap_sublist_filterMap {α β : Type*} {first second : α → Option β}
    {items : List α}
    (implies : ∀ item ∈ items, ∀ value, first item = some value → second item = some value) :
    (items.filterMap first).Sublist (items.filterMap second) := by
  induction items with
  | nil => exact List.Sublist.slnil
  | cons item items ih =>
      rw [List.forall_mem_cons] at implies
      rw [List.filterMap_cons, List.filterMap_cons]
      cases read : first item with
      | none =>
          cases second item with
          | none => exact ih implies.2
          | some _ => exact (ih implies.2).cons _
      | some value =>
          rw [implies.1 value read]
          exact (ih implies.2).cons_cons value

/-! ## What responses tell -/

namespace SseEvent

def completes : SseEvent → Bool
  | .complete _ => true
  | _ => false

/-- A completion with the phase of the session, which only an applied turn brings. -/
def showsPhase : SseEvent → Bool
  | .complete (some data) => (getField data "current_phase" .null).truthy
  | _ => false

/-- A stream of tokens shows what its last event shows. -/
theorem any_tokens (kind : SseEvent → Bool) (tokenless : ∀ text, kind (.token text) = false)
    (tokens : List String) (last : SseEvent) :
    (tokens.map SseEvent.token ++ [last]).any kind = kind last := by
  rw [List.any_append, List.any_map, List.any_cons, List.any_nil, Bool.or_false]
  have none : tokens.any (kind ∘ SseEvent.token) = false := by
    rw [List.any_eq_false]
    intro text _
    simp [tokenless text]
  rw [none, Bool.false_or]

/-- Only the answer of the state engine brings a phase into a completion. -/
theorem showsPhase_completion (complete : Option TurnComplete) :
    SseEvent.showsPhase (.complete (Handler.marshal (Handler.completion complete none))) =
      false := by
  rw [Handler.marshal]
  split
  next =>
    rw [SseEvent.showsPhase, getField_objectJson]
    cases complete <;> rfl
  next => rfl

end SseEvent

/-- Some event of the response, if it is a stream, is of the kind. -/
def HttpResponse.shows (kind : SseEvent → Bool) : HttpResponse → Bool
  | .json _ _ => false
  | .stream events => events.any kind

/-- No session is created under the identifier. -/
def PlatformInput.Spares {κ : Type*} (id : Uuid) : PlatformInput κ → Prop
  | .createSession ambient _ => ambient.newV4 0 ≠ id
  | _ => True

/-- The call that applies the turn is not lost. -/
def PlatformInput.Arrives {κ : Type*} : PlatformInput κ → Prop
  | .closeTurn _ _ _ .lost _ => False
  | _ => True

namespace Deployment

variable {κ : Type*} [DecidableEq κ] [Runtime] [Rendering] (deployment : Deployment)

/-- An event of the platform. -/
abbrev PlatformEvent (κ : Type*) := Event (Platform κ) (PlatformInput κ) (Option HttpResponse)

/-- The result of a turn whose stream has ended well, if the turn is one of the session. -/
def turnOf (id : Uuid) (happened : PlatformEvent κ) : Option TurnResultRequest :=
  match happened.input with
  | .closeTurn key around call _ _ =>
      ((happened.before.turns key).bind fun turn =>
        deployment.turnResult around call turn happened.before.uploads).filter fun request =>
          Runtime.parse request.sessionId = some id
  | _ => none

/-- The turns of a session whose responses show an event of the kind, in order. -/
def turnsShowing (kind : SseEvent → Bool) (id : Uuid) (platform : Platform κ)
    (inputs : List (PlatformInput κ)) : List TurnResultRequest :=
  (deployment.machine.trace platform inputs).filterMap fun happened =>
    if happened.output.any (·.shows kind) then deployment.turnOf id happened else none

/-- The turns of a session that have reached the state engine, in order. -/
def turnsApplied (id : Uuid) (platform : Platform κ) (inputs : List (PlatformInput κ)) :
    List TurnResultRequest :=
  ((deployment.rpcs platform inputs).filterMap (·.forSession id)).filterMap (·.turnResult?)

/-- What the books of a session have to do with what its clients are told. -/
structure TurnsAccounted (id : Uuid) (platform : Platform κ) (inputs : List (PlatformInput κ))
    (before after : SessionState) : Prop where
  counted : after.turnCount.toNat =
    (before.turnCount.toNat + (deployment.turnsApplied id platform inputs).length) % 2 ^ 32
  charged : after.totalLlmCostUsd =
    (deployment.turnsApplied id platform inputs).foldl (fun total turn => total + turn.costUsd)
      before.totalLlmCostUsd
  told : (deployment.turnsShowing SseEvent.showsPhase id platform inputs).Sublist
    (deployment.turnsApplied id platform inputs)
  finished : (deployment.turnsApplied id platform inputs).Sublist
    (deployment.turnsShowing SseEvent.completes id platform inputs)
  arrived : (∀ input ∈ inputs, input.Arrives) →
    deployment.turnsApplied id platform inputs =
      deployment.turnsShowing SseEvent.completes id platform inputs

/-! ## One event -/

/-- The turn that an event applies. -/
def appliedBy (id : Uuid) (happened : PlatformEvent κ) : Option TurnResultRequest :=
  (deployment.rpc happened.before happened.input).bind fun sent =>
    (sent.forSession id).bind (·.turnResult?)

theorem turnsApplied_eq (id : Uuid) (platform : Platform κ) (inputs : List (PlatformInput κ)) :
    deployment.turnsApplied id platform inputs =
      (deployment.machine.trace platform inputs).filterMap (deployment.appliedBy id) := by
  rw [turnsApplied, rpcs, List.filterMap_filterMap, List.filterMap_filterMap]
  rfl

/-- What an event does to a session and what it tells of it: nothing; a completion of a
turn whose call was lost; or a completion of a turn that was applied. -/
inductive TurnEvent (id : Uuid) (happened : PlatformEvent κ) : Prop
  | silent (idle : deployment.appliedBy id happened = none)
      (unfinished : happened.output.any (·.shows SseEvent.completes) = false)
      (untold : happened.output.any (·.shows SseEvent.showsPhase) = false)
  | lost (idle : deployment.appliedBy id happened = none)
      (astray : ¬happened.input.Arrives)
      (untold : happened.output.any (·.shows SseEvent.showsPhase) = false)
  | applied (same : deployment.appliedBy id happened = deployment.turnOf id happened)
      (finished : happened.output.any (·.shows SseEvent.completes) = true)

/-- The end of a turn. -/
theorem turnEvent_closeTurn (id : Uuid) (platform : Platform κ) (key : κ)
    (around : Environment) (call : PipelineCall) (delivery : Delivery) (ambient : Ambient) :
    deployment.TurnEvent id (deployment.machine.event platform
      (.closeTurn key around call delivery ambient)) := by
  cases opened : platform.turns key with
  | none =>
      have output : deployment.machine.reply platform
          (.closeTurn key around call delivery ambient) = none := by
        simp only [Machine.reply, machine, opened]
      refine .silent ?_ ?_ ?_
      · simp only [appliedBy, Machine.event]
        cases delivery <;> simp [rpc, opened]
      · simp only [Machine.event, output, Option.any_none]
      · simp only [Machine.event, output, Option.any_none]
  | some turn =>
      have output : deployment.machine.reply platform
          (.closeTurn key around call delivery ambient) =
            some (Handler.closeTurn deployment.servicer deployment.rpcError
              (deployment.environment around platform.uploads) call delivery ambient turn
              platform.engine).2.http := by
        simp only [Machine.reply, machine, opened]
      rcases streamed : Handler.received deployment.servicer deployment.rpcError
        (deployment.environment around platform.uploads) call turn with ⟨events, error⟩
      cases error with
      | some error =>
          rw [Handler.closeTurn_of_error streamed] at output
          have unsent : deployment.turnResult around call turn platform.uploads = none := by
            simp only [turnResult, streamed]
          refine .silent ?_ ?_ ?_
          · simp only [appliedBy, Machine.event]
            cases delivery <;> simp [rpc, opened, unsent]
          · simp only [Machine.event, output]
            exact SseEvent.any_tokens _ (fun _ => rfl) _ _
          · simp only [Machine.event, output]
            exact SseEvent.any_tokens _ (fun _ => rfl) _ _
      | none =>
          rw [Handler.closeTurn_of_received streamed] at output
          have sent : deployment.turnResult around call turn platform.uploads = some
              (Handler.turnResultRequest turn.sessionId
                (PipelineResult.collect events).complete) := by
            simp only [turnResult, streamed]
          have finished : (deployment.machine.event platform (.closeTurn key around call delivery
              ambient)).output.any (·.shows SseEvent.completes) = true := by
            simp only [Machine.event, output]
            exact SseEvent.any_tokens _ (fun _ => rfl) _ _
          cases delivery with
          | lost =>
              refine .lost rfl (fun arrives => arrives) ?_
              simp only [Machine.event, output]
              exact (SseEvent.any_tokens _ (fun _ => rfl) _ _).trans
                (SseEvent.showsPhase_completion _)
          | unanswered | answered =>
              refine .applied ?_ finished
              simp only [appliedBy, turnOf, Machine.event, rpc, opened, sent, Option.bind_some,
                Option.map_some, ServiceRequest.forSession, Option.filter_some,
                decide_eq_true_eq]
              split <;> rfl

/-- A turn that cannot be opened is answered with an error. -/
theorem shows_openTurn (kind : SseEvent → Bool) (platform : Platform κ) (key : κ)
    (sessionId : String) (body : Option TurnReq) :
    (deployment.machine.reply platform (.openTurn key sessionId body)).any (·.shows kind) =
      false := by
  simp only [Machine.reply, machine]
  split
  next => rfl
  next response _ refused =>
    rcases Handler.jsonError_of_openTurn refused with ⟨message, status, rfl⟩
    rfl
  next => rfl

theorem turnEvent (id : Uuid) (platform : Platform κ) (input : PlatformInput κ) :
    deployment.TurnEvent id (deployment.machine.event platform input) := by
  cases input with
  | closeTurn key around call delivery ambient =>
      exact deployment.turnEvent_closeTurn id platform key around call delivery ambient
  | openTurn key sessionId body =>
      exact .silent rfl (deployment.shows_openTurn _ platform key sessionId body)
        (deployment.shows_openTurn _ platform key sessionId body)
  | ingest _ => exact .silent rfl rfl rfl
  | getSession sessionId workspaceId =>
      have told : ∀ kind, (Handler.getSession platform.engine sessionId workspaceId).shows kind =
          false := by
        intro kind
        rw [Handler.getSession]
        split <;> rfl
      exact .silent rfl (told _) (told _)
  | uploadDocument pipeline createFault sessionId form =>
      have told : ∀ kind, (Handler.uploadDocument deployment.ingest pipeline createFault sessionId
          form platform.uploads).2.shows kind = false := by
        intro kind
        cases form with
        | malformed | withoutFile | unreadable => rfl
        | uploaded file =>
            rw [Handler.uploadDocument]
            split <;> rfl
      exact .silent rfl (told _) (told _)
  | createSession ambient body =>
      cases body with
      | none => exact .silent rfl rfl rfl
      | some request =>
          have told : ∀ kind, (Handler.createSession platform.engine ambient
              (some request)).2.shows kind = false := by
            intro kind
            rw [Handler.createSession]
            split
            next => rfl
            next => split <;> rfl
          refine .silent ?_ (told _) (told _)
          simp only [appliedBy, Machine.event, rpc]
          split <;> rfl
  | requestTransition sessionId body =>
      cases body with
      | none => exact .silent rfl rfl rfl
      | some request =>
          have told : ∀ kind, (Handler.requestTransition platform.engine sessionId
              (some request)).2.shows kind = false := by
            intro kind
            rw [Handler.requestTransition]
            split
            next => rfl
            next => split <;> rfl
          refine .silent ?_ (told _) (told _)
          simp only [appliedBy, Machine.event, rpc]
          split
          next => rfl
          next =>
            simp only [Option.bind_some, ServiceRequest.forSession]
            split <;> rfl
  | revisitPhase ambient sessionId body =>
      cases body with
      | none => exact .silent rfl rfl rfl
      | some request =>
          have told : ∀ kind, (Handler.revisitPhase platform.engine ambient sessionId
              (some request)).2.shows kind = false := by
            intro kind
            rw [Handler.revisitPhase]
            split
            next => rfl
            next => split <;> rfl
          refine .silent ?_ (told _) (told _)
          simp only [appliedBy, Machine.event, rpc]
          split
          next => rfl
          next =>
            simp only [Option.bind_some, ServiceRequest.forSession]
            split <;> rfl

/-! ## All events -/

omit [DecidableEq κ] [Rendering] in
/-- A creation of the platform draws one identifier. -/
theorem spares_of_sends {id : Uuid} {input : PlatformInput κ} {request : ServiceRequest}
    (sends : Sends input request) (spares : input.Spares id) : request.Spares id := by
  intro state created
  rcases ServiceRequest.eq_new_of_command created with ⟨ambient, creation, _, _, rfl, -⟩
  have drawn : ambient.newV4 0 = id := by
    rw [ServiceRequest.command] at created
    split at created
    next => exact (Machines.Command.create.inj created).1
    next => cases created
  cases sends with
  | createSession _ body _ => exact spares drawn

omit [DecidableEq κ] [Rendering] in
/-- Turn results of the gateway are for one turn each. -/
theorem turnCountDelta_of_sends {id : Uuid} {input : PlatformInput κ}
    {sent : ServiceRequest} (sends : Sends input sent) {request : SessionRequest}
    (addressed : sent.forSession id = some request) {turn : TurnResultRequest}
    (result : request.turnResult? = some turn) : turn.turnCountDelta = 1 := by
  cases sends with
  | createSession _ _ _ | getSession _ _ => cases addressed
  | closeTurn key around call delivery ambient sent single =>
      rw [ServiceRequest.forSession, Option.ite_none_right_eq_some, Option.some.injEq] at addressed
      rcases addressed with ⟨_, rfl⟩
      rcases Option.some.inj result with rfl
      exact single
  | requestTransition _ _ _ | revisitPhase _ _ _ _ =>
      rw [ServiceRequest.forSession, Option.ite_none_right_eq_some, Option.some.injEq] at addressed
      rcases addressed with ⟨_, rfl⟩
      cases result

/-- However the turns of a session overlap with each other and with everything else, and
whatever becomes of their calls: the session counts and charges exactly the turns that
have reached it, every one of them once; a client who sees the phase in a completion can
be sure that the turn is one of them, a turn without a completion is none of them; and if
no call is lost on its way, the completed turns are exactly these. -/
theorem turns_accounted {id : Uuid} {platform : Platform κ} {before : SessionState}
    (stored : platform.engine.sessions id = some before) {inputs : List (PlatformInput κ)}
    (spares : ∀ input ∈ inputs, input.Spares id) :
    ∃ after, (deployment.machine.run platform inputs).engine.sessions id = some after ∧
      deployment.TurnsAccounted id platform inputs before after := by
  have spared : ∀ request ∈ deployment.rpcs platform inputs, request.Spares id := by
    intro request member
    rcases deployment.mem_rpcs member with ⟨input, member, sends⟩
    exact spares_of_sends sends (spares input member)
  have single : ∀ request ∈ (deployment.rpcs platform inputs).filterMap (·.forSession id),
      ∀ turn, request.turnResult? = some turn → turn.turnCountDelta = 1 := by
    intro request member turn result
    rcases List.mem_filterMap.mp member with ⟨sent, member, addressed⟩
    rcases deployment.mem_rpcs member with ⟨input, _, sends⟩
    exact turnCountDelta_of_sends sends addressed result
  have events : ∀ happened ∈ deployment.machine.trace platform inputs,
      happened.input ∈ inputs ∧ deployment.TurnEvent id happened := by
    intro happened traced
    rcases (Machine.mem_trace _).mp traced with ⟨earlier, input, later, rfl, rfl⟩
    exact ⟨by simp [Machine.event], deployment.turnEvent id _ input⟩
  refine ⟨_, by rw [engine_run]; exact sessions_run stored spared, ?_, ?_, ?_, ?_, ?_⟩
  · rw [turnCount_run, sum_turns _ single]
    rfl
  · exact totalLlmCostUsd_run _ _
  · rw [turnsApplied_eq]
    apply filterMap_sublist_filterMap
    intro happened traced turn shown
    cases (events happened traced).2 with
    | silent _ _ untold | lost _ _ untold => simp [untold] at shown
    | applied same _ =>
        rw [same]
        exact (Option.ite_none_right_eq_some.mp shown).2
  · rw [turnsApplied_eq]
    apply filterMap_sublist_filterMap
    intro happened traced turn applied
    cases (events happened traced).2 with
    | silent idle _ _ | lost idle _ _ =>
        rw [idle] at applied
        cases applied
    | applied same finished =>
        rw [if_pos finished, ← same]
        exact applied
  · intro arrive
    rw [turnsApplied_eq]
    apply List.filterMap_congr
    intro happened traced
    cases (events happened traced).2 with
    | silent idle unfinished _ =>
        rw [idle, unfinished]
        rfl
    | lost _ astray _ => exact absurd (arrive _ (events happened traced).1) astray
    | applied same finished =>
        rw [if_pos finished]
        exact same

end Deployment

/-! ### Two turns at once -/

section Sample

attribute [local instance] referenceRuntime referenceRendering

def sampleDeployment : Deployment where
  servicer := sampleServicer
  ingest := sampleIngestServicer
  search _ _ := .returns []
  rpcError := sampleRpcError

def sampleClosing (key : Bool) (delivery : Delivery) : PlatformInput Bool :=
  .closeTurn key sampleEnvironment .received delivery sampleAmbient

/-- Two turns are opened; the result of one is lost, and the answer for the other one. -/
def sampleTurns : List (PlatformInput Bool) :=
  [.openTurn true sampleId (some sampleTurn), .openTurn false sampleId (some sampleTurn),
    sampleClosing false .unanswered, sampleClosing true .lost]

def samplePlatform : Platform Bool where
  engine := sampleService
  uploads := .empty
  turns _ := none

/-- One of two turns is counted. -/
theorem turns_accounted_sampleTurns : ∃ after,
    (sampleDeployment.machine.run samplePlatform sampleTurns).engine.sessions 0xA1 = some after ∧
      sampleDeployment.TurnsAccounted 0xA1 samplePlatform sampleTurns sampleFresh after ∧
      (sampleDeployment.turnsApplied 0xA1 samplePlatform sampleTurns).length = 1 := by
  have spares : ∀ input ∈ sampleTurns, input.Spares 0xA1 := by
    simp [sampleTurns, sampleClosing, PlatformInput.Spares]
  rcases sampleDeployment.turns_accounted
    (show samplePlatform.engine.sessions 0xA1 = some sampleFresh from sampleService_stored)
    spares with ⟨after, stored, accounted⟩
  exact ⟨after, stored, accounted, by decide +kernel⟩

end Sample

end Chitragupt
