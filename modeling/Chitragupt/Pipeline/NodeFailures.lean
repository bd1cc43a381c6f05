import Chitragupt.Pipeline.TurnOutcome
import Chitragupt.Pipeline.WriteSets

/-!
# Failures of nodes

The work of a node may raise or run out of time.  Its failure is recorded under its name,
its fields fall back to their defaults, and the run goes on; a failed guidance aborts it.
-/

namespace Chitragupt

open Python (PyError Json)

namespace GuidanceGenerator

variable [Rendering] (config : OrchestrationConfig) (environment : Environment)

/-- The stream that answers the guidance neither ends nor breaks. -/
def Stalls (state : PipelineState) : Prop :=
  ∃ request, buildRequest config environment state = .ok request ∧
    (environment.stream request).ending = .stalled

theorem generate_eq_timesOut {state : PipelineState} :
    (generate config environment state).outcome = .timesOut ↔
      Stalls config environment state := by
  rw [generate, Stalls]
  cases buildRequest config environment state with
  | error error => simp
  | ok request => cases stalled : (environment.stream request).ending <;> simp [stalled]

/-- Without a stall the guidance returns. -/
theorem exists_call_of_not_stalls {state : PipelineState}
    (flows : ¬Stalls config environment state) :
    ∃ after, (call config environment state).outcome = .returns after := by
  rw [← generate_eq_timesOut] at flows
  unfold call
  dsimp only
  rcases generate_cases config environment state with ⟨tokens, ended⟩ | ⟨error, raised⟩ | stalled
  · rw [ended]
    exact ⟨_, ended⟩
  · rw [raised]
    exact ⟨_, rfl⟩
  · exact absurd stalled flows

/-- With one it never does. -/
theorem call_of_stalls {state : PipelineState} (stalls : Stalls config environment state) :
    (call config environment state).outcome = .timesOut := by
  have stalled := (generate_eq_timesOut config environment).mpr stalls
  unfold call
  dsimp only
  rw [stalled]
  exact stalled

end GuidanceGenerator

namespace PipelineNode

variable [Runtime] [Rendering] (config : OrchestrationConfig) (environment : Environment)

/-- The work of a node, without its timeout and its handlers. -/
def work : PipelineNode → PipelineState → Outcome PipelineState
  | .classifyIntent, state => IntentClassifier.classify config environment state
  | .extractEntities, state => EntityExtractor.extract config environment state
  | .retrieveContext, state => RagRetrieval.retrieve config environment state
  | .analyzeGaps, state => GapAnalyzer.analyze config environment state
  | .generateGuidance, state => (GuidanceGenerator.generate config environment state).outcome
  | .handleRevisit, state => .ofExcept (RevisitHandler.handle state)

/-- The node raises or times out. -/
def fails (node : PipelineNode) (state : PipelineState) : Bool :=
  node.expired config ||
    match node.work config environment state with
    | .returns _ => false
    | _ => true

/-- The default of a node that was entered in a state and failed. -/
def SafeDefault : PipelineNode → PipelineState → PipelineState → Prop
  | .classifyIntent, _, after => after.intent = some IntentClassifier.defaultIntent
  | .extractEntities, _, after => after.extractedEntities = [] ∧ after.acUpdates = []
  | .retrieveContext, _, after => after.retrievedChunks = []
  | .analyzeGaps, entered, after => ∃ gap,
      GapAnalyzer.deterministicFallback entered.llmCtx.currentPhase entered.sessionState =
        .ok gap ∧ after.gapAnalysis = some gap
  | .generateGuidance, _, after => after.guidanceTokens = []
  | .handleRevisit, _, after => after.gapAnalysis = some GapAnalyzer.terminalGap

variable {config environment} {node : PipelineNode} {state after : PipelineState}

theorem fails_eq_false : node.fails config environment state = false ↔
    node.expired config = false ∧ ∃ after, node.work config environment state = .returns after := by
  rw [fails, Bool.or_eq_false_iff]
  cases node.work config environment state <;> simp

theorem fails_eq_true : node.fails config environment state = true ↔
    node.expired config = true ∨ ∀ after, node.work config environment state ≠ .returns after := by
  rw [fails, Bool.or_eq_true_iff]
  cases node.work config environment state <;> simp

/-- The work of a node records no errors. -/
theorem nodeErrors_work (worked : node.work config environment state = .returns after) :
    after.nodeErrors = state.nodeErrors := by
  cases node with
  | classifyIntent =>
      obtain ⟨_, rfl⟩ := IntentClassifier.eq_of_classify config environment worked
      rfl
  | extractEntities =>
      obtain ⟨_, _, rfl⟩ := EntityExtractor.eq_of_extract config environment worked
      rfl
  | retrieveContext =>
      obtain ⟨_, rfl⟩ := RagRetrieval.eq_of_retrieve config environment worked
      rfl
  | analyzeGaps =>
      obtain ⟨_, rfl⟩ := GapAnalyzer.eq_of_analyze config environment worked
      rfl
  | generateGuidance =>
      rw [work] at worked
      rcases GuidanceGenerator.generate_cases config environment state with
        ⟨_, ended⟩ | ⟨_, raised⟩ | stalled
      · cases ended.symm.trans worked
        rfl
      · cases raised.symm.trans worked
      · cases stalled.symm.trans worked
  | handleRevisit =>
      exact RevisitHandler.nodeErrors_handle (Outcome.ofExcept_eq_returns.mp worked)

/-- A node run within its timeout has done its work, or its failure is recorded over its
default. -/
theorem timed_cases (node : PipelineNode) {timeoutMs : Int} {default : PipelineState}
    (bounded : node.timeoutMs config = some timeoutMs)
    (ran : state.runWithTimeout node.className timeoutMs (node.work config environment state)
      default = after) :
    (node.fails config environment state = false ∧
      node.work config environment state = .returns after) ∨
    (node.fails config environment state = true ∧
      ∃ message, after = state.failed default node.className message) := by
  have expired : node.expired config = decide (timeoutMs ≤ 0) := by
    rw [PipelineNode.expired, bounded]
    rfl
  cases outcome : node.fails config environment state with
  | false =>
      obtain ⟨intime, result, worked⟩ := fails_eq_false.mp outcome
      rw [expired, decide_eq_false_iff_not] at intime
      rw [PipelineState.runWithTimeout_of_returns intime worked] at ran
      subst ran
      exact .inl ⟨rfl, worked⟩
  | true =>
      have failed := fails_eq_true.mp outcome
      rw [expired, decide_eq_true_iff] at failed
      obtain ⟨message, same⟩ := PipelineState.runWithTimeout_of_fails failed
      exact .inr ⟨rfl, message, ran.symm.trans same⟩

theorem guidance_succeeds
    (worked : (GuidanceGenerator.generate config environment state).outcome = .returns after) :
    fails config environment .generateGuidance state = false :=
  fails_eq_false.mpr ⟨rfl, after, worked⟩

theorem guidance_fails {error : PyError}
    (raised : (GuidanceGenerator.generate config environment state).outcome = .raises error) :
    fails config environment .generateGuidance state = true := by
  rw [fails_eq_true]
  right
  intro result worked
  cases raised.symm.trans worked

/-- A node that returns has done its work, or it has recorded its failure over its
default. -/
theorem call_cases (returned : node.call config environment state = .returns after) :
    (node.fails config environment state = false ∧
      node.work config environment state = .returns after) ∨
    (node.fails config environment state = true ∧ node.SafeDefault state after ∧
      ∃ message, after.nodeErrors =
        Python.assign node.className message state.nodeErrors) := by
  cases node with
  | classifyIntent =>
      have ran := Outcome.returns.inj returned
      rcases timed_cases .classifyIntent rfl ran with worked | ⟨failed, message, rfl⟩
      · exact .inl worked
      · exact .inr ⟨failed, rfl, message, rfl⟩
  | extractEntities =>
      have ran := Outcome.returns.inj returned
      rcases timed_cases .extractEntities rfl ran with worked | ⟨failed, message, rfl⟩
      · exact .inl worked
      · exact .inr ⟨failed, ⟨rfl, rfl⟩, message, rfl⟩
  | retrieveContext =>
      have ran := Outcome.returns.inj returned
      rcases timed_cases .retrieveContext rfl ran with worked | ⟨failed, message, rfl⟩
      · exact .inl worked
      · exact .inr ⟨failed, rfl, message, rfl⟩
  | analyzeGaps =>
      have called := Outcome.ofExcept_eq_returns.mp returned
      rw [GapAnalyzer.call, Python.bind_eq_ok] at called
      rcases called with ⟨gap, computed, ran⟩
      rcases timed_cases .analyzeGaps rfl (Except.ok.inj ran) with
        worked | ⟨failed, message, rfl⟩
      · exact .inl worked
      · exact .inr ⟨failed, ⟨gap, computed, rfl⟩, message, rfl⟩
  | generateGuidance =>
      rcases GuidanceGenerator.eq_of_call config environment returned with
        ⟨_, worked, _⟩ | ⟨error, raised, rfl⟩
      · exact .inl ⟨guidance_succeeds worked, worked⟩
      · exact .inr ⟨guidance_fails raised, rfl, _, rfl⟩
  | handleRevisit =>
      have ran := Outcome.returns.inj returned
      rcases timed_cases .handleRevisit rfl ran with worked | ⟨failed, message, rfl⟩
      · exact .inl worked
      · exact .inr ⟨failed, rfl, message, rfl⟩

/-- The names in the errors after a node. -/
theorem map_fst_nodeErrors_call
    (returned : node.call config environment state = .returns after)
    (fresh : node.className ∉ state.nodeErrors.map Prod.fst) :
    after.nodeErrors.map Prod.fst = state.nodeErrors.map Prod.fst ++
      if node.fails config environment state then [node.className] else [] := by
  rcases call_cases returned with ⟨succeeded, worked⟩ | ⟨failed, _, message, recorded⟩
  · rw [nodeErrors_work worked, succeeded, if_neg Bool.false_ne_true, List.append_nil]
  · rw [recorded, Python.map_fst_assign message fresh, failed, if_pos rfl]

/-- Only the guidance aborts a run, and it does so when it fails. -/
theorem pipelineAborted_call
    (returned : node.call config environment state = .returns after) :
    after.pipelineAborted = (state.pipelineAborted ||
      (decide (node = .generateGuidance) && node.fails config environment state)) := by
  cases node with
  | classifyIntent | extractEntities | retrieveContext | analyzeGaps =>
      have frame := frame_of_call config environment (by decide) returned
      rw [frame.pipelineAborted.resolve_left (by decide)]
      exact (Bool.or_false _).symm
  | handleRevisit =>
      cases Outcome.returns.inj returned
      rw [RevisitHandler.pipelineAborted_call]
      exact (Bool.or_false _).symm
  | generateGuidance =>
      rcases GuidanceGenerator.eq_of_call config environment returned with
        ⟨_, worked, rfl⟩ | ⟨error, raised, rfl⟩
      · rw [guidance_succeeds worked]
        exact (Bool.or_false _).symm
      · rw [guidance_fails raised]
        exact (Bool.or_true _).symm

/-! ## Nodes in order -/

/-- A later node that leaves alone what an earlier one has written. -/
structure Precedes (node later : PipelineNode) : Prop where
  different : later ≠ node
  framed : later ≠ .handleRevisit
  apart : ∀ field ∈ node.outputs, field ∈ later.outputs → field = .nodeErrors

instance : DecidableRel Precedes := fun node later =>
  decidable_of_iff (later ≠ node ∧ later ≠ .handleRevisit ∧
      ∀ field ∈ node.outputs, field ∈ later.outputs → field = .nodeErrors)
    ⟨fun ⟨different, framed, apart⟩ => ⟨different, framed, apart⟩,
      fun order => ⟨order.different, order.framed, order.apart⟩⟩

/-- The default of a node outlives the nodes behind it. -/
theorem SafeDefault.call {later : PipelineNode} {entered : PipelineState}
    (order : node.Precedes later) (safe : node.SafeDefault entered state)
    (returned : later.call config environment state = .returns after) :
    node.SafeDefault entered after := by
  have frame := frame_of_call config environment order.framed returned
  have kept : ∀ (field : OutputField) {same : Prop}, field ∈ node.outputs →
      field ≠ .nodeErrors → field ∈ later.outputs ∨ same → same := by
    intro field same own notErrors either
    exact either.resolve_left fun written => notErrors (order.apart field own written)
  cases node with
  | classifyIntent => exact (kept .intent (by decide) (by decide) frame.intent).trans safe
  | extractEntities =>
      exact ⟨(kept .extractedEntities (by decide) (by decide) frame.extractedEntities).trans safe.1,
        (kept .acUpdates (by decide) (by decide) frame.acUpdates).trans safe.2⟩
  | retrieveContext => exact (kept .retrievedChunks (by decide) (by decide) frame.retrievedChunks).trans safe
  | analyzeGaps =>
      obtain ⟨gap, computed, chosen⟩ := safe
      exact ⟨gap, computed, (kept .gapAnalysis (by decide) (by decide) frame.gapAnalysis).trans chosen⟩
  | generateGuidance => exact (kept .guidanceTokens (by decide) (by decide) frame.guidanceTokens).trans safe
  | handleRevisit => exact (kept .gapAnalysis (by decide) (by decide) frame.gapAnalysis).trans safe

end PipelineNode

namespace PipelineGraph

variable [Runtime] [Rendering] (config : OrchestrationConfig) (environment : Environment)

/-- What the state behind some nodes tells about those that failed. -/
structure Recorded (nodes : List PipelineNode) (state final : PipelineState) : Prop where
  keys : final.nodeErrors.map Prod.fst = state.nodeErrors.map Prod.fst ++
    ((visits config environment nodes state).filter fun (node, entered) =>
      node.fails config environment entered).map fun (node, _) => node.className
  aborted : final.pipelineAborted = (state.pipelineAborted ||
    (visits config environment nodes state).any fun (node, entered) =>
      decide (node = .generateGuidance) && node.fails config environment entered)
  defaults : ∀ visit ∈ visits config environment nodes state,
    visit.1.fails config environment visit.2 = true → visit.1.SafeDefault visit.2 final

variable {config environment} {node : PipelineNode} {nodes : List PipelineNode}
  {state after final : PipelineState}

/-- The default of a node outlives a walk. -/
theorem safeDefault_walk {entered : PipelineState}
    (order : ∀ later ∈ nodes, node.Precedes later) (safe : node.SafeDefault entered state)
    (walked : walk config environment nodes state = .returns final) :
    node.SafeDefault entered final := by
  induction nodes generalizing state with
  | nil =>
      cases walked
      exact safe
  | cons later nodes ih =>
      rw [walk, Outcome.bind_eq_returns] at walked
      rcases walked with ⟨after, returned, walked⟩
      have next := safe.call (order later List.mem_cons_self) returned
      exact ih (fun other within => order other (List.mem_cons_of_mem _ within)) next walked

/-- One more node in front. -/
theorem Recorded.cons (fresh : node.className ∉ state.nodeErrors.map Prod.fst)
    (order : node.fails config environment state = true → ∀ later ∈ nodes, node.Precedes later)
    (returned : node.call config environment state = .returns after)
    (walked : walk config environment nodes after = .returns final)
    (recorded : Recorded config environment nodes after final) :
    Recorded config environment (node :: nodes) state final where
  keys := by
    rw [recorded.keys, PipelineNode.map_fst_nodeErrors_call returned fresh,
      visits_cons_of_returns config environment returned, List.append_assoc]
    cases outcome : node.fails config environment state <;> simp [outcome]
  aborted := by
    rw [recorded.aborted, PipelineNode.pipelineAborted_call returned,
      visits_cons_of_returns config environment returned, List.any_cons, Bool.or_assoc]
  defaults := by
    rw [visits_cons_of_returns config environment returned, List.forall_mem_cons]
    constructor
    · intro failed
      rcases PipelineNode.call_cases returned with ⟨succeeded, _⟩ | ⟨_, safe, _⟩
      · rw [succeeded] at failed
        cases failed
      · exact safeDefault_walk (order failed) safe walked
    · exact recorded.defaults

/-- The failures of nodes in order are recorded. -/
theorem recorded_walk (order : nodes.Pairwise PipelineNode.Precedes)
    (fresh : ∀ node ∈ nodes, node.className ∉ state.nodeErrors.map Prod.fst)
    (walked : walk config environment nodes state = .returns final) :
    Recorded config environment nodes state final := by
  induction nodes generalizing state with
  | nil =>
      cases walked
      exact ⟨by simp [visits], by simp [visits], by simp [visits]⟩
  | cons node nodes ih =>
      rw [walk, Outcome.bind_eq_returns] at walked
      rcases walked with ⟨after, returned, walked⟩
      rw [List.pairwise_cons] at order
      rw [List.forall_mem_cons] at fresh
      have unrecorded : ∀ later ∈ nodes, later.className ∉ after.nodeErrors.map Prod.fst := by
        intro later member
        have apart : later.className ≠ node.className := fun same =>
          (order.1 later member).different (PipelineNode.className_injective same)
        rw [PipelineNode.map_fst_nodeErrors_call returned fresh.1, List.mem_append, not_or]
        constructor
        · exact fresh.2 later member
        · split <;> simp [apart]
      exact Recorded.cons fresh.1 (fun _ => order.1) returned walked
        (ih order.2 unrecorded walked)

/-! ## Runs -/

omit [Runtime] [Rendering] in
theorem pairwise_edges (route : PipelineExecutor.Route) :
    (edges route).Pairwise PipelineNode.Precedes := by
  cases route <;> decide

/-- A failed classifier leads to the default route. -/
theorem fork_of_failed
    (failed : PipelineNode.fails config environment .classifyIntent state = true) :
    (fork config environment state).1 = .default := by
  have classified : PipelineNode.call config environment .classifyIntent state =
      .returns (fork config environment state).2 := rfl
  rcases PipelineNode.call_cases classified with ⟨succeeded, _⟩ | ⟨_, safe, _⟩
  · rw [succeeded] at failed
    cases failed
  · rw [PipelineNode.SafeDefault, fork] at safe
    rw [fork, PipelineExecutor.routeAfterIntent]
    dsimp only at safe ⊢
    rw [safe]
    rfl

variable (config environment) in
/-- The final state of a run names the failed nodes, is aborted when the guidance is
among them, and holds the defaults of them all. -/
structure RecordsFailures (initial final : PipelineState) : Prop where
  keys : final.nodeErrors.map Prod.fst =
    ((visited config environment initial).filter fun (node, entered) =>
      node.fails config environment entered).map fun (node, _) => node.className
  aborted : final.pipelineAborted = true ↔
    ∃ entered, (.generateGuidance, entered) ∈ visited config environment initial ∧
      PipelineNode.fails config environment .generateGuidance entered = true
  defaults : ∀ visit ∈ visited config environment initial,
    visit.1.fails config environment visit.2 = true → visit.1.SafeDefault visit.2 final

/-- A run that returns has recorded its failures. -/
theorem recordsFailures_of_ainvoke {initial : PipelineState}
    (noErrors : initial.nodeErrors = []) (running : initial.pipelineAborted = false)
    (returned : ainvoke config environment initial = .returns final) :
    RecordsFailures config environment initial final := by
  have fresh : ∀ node : PipelineNode, node.className ∉ initial.nodeErrors.map Prod.fst := by
    simp [noErrors]
  have classified : PipelineNode.call config environment .classifyIntent initial =
      .returns (fork config environment initial).2 := rfl
  have unrecorded : ∀ later ∈ edges (fork config environment initial).1,
      later.className ∉ (fork config environment initial).2.nodeErrors.map Prod.fst := by
    intro later member
    have apart : later.className ≠ PipelineNode.className .classifyIntent := by
      intro same
      rw [PipelineNode.className_injective same] at member
      cases route : (fork config environment initial).1 <;> simp [route, edges] at member
    rw [PipelineNode.map_fst_nodeErrors_call classified (fresh _), List.mem_append, not_or]
    constructor
    · exact fresh later
    · split <;> simp [apart]
  have behind := recorded_walk (pairwise_edges _) unrecorded returned
  have recorded : Recorded config environment
      (.classifyIntent :: edges (fork config environment initial).1) initial final := by
    refine Recorded.cons (fresh _) (fun failed => ?_) classified returned behind
    rw [fork_of_failed failed]
    decide
  have keys := recorded.keys
  rw [noErrors] at keys
  have aborted := recorded.aborted
  rw [running] at aborted
  exact
    { keys
      aborted := by
        rw [aborted]
        simp [visited, visits_cons_of_returns config environment classified]
      defaults := recorded.defaults }

end PipelineGraph

/-! ## Turns on a session -/

section Turn

variable [Runtime] [Rendering] (servicer : AiOrchestrationServicer)
  (environment : Environment) (state : SessionState) (message : String)

/-- The run of a turn comes to its end, with its failures recorded. -/
def FailuresContained : Prop :=
  ∃ final, PipelineGraph.ainvoke servicer.config environment (opening servicer state message) =
      .returns final ∧
    PipelineGraph.RecordsFailures servicer.config environment (opening servicer state message)
      final

/-- The failures of nodes are contained as long as the stream of the guidance does not
stall. -/
theorem failuresContained_iff :
    FailuresContained servicer environment state message ↔
      ∀ entered, (.generateGuidance, entered) ∈ PipelineGraph.visited servicer.config environment
          (opening servicer state message) →
        ¬GuidanceGenerator.Stalls servicer.config environment entered := by
  obtain ⟨prepared, ready⟩ := exists_prepared servicer environment state message
  have ran := PipelineGraph.ainvoke_eq servicer.config environment
    (opening servicer state message)
  rw [ready.returned] at ran
  have entered_iff : ∀ entered, (.generateGuidance, entered) ∈ PipelineGraph.visited
      servicer.config environment (opening servicer state message) ↔ prepared = entered := by
    intro entered
    rw [PipelineGraph.guidance_visited_iff, ready.returned, Except.ok.injEq]
  simp only [entered_iff, forall_eq']
  constructor
  · rintro ⟨final, returned, _⟩ stalls
    rw [ran] at returned
    dsimp only at returned
    rw [GuidanceGenerator.call_of_stalls servicer.config environment stalls] at returned
    cases returned
  · intro flows
    obtain ⟨final, ended⟩ := GuidanceGenerator.exists_call_of_not_stalls servicer.config
      environment flows
    have returned := ran.trans ended
    exact ⟨final, returned, PipelineGraph.recordsFailures_of_ainvoke rfl rfl returned⟩

end Turn

/-! ### A stream that stalls -/

section Sample

attribute [local instance] referenceRuntime referenceRendering

def sampleStalled : Environment :=
  { sampleEnvironment with stream := fun _ => { tokens := [], ending := .stalled } }

/-- No timeout ends the guidance, and no failure is recorded. -/
theorem not_failuresContained_of_sampleStalled :
    ¬∀ servicer environment state message,
      FailuresContained servicer environment state message := by
  intro all
  obtain ⟨final, returned, _⟩ := all (.new true {} .absent) sampleStalled sampleArchitecture
    "Hello"
  have stalled : (match PipelineGraph.ainvoke (AiOrchestrationServicer.new true {} .absent).config
      sampleStalled (opening (.new true {} .absent) sampleArchitecture "Hello") with
    | .returns _ => false
    | _ => true) = true := by
    decide +kernel
  rw [returned] at stalled
  cases stalled

end Sample

end Chitragupt
