import Chitragupt.Pipeline.Graph
import Chitragupt.Pipeline.RevisitAgreement
import Chitragupt.Pipeline.SystemPrompt

/-!
# The next action of a turn

The system prompt has a place for the suggested question, the user message a line that may
offer a transition.  Both are read off the gap, wherever the gap comes from; but the prompt
reads the question again before it is sent, and any line of the message may read like an
offer.
-/

namespace Chitragupt

open Python (PyError Json)

/-- A question that the prompt takes as it is. -/
def GapResult.HasQuestion (gap : GapResult) : Prop :=
  ∃ question, gap.suggestedQuestion = .str question ∧ question ≠ [] ∧
    ¬GuidanceGenerator.snapshotMark <:+: question

/-- The gap is terminal or has a question. -/
def GapResult.HasAction (gap : GapResult) : Prop :=
  gap.isTerminal = true ∨ gap.HasQuestion

/-! ## The gaps of the pipeline -/

namespace GapAnalyzer

/-- A text without a brace in it. -/
def Askable (question : Text) : Prop := question ≠ [] ∧ 0x7B ∉ question

theorem Askable.hasQuestion {question : Text} (askable : Askable question) {gap : GapResult}
    (asked : gap.suggestedQuestion = .str question) : gap.HasQuestion :=
  ⟨question, asked, askable.1, fun found =>
    askable.2 (found.subset GuidanceGenerator.isMark_snapshot.brace)⟩

/-- Every criterion of the table has a question. -/
theorem askable_of_fallbacks {phase : Json} {table : List Fallback}
    (found : fallbacksOf phase = .ok table) :
    ∀ fallback ∈ table, Askable (.ofString fallback.question) := by
  have all : ∀ entry ∈ phaseAcFallbacks, ∀ fallback ∈ entry.2,
      fallback.question ≠ "" ∧
        ∀ byte ∈ String.utf8EncodeChar '{', byte ∉ fallback.question.toByteArray.data.toList := by
    decide +kernel
  cases phase with
  | list items | dict entries => cases found
  | null | bool value | int value | float value =>
      cases found
      simp
  | str text =>
      cases found
      generalize entry : List.find? _ phaseAcFallbacks = listed
      cases listed with
      | none => simp
      | some listed =>
          intro fallback member
          obtain ⟨some, absent⟩ := all listed (List.mem_of_find?_eq_some entry) fallback member
          exact ⟨fun none => some (Text.ofString_injective none), Text.notMem_ofString absent⟩

theorem unmetOf_subset {acMet acWaived : Json} {table unmet : List Fallback}
    (selected : unmetOf acMet acWaived table = .ok unmet) : unmet ⊆ table := by
  induction table generalizing unmet with
  | nil =>
      cases selected
      exact List.Subset.refl _
  | cons fallback rest ih =>
      have grown : ∀ {others : List Fallback} (isUnmet : Bool), others ⊆ rest →
          (if isUnmet then fallback :: others else others) ⊆ fallback :: rest := by
        intro others isUnmet within
        cases isUnmet with
        | true => exact List.cons_subset_cons _ within
        | false => exact List.Subset.trans within (List.subset_cons_self _ _)
      simp only [unmetOf, Python.bind_eq_ok] at selected
      rcases selected with ⟨met, _, selected⟩
      split at selected
      · simp only [Python.bind_eq_ok, Python.pure_eq_ok] at selected
        rcases selected with ⟨isUnmet, _, others, found, rfl⟩
        exact grown isUnmet (ih found)
      · simp only [Python.bind_eq_ok, Python.pure_eq_ok] at selected
        rcases selected with ⟨isUnmet, _, others, found, rfl⟩
        exact grown isUnmet (ih found)

/-- What is left of a table still has its questions. -/
theorem askable_of_unmet {phase acMet acWaived : Json} {table unmet : List Fallback}
    (found : fallbacksOf phase = .ok table)
    (selected : unmetOf acMet acWaived table = .ok unmet) :
    ∀ fallback ∈ unmet, Askable (.ofString fallback.question) :=
  fun fallback member => askable_of_fallbacks found fallback (unmetOf_subset selected member)

theorem hasAction_of_deterministicFallback {phase session : Json} {gap : GapResult}
    (computed : deterministicFallback phase session = .ok gap) : gap.HasAction := by
  simp only [deterministicFallback, Python.bind_eq_ok] at computed
  rcases computed with ⟨table, found, unmet, selected, computed⟩
  cases unmet with
  | nil =>
      cases computed
      exact .inl rfl
  | cons first rest =>
      cases computed
      exact .inr ((askable_of_unmet found selected first List.mem_cons_self).hasQuestion rfl)

end GapAnalyzer

namespace IntentClassifier

/-- The intents are written on one line. -/
theorem newline_notMem_intent {intent : String} (valid : intent ∈ validIntents) :
    10 ∉ Text.ofString intent := by
  have all : ∀ intent ∈ validIntents, 10 ∉ Text.ofString intent := by decide
  exact all intent valid

theorem parseIntent_mem {recursionLimit : Nat} {raw : Text} {intent : String}
    (parsed : parseIntent recursionLimit raw = .ok intent) : intent ∈ validIntents := by
  have default : defaultIntent ∈ validIntents := by decide
  unfold parseIntent at parsed
  dsimp only at parsed
  split at parsed
  next read =>
    cases parsed
    simp only [Python.bind_eq_ok, Python.pure_eq_ok] at read
    obtain ⟨_, _, code, _, found, known, rfl⟩ := read
    cases found with
    | none => exact default
    | some intent =>
        unfold findIntent at known
        split at known
        · cases known
        · cases known
        · exact List.mem_of_find?_eq_some (Except.ok.inj known)
  next =>
    split at parsed
    · cases parsed
      exact default
    · cases parsed

/-- The node settles on one of the intents. -/
theorem intent_call (config : OrchestrationConfig) (environment : Environment)
    (state : PipelineState) :
    ∃ intent ∈ validIntents, (call config environment state).intent = some intent := by
  apply PipelineState.of_runWithTimeout fun after =>
    ∃ intent ∈ validIntents, after.intent = some intent
  · intro after returned
    simp only [classify, Outcome.bind_eq_returns, Outcome.pure_eq_returns] at returned
    obtain ⟨_, _, _, _, _, _, reply, _, intent, parsed, rfl⟩ := returned
    refine ⟨maybeRevisit intent state.userMessage, ?_, rfl⟩
    rw [maybeRevisit]
    split
    · decide
    · exact parseIntent_mem (Outcome.ofExcept_eq_returns.mp parsed)
  · intro message
    exact ⟨defaultIntent, by decide, rfl⟩

end IntentClassifier

namespace RevisitHandler

/-- With everything met, a phase that can be revisited still has a question. -/
theorem askable_reentry {target : String} (valid : target ∈ validRevisitPhases)
    {unmet : List Fallback}
    (asked : ∀ fallback ∈ unmet, GapAnalyzer.Askable (.ofString fallback.question)) :
    (reentryGap target unmet).HasQuestion := by
  cases unmet with
  | nil =>
      have all : ∀ target ∈ validRevisitPhases,
          (0x7B : Nat) ∉ (Text.ofString target).replace (.ofString "And")
            (.ofString " and ") := by
        decide +kernel
      have plain := all target valid
      refine GapAnalyzer.Askable.hasQuestion ⟨?_, ?_⟩ rfl
      · simp [Text.ofString]
      · rw [List.mem_append, List.mem_append, not_or, not_or]
        exact ⟨⟨by decide, plain⟩, by decide⟩
  | cons first rest => exact (asked first List.mem_cons_self).hasQuestion rfl

/-- Whatever becomes of a revisit, there is something to say. -/
theorem hasAction_call (state : PipelineState) :
    ∃ gap, (call state).gapAnalysis = some gap ∧ gap.HasAction := by
  apply PipelineState.of_runWithTimeout fun after =>
    ∃ gap, after.gapAnalysis = some gap ∧ gap.HasAction
  · intro after returned
    rcases handle_cases (Outcome.ofExcept_eq_returns.mp returned) with
      ⟨_, rfl⟩ | ⟨target, table, unmet, named, found, selected, rfl⟩
    · refine ⟨unknownGap, rfl, .inr (GapAnalyzer.Askable.hasQuestion ⟨?_, ?_⟩ rfl)⟩
      · simp [Text.ofString]
      · decide +kernel
    · obtain ⟨phase, rfl, names, _⟩ := extractTargetPhase_eq_some named
      exact ⟨_, rfl, .inr (askable_reentry names.1
        (GapAnalyzer.askable_of_unmet found selected))⟩
  · intro message
    exact ⟨GapAnalyzer.terminalGap, rfl, .inl rfl⟩

/-- A revisit leaves the intent on one line. -/
theorem newline_notMem_intent_call {state : PipelineState} {intent : String}
    (classified : state.intent = some intent) (single : 10 ∉ Text.ofString intent) :
    ∃ intent, (call state).intent = some intent ∧ 10 ∉ Text.ofString intent := by
  rcases call_cases state with ⟨target, _, resolves, same⟩ | ⟨_, _, same, _⟩
  · obtain ⟨phase, rfl, _⟩ := extractTargetPhase_eq_some resolves.1
    rw [same]
    refine ⟨_, rfl, ?_⟩
    cases phase <;> decide
  · rw [same]
    exact ⟨intent, classified, single⟩

end RevisitHandler

namespace GuidanceGenerator

/-! ## The texts of the request -/

/-- The line that offers a transition. -/
def offerLine (next : Text) : Text :=
  .ofString "[All AC met — offer transition to " ++ next ++ .ofString "]"

/-- A line of the text offers a transition. -/
def Offers (text : Text) : Prop := ∃ next, offerLine next ∈ text.splitOn 10

section Lines

theorem offers_intercalate {parts : List Text} (some : parts ≠ []) :
    Offers (List.intercalate [10] parts) ↔ ∃ part ∈ parts, Offers part := by
  simp only [Offers, Text.mem_splitOn_intercalate some]
  exact ⟨fun ⟨next, part, member, offered⟩ => ⟨part, member, next, offered⟩,
    fun ⟨part, member, next, offered⟩ => ⟨next, part, member, offered⟩⟩

theorem offers_offerLine {next : Text} (single : 10 ∉ next) : Offers (offerLine next) := by
  have line : 10 ∉ offerLine next := by
    rw [offerLine, List.mem_append, List.mem_append, not_or, not_or]
    exact ⟨⟨by decide, single⟩, by decide⟩
  rw [Offers, List.splitOn_eq_singleton line]
  exact ⟨next, List.mem_singleton_self _⟩

def intentLine (intent : String) : Text := .ofString s!"[BA message intent: {intent}]"

theorem intentLine_eq (intent : String) :
    intentLine intent =
      .ofString "[BA message intent: " ++ Text.ofString intent ++ .ofString "]" := by
  rw [intentLine, Text.ofString_append, Text.ofString_append]
  rfl

theorem not_offers_intentLine {intent : String} (single : 10 ∉ Text.ofString intent) :
    ¬Offers (intentLine intent) := by
  have line : 10 ∉ intentLine intent := by
    rw [intentLine_eq, List.mem_append, List.mem_append, not_or, not_or]
    exact ⟨⟨by decide, single⟩, by decide⟩
  rintro ⟨next, offered⟩
  rw [List.splitOn_eq_singleton line, List.mem_singleton, intentLine_eq, offerLine] at offered
  -- The second characters differ.
  exact absurd (congrArg (·.tail.head?) offered) (by simp [Text.ofString])

/-- No name of a phase has a line break. -/
theorem newline_notMem_nextPhase {phase : Json} {next : String}
    (known : nextPhase phase = .ok next) : 10 ∉ Text.ofString next := by
  have all : ∀ entry ∈ phaseNext, 10 ∉ Text.ofString entry.2 := by decide
  have unknown : 10 ∉ Text.ofString "the next phase" := by decide
  cases phase with
  | list items | dict entries => cases known
  | null | bool value | int value | float value =>
      cases known
      exact unknown
  | str text =>
      cases known
      generalize entry : List.find? _ phaseNext = found
      cases found with
      | none => exact unknown
      | some found => exact all found (List.mem_of_find?_eq_some entry)

end Lines

variable [Rendering]

/-- The question of the gap stands in its place in the system prompt, between the other
values of the state. -/
def Asks (template : GuidanceTemplate) (state : PipelineState) (system : Text) : Prop :=
  ∃ values question, HasValues state values ∧
    state.gapAnalysis.map (·.suggestedQuestion) = some (.str question) ∧ question ≠ [] ∧
      system = template.filled { values.read with suggestedQuestion := question }

omit [Rendering] in
/-- The other values in their places show what stands for the question. -/
theorem filled_question_inj (template : GuidanceTemplate) (values : PromptValues)
    (question : Text) :
    template.filled values = template.filled { values with suggestedQuestion := question } ↔
      values.suggestedQuestion = question := by
  constructor
  · intro same
    simp only [GuidanceTemplate.filled_eq, List.append_cancel_left_eq, List.cons.injEq,
      true_and, List.append_cancel_right_eq] at same
    exact same
  · rintro rfl
    rfl

/-- A prompt that has been built asks the question of the gap when the gap is open and the
last placeholder is not in its question. -/
theorem asks_iff [IndentedRendering] {prompt : String → Except PyError Text}
    {template : GuidanceTemplate} (file : prompt "guidance_generator.txt" = .ok template.text)
    {state : PipelineState} {system : Text}
    (built : buildSystemPrompt prompt state = .ok system) {gap : GapResult}
    (analyzed : state.gapAnalysis = some gap) :
    Asks template state system ↔ gap.isTerminal = false ∧ gap.HasQuestion := by
  obtain ⟨values, held, rfl⟩ := (buildSystemPrompt_eq_ok file).mp built
  have newline := newline_mem_snapshot held
  have value := held.suggestedQuestion
  rw [analyzed, Option.elim_some, Option.elim_some] at value
  rw [GuidanceTemplate.filledInTurn_eq_filled_read]
  have asks : Asks template state (template.filled values.read) ↔
      ∃ question, gap.suggestedQuestion = .str question ∧ question ≠ [] ∧
        values.suggestedQuestion.replace snapshotMark values.snapshot = question := by
    constructor
    · rintro ⟨other, question, held', asked, notEmpty, same⟩
      rw [← held.unique held', filled_question_inj] at same
      rw [analyzed, Option.map_some, Option.some.injEq] at asked
      exact ⟨question, asked, notEmpty, same⟩
    · rintro ⟨question, asked, notEmpty, same⟩
      refine ⟨values, question, held, ?_, notEmpty, ?_⟩
      · rw [analyzed, Option.map_some, asked]
      · exact (filled_question_inj template values.read question).mpr same
  rw [asks]
  cases terminal : gap.isTerminal with
  | true =>
      rw [terminal, if_pos rfl] at value
      rw [← Json.str.inj value]
      simp only [Bool.true_eq_false, false_and, iff_false]
      rintro ⟨question, _, notEmpty, same⟩
      exact notEmpty same.symm
  | false =>
      rw [terminal, if_neg Bool.false_ne_true] at value
      rw [GapResult.HasQuestion, value]
      simp only [true_and, Json.str.injEq]
      refine exists_congr fun question => and_congr_right fun same => ?_
      subst same
      apply and_congr_right
      intro _
      constructor
      · intro kept
        exact (PromptValues.not_infix_of_replace newline kept le_rfl).1
      · exact Text.replace_of_not_infix

/-- The part of the message about the entities of the turn. -/
def capturedLines (state : PipelineState) : Except PyError (List Text) :=
  if state.extractedEntities.isEmpty then .ok []
  else do
    let summaries ← (state.extractedEntities.take 5).mapM summarize
    return [Text.ofString "[Captured this turn: " ++
      List.intercalate (Text.ofString "; ") summaries ++ Text.ofString "]"]

/-- The line of the message behind what was captured. -/
def actionLine (state : PipelineState) : Except PyError Text :=
  if state.gapAnalysis.elim false (·.isTerminal) then do
    let next ← nextPhase state.llmCtx.currentPhase
    return .ofString s!"[All AC met — offer transition to {next}]"
  else
    return intentLine (state.intent.getD "None")

theorem buildUserMessage_eq (state : PipelineState) :
    buildUserMessage state = do
      let captured ← capturedLines state
      let line ← actionLine state
      return List.intercalate (Text.ofString "\n")
        (captured ++ [line, Text.ofString "BA message: " ++ state.userMessage]) := by
  unfold buildUserMessage capturedLines actionLine
  dsimp only
  split
  · split
    · cases nextPhase state.llmCtx.currentPhase <;> rfl
    · rfl
  · cases (state.extractedEntities.take 5).mapM summarize with
    | error error => rfl
    | ok summaries =>
        split
        · cases nextPhase state.llmCtx.currentPhase <;> rfl
        · rfl

/-- What the model extracted or the analyst wrote has a line that reads like an offer. -/
def QuotesOffer (state : PipelineState) : Prop :=
  (∃ captured, capturedLines state = .ok captured ∧ ∃ part ∈ captured, Offers part) ∨
    Offers (.ofString "BA message: " ++ state.userMessage)

/-- A message that has been built offers a transition when the gap is terminal, or when it
quotes an offer. -/
theorem offers_iff {state : PipelineState} {content : Text}
    (written : buildUserMessage state = .ok content) {gap : GapResult}
    (analyzed : state.gapAnalysis = some gap)
    (single : 10 ∉ Text.ofString (state.intent.getD "None")) :
    Offers content ↔ gap.isTerminal = true ∨ QuotesOffer state := by
  rw [buildUserMessage_eq] at written
  simp only [Python.bind_eq_ok, Python.pure_eq_ok] at written
  obtain ⟨captured, listed, line, chosen, rfl⟩ := written
  have offered : Offers line ↔ gap.isTerminal = true := by
    rw [actionLine, analyzed, Option.elim_some] at chosen
    split at chosen
    next terminal =>
      simp only [Python.bind_eq_ok, Python.pure_eq_ok] at chosen
      obtain ⟨next, known, rfl⟩ := chosen
      refine iff_of_true ?_ terminal
      have shape : Text.ofString s!"[All AC met — offer transition to {next}]" =
          offerLine (.ofString next) := by
        rw [offerLine, Text.ofString_append, Text.ofString_append]
        rfl
      rw [shape]
      exact offers_offerLine (newline_notMem_nextPhase known)
    next opened =>
      cases chosen
      exact iff_of_false (not_offers_intentLine single) opened
  change Offers (List.intercalate [10] _) ↔ _
  rw [offers_intercalate (List.append_ne_nil_of_right_ne_nil _ (List.cons_ne_nil _ _)),
    QuotesOffer, listed, ← offered]
  simp only [List.mem_append, List.mem_cons, List.not_mem_nil, or_false, or_and_right,
    exists_or, exists_eq_left, Except.ok.injEq, exists_eq_left']
  exact or_left_comm

/-- A request has one action when the gap is terminal; or it is open, and either its
question can be asked or an offer is quoted. -/
theorem one_action_iff [IndentedRendering] {config : OrchestrationConfig}
    {environment : Environment} {template : GuidanceTemplate}
    (file : environment.prompt "guidance_generator.txt" = .ok template.text)
    {state : PipelineState} {request : LlmRequest} {gap : GapResult}
    (built : buildRequest config environment state = .ok request)
    (analyzed : state.gapAnalysis = some gap)
    (single : 10 ∉ Text.ofString (state.intent.getD "None")) :
    Xor (Asks template state request.system) (Offers request.content) ↔
      (gap.isTerminal = false → (gap.HasAction ↔ ¬QuotesOffer state)) := by
  simp only [buildRequest, Python.bind_eq_ok, Python.pure_eq_ok] at built
  obtain ⟨_, _, _, _, system, filled, content, written, rfl⟩ := built
  rw [asks_iff file filled analyzed, offers_iff written analyzed single, GapResult.HasAction]
  cases terminal : gap.isTerminal with
  | true => simp [Xor]
  | false =>
      simp only [true_and, Bool.false_eq_true, false_or, forall_const]
      exact xor_iff_iff_not

end GuidanceGenerator

/-! ## One action in a turn -/

namespace PipelineGraph

variable [Runtime] [Rendering] (config : OrchestrationConfig) (environment : Environment)

/-- In every request that the guidance sends in a run, the system prompt asks the suggested
question or the message offers a transition, and not both. -/
def OneAction (template : GuidanceTemplate) (initial : PipelineState) : Prop :=
  ∀ entered request, (.generateGuidance, entered) ∈ visited config environment initial →
    GuidanceGenerator.buildRequest config environment entered = .ok request →
    Xor (GuidanceGenerator.Asks template entered request.system)
      (GuidanceGenerator.Offers request.content)

/-- What a contribution brings to the gap analyzer. -/
def contribution (initial : PipelineState) : PipelineState :=
  RagRetrieval.call config environment
    (EntityExtractor.call config environment (fork config environment initial).2)

/-- The model supplies no gap, or one with an action; a revisit does not ask it. -/
def ModelActs (initial : PipelineState) : Prop :=
  (fork config environment initial).1 = .default →
    ∀ heard, GapAnalyzer.heardGap config environment
        (contribution config environment initial) = some heard → heard.HasAction

variable {config environment} {initial entered : PipelineState}

/-- The gap that reaches the guidance has an action, unless it is one that the model
supplied without. -/
theorem gap_of_guidance_visited
    (member : (.generateGuidance, entered) ∈ visited config environment initial) :
    ∃ gap, entered.gapAnalysis = some gap ∧
      (gap.HasAction ↔ ModelActs config environment initial) := by
  have prepared := (guidance_visited_iff config environment).mp member
  rw [PipelineExecutor.prepare] at prepared
  rw [ModelActs, fork]
  dsimp only
  split at prepared
  next revisits =>
    cases prepared
    obtain ⟨gap, analyzed, action⟩ := RevisitHandler.hasAction_call
      (IntentClassifier.call config environment initial)
    rw [revisits]
    refine ⟨gap, analyzed, iff_of_true action ?_⟩
    intro contributes
    cases contributes
  next contributes =>
    obtain ⟨fallback, _, computed, rfl⟩ := GapAnalyzer.eq_of_call config environment prepared
    rw [contributes]
    refine ⟨_, rfl, ?_⟩
    have fallbackActs := GapAnalyzer.hasAction_of_deterministicFallback computed
    change (Option.getD (GapAnalyzer.heardGap config environment
      (contribution config environment initial)) fallback).HasAction ↔ _
    cases GapAnalyzer.heardGap config environment (contribution config environment initial) with
    | none => simpa using fallbackActs
    | some heard => simp

/-- The intent that reaches the guidance is written on one line. -/
theorem intent_of_guidance_visited
    (member : (.generateGuidance, entered) ∈ visited config environment initial) :
    10 ∉ Text.ofString (entered.intent.getD "None") := by
  obtain ⟨intent, valid, classified⟩ := IntentClassifier.intent_call config environment initial
  have single := IntentClassifier.newline_notMem_intent valid
  have prepared := (guidance_visited_iff config environment).mp member
  rw [PipelineExecutor.prepare] at prepared
  split at prepared
  next =>
    cases prepared
    obtain ⟨routed, same, line⟩ :=
      RevisitHandler.newline_notMem_intent_call classified single
    rw [same]
    exact line
  next =>
    obtain ⟨_, _, _, rfl⟩ := GapAnalyzer.eq_of_call config environment prepared
    obtain ⟨_, _, retrieved⟩ := RagRetrieval.call_eq config environment
      (EntityExtractor.call config environment (IntentClassifier.call config environment initial))
    obtain ⟨_, _, _, extracted⟩ := EntityExtractor.call_eq config environment
      (IntentClassifier.call config environment initial)
    have kept : (RagRetrieval.call config environment (EntityExtractor.call config environment
        (IntentClassifier.call config environment initial))).intent = some intent := by
      rw [retrieved, extracted]
      exact classified
    dsimp only
    rw [kept]
    exact single

/-- A turn has one action exactly when, wherever the guidance builds its texts from an open
gap, either the question is there and nothing quotes an offer, or the model has supplied
the gap without a question and something does. -/
theorem oneAction_iff [IndentedRendering] {template : GuidanceTemplate}
    (file : environment.prompt "guidance_generator.txt" = .ok template.text) :
    OneAction config environment template initial ↔
      ∀ entered request, (.generateGuidance, entered) ∈ visited config environment initial →
        GuidanceGenerator.buildRequest config environment entered = .ok request →
        entered.gapAnalysis.elim true (·.isTerminal) = false →
        (ModelActs config environment initial ↔ ¬GuidanceGenerator.QuotesOffer entered) := by
  refine forall₄_congr fun entered request member built => ?_
  obtain ⟨gap, analyzed, action⟩ := gap_of_guidance_visited member
  rw [GuidanceGenerator.one_action_iff file built analyzed (intent_of_guidance_visited member),
    analyzed, Option.elim_some, action]

end PipelineGraph

/-! ### An open gap without a question -/

section Sample

open GuidanceGenerator (sampleTemplate indented_referenceRendering)

attribute [local instance] referenceRuntime referenceRendering

/-- A model that leaves out the question. -/
def sampleUnasked : Environment :=
  { sampleEnvironment with
    prompt := fun _ => .ok sampleTemplate.text
    reply := fun _ => .returns (some (.ofString
      "\x7b\"criterion_id\": \"AC-S1-01\", \"description\": \"Problem statement\"\x7d")) }

def sampleOpened : PipelineState :=
  PipelineExecutor.initialState (.dict []) (.ofString "Hello")
    (.forTurn {} .absent (.dict []))

theorem oneAction_iff_sampleUnasked :
    PipelineGraph.OneAction {} sampleUnasked sampleTemplate sampleOpened ↔
      ∀ entered request,
        (.generateGuidance, entered) ∈ PipelineGraph.visited {} sampleUnasked sampleOpened →
        GuidanceGenerator.buildRequest {} sampleUnasked entered = .ok request →
        entered.gapAnalysis.elim true (·.isTerminal) = false →
        (PipelineGraph.ModelActs {} sampleUnasked sampleOpened ↔
          ¬GuidanceGenerator.QuotesOffer entered) :=
  haveI := indented_referenceRendering
  PipelineGraph.oneAction_iff rfl

/-- The turn neither asks nor offers anything. -/
theorem not_oneAction_of_sampleUnasked :
    ¬∀ config environment template initial,
      environment.prompt "guidance_generator.txt" = .ok template.text →
        PipelineGraph.OneAction config environment template initial := by
  intro all
  have := indented_referenceRendering
  have built : (PipelineExecutor.prepare {} sampleUnasked sampleOpened >>=
      GuidanceGenerator.buildRequest {} sampleUnasked).toOption.isSome = true := by
    decide +kernel
  obtain ⟨request, built⟩ := Option.isSome_iff_exists.mp built
  rw [Python.toOption_eq_some, Python.bind_eq_ok] at built
  obtain ⟨entered, prepared, built⟩ := built
  have shape : ((PipelineExecutor.prepare {} sampleUnasked sampleOpened).toOption.map
      fun entered => (entered.gapAnalysis.map fun gap =>
        (gap.isTerminal, gap.suggestedQuestion.isStr []),
        entered.extractedEntities.isEmpty, entered.userMessage)) =
      some (some (false, true), true, .ofString "Hello") := by
    decide +kernel
  rw [prepared] at shape
  simp only [Except.toOption, Option.map_some, Option.some.injEq, Prod.mk.injEq,
    Option.map_eq_some_iff] at shape
  obtain ⟨⟨gap, analyzed, opened, unasked⟩, captured, said⟩ := shape
  have member := (PipelineGraph.guidance_visited_iff {} sampleUnasked).mpr prepared
  have file : sampleUnasked.prompt "guidance_generator.txt" = .ok sampleTemplate.text := rfl
  have acts := (GuidanceGenerator.one_action_iff file built analyzed
    (PipelineGraph.intent_of_guidance_visited member)).mp
      (all {} sampleUnasked sampleTemplate sampleOpened file entered request member built) opened
  have silent : ¬gap.HasAction := by
    rintro (terminal | ⟨question, asked, notEmpty, _⟩)
    · rw [opened] at terminal
      cases terminal
    · rw [Json.isStr_eq_true.mp unasked] at asked
      exact notEmpty (Json.str.inj asked).symm
  apply silent
  rw [acts]
  rintro (⟨listed, none, part, quoted, _⟩ | ⟨next, quoted⟩)
  · rw [GuidanceGenerator.capturedLines, if_pos captured] at none
    cases none
    cases quoted
  · rw [said, List.splitOn_eq_singleton (by decide), List.mem_singleton] at quoted
    exact absurd (congrArg List.head? quoted) (by simp [GuidanceGenerator.offerLine, Text.ofString])

end Sample

end Chitragupt
