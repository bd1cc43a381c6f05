import Chitragupt.Lib.Replace
import Chitragupt.Pipeline.GuidanceGenerator

/-!
# The system prompt of the guidance

The template has four placeholders, which are replaced one after the other.  A value that is
put in early is read again by the later replacements, so that the prompt is the template with
the values in place only where no value is changed by the replacements that follow its own.
-/

namespace Chitragupt

open Python (PyError Json)

/-- `json.dumps` with an indentation puts the entries of an object on lines of their own. -/
class IndentedRendering [Rendering] : Prop where
  newline_mem : ∀ {indent : Nat} {entries : List (Text × Json)} {text : Text}, entries ≠ [] →
    Rendering.dumps (some indent) (.dict entries) = .ok text → 10 ∈ text

/-- What stands for the four placeholders. -/
structure PromptValues where
  phase : Text
  gapDescription : Text
  suggestedQuestion : Text
  snapshot : Text

namespace GuidanceGenerator

def phaseMark : Text := .ofString "\x7b\x7bPHASE\x7d\x7d"
def gapMark : Text := .ofString "\x7b\x7bGAP_DESCRIPTION\x7d\x7d"
def questionMark : Text := .ofString "\x7b\x7bSUGGESTED_QUESTION\x7d\x7d"
def snapshotMark : Text := .ofString "\x7b\x7bSESSION_SNAPSHOT\x7d\x7d"

/-- A pattern with an opening brace that stays on one line and has no blank in it. -/
structure IsMark (pattern : Text) : Prop where
  brace : 0x7B ∈ pattern
  newline : 10 ∉ pattern
  blank : 32 ∉ pattern

theorem IsMark.nonempty {pattern : Text} (mark : IsMark pattern) : pattern ≠ [] :=
  List.ne_nil_of_mem mark.brace

theorem isMark_phase : IsMark phaseMark := ⟨by decide, by decide, by decide⟩
theorem isMark_gap : IsMark gapMark := ⟨by decide, by decide, by decide⟩
theorem isMark_question : IsMark questionMark := ⟨by decide, by decide, by decide⟩
theorem isMark_snapshot : IsMark snapshotMark := ⟨by decide, by decide, by decide⟩

end GuidanceGenerator

open GuidanceGenerator

/-- `guidance_generator.txt`: the lines with the placeholders, and the lines in front of them
and behind them, in which there is no brace. -/
structure GuidanceTemplate where
  head : Text
  tail : Text
  headPlain : 0x7B ∉ head
  tailPlain : 0x7B ∉ tail

namespace GuidanceTemplate

variable (template : GuidanceTemplate)

/-- A line of the template that ends with a value. -/
def labelled (label : String) (value : Text) : Text := Text.ofString label ++ 32 :: value

def summaryLine : Text :=
  .ofString "## Session Summary (for context only — do not repeat verbatim):"

/-- The template with values in the places of its placeholders. -/
def filled (values : PromptValues) : Text :=
  List.intercalate [10]
    [ template.head,
      labelled "## Current Phase:" values.phase,
      labelled "## Gap to Address:" values.gapDescription,
      labelled "## Suggested Question:" values.suggestedQuestion,
      summaryLine,
      values.snapshot,
      template.tail ]

/-- The text of the file. -/
def text : Text :=
  template.filled
    { phase := phaseMark
      gapDescription := gapMark
      suggestedQuestion := questionMark
      snapshot := snapshotMark }

variable {template} {values : PromptValues} {pattern value : Text}

/-- A text without a brace has no match. -/
theorem replace_plain (mark : IsMark pattern) {text : Text} (plain : 0x7B ∉ text) :
    text.replace pattern value = text :=
  Text.replace_of_not_infix fun found => plain (found.subset mark.brace)

theorem replace_labelled (mark : IsMark pattern) {label : String}
    (plain : 0x7B ∉ Text.ofString label) (text : Text) :
    (labelled label text).replace pattern value = labelled label (text.replace pattern value) := by
  rw [labelled, Text.replace_append_separator mark.nonempty mark.blank,
    replace_plain mark plain, labelled]

/-- A replacement reaches the values alone. -/
theorem replace_filled (mark : IsMark pattern) (values : PromptValues) :
    (template.filled values).replace pattern value =
      template.filled
        { phase := values.phase.replace pattern value
          gapDescription := values.gapDescription.replace pattern value
          suggestedQuestion := values.suggestedQuestion.replace pattern value
          snapshot := values.snapshot.replace pattern value } := by
  have summary : summaryLine.replace pattern value = summaryLine :=
    replace_plain mark (by decide)
  rw [filled, Text.replace_intercalate mark.nonempty mark.newline]
  simp only [List.map_cons, List.map_nil]
  rw [replace_plain mark template.headPlain, replace_plain mark template.tailPlain,
    replace_labelled mark (by decide), replace_labelled mark (by decide),
    replace_labelled mark (by decide), summary, filled]

/-- The template after the four replacements of the source. -/
def filledInTurn (template : GuidanceTemplate) (values : PromptValues) : Text :=
  (((template.text.replace phaseMark values.phase).replace gapMark
    values.gapDescription).replace questionMark values.suggestedQuestion).replace snapshotMark
      values.snapshot

end GuidanceTemplate

/-- Every value after the replacements that follow its own. -/
def PromptValues.read (values : PromptValues) : PromptValues where
  phase := ((values.phase.replace gapMark values.gapDescription).replace questionMark
    values.suggestedQuestion).replace snapshotMark values.snapshot
  gapDescription := (values.gapDescription.replace questionMark
    values.suggestedQuestion).replace snapshotMark values.snapshot
  suggestedQuestion := values.suggestedQuestion.replace snapshotMark values.snapshot
  snapshot := values.snapshot

namespace GuidanceTemplate

variable {template : GuidanceTemplate} {values : PromptValues}

theorem replace_mark {pattern value : Text} (mark : IsMark pattern) :
    pattern.replace pattern value = value := by
  have found : (pattern ++ []).replace pattern value = value ++ Text.replace [] pattern value :=
    Text.replace_append mark.nonempty []
  rwa [List.append_nil, Text.replace_nil, List.append_nil] at found

/-- The source reads the values again. -/
theorem filledInTurn_eq_filled_read (template : GuidanceTemplate) (values : PromptValues) :
    template.filledInTurn values = template.filled values.read := by
  have apart {pattern other value : Text} (none : ¬other <:+: pattern) :
      pattern.replace other value = pattern := Text.replace_of_not_infix none
  rw [filledInTurn, text, replace_filled isMark_phase, replace_filled isMark_gap,
    replace_filled isMark_question, replace_filled isMark_snapshot, replace_mark isMark_phase]
  rw [apart (show ¬phaseMark <:+: gapMark by decide),
    apart (show ¬phaseMark <:+: questionMark by decide),
    apart (show ¬phaseMark <:+: snapshotMark by decide),
    apart (show ¬gapMark <:+: questionMark by decide),
    apart (show ¬gapMark <:+: snapshotMark by decide),
    apart (show ¬questionMark <:+: snapshotMark by decide)]
  simp only [replace_mark isMark_gap, replace_mark isMark_question, replace_mark isMark_snapshot]
  rfl

theorem filled_eq (template : GuidanceTemplate) (values : PromptValues) :
    template.filled values =
      template.head ++ 10 :: (Text.ofString "## Current Phase:" ++ 32 :: (values.phase ++
        10 :: (Text.ofString "## Gap to Address:" ++ 32 :: (values.gapDescription ++
          10 :: (Text.ofString "## Suggested Question:" ++ 32 :: (values.suggestedQuestion ++
            10 :: (summaryLine ++ 10 :: (values.snapshot ++ 10 :: template.tail)))))))) := by
  simp only [filled, labelled, List.intercalate_cons_cons, List.intercalate_singleton,
    List.append_assoc, List.cons_append, List.nil_append]

/-- The newlines tell where the values end. -/
theorem filled_inj {other : PromptValues} (same : template.filled other = template.filled values)
    (snapshot : other.snapshot = values.snapshot)
    (phase : values.phase.count 10 ≤ other.phase.count 10)
    (gap : values.gapDescription.count 10 ≤ other.gapDescription.count 10)
    (question : values.suggestedQuestion.count 10 ≤ other.suggestedQuestion.count 10) :
    other.phase = values.phase ∧ other.gapDescription = values.gapDescription ∧
      other.suggestedQuestion = values.suggestedQuestion := by
  have total := congrArg (List.count 10) same
  rw [filled_eq, filled_eq, snapshot] at same
  simp only [filled_eq, List.count_append, List.count_cons, snapshot] at total
  simp only [List.append_cancel_left_eq, List.cons.injEq, true_and] at same
  obtain ⟨samePhase, same⟩ := Text.append_separator_inj_of_count same (by omega)
  simp only [List.append_cancel_left_eq, List.cons.injEq, true_and] at same
  obtain ⟨sameGap, same⟩ := Text.append_separator_inj_of_count same (by omega)
  simp only [List.append_cancel_left_eq, List.cons.injEq, true_and] at same
  obtain ⟨sameQuestion, _⟩ := Text.append_separator_inj_of_count same (by omega)
  exact ⟨samePhase, sameGap, sameQuestion⟩

end GuidanceTemplate

namespace PromptValues

/-- No replacement changes a value that is already in place: the last placeholder is in none
of them, the question's is not in the gap description unless it stands for itself, and the
phase is left as it is by the two replacements that follow its own. -/
structure Unambiguous (values : PromptValues) : Prop where
  phase : ¬snapshotMark <:+: values.phase
  gapDescription : ¬snapshotMark <:+: values.gapDescription
  suggestedQuestion : ¬snapshotMark <:+: values.suggestedQuestion
  gapQuestion : ¬questionMark <:+: values.gapDescription ∨
    values.suggestedQuestion = questionMark
  phaseKept : (values.phase.replace gapMark values.gapDescription).replace questionMark
    values.suggestedQuestion = values.phase

variable {values : PromptValues}

theorem read_eq_of_unambiguous (unambiguous : values.Unambiguous) : values.read = values := by
  have gap : values.gapDescription.replace questionMark values.suggestedQuestion =
      values.gapDescription :=
    (Text.replace_eq_self_iff isMark_question.nonempty).mpr unambiguous.gapQuestion
  rw [read, unambiguous.phaseKept, gap, Text.replace_of_not_infix unambiguous.phase,
    Text.replace_of_not_infix unambiguous.gapDescription,
    Text.replace_of_not_infix unambiguous.suggestedQuestion]

/-- A snapshot with a newline shows where it is put in. -/
theorem not_infix_of_replace {text before : Text} (newline : 10 ∈ values.snapshot)
    (same : text.replace snapshotMark values.snapshot = before)
    (counts : before.count 10 ≤ text.count 10) : ¬snapshotMark <:+: before ∧ text = before := by
  have none : ¬snapshotMark <:+: text := by
    intro found
    have more := Text.count_lt_count_replace isMark_snapshot.nonempty isMark_snapshot.newline
      newline found
    rw [same] at more
    exact absurd counts (Nat.not_le.mpr more)
  rw [Text.replace_of_not_infix none] at same
  exact ⟨same ▸ none, same⟩

end PromptValues

namespace GuidanceTemplate

/-- The source fills in the values as they are where they are unambiguous. -/
theorem filledInTurn_eq_filled_iff (template : GuidanceTemplate) {values : PromptValues}
    (newline : 10 ∈ values.snapshot) :
    template.filledInTurn values = template.filled values ↔ values.Unambiguous := by
  rw [filledInTurn_eq_filled_read]
  constructor
  · intro same
    have kept {pattern : Text} (mark : IsMark pattern) (text value : Text) :
        text.count 10 ≤ (text.replace pattern value).count 10 :=
      Text.count_le_count_replace mark.nonempty mark.newline
    have phaseCount := (kept isMark_gap values.phase values.gapDescription).trans
      (kept isMark_question _ values.suggestedQuestion)
    have gapCount := kept isMark_question values.gapDescription values.suggestedQuestion
    obtain ⟨phase, gap, question⟩ := filled_inj same rfl
      (phaseCount.trans (kept isMark_snapshot _ _)) (gapCount.trans (kept isMark_snapshot _ _))
      (kept isMark_snapshot _ _)
    obtain ⟨nonePhase, phaseKept⟩ := PromptValues.not_infix_of_replace newline phase phaseCount
    obtain ⟨noneGap, gapKept⟩ := PromptValues.not_infix_of_replace newline gap gapCount
    obtain ⟨noneQuestion, _⟩ := PromptValues.not_infix_of_replace newline question le_rfl
    exact
      { phase := nonePhase
        gapDescription := noneGap
        suggestedQuestion := noneQuestion
        gapQuestion := (Text.replace_eq_self_iff isMark_question.nonempty).mp gapKept
        phaseKept }
  · intro unambiguous
    rw [PromptValues.read_eq_of_unambiguous unambiguous]

end GuidanceTemplate

namespace GuidanceGenerator

section Prompt

variable [Rendering]

/-- The summary of the session in the prompt. -/
def snapshot (state : PipelineState) : Except PyError Text := do
  let session := state.sessionState
  let field := fun name => getField session name .null
  let count := fun name => GapAnalyzer.fieldLength session name
  Rendering.dumps (some 2) (.dict
    [ (.ofString "problem_statement", field "problem_statement"),
      (.ofString "domain", field "business_domain"),
      (.ofString "actor_count", .int (← count "actors")),
      (.ofString "requirement_count", .int (← count "requirements")),
      (.ofString "constraint_count", .int (← count "constraints")),
      (.ofString "open_questions", .int (← count "open_questions")) ])

/-- The values of a state; all of them are strings. -/
structure HasValues (state : PipelineState) (values : PromptValues) : Prop where
  phase : state.llmCtx.currentPhase = .str values.phase
  gapDescription : state.gapAnalysis.elim (.ofString "No gap identified.") (·.description) =
    .str values.gapDescription
  suggestedQuestion :
    (if state.gapAnalysis.elim false (·.isTerminal) then .ofString ""
      else state.gapAnalysis.elim (.ofString "") (·.suggestedQuestion)) =
        .str values.suggestedQuestion
  snapshot : snapshot state = .ok values.snapshot

omit [Rendering] in
theorem fill_eq_ok {placeholder : String} {value : Json} {template filled : Text} :
    fill placeholder value template = .ok filled ↔
      ∃ text, value = .str text ∧ template.replace (.ofString placeholder) text = filled := by
  simp only [fill, Python.bind_eq_ok, Json.asStr_eq_ok, Python.pure_eq_ok]

/-- A prompt is built from the values of the state, one after the other. -/
theorem buildSystemPrompt_eq_ok {prompt : String → Except PyError Text} {state : PipelineState}
    {template : GuidanceTemplate} (file : prompt "guidance_generator.txt" = .ok template.text)
    {built : Text} :
    buildSystemPrompt prompt state = .ok built ↔
      ∃ values, HasValues state values ∧ template.filledInTurn values = built := by
  simp only [buildSystemPrompt, Python.bind_eq_ok, fill_eq_ok, file, Except.ok.injEq]
  constructor
  · rintro ⟨_, rfl, actors, actorCount, requirements, requirementCount, constraints,
      constraintCount, questions, questionCount, snapshot, dumped, _, ⟨phase, isPhase, rfl⟩, _,
      ⟨gap, isGap, rfl⟩, _, ⟨question, isQuestion, rfl⟩, _, isSnapshot, rfl⟩
    cases isSnapshot
    refine ⟨⟨phase, gap, question, snapshot⟩, ⟨isPhase, isGap, isQuestion, ?_⟩, rfl⟩
    simp only [GuidanceGenerator.snapshot, Python.bind_eq_ok]
    exact ⟨actors, actorCount, requirements, requirementCount, constraints, constraintCount,
      questions, questionCount, dumped⟩
  · rintro ⟨values, held, rfl⟩
    have dumped := held.snapshot
    simp only [GuidanceGenerator.snapshot, Python.bind_eq_ok] at dumped
    obtain ⟨actors, actorCount, requirements, requirementCount, constraints, constraintCount,
      questions, questionCount, dumped⟩ := dumped
    exact ⟨_, rfl, actors, actorCount, requirements, requirementCount, constraints,
      constraintCount, questions, questionCount, _, dumped, _, ⟨_, held.phase, rfl⟩, _,
      ⟨_, held.gapDescription, rfl⟩, _, ⟨_, held.suggestedQuestion, rfl⟩, _, rfl, rfl⟩

theorem newline_mem_snapshot [IndentedRendering] {state : PipelineState} {values : PromptValues}
    (held : HasValues state values) : 10 ∈ values.snapshot := by
  have dumped := held.snapshot
  simp only [snapshot, Python.bind_eq_ok] at dumped
  obtain ⟨_, _, _, _, _, _, _, _, dumped⟩ := dumped
  exact IndentedRendering.newline_mem (List.cons_ne_nil _ _) dumped

/-- A state has at most one value for each placeholder. -/
theorem HasValues.unique {state : PipelineState} {values other : PromptValues}
    (held : HasValues state values) (held' : HasValues state other) : values = other := by
  have phase := Json.str.inj (held.phase.symm.trans held'.phase)
  have gap := Json.str.inj (held.gapDescription.symm.trans held'.gapDescription)
  have question := Json.str.inj (held.suggestedQuestion.symm.trans held'.suggestedQuestion)
  have snapshot := Except.ok.inj (held.snapshot.symm.trans held'.snapshot)
  cases values
  cases other
  simp only [PromptValues.mk.injEq]
  exact ⟨phase, gap, question, snapshot⟩

/-- The prompt that is built is the template with the values in their places. -/
def FilledOnce (prompt : String → Except PyError Text) (template : GuidanceTemplate)
    (state : PipelineState) : Prop :=
  ∀ built, buildSystemPrompt prompt state = .ok built →
    ∃ values, HasValues state values ∧ built = template.filled values

theorem unambiguous_of_filledOnce [IndentedRendering] {prompt : String → Except PyError Text}
    {template : GuidanceTemplate} (file : prompt "guidance_generator.txt" = .ok template.text)
    {state : PipelineState} (once : FilledOnce prompt template state) {values : PromptValues}
    (held : HasValues state values) : values.Unambiguous := by
  obtain ⟨other, held', same⟩ := once _ ((buildSystemPrompt_eq_ok file).mpr ⟨values, held, rfl⟩)
  rw [← held.unique held'] at same
  exact (template.filledInTurn_eq_filled_iff (newline_mem_snapshot held)).mp same

/-- A prompt is filled in once exactly when the values of the state are unambiguous. -/
theorem filledOnce_iff [IndentedRendering] {prompt : String → Except PyError Text}
    {template : GuidanceTemplate} (file : prompt "guidance_generator.txt" = .ok template.text)
    (state : PipelineState) :
    FilledOnce prompt template state ↔
      ∀ values, HasValues state values → values.Unambiguous := by
  constructor
  · intro once values held
    exact unambiguous_of_filledOnce file once held
  · intro unambiguous built returned
    obtain ⟨values, held, rfl⟩ := (buildSystemPrompt_eq_ok file).mp returned
    exact ⟨values, held, (template.filledInTurn_eq_filled_iff (newline_mem_snapshot held)).mpr
      (unambiguous values held)⟩

end Prompt

/-! ### A gap that quotes a placeholder -/

section Sample

attribute [local instance] referenceRendering

theorem indented_referenceRendering : IndentedRendering where
  newline_mem := by
    intro indent entries text some dumped
    cases entries with
    | nil => exact absurd rfl some
    | cons entry entries =>
        cases dumped
        simp [ReferenceRendering.write, ReferenceRendering.lineBreak]

def sampleTemplate : GuidanceTemplate where
  head := .ofString "# GuidanceGenerator\n"
  tail := .ofString "\n## Phase-Specific Behaviour\n"
  headPlain := by decide
  tailPlain := by decide

/-- A turn with this gap. -/
def sampleGuidance (description : String) : PipelineState where
  sessionState := .dict []
  userMessage := .ofString "Go on."
  llmCtx :=
    { sessionState := .dict []
      budget := { sessionId := [], workspaceId := none, spentUsd := 0,
                  limitUsd := BudgetTracker.defaultLimitUsd }
      config := {} }
  intent := none
  extractedEntities := []
  retrievedChunks := []
  gapAnalysis := some
    { criterionId := .ofString "AC-S1-01"
      description := .ofString description
      suggestedQuestion := .ofString "Which figures are final?"
      priority := 1
      isTerminal := false
      unmetCount := 1 }
  guidanceTokens := []
  acUpdates := []
  nodeErrors := []
  pipelineAborted := false

/-- The values of that turn. -/
def sampleValues (description : String) : PromptValues where
  phase := .ofString "ProblemIntake"
  gapDescription := .ofString description
  suggestedQuestion := .ofString "Which figures are final?"
  snapshot := ReferenceRendering.write (some 2) 0 (.dict
    [ (.ofString "problem_statement", .null),
      (.ofString "domain", .null),
      (.ofString "actor_count", .int 0),
      (.ofString "requirement_count", .int 0),
      (.ofString "constraint_count", .int 0),
      (.ofString "open_questions", .int 0) ])

theorem hasValues_sampleGuidance (description : String) :
    HasValues (sampleGuidance description) (sampleValues description) where
  phase := rfl
  gapDescription := rfl
  suggestedQuestion := rfl
  snapshot := rfl

/-- Without a placeholder in its values the prompt is filled in once. -/
theorem filledOnce_sampleGuidance :
    FilledOnce (fun _ => .ok sampleTemplate.text) sampleTemplate
      (sampleGuidance "The budget is not known.") := by
  have := indented_referenceRendering
  refine (filledOnce_iff rfl _).mpr fun values held => ?_
  rw [← (hasValues_sampleGuidance _).unique held]
  exact ⟨by decide, by decide, by decide, .inl (by decide), by decide⟩

/-- A gap description that quotes the last placeholder takes in the whole summary. -/
theorem not_filledOnce_of_sampleGuidance :
    ¬∀ (prompt : String → Except PyError Text) (template : GuidanceTemplate)
        (state : PipelineState), prompt "guidance_generator.txt" = .ok template.text →
      FilledOnce prompt template state := by
  intro all
  have := indented_referenceRendering
  have once := all (fun _ => .ok sampleTemplate.text) sampleTemplate
    (sampleGuidance "What does \x7b\x7bSESSION_SNAPSHOT\x7d\x7d mean here?") rfl
  have unambiguous := unambiguous_of_filledOnce rfl once (hasValues_sampleGuidance _)
  exact unambiguous.gapDescription (by decide)

end Sample

end GuidanceGenerator

end Chitragupt
