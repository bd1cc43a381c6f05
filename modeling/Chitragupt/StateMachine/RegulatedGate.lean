import Chitragupt.StateMachine.Transition

/-!
# The two readings of the regulated-domain rule

Both the gate manager and the evaluator of the third phase decide whether a regulated
project still lacks a source document.  The gate asks for documents alone; the criterion is
also settled by an explicit update or a waiver.
-/

namespace Chitragupt

/-- The gate manager reports the gate as open. -/
def GateManager.ReportsOpen (state : SessionState) (id : String) : Prop :=
  ∃ gate ∈ openGates state, gate.id = id

/-- The evaluation gives the criterion the status. -/
def AcResult.Reports (result : AcResult) (id : String) (status : AcStatus) : Prop :=
  ∃ criterion ∈ result.criteria, criterion.id = id ∧ criterion.status = status

/-- The gate and the criterion are open together, and a waiver closes the gate. -/
structure RegulatedRuleAgrees (state : SessionState) : Prop where
  same : GateManager.ReportsOpen state "GATE-REGULATED-SOURCE-DOC" ↔
    (s3.evaluate state).Reports "AC-S3-U1" .unmet
  waived : "AC-S3-U1" ∈ state.acWaived →
    ¬GateManager.ReportsOpen state "GATE-REGULATED-SOURCE-DOC"

/-- All gates are hard, so every open gate blocks a transition. -/
theorem GateManager.openGates_eq_openHardGates (state : SessionState) :
    openGates state = openHardGates state := by
  apply List.filter_congr
  intro gate member
  simp only [allGatesForSession, List.mem_cons, List.not_mem_nil, or_false] at member
  rcases member with rfl | rfl | rfl | rfl <;> rfl

/-- The gate of a regulated project is open as long as there is no document. -/
theorem GateManager.reportsOpen_regulated_iff {state : SessionState}
    (regulated : isRegulated state = true) :
    ReportsOpen state "GATE-REGULATED-SOURCE-DOC" ↔ state.documentsIndexed = [] := by
  have gate : ReportsOpen state "GATE-REGULATED-SOURCE-DOC" ↔
      (regulatedSourceDocGate state).isOpen = true := by
    simp only [ReportsOpen, openGates, allGatesForSession, List.mem_filter, List.mem_cons,
      List.not_mem_nil, or_false]
    constructor
    · rintro ⟨gate, ⟨rfl | rfl | rfl | rfl, isOpen⟩, named⟩
      · simp [brdGate] at named
      · simp [hldGate] at named
      · simp [clientSignatureGate] at named
      · exact isOpen
    · intro isOpen
      exact ⟨_, ⟨.inr (.inr (.inr rfl)), isOpen⟩, rfl⟩
  rw [gate, regulatedSourceDocGate, regulated, Bool.true_and, List.isEmpty_iff]

theorem AcResult.reports_fromChecks {checks : List AcCheck} {acMet acWaived : List String}
    {id : String} {status : AcStatus} :
    (fromChecks checks acMet acWaived).Reports id status ↔
      ∃ check ∈ checks, check.id = id ∧ check.status acMet acWaived = status := by
  rw [Reports, fromChecks_criteria]
  constructor
  · rintro ⟨_, member, same⟩
    rcases List.mem_map.mp member with ⟨check, here, rfl⟩
    exact ⟨check, here, same⟩
  · rintro ⟨check, here, same⟩
    exact ⟨check.criterion acMet acWaived, List.mem_map_of_mem here, same⟩

/-- The field check of the source-document criterion. -/
theorem s3.exists_sourceDocument (state : SessionState) :
    ∃ check ∈ s3.checks state, check.id = "AC-S3-U1" ∧
      check.fieldMet =
        (!state.documentsIndexed.isEmpty || state.acWaived.any (· == "AC-S3-U1")) :=
  ⟨_, List.mem_of_getElem? (rfl : (s3.checks state)[5]? = some _), rfl, rfl⟩

/-- The criterion is unmet when there is neither a document, an update nor a waiver. -/
theorem s3.reports_unmet_iff (state : SessionState) :
    (s3.evaluate state).Reports "AC-S3-U1" .unmet ↔
      state.documentsIndexed = [] ∧ "AC-S3-U1" ∉ state.acMet ∧
        "AC-S3-U1" ∉ state.acWaived := by
  rcases s3.exists_sourceDocument state with ⟨known, present, named, field⟩
  have only : (s3.evaluate state).Reports "AC-S3-U1" .unmet ↔
      known.status state.acMet state.acWaived = .unmet := by
    rw [s3.evaluate, AcResult.reports_fromChecks]
    constructor
    · rintro ⟨check, member, same, unmet⟩
      have equal : check = known :=
        @SessionPhase.eq_of_id_eq .requirementElicitation state check known member present
          (same.trans named.symm)
      exact equal ▸ unmet
    · intro unmet
      exact ⟨known, present, named, unmet⟩
  rw [only, AcCheck.status_eq_unmet, field, named, Bool.or_eq_false_iff, Bool.not_eq_false',
    List.isEmpty_iff, List.any_beq', List.contains_eq_mem, decide_eq_false_iff_not]
  tauto

/-- In a regulated project the two agree exactly when there is a document, or neither an
update nor a waiver. -/
theorem regulatedRuleAgrees_iff (state : SessionState) (context : String)
    (recorded : state.regulatoryContext = some context) (regulated : context ≠ "") :
    RegulatedRuleAgrees state ↔
      state.documentsIndexed ≠ [] ∨
        "AC-S3-U1" ∉ state.acMet ∧ "AC-S3-U1" ∉ state.acWaived := by
  have gate : GateManager.ReportsOpen state "GATE-REGULATED-SOURCE-DOC" ↔
      state.documentsIndexed = [] := by
    apply GateManager.reportsOpen_regulated_iff
    simp [GateManager.isRegulated, recorded, regulated]
  constructor
  · intro agrees
    by_cases documents : state.documentsIndexed = []
    · right
      have unmet := (s3.reports_unmet_iff state).mp (agrees.same.mp (gate.mpr documents))
      exact unmet.2
    · exact .inl documents
  · intro settled
    constructor
    · rw [gate, s3.reports_unmet_iff]
      tauto
    · rw [gate]
      tauto

/-! ### A waiver -/

/-- A regulated project without documents whose source document is waived. -/
def sampleWaived : SessionState :=
  { SessionState.new 0xA1 0 1 2 with
    currentPhase := .requirementElicitation
    regulatoryContext := some "GDPR"
    acWaived := ["AC-S3-U1"] }

/-- The waiver settles the criterion and leaves the gate open. -/
theorem not_regulatedRuleAgrees_sampleWaived :
    ¬∀ state : SessionState, ∀ context, state.regulatoryContext = some context →
      context ≠ "" → RegulatedRuleAgrees state := by
  intro all
  have agrees := all sampleWaived "GDPR" rfl (by decide)
  exact agrees.waived (by decide)
    ((GateManager.reportsOpen_regulated_iff (by decide)).mpr rfl)

/-- Without the waiver the two agree. -/
theorem regulatedRuleAgrees_unwaived :
    RegulatedRuleAgrees { sampleWaived with acWaived := [] } :=
  (regulatedRuleAgrees_iff { sampleWaived with acWaived := [] } "GDPR" rfl (by decide)).mpr
    (.inr (by decide))

end Chitragupt
