import Mathlib.Data.List.Nodup
import Mathlib.Logic.Basic

/-!
# Ledgers of recorded and waived items

A ledger keeps two lists of items.  Recording an item moves it into the first list
and out of the second; retracting it takes it out of the first list only.  The run
lemmas reduce membership after any sequence of updates to the last update of the
item.
-/

structure Ledger (α : Type*) where
  recorded : List α
  waived : List α
  deriving DecidableEq

namespace Ledger

variable {α : Type*} [DecidableEq α]

/-- One update: record the item when the flag is set, retract it otherwise. -/
def update (ledger : Ledger α) (item : α) (flag : Bool) : Ledger α :=
  if flag then
    { recorded :=
        if item ∈ ledger.recorded then ledger.recorded else ledger.recorded ++ [item]
      waived := ledger.waived.filter (· != item) }
  else
    { ledger with recorded := ledger.recorded.filter (· != item) }

/-- A sequence of updates. -/
def updates (ledger : Ledger α) : List (α × Bool) → Ledger α
  | [] => ledger
  | (item, flag) :: rest => (ledger.update item flag).updates rest

/-- The flag of the last update of an item. -/
def lastFlag (item : α) : List (α × Bool) → Option Bool
  | [] => none
  | (other, flag) :: rest =>
      match lastFlag item rest with
      | some later => some later
      | none => if other = item then some flag else none

theorem mem_recorded_update {ledger : Ledger α} {item other : α} {flag : Bool} :
    other ∈ (ledger.update item flag).recorded ↔
      if other = item then flag = true else other ∈ ledger.recorded := by
  cases flag
  · by_cases same : other = item <;> simp [update, same]
  · by_cases present : item ∈ ledger.recorded <;> by_cases same : other = item <;>
      simp [update, present, same]

theorem mem_waived_update {ledger : Ledger α} {item other : α} {flag : Bool} :
    other ∈ (ledger.update item flag).waived ↔
      other ∈ ledger.waived ∧ (other = item → flag = false) := by
  cases flag <;> simp [update]

/-- After any updates an item is recorded by its last update, or as before when it
has none. -/
theorem mem_recorded_updates {ledger : Ledger α} {changes : List (α × Bool)} {item : α} :
    item ∈ (ledger.updates changes).recorded ↔
      match lastFlag item changes with
      | some flag => flag = true
      | none => item ∈ ledger.recorded := by
  induction changes generalizing ledger with
  | nil => rfl
  | cons change changes ih =>
      rcases change with ⟨other, flag⟩
      rw [updates, ih, lastFlag]
      cases lastFlag item changes with
      | some later => rfl
      | none =>
          simp only [mem_recorded_update]
          by_cases same : other = item
          · simp [same]
          · simp [same, Ne.symm same]

/-- A waiver survives as long as no update records the item. -/
theorem mem_waived_updates {ledger : Ledger α} {changes : List (α × Bool)} {item : α} :
    item ∈ (ledger.updates changes).waived ↔
      item ∈ ledger.waived ∧ (item, true) ∉ changes := by
  induction changes generalizing ledger with
  | nil => simp [updates]
  | cons change changes ih =>
      rcases change with ⟨other, flag⟩
      rw [updates, ih, mem_waived_update, List.mem_cons, not_or, and_assoc]
      refine and_congr_right fun _ => and_congr_left fun _ => ?_
      rw [Prod.mk.injEq, not_and]
      exact imp_congr_right fun _ => by cases flag <;> simp

/-! ## The order of two sequences of updates -/

theorem lastFlag_append (item : α) (earlier later : List (α × Bool)) :
    lastFlag item (earlier ++ later) = (lastFlag item later).or (lastFlag item earlier) := by
  induction earlier with
  | nil => rw [List.nil_append, lastFlag, Option.or_none]
  | cons change earlier ih =>
      rw [List.cons_append, lastFlag, lastFlag, ih]
      cases lastFlag item later <;> rfl

/-- Where both sequences mention an item, their last updates of it agree. -/
def AgreeOnLast (left right : List (α × Bool)) : Prop :=
  ∀ item, ∀ first ∈ lastFlag item left, ∀ second ∈ lastFlag item right, first = second

/-- Sequences that agree have the same last updates in either order. -/
theorem lastFlag_swap {left right : List (α × Bool)} (agree : AgreeOnLast left right)
    (item : α) : lastFlag item (left ++ right) = lastFlag item (right ++ left) := by
  rw [lastFlag_append, lastFlag_append]
  cases first : lastFlag item left with
  | none => rw [Option.none_or, Option.or_none]
  | some flag =>
      cases second : lastFlag item right with
      | none => rfl
      | some other => rw [Option.some_or, Option.some_or, agree item flag first other second]

/-! ## Updates without effect -/

/-- The updates record no waived item, retract no recorded one, and end every item
that is not recorded with a retraction. -/
def Idle (ledger : Ledger α) (changes : List (α × Bool)) : Prop :=
  (∀ item ∈ ledger.waived, (item, true) ∉ changes) ∧
    (∀ item ∈ ledger.recorded, (item, false) ∉ changes) ∧
    ∀ item ∉ ledger.recorded, lastFlag item changes ≠ some true

private theorem filter_ne_self {values : List α} {item : α} (absent : item ∉ values) :
    values.filter (· != item) = values := by
  rw [List.filter_eq_self]
  intro value member
  exact bne_iff_ne.mpr fun same => absent (same ▸ member)

private theorem lastFlag_cons_of_ne {item other : α} (flag : Bool)
    (rest : List (α × Bool)) (different : other ≠ item) :
    lastFlag item ((other, flag) :: rest) = lastFlag item rest := by
  rw [lastFlag]
  cases lastFlag item rest <;> simp [different]

/-- Idle updates restore the ledger, order included. -/
theorem Idle.updates_eq {ledger : Ledger α} {changes : List (α × Bool)}
    (idle : ledger.Idle changes) : ledger.updates changes = ledger := by
  -- On the way the list may grow by `pending` items, each still to be retracted.
  have general : ∀ (changes : List (α × Bool)) (pending : List α),
      (∀ item ∈ ledger.waived, (item, true) ∉ changes) →
      (∀ item ∈ ledger.recorded, (item, false) ∉ changes) →
      (∀ item ∉ ledger.recorded, lastFlag item changes ≠ some true) →
      (∀ item ∈ pending, item ∉ ledger.recorded ∧ lastFlag item changes = some false) →
      ({ ledger with recorded := ledger.recorded ++ pending } : Ledger α).updates changes =
        ledger := by
    intro changes
    induction changes with
    | nil =>
        intro pending _ _ _ retracted
        cases pending with
        | nil => simp [updates]
        | cons item rest => simpa [lastFlag] using (retracted item List.mem_cons_self).2
    | cons change changes ih =>
        rcases change with ⟨item, flag⟩
        intro pending waived kept ended retracted
        have waived' : ∀ other ∈ ledger.waived, (other, true) ∉ changes :=
          fun other member later => waived other member (List.mem_cons_of_mem _ later)
        have kept' : ∀ other ∈ ledger.recorded, (other, false) ∉ changes :=
          fun other member later => kept other member (List.mem_cons_of_mem _ later)
        have ended' : ∀ other ∉ ledger.recorded, lastFlag other changes ≠ some true := by
          intro other absent last
          exact ended other absent (by simp [lastFlag, last])
        cases flag with
        | true =>
            have unwaived : item ∉ ledger.waived := fun member =>
              waived item member List.mem_cons_self
            by_cases present : item ∈ ledger.recorded ++ pending
            · have same : ({ ledger with recorded := ledger.recorded ++ pending } :
                  Ledger α).update item true =
                    { ledger with recorded := ledger.recorded ++ pending } := by
                simp only [update, if_true, present, filter_ne_self unwaived]
              rw [updates, same]
              refine ih pending waived' kept' ended' fun other member => ?_
              rcases retracted other member with ⟨absent, last⟩
              refine ⟨absent, ?_⟩
              rw [lastFlag] at last
              cases later : lastFlag other changes with
              | some found => simpa [later] using last
              | none => simp [later] at last
            · have grown : ({ ledger with recorded := ledger.recorded ++ pending } :
                  Ledger α).update item true =
                    { ledger with recorded := ledger.recorded ++ (pending ++ [item]) } := by
                simp only [update, if_true, present, if_false, filter_ne_self unwaived,
                  List.append_assoc]
              rw [List.mem_append, not_or] at present
              rw [updates, grown]
              refine ih (pending ++ [item]) waived' kept' ended' fun other member => ?_
              rcases List.mem_append.mp member with old | new
              · rcases retracted other old with ⟨absent, last⟩
                have different : item ≠ other := fun same => present.2 (same ▸ old)
                exact ⟨absent, by rwa [lastFlag_cons_of_ne _ _ different] at last⟩
              · rw [List.mem_singleton] at new
                subst new
                refine ⟨present.1, ?_⟩
                have final := ended other present.1
                rw [lastFlag] at final
                cases later : lastFlag other changes with
                | none => simp [later] at final
                | some found => cases found <;> simp [later] at final ⊢
        | false =>
            have unrecorded : item ∉ ledger.recorded := fun member =>
              kept item member List.mem_cons_self
            have shrunk : ({ ledger with recorded := ledger.recorded ++ pending } :
                Ledger α).update item false =
                  { ledger with
                    recorded := ledger.recorded ++ pending.filter (· != item) } := by
              simp [update, List.filter_append, filter_ne_self unrecorded]
            rw [updates, shrunk]
            refine ih _ waived' kept' ended' fun other member => ?_
            rw [List.mem_filter, bne_iff_ne] at member
            rcases retracted other member.1 with ⟨absent, last⟩
            exact ⟨absent, by rwa [lastFlag_cons_of_ne _ _ (Ne.symm member.2)] at last⟩
  simpa using general changes [] idle.1 idle.2.1 idle.2.2 (by simp)

/-- The updates record no waived item and end every item they mention where it was. -/
def Restored (ledger : Ledger α) (changes : List (α × Bool)) : Prop :=
  (∀ item ∈ ledger.waived, (item, true) ∉ changes) ∧
    ∀ item flag, lastFlag item changes = some flag →
      (item ∈ ledger.recorded ↔ flag = true)

/-- Updates that leave the ledger as it is restore every item. -/
theorem restored_of_updates_eq {ledger : Ledger α} {changes : List (α × Bool)}
    (same : ledger.updates changes = ledger) : ledger.Restored changes := by
  constructor
  · intro item member
    have survived : item ∈ (ledger.updates changes).waived := same.symm ▸ member
    exact (mem_waived_updates.mp survived).2
  · intro item flag last
    have final : item ∈ (ledger.updates changes).recorded ↔ _ := mem_recorded_updates
    rw [same, last] at final
    exact final

/-! ## Updates that only record -/

theorem lastFlag_of_mem {item : α} {flag : Bool} {changes : List (α × Bool)}
    (member : (item, flag) ∈ changes) : (lastFlag item changes).isSome = true := by
  induction changes with
  | nil => cases member
  | cons change changes ih =>
      rw [lastFlag]
      cases later : lastFlag item changes with
      | some found => rfl
      | none =>
          rcases List.mem_cons.mp member with here | there
          · simp [← here]
          · simp [later] at ih
            exact absurd there ih

theorem mem_of_lastFlag {item : α} {flag : Bool} {changes : List (α × Bool)}
    (last : lastFlag item changes = some flag) : (item, flag) ∈ changes := by
  induction changes with
  | nil => cases last
  | cons change changes ih =>
      rw [lastFlag] at last
      cases later : lastFlag item changes with
      | some found =>
          rw [later] at ih last
          exact List.mem_cons_of_mem _ (ih last)
      | none =>
          rw [later] at last
          dsimp only at last
          split at last
          next same =>
            rw [← same, ← Option.some.inj last]
            exact List.mem_cons_self
          next => cases last

/-- Updates that only record leave the ledger as it is exactly when all their items are
recorded and not waived. -/
theorem updates_eq_iff_of_recording {ledger : Ledger α} {changes : List (α × Bool)}
    (recording : ∀ change ∈ changes, change.2 = true) :
    ledger.updates changes = ledger ↔
      ∀ change ∈ changes, change.1 ∈ ledger.recorded ∧ change.1 ∉ ledger.waived := by
  have retracts : ∀ item, (item, false) ∉ changes := by
    intro item member
    cases recording _ member
  constructor
  · intro same change member
    have recorded : (change.1, true) ∈ changes := recording change member ▸ member
    rcases restored_of_updates_eq same with ⟨waived, restored⟩
    constructor
    · rcases Option.isSome_iff_exists.mp (lastFlag_of_mem recorded) with ⟨flag, last⟩
      exact (restored _ _ last).mpr (recording _ (mem_of_lastFlag last))
    · intro member
      exact waived _ member recorded
  · intro settled
    apply Idle.updates_eq
    refine ⟨?_, fun item _ => retracts item, ?_⟩
    · intro item waived member
      exact (settled _ member).2 waived
    · intro item absent last
      exact absent (settled _ (mem_of_lastFlag last)).1

/-! ## Well-formed ledgers -/

/-- No item is recorded twice, and none is both recorded and waived. -/
structure WellFormed (ledger : Ledger α) : Prop where
  nodup : ledger.recorded.Nodup
  disjoint : ledger.recorded.Disjoint ledger.waived

/-- Recording an item clears its waiver, so it ends up in one list. -/
theorem WellFormed.update {ledger : Ledger α} (wellFormed : ledger.WellFormed) (item : α)
    (flag : Bool) : (ledger.update item flag).WellFormed where
  nodup := by
    cases flag with
    | false => exact wellFormed.nodup.filter _
    | true =>
        simp only [Ledger.update, if_true]
        split
        next => exact wellFormed.nodup
        next fresh =>
          rw [← List.concat_eq_append]
          exact List.Nodup.concat fresh wellFormed.nodup
  disjoint := by
    intro other recorded waived
    rw [mem_recorded_update] at recorded
    rw [mem_waived_update] at waived
    split at recorded
    next same =>
      rw [waived.2 same] at recorded
      cases recorded
    next => exact wellFormed.disjoint recorded waived.1

theorem WellFormed.updates {ledger : Ledger α} (wellFormed : ledger.WellFormed)
    (changes : List (α × Bool)) : (ledger.updates changes).WellFormed := by
  induction changes generalizing ledger with
  | nil => exact wellFormed
  | cons change changes ih => exact ih (wellFormed.update change.1 change.2)

/-- The last update of an item, found from the end. -/
theorem lastFlag_eq_getLast? (item : α) (changes : List (α × Bool)) :
    lastFlag item changes = ((changes.filter (·.1 = item)).getLast?).map Prod.snd := by
  induction changes with
  | nil => rfl
  | cons change changes ih =>
      rw [lastFlag, ih, List.filter_cons]
      by_cases same : change.1 = item
      · rw [if_pos (decide_eq_true same), List.getLast?_cons]
        cases (changes.filter (·.1 = item)).getLast? with
        | none => simp [same]
        | some later => rfl
      · rw [if_neg (mt of_decide_eq_true same)]
        cases (changes.filter (·.1 = item)).getLast? with
        | none => simp [same]
        | some later => rfl

end Ledger
