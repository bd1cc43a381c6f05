import Mathlib.Data.List.Infix

/-!
# Sections of a list

Heads divide a list into sections.  Each section comes with all heads in front of it; the
one before the first head has none.
-/

namespace Sections

variable {α : Type*} (isHead : α → Bool)

/-- The heads in front of each section, and the section. -/
def sections (items : List α) : List (List α × List α) :=
  (items.filter isHead).inits.zip (items.splitOnP isHead)

@[simp] theorem sections_nil : sections isHead [] = [([], [])] := rfl

variable {isHead}

/-- A head closes a section that is empty so far. -/
theorem sections_cons_head {item : α} (head : isHead item = true) (items : List α) :
    sections isHead (item :: items) =
      ([], []) :: (sections isHead items).map fun (heads, body) => (item :: heads, body) := by
  rw [sections, List.filter_cons_of_pos head, List.inits_cons,
    List.splitOnP_cons_eq_if_modifyHead, if_pos head, List.zip_cons_cons, sections]
  exact congrArg _ List.zip_map_left

variable (isHead) in
/-- The first section has no head in front of it. -/
theorem exists_sections (items : List α) :
    ∃ body rest, sections isHead items = ([], body) :: rest := by
  rcases split : items.splitOnP isHead with _ | ⟨body, bodies⟩
  next => exact absurd split (List.splitOnP_ne_nil isHead items)
  next =>
    rw [sections, split]
    cases items.filter isHead with
    | nil => exact ⟨body, [], rfl⟩
    | cons head heads =>
        rw [List.inits_cons, List.zip_cons_cons]
        exact ⟨body, _, rfl⟩

/-- Any other item belongs to the first section. -/
theorem sections_cons_body {item : α} (body : isHead item = false) (items : List α) :
    sections isHead (item :: items) =
      (sections isHead items).modifyHead fun (heads, body) => (heads, item :: body) := by
  have notHead : ¬isHead item = true := by rw [body]; exact Bool.false_ne_true
  rw [sections, List.filter_cons_of_neg notHead, List.splitOnP_cons_eq_if_modifyHead,
    if_neg notHead, sections]
  cases items.splitOnP isHead with
  | nil => simp
  | cons body bodies => cases items.filter isHead <;> rfl

end Sections
