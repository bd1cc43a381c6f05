import Chitragupt.Lib.Text

/-!
# Replacement of a pattern

The text is read from left to right; at each match the value is put in and the pattern is
passed over.  A code point that is not in the pattern separates the matches in front of it
from those behind it.
-/

namespace Text

variable {pattern value text : Text}

theorem replaceFrom_eq_drop (skip : Nat) (text : Text) :
    replaceFrom pattern value skip text = replace (text.drop skip) pattern value := by
  induction text generalizing skip with
  | nil => cases skip <;> rfl
  | cons code rest ih =>
      cases skip with
      | zero => rfl
      | succ skip => rw [replaceFrom, ih, List.drop_succ_cons]

@[simp] theorem replace_nil : replace [] pattern value = [] := rfl

/-- A match in front. -/
theorem replace_append (nonempty : pattern ≠ []) (rest : Text) :
    replace (pattern ++ rest) pattern value = value ++ replace rest pattern value := by
  cases pattern with
  | nil => exact absurd rfl nonempty
  | cons code pattern =>
      have found : (code :: pattern).isPrefixOf (code :: (pattern ++ rest)) = true :=
        List.isPrefixOf_iff_prefix.mpr (List.prefix_append (code :: pattern) rest)
      rw [replace, List.cons_append, replaceFrom, if_pos found, replaceFrom_eq_drop,
        List.length_cons, Nat.add_sub_cancel, List.drop_left]

/-- No match in front. -/
theorem replace_cons {code : Nat} {rest : Text} (other : ¬pattern <+: code :: rest) :
    replace (code :: rest) pattern value = code :: replace rest pattern value := by
  rw [replace, replaceFrom, if_neg fun found => other (List.isPrefixOf_iff_prefix.mp found)]
  rfl

/-- Along the matches of a pattern. -/
theorem replace_induction {motive : Text → Prop} (nonempty : pattern ≠ []) (nil : motive [])
    (found : ∀ rest, motive rest → motive (pattern ++ rest))
    (passed : ∀ code rest, ¬pattern <+: code :: rest → motive rest → motive (code :: rest))
    (text : Text) : motive text := by
  induction length : text.length using Nat.strong_induction_on generalizing text with
  | _ length ih =>
      subst length
      cases text with
      | nil => exact nil
      | cons code rest =>
          by_cases matched : pattern <+: code :: rest
          · obtain ⟨rest', same⟩ := matched
            rw [← same] at ih ⊢
            refine found rest' (ih rest'.length ?_ rest' rfl)
            rw [List.length_append]
            exact Nat.lt_add_of_pos_left (List.length_pos_of_ne_nil nonempty)
          · exact passed code rest matched (ih rest.length (Nat.lt_succ_self _) rest rfl)

/-! ## Matches -/

/-- Each match trades the code points of the pattern for those of the value. -/
theorem exists_matches (nonempty : pattern ≠ []) (value text : Text) :
    ∃ matches' : Nat, (matches' = 0 ↔ ¬pattern <:+: text) ∧
      (∀ code, (replace text pattern value).count code + matches' * pattern.count code =
        text.count code + matches' * value.count code) ∧
      (replace text pattern value).length + matches' * pattern.length =
        text.length + matches' * value.length := by
  induction text using replace_induction nonempty with
  | nil =>
      refine ⟨0, iff_of_true rfl fun found => ?_, fun code => by simp, by simp⟩
      exact nonempty (List.eq_nil_of_infix_nil found)
  | found rest ih =>
      obtain ⟨matches', _, counts, lengths⟩ := ih
      refine ⟨matches' + 1, iff_of_false (Nat.succ_ne_zero _) ?_, fun code => ?_, ?_⟩
      · exact not_not_intro (List.prefix_append pattern rest).isInfix
      · have counts := counts code
        rw [replace_append nonempty, List.count_append, List.count_append, Nat.add_mul,
          Nat.add_mul]
        omega
      · rw [replace_append nonempty, List.length_append, List.length_append, Nat.add_mul,
          Nat.add_mul]
        omega
  | passed code rest other ih =>
      obtain ⟨matches', none, counts, lengths⟩ := ih
      refine ⟨matches', none.trans (not_congr ?_), fun code' => ?_, ?_⟩
      · rw [List.infix_cons_iff, or_iff_right other]
      · have counts := counts code'
        rw [replace_cons other, List.count_cons, List.count_cons]
        omega
      · rw [replace_cons other, List.length_cons, List.length_cons]
        omega

/-- A code point that is not in the pattern is never lost. -/
theorem count_le_count_replace (nonempty : pattern ≠ []) {code : Nat} (apart : code ∉ pattern) :
    text.count code ≤ (replace text pattern value).count code := by
  obtain ⟨matches', _, counts, _⟩ := exists_matches nonempty value text
  have counts := counts code
  rw [List.count_eq_zero_of_not_mem apart, Nat.mul_zero, Nat.add_zero] at counts
  exact counts ▸ Nat.le_add_right _ _

/-- A match brings in the code points of the value. -/
theorem count_lt_count_replace (nonempty : pattern ≠ []) {code : Nat} (apart : code ∉ pattern)
    (brought : code ∈ value) (found : pattern <:+: text) :
    text.count code < (replace text pattern value).count code := by
  obtain ⟨matches', none, counts, _⟩ := exists_matches nonempty value text
  have counts := counts code
  rw [List.count_eq_zero_of_not_mem apart, Nat.mul_zero, Nat.add_zero] at counts
  have more : 0 < matches' * value.count code :=
    Nat.mul_pos (Nat.pos_of_ne_zero fun zero => none.mp zero found)
      (List.count_pos_iff.mpr brought)
  omega

theorem replace_of_not_infix (none : ¬pattern <:+: text) :
    replace text pattern value = text := by
  induction text with
  | nil => rfl
  | cons code rest ih =>
      rw [List.infix_cons_iff, not_or] at none
      rw [replace_cons none.1, ih none.2]

theorem replace_self (nonempty : pattern ≠ []) : replace text pattern pattern = text := by
  induction text using replace_induction nonempty with
  | nil => rfl
  | found rest ih => rw [replace_append nonempty, ih]
  | passed code rest other ih => rw [replace_cons other, ih]

/-- A match that shows no change puts in the pattern. -/
theorem eq_pattern_of_replace (nonempty : pattern ≠ []) (lengths : value.length = pattern.length)
    (found : pattern <:+: text) (same : replace text pattern value = text) : value = pattern := by
  induction text using replace_induction nonempty with
  | nil => exact absurd (List.eq_nil_of_infix_nil found) nonempty
  | found rest _ =>
      rw [replace_append nonempty] at same
      exact List.append_inj_left same lengths
  | passed code rest other ih =>
      rw [List.infix_cons_iff, or_iff_right other] at found
      rw [replace_cons other, List.cons.injEq] at same
      exact ih found same.2

/-- A replacement changes the text unless there is no match or nothing new to put in. -/
theorem replace_eq_self_iff (nonempty : pattern ≠ []) :
    replace text pattern value = text ↔ ¬pattern <:+: text ∨ value = pattern := by
  constructor
  · intro same
    refine or_iff_not_imp_left.mpr fun found => ?_
    rw [not_not] at found
    obtain ⟨matches', none, _, lengths⟩ := exists_matches nonempty value text
    rw [same, Nat.add_left_cancel_iff] at lengths
    have positive : 0 < matches' := Nat.pos_of_ne_zero fun zero => none.mp zero found
    exact eq_pattern_of_replace nonempty (Nat.eq_of_mul_eq_mul_left positive lengths).symm found
      same
  · rintro (none | rfl)
    · exact replace_of_not_infix none
    · exact replace_self nonempty

/-! ## Separators -/

theorem replace_append_separator {separator : Nat} (nonempty : pattern ≠ [])
    (apart : separator ∉ pattern) (front back : Text) :
    replace (front ++ separator :: back) pattern value =
      replace front pattern value ++ separator :: replace back pattern value := by
  induction front using replace_induction nonempty with
  | nil =>
      refine replace_cons fun found => ?_
      cases pattern with
      | nil => exact nonempty rfl
      | cons code pattern =>
          rw [List.cons_prefix_cons] at found
          exact apart (found.1 ▸ List.mem_cons_self)
  | found rest ih =>
      rw [List.append_assoc, replace_append nonempty, ih, replace_append nonempty,
        List.append_assoc]
  | passed code rest other ih =>
      have still : ¬pattern <+: code :: (rest ++ separator :: back) := by
        intro found
        have whole : code :: rest <+: code :: (rest ++ separator :: back) :=
          List.prefix_append (code :: rest) (separator :: back)
        have marked : (code :: rest) ++ [separator] <+: code :: (rest ++ separator :: back) :=
          ⟨back, by simp⟩
        rcases Nat.lt_or_ge (code :: rest).length pattern.length with longer | shorter
        · have inside := List.prefix_of_prefix_length_le marked found (by
            rw [List.length_append, List.length_singleton]
            exact longer)
          exact apart (inside.subset (List.mem_append_right _ (List.mem_singleton_self _)))
        · exact other (List.prefix_of_prefix_length_le found whole shorter)
      rw [List.cons_append, replace_cons still, replace_cons other, ih, List.cons_append]

/-- Matches do not reach beyond the parts of a joined text. -/
theorem replace_intercalate {separator : Nat} (nonempty : pattern ≠ [])
    (apart : separator ∉ pattern) (parts : List Text) :
    replace (List.intercalate [separator] parts) pattern value =
      List.intercalate [separator] (parts.map (replace · pattern value)) := by
  induction parts with
  | nil => rfl
  | cons part parts ih =>
      cases parts with
      | nil => simp only [List.map_cons, List.map_nil, List.intercalate_singleton]
      | cons next parts =>
          rw [List.map_cons] at ih
          rw [List.map_cons, List.map_cons, List.intercalate_cons_cons,
            List.intercalate_cons_cons, ← ih, List.append_assoc, List.singleton_append,
            replace_append_separator nonempty apart, List.append_assoc, List.singleton_append]

/-- Texts with as many separators in front of one are cut at the same one. -/
theorem append_separator_inj_of_count {separator : Nat} {front front' back back' : Text}
    (same : front ++ separator :: back = front' ++ separator :: back')
    (counts : front.count separator = front'.count separator) :
    front = front' ∧ back = back' := by
  induction front generalizing front' with
  | nil =>
      cases front' with
      | nil => exact ⟨rfl, List.tail_eq_of_cons_eq same⟩
      | cons code front' =>
          have head : separator = code := List.head_eq_of_cons_eq same
          rw [head, List.count_cons_self] at counts
          cases counts
  | cons code front ih =>
      cases front' with
      | nil =>
          have head : code = separator := List.head_eq_of_cons_eq same
          rw [head, List.count_cons_self] at counts
          cases counts
      | cons code' front' =>
          rw [List.cons_append, List.cons_append, List.cons.injEq] at same
          obtain ⟨rfl, same⟩ := same
          rw [List.count_cons, List.count_cons, Nat.add_right_cancel_iff] at counts
          obtain ⟨rfl, rfl⟩ := ih same counts
          exact ⟨rfl, rfl⟩

end Text
