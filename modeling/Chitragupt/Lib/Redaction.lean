import Chitragupt.Lib.Regex
import Chitragupt.Lib.SlidingWindow

/-!
# Redaction by substitution

A rule replaces the matches of a pattern by a label, from the left and without overlaps, as
`re.sub` does.  Several rules run one after the other, each on the text that the one before
has left.  Where the labels stand apart from all that the rules match, no pass uncovers a
match: what the passes replace are matches of the source, and the final text has none.
-/

/-- A pattern between two boundaries, and the label that replaces its matches. -/
structure Rule (α : Type*) where
  body : Regex α
  label : List α

/-- A text in pieces: characters that stay and parts that a label replaces. -/
inductive Segment (α : Type*) where
  | kept (char : α)
  | replaced (label text : List α)

namespace Segment

variable {α : Type*}

/-- The text before the replacement. -/
def source : List (Segment α) → List α
  | [] => []
  | .kept char :: rest => char :: source rest
  | .replaced _ text :: rest => text ++ source rest

/-- The text after the replacement. -/
def shown : List (Segment α) → List α
  | [] => []
  | .kept char :: rest => char :: shown rest
  | .replaced label _ :: rest => label ++ shown rest

/-- The positions that are replaced, counted from `start`, and the labels. -/
def removed : Nat → List (Segment α) → List (Span × List α)
  | _, [] => []
  | start, .kept _ :: rest => removed (start + 1) rest
  | start, .replaced label text :: rest =>
      (⟨start, start + text.length⟩, label) :: removed (start + text.length) rest

theorem source_append (front back : List (Segment α)) :
    source (front ++ back) = source front ++ source back := by
  induction front with
  | nil => rfl
  | cons segment rest ih =>
      cases segment with
      | kept char => exact congrArg (char :: ·) ih
      | replaced label text =>
          rw [List.cons_append, source, source, ih, List.append_assoc]

theorem shown_append (front back : List (Segment α)) :
    shown (front ++ back) = shown front ++ shown back := by
  induction front with
  | nil => rfl
  | cons segment rest ih =>
      cases segment with
      | kept char => exact congrArg (char :: ·) ih
      | replaced label text =>
          rw [List.cons_append, shown, shown, ih, List.append_assoc]

@[simp] theorem source_map_kept (text : List α) : source (text.map .kept) = text := by
  induction text with
  | nil => rfl
  | cons char rest ih => exact congrArg (char :: ·) ih

@[simp] theorem shown_map_kept (text : List α) : shown (text.map .kept) = text := by
  induction text with
  | nil => rfl
  | cons char rest ih => exact congrArg (char :: ·) ih

theorem removed_map_kept (start : Nat) (text : List α) (rest : List (Segment α)) :
    removed start (text.map .kept ++ rest) = removed (start + text.length) rest := by
  induction text generalizing start with
  | nil => rfl
  | cons char text ih =>
      rw [List.map_cons, List.cons_append, removed, ih, List.length_cons, Nat.add_right_comm,
        Nat.add_assoc]

end Segment

namespace Rule

open Regex Segment

variable {α : Type*} (isWord : α → Bool)

def pattern (rule : Rule α) : Regex α := rule.body.whole

/-! ## Substitution -/

/-- Cut a text at the matches of a rule, of which none is empty.  The first `skip` characters
belong to the match before. -/
def cut (rule : Rule α) : Bool → Nat → List α → List (Segment α)
  | _, _, [] => []
  | _, skip + 1, char :: rest => cut rule (isWord char) skip rest
  | left, 0, char :: rest =>
      match (rule.pattern.splits isWord left (char :: rest)).head? with
      | some (_ :: more, _) =>
          .replaced rule.label (char :: more) :: cut rule (isWord char) more.length rest
      | _ => .kept char :: cut rule (isWord char) 0 rest

/-- Substitute the label for the matches. -/
def sub (rule : Rule α) (text : List α) : List α := shown (cut isWord rule false 0 text)

/-- Apply rules one after the other. -/
def subAll (rules : List (Rule α)) (text : List α) : List α :=
  rules.foldl (fun text rule => sub isWord rule text) text

/-- A match with its context in a text. -/
def MatchesIn (rule : Rule α) (before middle after : List α) : Prop :=
  rule.pattern.Matches isWord (lastWord isWord false before) middle (headWord isWord after false)

/-- No part of a text is a match in its context. -/
def Clean (rule : Rule α) (text : List α) : Prop :=
  ∀ before middle after, text = before ++ middle ++ after →
    ¬rule.MatchesIn isWord before middle after

/-! ## Leftmost cuts -/

/-- The parts of a cut are matches, and no match starts at a character that stays. -/
def Leftmost (rule : Rule α) : Bool → List (Segment α) → Prop
  | _, [] => True
  | left, .kept char :: rest =>
      (∀ front back, char :: source rest = front ++ back → front ≠ [] →
        ¬rule.pattern.Matches isWord left front (headWord isWord back false)) ∧
      Leftmost rule (isWord char) rest
  | left, .replaced label text :: rest =>
      text ≠ [] ∧ label = rule.label ∧
        rule.pattern.Matches isWord left text (headWord isWord (source rest) false) ∧
        Leftmost rule (lastWord isWord left text) rest

variable {isWord}

theorem cut_skip (rule : Rule α) (left : Bool) (front back : List α) :
    cut isWord rule left front.length (front ++ back) =
      cut isWord rule (lastWord isWord left front) 0 back := by
  induction front generalizing left with
  | nil => rfl
  | cons char rest ih => exact ih (isWord char)

/-- No match of the rule is empty. -/
def Solid (isWord : α → Bool) (rule : Rule α) : Prop :=
  ∀ left right, ¬rule.pattern.Matches isWord left [] right

/-- The cut of a text at its matches. -/
theorem cut_spec {rule : Rule α} (solid : Solid isWord rule) (left : Bool) (text : List α) :
    source (cut isWord rule left 0 text) = text ∧
      Leftmost isWord rule left (cut isWord rule left 0 text) := by
  induction length : text.length using Nat.strong_induction_on generalizing left text with
  | _ size ih =>
  subst length
  cases text with
  | nil => exact ⟨rfl, trivial⟩
  | cons char rest =>
      have shorter : rest.length < (char :: rest).length := Nat.lt_succ_self _
      rw [cut]
      split
      next first more after found =>
        rcases mem_splits_iff.mp (List.mem_of_head? found) with ⟨same, matched⟩
        rw [List.cons_append, List.cons.injEq] at same
        rcases same with ⟨rfl, rfl⟩
        rw [cut_skip]
        have fewer : after.length < (char :: (more ++ after)).length := by
          rw [List.length_cons, List.length_append]
          omega
        have spec := ih _ fewer (lastWord isWord (isWord char) more) after rfl
        refine ⟨?_, List.cons_ne_nil _ _, rfl, ?_, spec.2⟩
        · rw [source, spec.1, List.cons_append]
        · rwa [spec.1]
      next none' =>
        have spec := ih _ shorter (isWord char) rest rfl
        refine ⟨congrArg (char :: ·) spec.1, ?_, spec.2⟩
        rw [spec.1]
        intro front back same nonempty matched
        have member := mem_splits_iff.mpr ⟨same, matched⟩
        cases splits : rule.pattern.splits isWord left (char :: rest) with
        | nil =>
            rw [splits] at member
            cases member
        | cons first others =>
            rcases first with ⟨_ | ⟨start, more⟩, after⟩
            · have empty : ([], after) ∈ rule.pattern.splits isWord left (char :: rest) := by
                rw [splits]
                exact List.mem_cons_self
              exact solid _ _ (mem_splits_iff.mp empty).2
            · rw [splits] at none'
              exact none' start more after rfl

theorem leftmost_append {rule : Rule α} {left : Bool} {front back : List (Segment α)}
    (leftmost : Leftmost isWord rule left (front ++ back)) :
    Leftmost isWord rule (lastWord isWord left (source front)) back := by
  induction front generalizing left with
  | nil => exact leftmost
  | cons segment rest ih =>
      cases segment with
      | kept char => exact ih leftmost.2
      | replaced label text =>
          rw [source, lastWord_append]
          exact ih leftmost.2.2.2

/-- A clean text stays. -/
theorem shown_of_clean {rule : Rule α} {before : List α} {segments : List (Segment α)}
    (leftmost : Leftmost isWord rule (lastWord isWord false before) segments)
    (clean : rule.Clean isWord (before ++ source segments)) :
    shown segments = source segments := by
  induction segments generalizing before with
  | nil => rfl
  | cons segment rest ih =>
      cases segment with
      | kept char =>
          have same : before ++ source (.kept char :: rest) =
              (before ++ [char]) ++ source rest := by
            rw [source, List.append_assoc, List.singleton_append]
          rw [same] at clean
          apply congrArg (char :: ·) (ih _ clean)
          rw [lastWord_append]
          exact leftmost.2
      | replaced label text =>
          rcases leftmost with ⟨_, _, matched, _⟩
          apply absurd matched
          apply clean before text (source rest)
          rw [source, List.append_assoc]

theorem sub_of_clean {rule : Rule α} (solid : Solid isWord rule) {text : List α}
    (clean : rule.Clean isWord text) : rule.sub isWord text = text := by
  rcases cut_spec solid false text with ⟨whole, leftmost⟩
  have same : shown (cut isWord rule false 0 text) = source (cut isWord rule false 0 text) := by
    apply @shown_of_clean _ _ _ [] _ leftmost
    rwa [List.nil_append, whole]
  rw [sub, same, whole]

/-! ## Sound segments -/

/-- Each replaced part is a match of a rule in the source. -/
def Sound (isWord : α → Bool) (rules : List (Rule α)) : Bool → List (Segment α) → Prop
  | _, [] => True
  | _, .kept char :: rest => Sound isWord rules (isWord char) rest
  | left, .replaced label text :: rest =>
      (∃ rule ∈ rules, label = rule.label ∧
        rule.pattern.Matches isWord left text (headWord isWord (source rest) false)) ∧
      Sound isWord rules (lastWord isWord left text) rest

theorem sound_append {rules : List (Rule α)} {left : Bool} {front back : List (Segment α)}
    (sound : Sound isWord rules left (front ++ back)) :
    Sound isWord rules (lastWord isWord left (source front)) back := by
  induction front generalizing left with
  | nil => exact sound
  | cons segment rest ih =>
      cases segment with
      | kept char => exact ih sound
      | replaced label text =>
          rw [source, lastWord_append]
          exact ih sound.2

theorem sound_map_kept (rules : List (Rule α)) (left : Bool) (text : List α)
    {rest : List (Segment α)} :
    Sound isWord rules left (text.map .kept ++ rest) ↔
      Sound isWord rules (lastWord isWord left text) rest := by
  induction text generalizing left with
  | nil => rfl
  | cons char text ih => exact ih (isWord char)

theorem sound_of_leftmost {rules : List (Rule α)} {rule : Rule α} (present : rule ∈ rules)
    {left : Bool} {segments : List (Segment α)} (leftmost : Leftmost isWord rule left segments) :
    Sound isWord rules left segments := by
  induction segments generalizing left with
  | nil => trivial
  | cons segment rest ih =>
      cases segment with
      | kept char => exact ih leftmost.2
      | replaced label text =>
          rcases leftmost with ⟨_, same, matched, later⟩
          exact ⟨⟨rule, present, same, matched⟩, ih later⟩

/-! ## Labels that stand apart -/

/-- The characters that labels are made of: bars at the ends, and others inside. -/
structure Lettering (isWord : α → Bool) where
  bar : α → Prop
  inner : α → Prop
  outside : ∀ char, bar char → isWord char = false

/-- A label between bars. -/
structure Lettering.IsLabel (lettering : Lettering isWord) (label : List α) : Prop where
  fenced : ∃ first body last, label = first :: (body ++ [last]) ∧ lettering.bar first ∧
    lettering.bar last ∧ ∀ char ∈ body, lettering.inner char

/-- A rule whose matches have no bar, and a character that is in no label. -/
structure Apart (lettering : Lettering isWord) (rule : Rule α) : Prop where
  isLabel : lettering.IsLabel rule.label
  barless : ∀ left text right, rule.pattern.Matches isWord left text right →
    ∀ char ∈ text, ¬lettering.bar char
  foreign : ∀ left text right, rule.pattern.Matches isWord left text right →
    ∃ char ∈ text, ¬lettering.inner char

section Apart

variable {lettering : Lettering isWord} {rules : List (Rule α)} {rule : Rule α}

theorem Apart.solid (apart : Apart lettering rule) : Solid isWord rule := by
  intro left right matched
  rcases apart.foreign _ _ _ matched with ⟨char, member, _⟩
  cases member

namespace Lettering.IsLabel

variable {label : List α} (isLabel : lettering.IsLabel label)

include isLabel

theorem headWord_eq_false (after : List α) (right : Bool) :
    headWord isWord (label ++ after) right = false := by
  rcases isLabel.fenced with ⟨first, body, last, rfl, opens, _⟩
  exact lettering.outside _ opens

theorem lastWord_eq_false (left : Bool) : lastWord isWord left label = false := by
  rcases isLabel.fenced with ⟨first, body, last, rfl, _, closes, _⟩
  rw [lastWord, lastWord_append]
  exact lettering.outside _ closes

end Lettering.IsLabel

/-- All labels of the segments stand between bars. -/
def Labelled (lettering : Lettering isWord) (segments : List (Segment α)) : Prop :=
  ∀ label text, .replaced label text ∈ segments → lettering.IsLabel label

theorem labelled_of_sound (apart : ∀ rule ∈ rules, Apart lettering rule) {left : Bool}
    {segments : List (Segment α)} (sound : Sound isWord rules left segments) :
    Labelled lettering segments := by
  intro label text member
  rcases List.append_of_mem member with ⟨front, back, rfl⟩
  rcases (sound_append sound).1 with ⟨rule, present, rfl, _⟩
  exact (apart rule present).isLabel

/-- A shown text without bars at the start has stayed. -/
theorem eq_map_kept_append {segments : List (Segment α)} {middle after : List α}
    (labelled : Labelled lettering segments) (same : shown segments = middle ++ after)
    (barless : ∀ char ∈ middle, ¬lettering.bar char) :
    ∃ back, segments = middle.map .kept ++ back ∧ shown back = after := by
  induction middle generalizing segments with
  | nil => exact ⟨segments, rfl, same⟩
  | cons char middle ih =>
      rw [List.forall_mem_cons] at barless
      cases segments with
      | nil => cases same
      | cons segment rest =>
          cases segment with
          | kept other =>
              rw [shown, List.cons_append, List.cons.injEq] at same
              rcases same with ⟨rfl, same⟩
              have inside : Labelled lettering rest := fun label text member =>
                labelled label text (List.mem_cons_of_mem _ member)
              rcases ih inside same barless.2 with ⟨back, rfl, shown'⟩
              exact ⟨back, rfl, shown'⟩
          | replaced label text =>
              rcases (labelled label text List.mem_cons_self).fenced with
                ⟨first, body, last, rfl, opens, _⟩
              rcases (List.cons.inj same).1 with rfl
              exact absurd opens barless.1

/-- A match in the shown text is not in a label. -/
theorem not_prefix_of_label {rest after shown' middle : List α} {last : α}
    (closes : lettering.bar last) (inside : ∀ char ∈ rest, lettering.bar char ∨ lettering.inner char)
    (same : rest ++ last :: shown' = middle ++ after)
    (barless : ∀ char ∈ middle, ¬lettering.bar char)
    (foreign : ∃ char ∈ middle, ¬lettering.inner char) : False := by
  rcases List.append_eq_append_iff.mp same with ⟨more, rfl, others⟩ | ⟨more, rfl, others⟩
  · cases more with
    | nil =>
        rcases foreign with ⟨char, member, outside⟩
        rw [List.append_nil] at member barless
        exact (inside char member).elim (barless char member) outside
    | cons char more =>
        rcases (List.cons.inj others).1 with rfl
        exact barless last (List.mem_append_right _ List.mem_cons_self) closes
  · rcases foreign with ⟨char, member, outside⟩
    exact (inside char (List.mem_append_left _ member)).elim (barless char member) outside

/-- A match in the shown text is a run of characters that have stayed. -/
theorem eq_append_map_kept {segments : List (Segment α)} {before middle after : List α}
    (labelled : Labelled lettering segments)
    (same : shown segments = before ++ (middle ++ after))
    (barless : ∀ char ∈ middle, ¬lettering.bar char)
    (foreign : ∃ char ∈ middle, ¬lettering.inner char) :
    ∃ front back, segments = front ++ (middle.map .kept ++ back) ∧ shown front = before ∧
      shown back = after := by
  induction segments generalizing before with
  | nil =>
      rcases foreign with ⟨char, member, _⟩
      have empty := List.append_eq_nil_iff.mp (List.append_eq_nil_iff.mp same.symm).2
      rw [empty.1] at member
      cases member
  | cons segment rest ih =>
      have inside : Labelled lettering rest := fun label text member =>
        labelled label text (List.mem_cons_of_mem _ member)
      cases before with
      | nil =>
          rw [List.nil_append] at same
          rcases eq_map_kept_append labelled same barless with ⟨back, split, shown'⟩
          exact ⟨[], back, split, rfl, shown'⟩
      | cons first before =>
          cases segment with
          | kept char =>
              rw [shown, List.cons_append, List.cons.injEq] at same
              rcases same with ⟨rfl, same⟩
              rcases ih inside same with ⟨front, back, rfl, rfl, shown'⟩
              exact ⟨.kept char :: front, back, rfl, rfl, shown'⟩
          | replaced label text =>
              have fenced := (labelled label text List.mem_cons_self).fenced
              rw [shown] at same
              rcases List.append_eq_append_iff.mp same with ⟨more, start, same⟩ | ⟨more, start, same⟩
              · rcases ih inside same with ⟨front, back, rfl, rfl, shown'⟩
                exact ⟨.replaced label text :: front, back, rfl, start.symm, shown'⟩
              · rcases List.eq_nil_or_concat more with rfl | ⟨more, last, rfl⟩
                · rcases @ih [] inside same.symm with ⟨front, back, rfl, empty, shown'⟩
                  refine ⟨.replaced label text :: front, back, rfl, ?_, shown'⟩
                  rw [shown, empty, start, List.append_nil, List.append_nil]
                · rcases fenced with ⟨opening, body, closing, rfl, _, closes, letters⟩
                  rw [List.concat_eq_append, List.cons_append, List.cons.injEq,
                    ← List.append_assoc] at start
                  rcases List.append_inj' start.2 rfl with ⟨rfl, ends⟩
                  rcases List.singleton_inj.mp ends with rfl
                  rw [List.concat_eq_append, List.append_assoc] at same
                  apply absurd same.symm
                  intro same
                  apply not_prefix_of_label closes _ same barless foreign
                  intro char member
                  exact .inr (letters char (List.mem_append_right _ member))

/-! ## Matches of the shown text and of the source -/

/-- The word edge of a shown text is one of the source, on the left of a boundary. -/
theorem lastWord_source {front back : List (Segment α)} {edge : Bool}
    (apart : ∀ rule ∈ rules, Apart lettering rule)
    (sound : Sound isWord rules false (front ++ back))
    (first : headWord isWord (source back) false = edge)
    (boundary : lastWord isWord false (shown front) ≠ edge) :
    lastWord isWord false (source front) = lastWord isWord false (shown front) := by
  rcases List.eq_nil_or_concat front with rfl | ⟨front, segment, rfl⟩
  · rfl
  · rw [List.concat_eq_append] at sound boundary ⊢
    rw [shown_append, lastWord_append] at boundary ⊢
    rw [source_append, lastWord_append]
    cases segment with
    | kept char => rfl
    | replaced label text =>
        have isLabel := labelled_of_sound apart sound label text (by simp)
        rw [List.append_assoc, List.singleton_append] at sound
        rcases (sound_append sound).1 with ⟨rule, _, _, matched⟩
        have ends := (matches_whole.mp matched).2.2
        rw [first] at ends
        rw [shown, shown, List.append_nil, isLabel.lastWord_eq_false] at boundary ⊢
        rw [source, source, List.append_nil]
        cases edge with
        | false => exact absurd rfl boundary
        | true => exact Bool.eq_false_iff.mpr ends

/-- The same on the right of a boundary. -/
theorem headWord_source {back : List (Segment α)} {edge : Bool}
    (apart : ∀ rule ∈ rules, Apart lettering rule) (sound : Sound isWord rules edge back)
    (boundary : edge ≠ headWord isWord (shown back) false) :
    headWord isWord (source back) false = headWord isWord (shown back) false := by
  cases back with
  | nil => rfl
  | cons segment rest =>
      cases segment with
      | kept char => rfl
      | replaced label text =>
          have isLabel := labelled_of_sound apart sound label text List.mem_cons_self
          rcases sound.1 with ⟨rule, _, _, matched⟩
          have begins := (matches_whole.mp matched).1
          rw [shown, isLabel.headWord_eq_false] at boundary ⊢
          rw [source, headWord_append]
          cases edge with
          | false => exact absurd rfl boundary
          | true => exact Bool.eq_false_iff.mpr begins.symm

/-- A match of the shown text that has stayed is a match of the source. -/
theorem matchesIn_source {front back : List (Segment α)} {middle : List α}
    (apart : ∀ rule ∈ rules, Apart lettering rule) (nonempty : middle ≠ [])
    (sound : Sound isWord rules false (front ++ (middle.map .kept ++ back)))
    (matched : rule.MatchesIn isWord (shown front) middle (shown back)) :
    rule.MatchesIn isWord (source front) middle (source back) := by
  have edges := matches_whole.mp matched
  have left : lastWord isWord false (source front) = lastWord isWord false (shown front) := by
    apply lastWord_source apart sound rfl
    rw [source_append, source_map_kept, headWord_append]
    rw [headWord_of_ne_nil nonempty]
    exact edges.1
  have right : headWord isWord (source back) false = headWord isWord (shown back) false := by
    have later := (sound_map_kept rules _ middle).mp (sound_append sound)
    apply headWord_source apart later
    rw [lastWord_of_ne_nil nonempty]
    exact edges.2.2
  rw [MatchesIn, left, right]
  exact matched

/-! ## Clean results -/

/-- Replacements do not uncover a match. -/
theorem clean_shown {segments : List (Segment α)} (apart : ∀ rule ∈ rules, Apart lettering rule)
    (sound : Sound isWord rules false segments) (here : Apart lettering rule)
    (clean : rule.Clean isWord (source segments)) : rule.Clean isWord (shown segments) := by
  intro before middle after same matched
  rw [List.append_assoc] at same
  have foreign := here.foreign _ _ _ matched
  have nonempty : middle ≠ [] := List.ne_nil_of_mem foreign.choose_spec.1
  rcases eq_append_map_kept (labelled_of_sound apart sound) same (here.barless _ _ _ matched)
    foreign with ⟨front, back, rfl, rfl, rfl⟩
  apply clean (source front) middle (source back)
  · rw [source_append, source_append, source_map_kept, List.append_assoc]
  · exact matchesIn_source apart nonempty sound matched

/-- A pass leaves no match of its rule. -/
theorem clean_of_leftmost {segments : List (Segment α)} (apart : Apart lettering rule)
    (leftmost : Leftmost isWord rule false segments) : rule.Clean isWord (shown segments) := by
  intro before middle after same matched
  rw [List.append_assoc] at same
  have all : ∀ other ∈ [rule], Apart lettering other := by
    intro other member
    rw [List.mem_singleton.mp member]
    exact apart
  have sound := sound_of_leftmost (List.mem_singleton_self rule) leftmost
  have foreign := apart.foreign _ _ _ matched
  have nonempty : middle ≠ [] := List.ne_nil_of_mem foreign.choose_spec.1
  rcases eq_append_map_kept (labelled_of_sound all sound) same (apart.barless _ _ _ matched)
    foreign with ⟨front, back, rfl, rfl, rfl⟩
  have stays := matchesIn_source all nonempty sound matched
  cases middle with
  | nil => exact nonempty rfl
  | cons char middle =>
      apply (leftmost_append leftmost).1 (char :: middle) (source back) _ nonempty stays
      exact congrArg (char :: ·) ((source_append _ _).trans
        (congrArg (· ++ source back) (source_map_kept middle)))

theorem clean_sub (apart : Apart lettering rule) (text : List α) :
    rule.Clean isWord (rule.sub isWord text) :=
  clean_of_leftmost apart (cut_spec apart.solid false text).2

/-- Later passes keep a text clean. -/
theorem clean_subAll_of_clean (apart : ∀ rule ∈ rules, Apart lettering rule)
    (here : Apart lettering rule) {text : List α} (clean : rule.Clean isWord text) :
    rule.Clean isWord (subAll isWord rules text) := by
  induction rules generalizing text with
  | nil => exact clean
  | cons other rest ih =>
      rw [List.forall_mem_cons] at apart
      apply ih apart.2
      rcases cut_spec apart.1.solid false text with ⟨whole, leftmost⟩
      have sound := sound_of_leftmost (List.mem_singleton_self other) leftmost
      change rule.Clean isWord (shown (cut isWord other false 0 text))
      apply clean_shown _ sound here
      · rwa [whole]
      · intro rule member
        rw [List.mem_singleton.mp member]
        exact apart.1

/-- After all passes there is no match of any rule. -/
theorem clean_subAll (apart : ∀ rule ∈ rules, Apart lettering rule) (text : List α) :
    ∀ rule ∈ rules, rule.Clean isWord (subAll isWord rules text) := by
  induction rules generalizing text with
  | nil =>
      intro rule member
      cases member
  | cons first rest ih =>
      rw [List.forall_mem_cons] at apart ⊢
      exact ⟨clean_subAll_of_clean apart.2 apart.1 (clean_sub apart.1 text), ih apart.2 _⟩

theorem subAll_of_clean (apart : ∀ rule ∈ rules, Apart lettering rule) {text : List α}
    (clean : ∀ rule ∈ rules, rule.Clean isWord text) : subAll isWord rules text = text := by
  induction rules with
  | nil => rfl
  | cons first rest ih =>
      rw [List.forall_mem_cons] at apart clean
      rw [subAll, List.foldl_cons, sub_of_clean apart.1.solid clean.1]
      exact ih apart.2 clean.2

theorem subAll_subAll (apart : ∀ rule ∈ rules, Apart lettering rule) (text : List α) :
    subAll isWord rules (subAll isWord rules text) = subAll isWord rules text :=
  subAll_of_clean apart (clean_subAll apart text)

/-! ## All passes at once -/

/-- A pass keeps a character of a label. -/
theorem leftmost_of_label {cuts : List (Segment α)} {left : Bool} {char last : α}
    {inside after rest : List α} (apart : Apart lettering rule)
    (leftmost : Leftmost isWord rule left cuts) (closes : lettering.bar last)
    (letters : ∀ char ∈ inside, lettering.bar char ∨ lettering.inner char)
    (label : inside ++ last :: after = char :: rest) (same : source cuts = char :: rest) :
    ∃ later, cuts = .kept char :: later ∧ source later = rest ∧
      Leftmost isWord rule (isWord char) later := by
  cases cuts with
  | nil => cases same
  | cons cut later =>
      cases cut with
      | kept other =>
          rcases List.cons.inj same with ⟨rfl, follows⟩
          exact ⟨later, rfl, follows, leftmost.2⟩
      | replaced text part =>
          have matched := leftmost.2.2.1
          exact (not_prefix_of_label closes letters (label.trans same.symm)
            (apart.barless _ _ _ matched) (apart.foreign _ _ _ matched)).elim

/-- A pass keeps a label, or the rest of one. -/
theorem leftmost_label {cuts : List (Segment α)} {left : Bool} {last : α} {inside after : List α}
    (apart : Apart lettering rule) (leftmost : Leftmost isWord rule left cuts)
    (closes : lettering.bar last)
    (letters : ∀ char ∈ inside, lettering.bar char ∨ lettering.inner char)
    (same : source cuts = inside ++ last :: after) :
    ∃ later, cuts = (inside ++ [last]).map .kept ++ later ∧ source later = after ∧
      Leftmost isWord rule false later := by
  induction inside generalizing cuts left with
  | nil =>
      rcases leftmost_of_label apart leftmost closes letters rfl same with
        ⟨later, rfl, follows, leftmost⟩
      rw [lettering.outside _ closes] at leftmost
      exact ⟨later, rfl, follows, leftmost⟩
  | cons first inside ih =>
      rcases leftmost_of_label apart leftmost closes letters rfl same with
        ⟨rest, rfl, follows, leftmost⟩
      rw [List.forall_mem_cons] at letters
      rcases ih leftmost letters.2 follows with ⟨later, rfl, source', later'⟩
      exact ⟨later, rfl, source', later'⟩

/-- Finer segments of the same source show what a pass has left, and keep the parts that were
replaced before. -/
structure Refines (isWord : α → Bool) (rules : List (Rule α)) (left : Bool)
    (segments cuts finer : List (Segment α)) : Prop where
  source_eq : source finer = source segments
  shown_eq : shown finer = shown cuts
  sound : Sound isWord rules left finer
  removed_subset : ∀ start, removed start segments ⊆ removed start finer

namespace Refines

variable {left : Bool} {segments cuts finer : List (Segment α)}

theorem kept {char : α} (refines : Refines isWord rules (isWord char) segments cuts finer) :
    Refines isWord rules left (.kept char :: segments) (.kept char :: cuts)
      (.kept char :: finer) where
  source_eq := congrArg (char :: ·) refines.source_eq
  shown_eq := congrArg (char :: ·) refines.shown_eq
  sound := refines.sound
  removed_subset start := refines.removed_subset (start + 1)

theorem replace {middle : List α} (present : rule ∈ rules)
    (matched : rule.pattern.Matches isWord left middle (headWord isWord (source segments) false))
    (refines : Refines isWord rules (lastWord isWord left middle) segments cuts finer) :
    Refines isWord rules left (middle.map .kept ++ segments)
      (.replaced rule.label middle :: cuts) (.replaced rule.label middle :: finer) where
  source_eq := by rw [source, refines.source_eq, source_append, source_map_kept]
  shown_eq := by rw [shown, refines.shown_eq, shown]
  sound := by
    refine ⟨⟨rule, present, rfl, ?_⟩, refines.sound⟩
    rwa [refines.source_eq]
  removed_subset start := by
    rw [removed_map_kept, removed]
    exact List.subset_cons_of_subset _ (refines.removed_subset _)

theorem label {label text : List α}
    (here : ∃ rule ∈ rules, label = rule.label ∧
      rule.pattern.Matches isWord left text (headWord isWord (source segments) false))
    (refines : Refines isWord rules (lastWord isWord left text) segments cuts finer) :
    Refines isWord rules left (.replaced label text :: segments)
      (label.map .kept ++ cuts) (.replaced label text :: finer) where
  source_eq := by rw [source, refines.source_eq, source]
  shown_eq := by rw [shown, refines.shown_eq, shown_append, shown_map_kept]
  sound := by
    refine ⟨?_, refines.sound⟩
    rwa [refines.source_eq]
  removed_subset _ := List.cons_subset_cons _ (refines.removed_subset _)

end Refines

theorem lastWord_shown_kept (front : List (Segment α)) (text : List α) :
    lastWord isWord false (shown (front ++ text.map .kept)) =
      lastWord isWord (lastWord isWord false (shown front)) text := by
  rw [shown_append, shown_map_kept, lastWord_append]

theorem lastWord_source_kept (front : List (Segment α)) (text : List α) :
    lastWord isWord false (source (front ++ text.map .kept)) =
      lastWord isWord (lastWord isWord false (source front)) text := by
  rw [source_append, source_map_kept, lastWord_append]

theorem lastWord_shown_replaced (front : List (Segment α)) {label : List α}
    (isLabel : lettering.IsLabel label) (text : List α) :
    lastWord isWord false (shown (front ++ [.replaced label text])) = false := by
  rw [shown_append, lastWord_append, shown, shown, List.append_nil, isLabel.lastWord_eq_false]

theorem lastWord_source_replaced (front : List (Segment α)) (label text : List α) :
    lastWord isWord false (source (front ++ [.replaced label text])) =
      lastWord isWord (lastWord isWord false (source front)) text := by
  rw [source_append, lastWord_append, source, source, List.append_nil]

/-- A pass over a shown text replaces more of its source. -/
theorem exists_refines (apart : ∀ rule ∈ rules, Apart lettering rule) (present : rule ∈ rules)
    {front segments cuts : List (Segment α)}
    (sound : Sound isWord rules false (front ++ segments)) (same : source cuts = shown segments)
    (leftmost : Leftmost isWord rule (lastWord isWord false (shown front)) cuts) :
    ∃ finer, Refines isWord rules (lastWord isWord false (source front)) segments cuts finer := by
  induction size : segments.length using Nat.strong_induction_on generalizing front segments cuts
    with
  | _ size' ih =>
  subst size
  have labelled := labelled_of_sound apart (sound_append sound)
  cases segments with
  | nil =>
      cases cuts with
      | nil => exact ⟨[], rfl, rfl, trivial, fun _ => List.Subset.refl _⟩
      | cons cut cuts =>
          cases cut with
          | kept char => cases same
          | replaced label text =>
              exact absurd (List.append_eq_nil_iff.mp same).1 leftmost.1
  | cons segment rest =>
      cases segment with
      | kept char =>
          cases cuts with
          | nil => cases same
          | cons cut cuts =>
              cases cut with
              | kept other =>
                  rcases List.cons.inj same with ⟨rfl, follows⟩
                  rw [List.append_cons] at sound
                  have later : Leftmost isWord rule
                      (lastWord isWord false (shown (front ++ [.kept other]))) cuts :=
                    @lastWord_shown_kept α isWord front [other] ▸ leftmost.2
                  rcases ih _ (Nat.lt_succ_self _) sound follows later rfl with ⟨finer, refines⟩
                  exact ⟨_, (@lastWord_source_kept α isWord front [other] ▸ refines).kept⟩
              | replaced label middle =>
                  rcases leftmost with ⟨nonempty, rfl, matched, later⟩
                  rcases eq_map_kept_append labelled same.symm
                    ((apart rule present).barless _ _ _ matched) with ⟨back, split, follows⟩
                  rw [split] at sound ih ⊢
                  rw [← follows] at matched
                  have stays := matchesIn_source apart nonempty sound matched
                  rw [← List.append_assoc] at sound
                  rw [← lastWord_shown_kept] at later
                  have fewer : back.length < (middle.map Segment.kept ++ back).length := by
                    have some' := List.length_pos_iff.mpr nonempty
                    rw [List.length_append, List.length_map]
                    omega
                  rcases ih _ fewer sound follows.symm later rfl with ⟨finer, refines⟩
                  rw [lastWord_source_kept] at refines
                  exact ⟨_, refines.replace present stays⟩
      | replaced label text =>
          have isLabel := labelled label text List.mem_cons_self
          rcases isLabel.fenced with ⟨first, body, last, fenced, opens, closes, letters⟩
          have inside : ∀ char ∈ first :: body, lettering.bar char ∨ lettering.inner char := by
            rw [List.forall_mem_cons]
            exact ⟨.inl opens, fun char member => .inr (letters char member)⟩
          have whole : label = (first :: body) ++ [last] := fenced
          rw [shown, whole, List.append_assoc, List.singleton_append] at same
          rcases leftmost_label (apart rule present) leftmost closes inside same with
            ⟨later, rfl, follows, leftmost⟩
          rw [← whole]
          have here := (sound_append sound).1
          rw [List.append_cons] at sound
          rw [← lastWord_shown_replaced front isLabel text] at leftmost
          rcases ih _ (Nat.lt_succ_self _) sound follows leftmost rfl with ⟨finer, refines⟩
          rw [lastWord_source_replaced] at refines
          exact ⟨_, refines.label here⟩

/-- What the passes replace are matches of the source. -/
theorem exists_segments_of_sound (apart : ∀ rule ∈ rules, Apart lettering rule)
    {todo : List (Rule α)} (within : todo ⊆ rules) {segments : List (Segment α)}
    (sound : Sound isWord rules false segments) :
    ∃ finer, source finer = source segments ∧ shown finer = subAll isWord todo (shown segments) ∧
      Sound isWord rules false finer ∧ ∀ start, removed start segments ⊆ removed start finer := by
  induction todo generalizing segments with
  | nil => exact ⟨segments, rfl, rfl, sound, fun _ => List.Subset.refl _⟩
  | cons rule todo ih =>
      rw [List.cons_subset] at within
      rcases cut_spec (apart rule within.1).solid false (shown segments) with ⟨whole, leftmost⟩
      rcases @exists_refines _ _ _ _ _ apart within.1 [] _ _ sound whole leftmost with
        ⟨next, refines⟩
      rcases ih within.2 refines.sound with ⟨finer, source', shown', later, more⟩
      refine ⟨finer, source'.trans refines.source_eq, ?_, later, ?_⟩
      · rw [shown', refines.shown_eq]
        rfl
      · intro start
        exact List.Subset.trans (refines.removed_subset start) (more start)

theorem exists_segments (apart : ∀ rule ∈ rules, Apart lettering rule) (text : List α) :
    ∃ segments, source segments = text ∧ shown segments = subAll isWord rules text ∧
      Sound isWord rules false segments := by
  have plain : Sound isWord rules false (text.map .kept ++ []) :=
    (sound_map_kept rules false text).mpr trivial
  rcases exists_segments_of_sound apart (List.Subset.refl rules) plain with
    ⟨segments, source', shown', sound, _⟩
  rw [List.append_nil, source_map_kept] at source'
  rw [List.append_nil, shown_map_kept] at shown'
  exact ⟨segments, source', shown', sound⟩

/-- What the first pass replaces stays replaced. -/
theorem exists_segments_cons {first : Rule α} {rest : List (Rule α)}
    (apart : ∀ rule ∈ first :: rest, Apart lettering rule) (text : List α) :
    ∃ segments, source segments = text ∧ shown segments = subAll isWord (first :: rest) text ∧
      Sound isWord (first :: rest) false segments ∧
      ∀ start, removed start (cut isWord first false 0 text) ⊆ removed start segments := by
  have solid := (apart first List.mem_cons_self).solid
  rcases cut_spec solid false text with ⟨whole, leftmost⟩
  have sound : Sound isWord (first :: rest) false (cut isWord first false 0 text) :=
    sound_of_leftmost List.mem_cons_self leftmost
  rcases exists_segments_of_sound apart (List.subset_cons_self first rest) sound with
    ⟨segments, source', shown', later, more⟩
  exact ⟨segments, source'.trans whole, shown', later, more⟩

end Apart

end Rule
