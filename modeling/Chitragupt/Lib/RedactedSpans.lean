import Chitragupt.Lib.Redaction

/-!
# Where a text is redacted

The replaced parts of a text are told by their positions.  What no part meets is kept as it
stands, and where all characters differ, nothing of a replaced part is left.  To tell equal
characters apart they are marked; the passes on marked characters are the passes on the
characters themselves.
-/

namespace Segment

variable {α : Type*}

/-! ## Positions of the replaced parts -/

theorem mem_removed_iff {start : Nat} {segments : List (Segment α)} {span : Span}
    {label : List α} :
    (span, label) ∈ removed start segments ↔
      ∃ front text back, segments = front ++ .replaced label text :: back ∧
        span = ⟨start + (source front).length, start + (source front).length + text.length⟩ := by
  induction segments generalizing start with
  | nil =>
      constructor
      · intro member
        cases member
      · rintro ⟨front, text, back, same, _⟩
        cases front with
        | nil => cases same
        | cons segment rest => cases same
  | cons segment rest ih =>
      cases segment with
      | kept char =>
          rw [removed, ih]
          constructor
          · rintro ⟨front, text, back, rfl, rfl⟩
            refine ⟨.kept char :: front, text, back, rfl, ?_⟩
            rw [source, List.length_cons, Nat.add_right_comm, Nat.add_assoc]
          · rintro ⟨front, text, back, same, rfl⟩
            cases front with
            | nil => cases same
            | cons segment front =>
                rcases List.cons.inj same with ⟨rfl, rfl⟩
                refine ⟨front, text, back, rfl, ?_⟩
                rw [source, List.length_cons, Nat.add_comm _ 1, ← Nat.add_assoc]
      | replaced other text =>
          rw [removed, List.mem_cons, ih]
          constructor
          · rintro (first | ⟨front, more, back, rfl, rfl⟩)
            · rcases Prod.mk.inj first with ⟨rfl, rfl⟩
              exact ⟨[], text, rest, rfl, rfl⟩
            · refine ⟨.replaced other text :: front, more, back, rfl, ?_⟩
              rw [source, List.length_append, Nat.add_assoc]
          · rintro ⟨front, more, back, same, rfl⟩
            cases front with
            | nil =>
                rcases List.cons.inj same with ⟨first, rfl⟩
                rcases Segment.replaced.inj first with ⟨rfl, rfl⟩
                exact .inl rfl
            | cons segment front =>
                rcases List.cons.inj same with ⟨rfl, rfl⟩
                refine .inr ⟨front, more, back, rfl, ?_⟩
                rw [source, List.length_append, ← Nat.add_assoc]

theorem start_le_of_mem_removed {start : Nat} {segments : List (Segment α)}
    {piece : Span × List α} (member : piece ∈ removed start segments) : start ≤ piece.1.start := by
  rcases mem_removed_iff.mp member with ⟨front, text, back, _, same⟩
  rw [same]
  exact Nat.le_add_right _ _

/-- Replaced parts do not overlap. -/
theorem eq_of_mem_removed {start : Nat} {segments : List (Segment α)}
    {piece other : Span × List α} (member : piece ∈ removed start segments)
    (also : other ∈ removed start segments) (meets : piece.1.Meets other.1) : piece = other := by
  rcases meets with ⟨position, here, there⟩
  have upper := here.2
  have upper' := there.2
  induction segments generalizing start with
  | nil => cases member
  | cons segment rest ih =>
      cases segment with
      | kept char => exact ih member also
      | replaced label text =>
          rw [removed, List.mem_cons] at member also
          rcases member with rfl | member
          · rcases also with rfl | also
            · rfl
            · have late := start_le_of_mem_removed also
              have within := there.1
              dsimp only at upper
              omega
          · rcases also with rfl | also
            · have late := start_le_of_mem_removed member
              have within := here.1
              dsimp only at upper'
              omega
            · exact ih member also

/-! ## What is kept -/

/-- No replaced part is empty. -/
def Proper (segments : List (Segment α)) : Prop :=
  ∀ label text, .replaced label text ∈ segments → text ≠ []

theorem Proper.tail {segment : Segment α} {segments : List (Segment α)}
    (proper : Proper (segment :: segments)) : Proper segments :=
  fun label text member => proper label text (List.mem_cons_of_mem _ member)

theorem eq_map_kept_append_of_source {segments : List (Segment α)} {start : Nat}
    {middle after : List α} (proper : Proper segments) (same : source segments = middle ++ after)
    (untouched : ∀ piece ∈ removed start segments,
      ¬piece.1.Meets ⟨start, start + middle.length⟩) :
    ∃ back, segments = middle.map .kept ++ back ∧ source back = after := by
  induction middle generalizing segments start with
  | nil => exact ⟨segments, rfl, same⟩
  | cons char middle ih =>
      cases segments with
      | nil => cases same
      | cons segment rest =>
          cases segment with
          | kept other =>
              rcases List.cons.inj same with ⟨rfl, follows⟩
              have later : ∀ piece ∈ removed (start + 1) rest,
                  ¬piece.1.Meets ⟨start + 1, start + 1 + middle.length⟩ := by
                rintro piece member ⟨position, here, there⟩
                apply untouched piece member
                refine ⟨position, here, (Nat.le_succ start).trans there.1, ?_⟩
                have upper := there.2
                dsimp only [List.length_cons] at upper ⊢
                omega
              rcases ih proper.tail follows later with ⟨back, rfl, source'⟩
              exact ⟨back, rfl, source'⟩
          | replaced label text =>
              have some' := List.length_pos_iff.mpr (proper label text List.mem_cons_self)
              apply absurd _ (untouched _ List.mem_cons_self)
              refine ⟨start, ⟨le_rfl, Nat.lt_add_of_pos_right some'⟩, le_rfl, ?_⟩
              exact Nat.lt_add_of_pos_right (Nat.succ_pos _)

/-- What no replaced part meets is kept. -/
theorem eq_append_map_kept_of_source {segments : List (Segment α)} {start : Nat}
    {before middle after : List α} (proper : Proper segments) (nonempty : middle ≠ [])
    (same : source segments = before ++ (middle ++ after))
    (untouched : ∀ piece ∈ removed start segments,
      ¬piece.1.Meets ⟨start + before.length, start + before.length + middle.length⟩) :
    ∃ front back, segments = front ++ (middle.map .kept ++ back) ∧ source front = before ∧
      source back = after := by
  have some' := List.length_pos_iff.mpr nonempty
  induction segments generalizing start before with
  | nil =>
      have empty := List.append_eq_nil_iff.mp (List.append_eq_nil_iff.mp same.symm).2
      exact absurd empty.1 nonempty
  | cons segment rest ih =>
      cases before with
      | nil =>
          rw [List.nil_append] at same
          rcases eq_map_kept_append_of_source proper same untouched with ⟨back, split, source'⟩
          exact ⟨[], back, split, rfl, source'⟩
      | cons first before =>
          cases segment with
          | kept char =>
              rcases List.cons.inj same with ⟨rfl, follows⟩
              have length : start + (char :: before).length = start + 1 + before.length := by
                rw [List.length_cons]
                omega
              rw [length] at untouched
              rcases ih proper.tail follows untouched with ⟨front, back, rfl, rfl, source'⟩
              exact ⟨.kept char :: front, back, rfl, rfl, source'⟩
          | replaced label text =>
              rw [removed, List.forall_mem_cons] at untouched
              rw [source] at same
              have inside : text.length ≤ (first :: before).length := by
                by_contra beyond
                apply untouched.1
                refine ⟨start + (first :: before).length, ⟨Nat.le_add_right _ _, ?_⟩, le_rfl, ?_⟩
                · exact Nat.add_lt_add_left (not_le.mp beyond) start
                · exact Nat.lt_add_of_pos_right some'
              have start' : text <+: first :: before :=
                List.prefix_of_prefix_length_le ⟨_, same⟩ ⟨_, rfl⟩ inside
              rcases start' with ⟨more, split⟩
              rw [← split, List.append_assoc, List.append_cancel_left_eq] at same
              have length : start + (first :: before).length =
                  start + text.length + more.length := by
                rw [← split, List.length_append, Nat.add_assoc]
              rw [length] at untouched
              rcases ih proper.tail same untouched.2 with ⟨front, back, rfl, rfl, source'⟩
              exact ⟨.replaced label text :: front, back, rfl, split, source'⟩

/-! ## What is left -/

theorem mem_source_of_kept {segments : List (Segment α)} {char : α}
    (member : .kept char ∈ segments) : char ∈ source segments := by
  rcases List.append_of_mem member with ⟨front, back, rfl⟩
  rw [source_append]
  exact List.mem_append_right _ List.mem_cons_self

theorem mem_shown {segments : List (Segment α)} {char : α} (member : char ∈ shown segments) :
    .kept char ∈ segments ∨ ∃ label text, .replaced label text ∈ segments ∧ char ∈ label := by
  induction segments with
  | nil => cases member
  | cons segment rest ih =>
      cases segment with
      | kept other =>
          rw [shown, List.mem_cons] at member
          rcases member with rfl | later
          · exact .inl List.mem_cons_self
          · rcases ih later with here | ⟨label, text, present, inside⟩
            · exact .inl (List.mem_cons_of_mem _ here)
            · exact .inr ⟨label, text, List.mem_cons_of_mem _ present, inside⟩
      | replaced label text =>
          rw [shown, List.mem_append] at member
          rcases member with inside | later
          · exact .inr ⟨label, text, List.mem_cons_self, inside⟩
          · rcases ih later with here | ⟨other, more, present, inside⟩
            · exact .inl (List.mem_cons_of_mem _ here)
            · exact .inr ⟨other, more, List.mem_cons_of_mem _ present, inside⟩

/-- No label has a character of the source. -/
def Fresh (segments : List (Segment α)) : Prop :=
  ∀ label text, .replaced label text ∈ segments → ∀ char ∈ label, char ∉ source segments

/-- Where all characters differ, nothing is left of a replaced part. -/
theorem not_mem_shown {front back : List (Segment α)} {label text : List α} {char : α}
    (nodup : (source (front ++ .replaced label text :: back)).Nodup)
    (fresh : Fresh (front ++ .replaced label text :: back)) (inside : char ∈ text) :
    char ∉ shown (front ++ .replaced label text :: back) := by
  intro member
  have present : char ∈ source (front ++ .replaced label text :: back) := by
    rw [source_append, source]
    exact List.mem_append_right _ (List.mem_append_left _ inside)
  rcases mem_shown member with kept | ⟨other, more, here, within⟩
  · rw [source_append, source, List.nodup_append] at nodup
    rw [List.mem_append, List.mem_cons] at kept
    rcases kept with early | same | late
    · exact nodup.2.2 char (mem_source_of_kept early) char (List.mem_append_left _ inside) rfl
    · cases same
    · exact (List.nodup_append.mp nodup.2.1).2.2 char inside char (mem_source_of_kept late) rfl
  · exact fresh other more here char within present

/-- The element at a position of a part is in the part. -/
theorem mem_of_getElem? {before middle after : List α} {position : Nat} {char : α}
    (found : (before ++ (middle ++ after))[position]? = some char)
    (lower : before.length ≤ position) (upper : position < before.length + middle.length) :
    char ∈ middle := by
  rw [List.getElem?_append_right lower, List.getElem?_append_left (by omega)] at found
  exact List.mem_of_getElem? found

/-- A part of the source is shown in one piece exactly when no replaced part meets it. -/
theorem infix_shown_iff {segments : List (Segment α)} (start : Nat)
    {before middle after : List α} (proper : Proper segments) (fresh : Fresh segments)
    (nodup : (source segments).Nodup) (nonempty : middle ≠ [])
    (same : source segments = before ++ (middle ++ after)) :
    middle <:+: shown segments ↔ ∀ piece ∈ removed start segments,
      ¬piece.1.Meets ⟨start + before.length, start + before.length + middle.length⟩ := by
  constructor
  · rintro whole ⟨span, label⟩ member ⟨position, here, there⟩
    rcases mem_removed_iff.mp member with ⟨front, text, back, rfl, rfl⟩
    have lower := here.1
    have upper := here.2
    have lower' := there.1
    have upper' := there.2
    dsimp only at lower upper lower' upper'
    rcases Nat.exists_eq_add_of_le (Nat.le_of_add_right_le lower) with ⟨offset, rfl⟩
    have split : source (front ++ .replaced label text :: back) =
        source front ++ (text ++ source back) := by rw [source_append, source]
    have bound : offset < (source (front ++ .replaced label text :: back)).length := by
      rw [split, List.length_append, List.length_append]
      omega
    have found := List.getElem?_eq_getElem bound
    have inside : (source (front ++ .replaced label text :: back))[offset] ∈ text := by
      apply @mem_of_getElem? _ (source front) text (source back) offset
      · rw [← split, found]
      · omega
      · omega
    have within : (source (front ++ .replaced label text :: back))[offset] ∈ middle := by
      apply @mem_of_getElem? _ before middle after offset
      · rw [← same, found]
      · omega
      · omega
    exact not_mem_shown nodup fresh inside (whole.subset within)
  · intro untouched
    rcases eq_append_map_kept_of_source proper nonempty same untouched with
      ⟨front, back, rfl, _⟩
    rw [shown_append, shown_append, shown_map_kept]
    exact ⟨shown front, shown back, List.append_assoc _ _ _⟩

end Segment

namespace Rule

open Regex Segment

variable {α β : Type*} {isWord : α → Bool} {rules : List (Rule α)} {rule : Rule α}

/-! ## Matches at positions -/

/-- A match at some positions of a text. -/
def MatchesAt (isWord : α → Bool) (rule : Rule α) (text : List α) (span : Span) : Prop :=
  ∃ before middle after, text = before ++ (middle ++ after) ∧ before.length = span.start ∧
    before.length + middle.length = span.stop ∧ rule.MatchesIn isWord before middle after

/-- Text behind a non-word character changes no context, nor does text in front of one. -/
theorem matchesIn_append {outer before middle after more : List α}
    (left : lastWord isWord false outer = false) (right : headWord isWord more false = false) :
    rule.MatchesIn isWord (outer ++ before) middle (after ++ more) ↔
      rule.MatchesIn isWord before middle after := by
  rw [MatchesIn, MatchesIn, lastWord_append, headWord_append, left, right]

/-- A replaced part is a match, also in a longer text. -/
theorem matchesAt_of_removed {outer more : List α} {segments : List (Segment α)} {span : Span}
    {label : List α} (sound : Sound isWord rules false segments)
    (left : lastWord isWord false outer = false) (right : headWord isWord more false = false)
    (member : (span, label) ∈ removed outer.length segments) :
    ∃ rule ∈ rules, label = rule.label ∧
      rule.MatchesAt isWord (outer ++ (source segments ++ more)) span := by
  rcases mem_removed_iff.mp member with ⟨front, text, back, rfl, rfl⟩
  rcases (sound_append sound).1 with ⟨rule, present, same, matched⟩
  refine ⟨rule, present, same, outer ++ source front, text, source back ++ more, ?_, ?_, ?_, ?_⟩
  · simp only [source_append, source, List.append_assoc]
  · exact List.length_append
  · rw [List.length_append]
  · exact (matchesIn_append left right).mpr matched

/-- A match inside a part of a text is one of the part. -/
theorem exists_matchesIn_of_matchesAt {outer part more : List α} {span : Span}
    (left : lastWord isWord false outer = false) (right : headWord isWord more false = false)
    (matched : rule.MatchesAt isWord (outer ++ (part ++ more)) span)
    (lower : outer.length ≤ span.start) (upper : span.stop ≤ outer.length + part.length) :
    ∃ before middle after, part = before ++ (middle ++ after) ∧
      outer.length + before.length = span.start ∧
      outer.length + before.length + middle.length = span.stop ∧
      rule.MatchesIn isWord before middle after := by
  rcases matched with ⟨before, middle, after, same, start, stop, matched⟩
  have front : outer <+: before := by
    apply List.prefix_of_prefix_length_le ⟨_, rfl⟩ ⟨_, same.symm⟩
    rwa [start]
  rcases front with ⟨inner, rfl⟩
  rw [List.append_assoc, List.append_cancel_left_eq, ← List.append_assoc inner] at same
  rw [List.length_append] at start stop
  have back : inner ++ middle <+: part := by
    apply List.prefix_of_prefix_length_le ⟨_, same.symm⟩ ⟨_, rfl⟩
    rw [List.length_append]
    omega
  rcases back with ⟨rest, rfl⟩
  rw [List.append_assoc, List.append_cancel_left_eq] at same
  subst same
  exact ⟨inner, middle, rest, List.append_assoc _ _ _, start, stop,
    (matchesIn_append left right).mp matched⟩

/-! ## The first pass -/

theorem proper_of_leftmost {left : Bool} {segments : List (Segment α)}
    (leftmost : Leftmost isWord rule left segments) : Proper segments := by
  intro label text member
  rcases List.append_of_mem member with ⟨front, back, rfl⟩
  exact (leftmost_append leftmost).1

theorem proper_of_sound {lettering : Lettering isWord}
    (apart : ∀ rule ∈ rules, Apart lettering rule) {left : Bool} {segments : List (Segment α)}
    (sound : Sound isWord rules left segments) : Proper segments := by
  intro label text member empty
  rcases List.append_of_mem member with ⟨front, back, rfl⟩
  rcases (sound_append sound).1 with ⟨rule, present, _, matched⟩
  rw [empty] at matched
  exact (apart rule present).solid _ _ matched

/-- Where a match starts, a pass replaces. -/
theorem exists_removed_of_matchesIn {segments : List (Segment α)} (start : Nat)
    {before middle after : List α} (leftmost : Leftmost isWord rule false segments)
    (same : source segments = before ++ (middle ++ after)) (nonempty : middle ≠ [])
    (matched : rule.MatchesIn isWord before middle after) :
    ∃ piece ∈ removed start segments, piece.1.Holds (start + before.length) := by
  by_contra none'
  cases middle with
  | nil => exact nonempty rfl
  | cons char middle =>
      have untouched : ∀ piece ∈ removed start segments,
          ¬piece.1.Meets ⟨start + before.length, start + before.length + [char].length⟩ := by
        rintro piece member ⟨position, here, there⟩
        have lower := there.1
        have upper := there.2
        dsimp only [List.length_singleton] at lower upper
        have same : position = start + before.length := by omega
        subst same
        exact none' ⟨piece, member, here⟩
      rcases @eq_append_map_kept_of_source _ segments start before [char] (middle ++ after)
        (proper_of_leftmost leftmost) (List.cons_ne_nil _ _) same untouched with
        ⟨front, back, rfl, rfl, source'⟩
      apply (leftmost_append leftmost).1 (char :: middle) after _ nonempty matched
      exact congrArg (char :: ·) source'

/-! ## Matches with word edges -/

section Edges

variable {lettering : Lettering isWord}

theorem lastWord_shown {segments : List (Segment α)} (labelled : Labelled lettering segments)
    (left : lastWord isWord false (source segments) = false) :
    lastWord isWord false (shown segments) = false := by
  rcases List.eq_nil_or_concat segments with rfl | ⟨front, segment, rfl⟩
  · rfl
  · rw [List.concat_eq_append] at left labelled ⊢
    rw [source_append, lastWord_append] at left
    rw [shown_append, lastWord_append]
    cases segment with
    | kept char => exact left
    | replaced label text =>
        rw [shown, shown, List.append_nil]
        exact (labelled label text (by simp)).lastWord_eq_false _

theorem headWord_shown {segments : List (Segment α)} (labelled : Labelled lettering segments)
    (right : headWord isWord (source segments) false = false) :
    headWord isWord (shown segments) false = false := by
  cases segments with
  | nil => rfl
  | cons segment rest =>
      cases segment with
      | kept char => exact right
      | replaced label text => exact (labelled label text List.mem_cons_self).headWord_eq_false _ _

/-- If the result is clean, something is replaced in each match that starts and ends with word
characters. -/
theorem exists_meets_of_matchesIn {segments : List (Segment α)} (start : Nat)
    {before middle after : List α} (apart : ∀ rule ∈ rules, Apart lettering rule)
    (sound : Sound isWord rules false segments) (clean : rule.Clean isWord (shown segments))
    (same : source segments = before ++ (middle ++ after))
    (begins : ∀ right, headWord isWord middle right = true)
    (ends : ∀ left, lastWord isWord left middle = true)
    (matched : rule.MatchesIn isWord before middle after) :
    ∃ piece ∈ removed start segments,
      piece.1.Meets ⟨start + before.length, start + before.length + middle.length⟩ := by
  by_contra none'
  have untouched : ∀ piece ∈ removed start segments,
      ¬piece.1.Meets ⟨start + before.length, start + before.length + middle.length⟩ :=
    fun piece member meets => none' ⟨piece, member, meets⟩
  have nonempty : middle ≠ [] := by
    rintro rfl
    cases begins false
  have labelled := labelled_of_sound apart sound
  rcases eq_append_map_kept_of_source (proper_of_sound apart sound) nonempty same untouched with
    ⟨front, back, rfl, rfl, rfl⟩
  have edges := matches_whole.mp matched
  have left : lastWord isWord false (source front) = false := by
    have edge := edges.1
    rw [begins] at edge
    exact Bool.eq_false_iff.mpr edge
  have right : headWord isWord (source back) false = false := by
    have edge := edges.2.2
    rw [ends] at edge
    exact Bool.eq_false_iff.mpr edge.symm
  have labelledFront : Labelled lettering front := fun label text member =>
    labelled label text (List.mem_append_left _ member)
  have labelledBack : Labelled lettering back := fun label text member =>
    labelled label text (List.mem_append_right _ (List.mem_append_right _ member))
  apply clean (shown front) middle (shown back)
  · rw [shown_append, shown_append, shown_map_kept, List.append_assoc]
  · rw [MatchesIn, lastWord_shown labelledFront left, headWord_shown labelledBack right]
    rw [MatchesIn, left, right] at matched
    exact matched

end Edges

/-! ## Marked characters -/

section Marks

variable (code : β → α) (blank : α → β)

/-- The same rule over characters that carry more data; the label has blank ones. -/
def comap (rule : Rule α) : Rule β := ⟨rule.body.comap code, rule.label.map blank⟩

theorem matches_pattern_comap {left right : Bool} {text : List β} :
    (rule.comap code blank).pattern.Matches (isWord ∘ code) left text right ↔
      rule.pattern.Matches isWord left (text.map code) right := by
  rw [pattern, pattern, matches_whole, matches_whole, comap, matches_comap, headWord_map,
    lastWord_map]

theorem matchesIn_comap {before middle after : List β} :
    (rule.comap code blank).MatchesIn (isWord ∘ code) before middle after ↔
      rule.MatchesIn isWord (before.map code) (middle.map code) (after.map code) := by
  rw [MatchesIn, MatchesIn, matches_pattern_comap, headWord_map, lastWord_map]

theorem matchesAt_comap {text : List β} {span : Span} :
    (rule.comap code blank).MatchesAt (isWord ∘ code) text span ↔
      rule.MatchesAt isWord (text.map code) span := by
  constructor
  · rintro ⟨before, middle, after, rfl, start, stop, matched⟩
    refine ⟨before.map code, middle.map code, after.map code, ?_, ?_, ?_,
      (matchesIn_comap code blank).mp matched⟩
    · rw [List.map_append, List.map_append]
    · rwa [List.length_map]
    · rwa [List.length_map, List.length_map]
  · rintro ⟨before, more, after, same, start, stop, matched⟩
    rcases List.map_eq_append_iff.mp same with ⟨before, rest, rfl, rfl, follows⟩
    rcases List.map_eq_append_iff.mp follows with ⟨middle, after, rfl, rfl, rfl⟩
    rw [List.length_map] at start
    rw [List.length_map, List.length_map] at stop
    exact ⟨before, middle, after, rfl, start, stop, (matchesIn_comap code blank).mpr matched⟩

/-- Lettering of marked characters. -/
def Lettering.comap (lettering : Lettering isWord) : Lettering (isWord ∘ code) where
  bar char := lettering.bar (code char)
  inner char := lettering.inner (code char)
  outside char := lettering.outside (code char)

variable {code blank}

theorem Apart.comap {lettering : Lettering isWord} (code_blank : ∀ char, code (blank char) = char)
    (apart : Apart lettering rule) :
    Apart (lettering.comap code) (rule.comap code blank) where
  isLabel := by
    rcases apart.isLabel.fenced with ⟨first, body, last, same, opens, closes, letters⟩
    refine ⟨blank first, body.map blank, blank last, ?_, ?_, ?_, ?_⟩
    · rw [Rule.comap, same, List.map_cons, List.map_append, List.map_singleton]
    · change lettering.bar (code (blank first))
      rwa [code_blank]
    · change lettering.bar (code (blank last))
      rwa [code_blank]
    · intro char member
      rcases List.mem_map.mp member with ⟨letter, inside, rfl⟩
      change lettering.inner (code (blank letter))
      rw [code_blank]
      exact letters letter inside
  barless left text right matched char member := by
    rw [matches_pattern_comap] at matched
    exact apart.barless _ _ _ matched _ (List.mem_map_of_mem member)
  foreign left text right matched := by
    rw [matches_pattern_comap] at matched
    rcases apart.foreign _ _ _ matched with ⟨_, member, outside⟩
    rcases List.mem_map.mp member with ⟨char, inside, rfl⟩
    exact ⟨char, inside, outside⟩

/-- The marks play no part in a pass. -/
theorem map_shown_cut (code_blank : ∀ char, code (blank char) = char) (rule : Rule α)
    (left : Bool) (skip : Nat) (text : List β) :
    (shown (cut (isWord ∘ code) (rule.comap code blank) left skip text)).map code =
      shown (cut isWord rule left skip (text.map code)) := by
  induction text generalizing left skip with
  | nil =>
      cases skip with
      | zero => rfl
      | succ skip => rfl
  | cons char rest ih =>
      cases skip with
      | succ skip => exact ih _ _
      | zero =>
          have same : ((rule.comap code blank).pattern.splits (isWord ∘ code) left
                (char :: rest)).map (Prod.map (List.map code) (List.map code)) =
              rule.pattern.splits isWord left ((char :: rest).map code) :=
            splits_comap code rule.pattern left (char :: rest)
          rw [cut, List.map_cons, cut, ← List.map_cons, ← same, List.head?_map]
          rcases ((rule.comap code blank).pattern.splits (isWord ∘ code) left
            (char :: rest)).head? with _ | ⟨_ | ⟨first, more⟩, after⟩
          · exact congrArg (code char :: ·) (ih _ _)
          · exact congrArg (code char :: ·) (ih _ _)
          · have back : (rule.label.map blank).map code = rule.label := by
              rw [List.map_map]
              exact List.map_congr_left (fun char _ => code_blank char) |>.trans (List.map_id _)
            change ((rule.label.map blank) ++ shown _).map code = rule.label ++ shown _
            rw [List.map_append, back, ih, List.length_map]
            rfl

theorem map_subAll (code_blank : ∀ char, code (blank char) = char) (rules : List (Rule α))
    (text : List β) :
    (subAll (isWord ∘ code) (rules.map (comap code blank)) text).map code =
      subAll isWord rules (text.map code) := by
  induction rules generalizing text with
  | nil => rfl
  | cons rule rest ih =>
      have first : ((rule.comap code blank).sub (isWord ∘ code) text).map code =
          rule.sub isWord (text.map code) := map_shown_cut code_blank rule false 0 text
      rw [subAll, List.map_cons, List.foldl_cons]
      rw [subAll, List.foldl_cons, ← first]
      exact ih _

end Marks

end Rule
