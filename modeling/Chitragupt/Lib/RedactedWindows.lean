import Chitragupt.Lib.RedactedSpans
import Mathlib.Data.List.Nodup

/-!
# Redacting a window of a text

Rules are applied to a window of a text, at whose edges there are no word characters.  What
they replace are matches of the whole text.  The characters are marked with their positions,
so that it can be told which of them are left.
-/

namespace Rule

open Regex Segment

variable {α : Type*}

/-! ## Positions as marks -/

/-- Each character with its position. -/
def mark (text : List α) : List (α × Option Nat) :=
  text.zipIdx.map fun (char, position) => (char, some position)

/-- A character without a position. -/
def unmarked (char : α) : α × Option Nat := (char, none)

theorem getElem?_mark (text : List α) (position : Nat) :
    (mark text)[position]? = text[position]?.map fun char => (char, some position) := by
  rw [mark, List.getElem?_map, List.getElem?_zipIdx, Option.map_map, Nat.zero_add]
  rfl

theorem map_fst_mark (text : List α) : (mark text).map Prod.fst = text := by
  apply List.ext_getElem?
  intro position
  rw [List.getElem?_map, getElem?_mark, Option.map_map]
  exact Option.map_id' 

theorem length_mark (text : List α) : (mark text).length = text.length := by
  rw [mark, List.length_map, List.length_zipIdx]

/-- The positions of a marked part. -/
theorem mem_slice_mark {text : List α} {span : Span} {char : α} {position : Nat} :
    (char, some position) ∈ span.slice (mark text) ↔
      text[position]? = some char ∧ span.Holds position := by
  rw [List.mem_iff_getElem?]
  constructor
  · rintro ⟨offset, found⟩
    rw [Span.getElem?_slice] at found
    split at found
    next inside =>
      rw [getElem?_mark] at found
      rcases Option.map_eq_some_iff.mp found with ⟨other, here, same⟩
      rcases Prod.mk.inj same with ⟨rfl, place⟩
      rcases Option.some.inj place with rfl
      exact ⟨here, Nat.le_add_right _ _, inside⟩
    next outside => cases found
  · rintro ⟨here, holds⟩
    rcases Nat.exists_eq_add_of_le holds.1 with ⟨offset, rfl⟩
    refine ⟨offset, ?_⟩
    rw [Span.getElem?_slice, if_pos holds.2, getElem?_mark, here]
    rfl

theorem nodup_mark (text : List α) : (mark text).Nodup := by
  apply List.Nodup.of_map Prod.snd
  have positions : (mark text).map Prod.snd = (List.range text.length).map some := by
    apply List.ext_getElem?
    intro position
    rw [List.getElem?_map, getElem?_mark, Option.map_map, List.getElem?_map]
    by_cases inside : position < text.length
    · rw [List.getElem?_eq_getElem inside, List.getElem?_range inside]
      rfl
    · have beyond : text.length ≤ position := not_lt.mp inside
      rw [List.getElem?_eq_none beyond, List.getElem?_eq_none (by rwa [List.length_range])]
      rfl
  rw [positions]
  exact List.nodup_range.map fun _ _ => Option.some.inj

theorem not_mem_mark (text : List α) (char : α) : unmarked char ∉ mark text := by
  intro member
  rcases List.mem_map.mp member with ⟨_, _, same⟩
  cases congrArg Prod.snd same

/-- What rules leave of a window. -/
def redactWindow (isWord : α → Bool) (rules : List (Rule α)) (text : List α) (window : Span) :
    List (α × Option Nat) :=
  subAll (isWord ∘ Prod.fst) (rules.map (comap Prod.fst unmarked)) (window.slice (mark text))

variable {isWord : α → Bool}

theorem map_fst_redactWindow (rules : List (Rule α)) (text : List α) (window : Span) :
    (redactWindow isWord rules text window).map Prod.fst =
      subAll isWord rules (window.slice text) := by
  rw [redactWindow, map_subAll (fun _ => rfl), Span.slice_map, map_fst_mark]

/-! ## What is replaced -/

/-- The matches of a rule start and end with word characters. -/
def WordEdged (isWord : α → Bool) (rule : Rule α) : Prop :=
  ∀ left text right, rule.pattern.Matches isWord left text right →
    (∀ after, headWord isWord text after = true) ∧ ∀ before, lastWord isWord before text = true

/-- The matches of a text that the rules replace in a window of it.  They do not overlap; the
first rule replaces wherever a match starts, and something of each match with word edges is
replaced. -/
structure Replaces (isWord : α → Bool) (first : Rule α) (rest : List (Rule α)) (text : List α)
    (window : Span) (replaced : Rule α → Span → Prop) : Prop where
  matched : ∀ rule span, replaced rule span →
    rule ∈ first :: rest ∧ rule.MatchesAt isWord text span ∧ window.Covers span
  apart : ∀ rule span other span', replaced rule span → replaced other span' →
    span.Meets span' → rule.label = other.label ∧ span = span'
  starts : ∀ span, first.MatchesAt isWord text span → window.Covers span →
    ∃ span', replaced first span' ∧ span'.Holds span.start
  edged : ∀ rule ∈ first :: rest, WordEdged isWord rule → ∀ span,
    rule.MatchesAt isWord text span → window.Covers span →
      ∃ other span', replaced other span' ∧ span'.Meets span

section Windows

variable {lettering : Lettering isWord} {first : Rule α} {rest : List (Rule α)}
  {text : List α} {window : Span}

/-- A marked text around a window. -/
theorem mark_eq (ordered : window.start ≤ window.stop) (text : List α) :
    mark text = (mark text).take window.start ++
      (window.slice (mark text) ++ (mark text).drop window.stop) := by
  rw [Span.slice_append_drop ordered, List.take_append_drop]

/-- The parts of segments of a window, at their positions in the text. -/
def ReplacedIn (isWord : α → Bool) (rules : List (Rule α)) (text : List α) (window : Span)
    (segments : List (Segment (α × Option Nat))) (rule : Rule α) (span : Span) : Prop :=
  rule ∈ rules ∧ rule.MatchesAt isWord text span ∧ window.Covers span ∧
    (span, (rule.comap Prod.fst unmarked).label) ∈ removed window.start segments

/-- A window between other characters. -/
structure Isolated (isWord : α → Bool) (text : List α) (window : Span) : Prop where
  ordered : window.start ≤ window.stop
  inside : window.stop ≤ text.length
  left : lastWord isWord false (text.take window.start) = false
  right : headWord isWord (text.drop window.stop) false = false

/-- A text is isolated. -/
theorem isolated_whole (isWord : α → Bool) (text : List α) :
    Isolated isWord text ⟨0, text.length⟩ where
  ordered := Nat.zero_le _
  inside := le_rfl
  left := rfl
  right := by
    rw [List.drop_length]
    rfl

namespace Isolated

variable (isolated : Isolated isWord text window)

include isolated

theorem length_take : ((mark text).take window.start).length = window.start := by
  rw [List.length_take_of_le]
  rw [length_mark]
  exact isolated.ordered.trans isolated.inside

theorem left_mark :
    lastWord (isWord ∘ Prod.fst) false ((mark text).take window.start) = false := by
  rw [← lastWord_map, List.map_take, map_fst_mark, isolated.left]

theorem right_mark :
    headWord (isWord ∘ Prod.fst) ((mark text).drop window.stop) false = false := by
  rw [← headWord_map, List.map_drop, map_fst_mark, isolated.right]

/-- A part of segments of the window is a match of the text. -/
theorem exists_replacedIn {rules : List (Rule α)} {segments : List (Segment (α × Option Nat))}
    {span : Span} {label : List (α × Option Nat)} (whole : source segments = window.slice (mark text))
    (sound : Sound (isWord ∘ Prod.fst) (rules.map (comap Prod.fst unmarked)) false segments)
    (member : (span, label) ∈ removed window.start segments) :
    ∃ rule, ReplacedIn isWord rules text window segments rule span ∧
      label = (rule.comap Prod.fst unmarked).label := by
  have start := isolated.length_take
  rw [← start] at member
  rcases matchesAt_of_removed sound isolated.left_mark isolated.right_mark member with
    ⟨marked, present, rfl, matched⟩
  rw [whole, ← mark_eq isolated.ordered] at matched
  rw [start] at member
  rcases List.mem_map.mp present with ⟨rule, listed, rfl⟩
  rw [matchesAt_comap, map_fst_mark] at matched
  refine ⟨rule, ⟨listed, matched, ?_, member⟩, rfl⟩
  rcases mem_removed_iff.mp member with ⟨front, part, back, rfl, rfl⟩
  have length := congrArg List.length whole
  rw [source_append, source, List.length_append, List.length_append, Span.length_slice,
    Span.length] at length
  · have ordered := isolated.ordered
    refine ⟨Nat.le_add_right _ _, ?_⟩
    dsimp only
    omega
  · rw [length_mark]
    exact isolated.inside

/-- A match in the window is one of the marked window. -/
theorem exists_matchesIn {rule : Rule α} {span : Span} (matched : rule.MatchesAt isWord text span)
    (covers : window.Covers span) :
    ∃ before middle after, window.slice (mark text) = before ++ (middle ++ after) ∧
      window.start + before.length = span.start ∧
      window.start + before.length + middle.length = span.stop ∧
      (rule.comap Prod.fst unmarked).MatchesIn (isWord ∘ Prod.fst) before middle after := by
  rw [← map_fst_mark text, ← matchesAt_comap Prod.fst unmarked, mark_eq isolated.ordered] at matched
  have start := isolated.length_take
  have upper : span.stop ≤ ((mark text).take window.start).length +
      (window.slice (mark text)).length := by
    rw [start, Span.length_slice, Span.length]
    · have ordered := isolated.ordered
      have bound := covers.2
      omega
    · rw [length_mark]
      exact isolated.inside
  rcases exists_matchesIn_of_matchesAt isolated.left_mark isolated.right_mark matched
    (start.le.trans covers.1) upper with ⟨before, middle, after, same, first, last, matched⟩
  rw [start] at first last
  exact ⟨before, middle, after, same, first, last, matched⟩

end Isolated

theorem apart_marked {rules : List (Rule α)} (apart : ∀ rule ∈ rules, Apart lettering rule) :
    ∀ rule ∈ rules.map (comap Prod.fst unmarked),
      Apart (lettering.comap (Prod.fst : α × Option Nat → α)) rule := by
  intro marked member
  rcases List.mem_map.mp member with ⟨rule, present, rfl⟩
  exact (apart rule present).comap fun _ => rfl

/-- The segments of a window after all passes, and what the first pass has replaced. -/
structure Passes (isWord : α → Bool) (first : Rule α) (rest : List (Rule α)) (text : List α)
    (window : Span) (cuts segments : List (Segment (α × Option Nat))) : Prop where
  source_cuts : source cuts = window.slice (mark text)
  leftmost : Leftmost (isWord ∘ Prod.fst) (first.comap Prod.fst unmarked) false cuts
  source_eq : source segments = window.slice (mark text)
  shown_eq : shown segments = redactWindow isWord (first :: rest) text window
  sound : Sound (isWord ∘ Prod.fst) ((first :: rest).map (comap Prod.fst unmarked)) false segments
  kept : ∀ start, removed start cuts ⊆ removed start segments

theorem exists_passes (apart : ∀ rule ∈ first :: rest, Apart lettering rule) (text : List α)
    (window : Span) : ∃ cuts segments, Passes isWord first rest text window cuts segments := by
  have apart' := apart_marked apart
  rcases cut_spec (apart' _ List.mem_cons_self).solid false (window.slice (mark text)) with
    ⟨whole, leftmost⟩
  rcases exists_segments_cons apart' (window.slice (mark text)) with
    ⟨segments, source', shown', sound, kept⟩
  exact ⟨_, segments, whole, leftmost, source', shown', sound, kept⟩

namespace Passes

variable {cuts segments : List (Segment (α × Option Nat))}
  (passes : Passes isWord first rest text window cuts segments)

include passes

/-- Labels have no positions. -/
theorem exists_unmarked {label piece : List (α × Option Nat)} {char : α × Option Nat}
    (member : .replaced label piece ∈ segments) (inside : char ∈ label) :
    ∃ letter, char = unmarked letter := by
  rcases List.append_of_mem member with ⟨front, back, rfl⟩
  rcases (sound_append passes.sound).1 with ⟨rule, present, rfl, _⟩
  rcases List.mem_map.mp present with ⟨plain, _, rfl⟩
  rcases List.mem_map.mp inside with ⟨letter, _, rfl⟩
  exact ⟨letter, rfl⟩

/-- Where a match of the first rule starts, that rule replaces. -/
theorem exists_replacedIn_first (apart : Apart lettering first)
    (isolated : Isolated isWord text window) {span : Span}
    (matched : first.MatchesAt isWord text span) (covers : window.Covers span) :
    ∃ span', ReplacedIn isWord (first :: rest) text window segments first span' ∧
      span'.Holds span.start := by
  rcases isolated.exists_matchesIn matched covers with ⟨before, middle, after, same, start, _, found⟩
  have nonempty : middle ≠ [] := by
    rintro rfl
    rw [MatchesIn, matches_pattern_comap] at found
    exact apart.solid _ _ found
  rcases exists_removed_of_matchesIn window.start passes.leftmost (passes.source_cuts.trans same)
    nonempty found with ⟨⟨span', label⟩, member, holds⟩
  have sound : Sound (isWord ∘ Prod.fst) ([first].map (comap Prod.fst unmarked)) false cuts :=
    sound_of_leftmost (List.mem_singleton_self _) passes.leftmost
  rcases isolated.exists_replacedIn passes.source_cuts sound member with
    ⟨rule, ⟨present, matched', covers', _⟩, rfl⟩
  rcases List.mem_singleton.mp present with rfl
  rw [start] at holds
  exact ⟨span', ⟨List.mem_cons_self, matched', covers', passes.kept _ member⟩, holds⟩

/-- Of each match with word edges, something is replaced. -/
theorem exists_replacedIn_edged (apart : ∀ rule ∈ first :: rest, Apart lettering rule)
    (isolated : Isolated isWord text window) {rule : Rule α} (present : rule ∈ first :: rest)
    (edged : WordEdged isWord rule) {span : Span} (matched : rule.MatchesAt isWord text span)
    (covers : window.Covers span) :
    ∃ other span', ReplacedIn isWord (first :: rest) text window segments other span' ∧
      span'.Meets span := by
  have apart' := apart_marked apart
  rcases isolated.exists_matchesIn matched covers with
    ⟨before, middle, after, same, start, stop, found⟩
  have clean : (rule.comap Prod.fst unmarked).Clean (isWord ∘ Prod.fst) (shown segments) := by
    rw [passes.shown_eq]
    exact clean_subAll apart' _ _ (List.mem_map_of_mem present)
  have edges := edged _ _ _ ((matches_pattern_comap Prod.fst unmarked).mp found)
  have begins : ∀ right, headWord (isWord ∘ Prod.fst) middle right = true := by
    intro right
    rw [← headWord_map]
    exact edges.1 right
  have ends : ∀ left, lastWord (isWord ∘ Prod.fst) left middle = true := by
    intro left
    rw [← lastWord_map]
    exact edges.2 left
  rcases exists_meets_of_matchesIn window.start apart' passes.sound clean
    (passes.source_eq.trans same) begins ends found with ⟨⟨span', label⟩, member, meets⟩
  rcases isolated.exists_replacedIn passes.source_eq passes.sound member with ⟨other, replaced, _⟩
  rw [stop, start] at meets
  exact ⟨other, span', replaced, meets⟩

/-- A part is left in one piece exactly when nothing that is replaced meets it. -/
theorem infix_iff (apart : ∀ rule ∈ first :: rest, Apart lettering rule)
    (isolated : Isolated isWord text window) {part : Span} (nonempty : part.start < part.stop)
    (covers : window.Covers part) :
    part.slice (mark text) <:+: redactWindow isWord (first :: rest) text window ↔
      ∀ rule span, ReplacedIn isWord (first :: rest) text window segments rule span →
        ¬span.Meets part := by
  have sublist := Span.slice_sublist window (mark text)
  have fresh : Fresh segments := by
    intro label piece member char inside present
    rw [passes.source_eq] at present
    rcases passes.exists_unmarked member inside with ⟨letter, rfl⟩
    exact not_mem_mark text letter (sublist.subset present)
  have nodup : (source segments).Nodup := by
    rw [passes.source_eq]
    exact (nodup_mark text).sublist sublist
  have within : part.stop ≤ (mark text).length := by
    rw [length_mark]
    exact covers.2.trans isolated.inside
  have upper : part.start ≤ (mark text).length := nonempty.le.trans within
  have length : (part.slice (mark text)).length = part.stop - part.start := Span.length_slice within
  have front : (Span.slice ⟨window.start, part.start⟩ (mark text)).length =
      part.start - window.start := Span.length_slice upper
  have some' : part.slice (mark text) ≠ [] := by
    apply List.ne_nil_of_length_pos
    rw [length]
    omega
  have same := passes.source_eq.trans (Span.slice_eq_of_covers nonempty.le covers (mark text))
  rw [← passes.shown_eq, infix_shown_iff window.start
    (proper_of_sound (apart_marked apart) passes.sound) fresh nodup some' same, front, length,
    Nat.add_sub_cancel' covers.1, Nat.add_sub_cancel' nonempty.le]
  constructor
  · rintro untouched rule span ⟨_, _, _, member⟩
    exact untouched _ member
  · rintro untouched ⟨span, label⟩ member
    rcases isolated.exists_replacedIn passes.source_eq passes.sound member with
      ⟨rule, replaced, _⟩
    exact untouched rule span replaced

/-- Only characters of the window are left. -/
theorem holds_of_mem {char : α} {position : Nat}
    (member : (char, some position) ∈ redactWindow isWord (first :: rest) text window) :
    window.Holds position := by
  rw [← passes.shown_eq] at member
  rcases mem_shown member with kept | ⟨label, piece, present, inside⟩
  · have present := mem_source_of_kept kept
    rw [passes.source_eq] at present
    exact (mem_slice_mark.mp present).2
  · rcases passes.exists_unmarked present inside with ⟨letter, same⟩
    cases congrArg Prod.snd same

/-- A replaced part stands at its positions. -/
theorem slice_replaced (isolated : Isolated isWord text window)
    {front back : List (Segment (α × Option Nat))} {label piece : List (α × Option Nat)}
    (same : segments = front ++ .replaced label piece :: back) :
    Span.slice ⟨window.start + (source front).length,
      window.start + (source front).length + piece.length⟩ (mark text) = piece := by
  have whole : mark text = ((mark text).take window.start ++ source front) ++
      (piece ++ (source back ++ (mark text).drop window.stop)) := by
    have parts := passes.source_eq
    rw [same, source_append, source] at parts
    rw [List.append_assoc, ← List.append_assoc piece, ← List.append_assoc (source front), parts]
    exact mark_eq isolated.ordered text
  have length : ((mark text).take window.start ++ source front).length =
      window.start + (source front).length := by
    rw [List.length_append, isolated.length_take]
  rw [whole, ← length]
  exact Span.slice_middle _ _ _

/-- The replaced parts have a character exactly when the text has it where a rule replaces. -/
theorem exists_mem_replaced_iff (isolated : Isolated isWord text window) {property : α → Prop} :
    (∃ label piece, .replaced label piece ∈ segments ∧ ∃ char ∈ piece, property char.1) ↔
      ∃ rule span, ReplacedIn isWord (first :: rest) text window segments rule span ∧
        ∃ position char, span.Holds position ∧ text[position]? = some char ∧ property char := by
  constructor
  · rintro ⟨label, piece, member, ⟨char, position⟩, inside, holds⟩
    rcases List.append_of_mem member with ⟨front, back, same⟩
    rcases isolated.exists_replacedIn passes.source_eq passes.sound
      (mem_removed_iff.mpr ⟨front, piece, back, same, rfl⟩) with ⟨rule, replaced, _⟩
    rw [← passes.slice_replaced isolated same] at inside
    cases position with
    | none =>
        exact absurd ((Span.slice_sublist _ _).subset inside) (not_mem_mark text char)
    | some position =>
        rcases mem_slice_mark.mp inside with ⟨here, held⟩
        exact ⟨rule, _, replaced, position, char, held, here, holds⟩
  · rintro ⟨rule, span, ⟨_, _, _, member⟩, position, char, held, here, holds⟩
    rcases mem_removed_iff.mp member with ⟨front, piece, back, same, rfl⟩
    refine ⟨_, piece, same ▸ List.mem_append_right _ List.mem_cons_self, (char, some position), ?_,
      holds⟩
    rw [← passes.slice_replaced isolated same]
    exact mem_slice_mark.mpr ⟨here, held⟩

/-- What the passes replace in a window. -/
theorem replaces (apart : ∀ rule ∈ first :: rest, Apart lettering rule)
    (isolated : Isolated isWord text window) :
    Replaces isWord first rest text window
      (ReplacedIn isWord (first :: rest) text window segments) where
  matched := by
    rintro rule span ⟨present, matched, covers, _⟩
    exact ⟨present, matched, covers⟩
  apart := by
    rintro rule span other span' ⟨_, _, _, member⟩ ⟨_, _, _, also⟩ meets
    have same := eq_of_mem_removed member also meets
    have labels : rule.label.map unmarked = other.label.map unmarked := congrArg Prod.snd same
    exact ⟨List.map_injective_iff.mpr (fun _ _ => congrArg Prod.fst) labels,
      congrArg Prod.fst same⟩
  starts := by
    intro span matched covers
    exact passes.exists_replacedIn_first (apart first List.mem_cons_self) isolated matched covers
  edged := by
    intro rule present edged span matched covers
    exact passes.exists_replacedIn_edged apart isolated present edged matched covers

end Passes

/-- The rules replace matches of the text, and what is left of a part tells whether one of them
meets it. -/
theorem exists_replaces (apart : ∀ rule ∈ first :: rest, Apart lettering rule)
    (isolated : Isolated isWord text window) :
    ∃ replaced, Replaces isWord first rest text window replaced ∧
      (∀ part : Span, part.start < part.stop → window.Covers part →
        (part.slice (mark text) <:+: redactWindow isWord (first :: rest) text window ↔
          ∀ rule span, replaced rule span → ¬span.Meets part)) ∧
      ∀ char position, (char, some position) ∈ redactWindow isWord (first :: rest) text window →
        window.Holds position := by
  rcases exists_passes apart text window with ⟨cuts, segments, passes⟩
  refine ⟨_, passes.replaces apart isolated, ?_, ?_⟩
  · intro part nonempty covers
    exact passes.infix_iff apart isolated nonempty covers
  · intro char position member
    exact passes.holds_of_mem member

end Windows

end Rule
