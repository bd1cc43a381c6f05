import Chitragupt.Lib.JsonScalars

/-!
# Writing JSON documents

A style collects the choices of a writer: its escapes, its numbers, and the blanks it
puts between the items of a container.  Whatever a style writes the decoder reads back.
-/

namespace Python

namespace JsonWriter

open JsonDecoder

/-! ## Values -/

/-- White space of JSON. -/
def isBlank (code : Nat) : Bool := code == 32 || code == 9 || code == 10 || code == 13

/-- Text made of white space. -/
abbrev Blanks := { text : Text // ∀ code ∈ text, isBlank code = true }

/-- What may stand before and behind the items of a container; the items of the
outermost one have depth one. -/
structure Layout where
  opening : Nat → Blanks
  between : Nat → Blanks
  closing : Nat → Blanks
  behindColon : Blanks

/-- No blanks at all. -/
def Layout.compact : Layout where
  opening _ := ⟨[], nofun⟩
  between _ := ⟨[], nofun⟩
  closing _ := ⟨[], nofun⟩
  behindColon := ⟨[], nofun⟩

/-! ### Styles -/

/-- What can be read back from its text, with a bound on its depth. -/
inductive Readable : Nat → Json → Prop
  | null {room : Nat} : Readable room .null
  | bool {room : Nat} (value : Bool) : Readable room (.bool value)
  | int {room : Nat} (value : Int) : value.natAbs < 10 ^ maxStrDigits → Readable room (.int value)
  | finite {room : Nat} (value : ℚ) : Readable room (.float (.finite value))
  | nan {room : Nat} : Readable room (.float .nan)
  | infinite {room : Nat} (negative : Bool) : Readable room (.float (.infinite negative))
  | str {room : Nat} (text : Text) : Scalars text → Readable room (.str text)
  | list {room : Nat} (items : List Json) : (∀ item ∈ items, Readable room item) →
      Readable (room + 1) (.list items)
  | dict {room : Nat} (entries : List (Text × Json)) :
      (∀ entry ∈ entries, Scalars entry.1) → (entries.map Prod.fst).Nodup →
      (∀ entry ∈ entries, Readable room entry.2) → Readable (room + 1) (.dict entries)

theorem Readable.mono {room other : Nat} {value : Json} (readable : Readable room value)
    (le : room ≤ other) : Readable other value := by
  induction readable generalizing other with
  | null => exact .null
  | bool value => exact .bool value
  | int value bound => exact .int value bound
  | finite value => exact .finite value
  | nan => exact .nan
  | infinite negative => exact .infinite negative
  | str text valid => exact .str text valid
  | list items each ih =>
      cases other with
      | zero => omega
      | succ other => exact .list items fun item member => ih item member (by omega)
  | dict entries valid distinct each ih =>
      cases other with
      | zero => omega
      | succ other =>
          exact .dict entries valid distinct fun entry member => ih entry member (by omega)

structure Style extends Escaping, Layout, NumberFormat

namespace Style

variable (style : Style)

mutual

/-- The text of a value in containers of a depth. -/
def write (depth : Nat) : Json → Text
  | .null => .ofString "null"
  | .bool value => .ofString (if value then "true" else "false")
  | .int value => intText value
  | .float (.finite value) => style.print value
  | .float .nan => .ofString "NaN"
  | .float (.infinite negative) => .ofString (if negative then "-Infinity" else "Infinity")
  | .str text => style.quoted text
  | .list [] => [91, 93]
  | .list (item :: items) =>
      91 :: ((style.opening (depth + 1)).1 ++ (write (depth + 1) item ++
        (writeItems (depth + 1) items ++ ((style.closing depth).1 ++ [93]))))
  | .dict [] => [123, 125]
  | .dict ((key, value) :: entries) =>
      123 :: ((style.opening (depth + 1)).1 ++ (style.quoted key ++ 58 :: (style.behindColon.1 ++
        (write (depth + 1) value ++
          (writeEntries (depth + 1) entries ++ ((style.closing depth).1 ++ [125]))))))

/-- The items behind the first one. -/
def writeItems (depth : Nat) : List Json → Text
  | [] => []
  | item :: items =>
      44 :: ((style.between depth).1 ++ (write depth item ++ writeItems depth items))

/-- The entries behind the first one. -/
def writeEntries (depth : Nat) : List (Text × Json) → Text
  | [] => []
  | (key, value) :: entries =>
      44 :: ((style.between depth).1 ++ (style.quoted key ++ 58 :: (style.behindColon.1 ++
        (write depth value ++ writeEntries depth entries))))

end

mutual

/-- What is read back: the numbers may change. -/
def reading : Json → Json
  | .float (.finite value) => style.denotes value
  | .list items => .list (readingItems items)
  | .dict entries => .dict (readingEntries entries)
  | other => other

def readingItems : List Json → List Json
  | [] => []
  | item :: items => reading item :: readingItems items

def readingEntries : List (Text × Json) → List (Text × Json)
  | [] => []
  | (key, value) :: entries => (key, reading value) :: readingEntries entries

end

theorem readingItems_eq_map (items : List Json) :
    style.readingItems items = items.map style.reading := by
  induction items with
  | nil => rfl
  | cons item items ih => rw [readingItems, ih, List.map_cons]

theorem readingEntries_eq_map (entries : List (Text × Json)) :
    style.readingEntries entries =
      entries.map fun entry => (entry.1, style.reading entry.2) := by
  induction entries with
  | nil => rfl
  | cons entry entries ih =>
      rcases entry with ⟨key, value⟩
      rw [readingEntries, ih, List.map_cons]

/-- The keys stay. -/
theorem map_fst_readingEntries (entries : List (Text × Json)) :
    (style.readingEntries entries).map Prod.fst = entries.map Prod.fst := by
  rw [readingEntries_eq_map, List.map_map]
  rfl

end Style

/-! ### Blanks -/

theorem skip_blanks (blanks : Blanks) (rest : Text) : skip (blanks.1 ++ rest) = skip rest :=
  List.dropWhile_append_of_pos blanks.2

theorem skip_solid {code : Nat} (solid : isBlank code = false) (rest : Text) :
    skip (code :: rest) = code :: rest := by
  have kept : ¬isBlank code = true := by rw [solid]; exact Bool.false_ne_true
  exact List.dropWhile_cons_of_neg kept

/-- Neither blanks nor a delimiter behind them continue a number. -/
theorem endsNumber_blanks (blanks : Blanks) {rest : Text} (ends : EndsNumber rest) :
    EndsNumber (blanks.1 ++ rest) := by
  rcases blanks with ⟨_ | ⟨code, tail⟩, blank⟩
  · exact ends
  · have head := blank code List.mem_cons_self
    simp only [isBlank, Bool.or_eq_true, beq_iff_eq] at head
    rcases head with ((rfl | rfl) | rfl) | rfl <;>
      exact endsNumber_cons rfl (by decide) (by decide) (by decide)

/-- The first code point of a value: ASCII, neither a blank nor a closing bracket. -/
def StartsValue (text : Text) : Prop :=
  ∃ code tail, text = code :: tail ∧ isBlank code = false ∧ code ≠ 93 ∧ code < 128

theorem StartsValue.append {text : Text} (starts : StartsValue text) (rest : Text) :
    StartsValue (text ++ rest) := by
  rcases starts with ⟨code, tail, rfl, properties⟩
  exact ⟨code, tail ++ rest, rfl, properties⟩

theorem StartsValue.skip_eq {text : Text} (starts : StartsValue text) : skip text = text := by
  rcases starts with ⟨code, tail, rfl, solid, -⟩
  exact skip_solid solid tail

theorem startsValue_of_scanNumber {text rest : Text} {value : Json}
    (scanned : scanNumber text = .ok (value, rest)) : StartsValue text := by
  have solid : ∀ code, isDigit code = true →
      isBlank code = false ∧ code ≠ 93 ∧ code < 128 := by
    intro code digit
    simp only [isDigit, Bool.and_eq_true, decide_eq_true_eq] at digit
    simp only [isBlank, Bool.or_eq_false_iff, beq_eq_false_iff_ne]
    omega
  rcases starts_of_scanNumber scanned with ⟨code, tail, rfl, digit⟩ | ⟨code, tail, rfl, digit⟩
  · exact ⟨code, tail, rfl, solid code digit⟩
  · exact ⟨45, code :: tail, rfl, rfl, by decide, by decide⟩

/-! ### Reading a value -/

/-- From the start of a text the decoder gets behind the value it spells, within
`room` levels of containers. -/
def Reads (room : Nat) (text : Text) (value : Json) : Prop :=
  ∀ total stack rest, room + stack.length ≤ total → EndsNumber rest →
    ∃ first cost, scanOnce (total - stack.length) (text ++ rest) = .ok first ∧
      ∀ fuel, decode total (fuel + cost) stack first =
        decode total fuel stack (.complete value rest)

/-- A value without parts is scanned at once. -/
theorem reads_of_scanOnce {room : Nat} {text : Text} {value : Json}
    (scanned : ∀ room rest, EndsNumber rest →
      scanOnce room (text ++ rest) = .ok (.complete value rest)) : Reads room text value :=
  fun total stack rest _ ends =>
    ⟨.complete value rest, 0, scanned (total - stack.length) rest ends, fun _ => rfl⟩

/-- A value behind blanks is read in its container. -/
theorem Reads.opened {room : Nat} {text : Text} {value : Json} (reads : Reads room text value)
    {total : Nat} {stack : List Frame} {rest : Text} (frame : Frame)
    (fits : room + 1 + stack.length ≤ total) (ends : EndsNumber rest) :
    ∃ cost, ∀ fuel, decode total (fuel + cost) stack (.opened frame (text ++ rest)) =
      decode total fuel (frame :: stack) (.complete value rest) := by
  have inside : room + (frame :: stack).length ≤ total := by
    rw [List.length_cons]
    omega
  rcases reads total (frame :: stack) rest inside ends with ⟨first, cost, scanned, continued⟩
  refine ⟨cost + 1, fun fuel => ?_⟩
  rw [List.length_cons] at scanned
  rw [← Nat.add_assoc, decode, scanned]
  exact continued fuel

section Containers

variable (style : Style) {room total : Nat} {stack : List Frame} (rest : Text)

/-- What stands behind an item ends a number. -/
theorem endsNumber_writeItems (depth : Nat) (items : List Json) {behind : Text}
    (ends : EndsNumber behind) :
    EndsNumber (style.writeItems depth items ++ behind) := by
  cases items with
  | nil => exact ends
  | cons item items =>
      rw [Style.writeItems]
      exact endsNumber_cons rfl (by decide) (by decide) (by decide)

theorem endsNumber_writeEntries (depth : Nat) (entries : List (Text × Json)) {behind : Text}
    (ends : EndsNumber behind) :
    EndsNumber (style.writeEntries depth entries ++ behind) := by
  cases entries with
  | nil => exact ends
  | cons entry entries =>
      rcases entry with ⟨key, value⟩
      rw [Style.writeEntries]
      exact endsNumber_cons rfl (by decide) (by decide) (by decide)

theorem endsNumber_closing (blanks : Blanks) {bracket : Nat}
    (closes : bracket = 93 ∨ bracket = 125) :
    EndsNumber (blanks.1 ++ bracket :: rest) := by
  apply endsNumber_blanks
  rcases closes with rfl | rfl <;>
    exact endsNumber_cons rfl (by decide) (by decide) (by decide)

/-- The items behind a finished one are read in turn, up to the closing bracket. -/
theorem decode_writeItems {depth : Nat} {items : List Json}
    (starts : ∀ item ∈ items, StartsValue (style.write depth item))
    (reads : ∀ item ∈ items, Reads room (style.write depth item) (style.reading item))
    (fits : room + 1 + stack.length ≤ total) (blanks : Blanks) (done : List Json) (value : Json) :
    ∃ cost, ∀ fuel,
      decode total (fuel + cost) (.items done :: stack)
          (.complete value (style.writeItems depth items ++ (blanks.1 ++ 93 :: rest))) =
        decode total fuel stack
          (.complete (.list (done ++ value :: style.readingItems items)) rest) := by
  induction items generalizing done value with
  | nil =>
      have skipped : skip (blanks.1 ++ 93 :: rest) = 93 :: rest := by
        rw [skip_blanks, skip_solid rfl]
      refine ⟨1, fun fuel => ?_⟩
      simp only [Style.writeItems, List.nil_append, decode, resume, skipped]
      rfl
  | cons item items ih =>
      rw [List.forall_mem_cons] at starts reads
      have ends : EndsNumber (style.writeItems depth items ++ (blanks.1 ++ 93 :: rest)) :=
        endsNumber_writeItems style depth items (endsNumber_closing rest blanks (.inl rfl))
      rcases reads.1.opened (.items (done ++ [value])) fits ends with ⟨cost, read⟩
      rcases ih starts.2 reads.2 (done ++ [value]) (style.reading item) with ⟨others, continued⟩
      refine ⟨others + cost + 1, fun fuel => ?_⟩
      have skipped : skip ((style.between depth).1 ++ (style.write depth item ++
          (style.writeItems depth items ++ (blanks.1 ++ 93 :: rest)))) =
          style.write depth item ++
            (style.writeItems depth items ++ (blanks.1 ++ 93 :: rest)) := by
        rw [skip_blanks]
        exact (starts.1.append _).skip_eq
      have comma : resume (.items done) value (style.writeItems depth (item :: items) ++
          (blanks.1 ++ 93 :: rest)) =
          .ok (.opened (.items (done ++ [value])) (style.write depth item ++
            (style.writeItems depth items ++ (blanks.1 ++ 93 :: rest)))) := by
        have solid : isBlank 44 = false := rfl
        simp only [Style.writeItems, List.cons_append, List.append_assoc, resume,
          skip_solid solid, skipped]
      calc decode total (fuel + (others + cost + 1)) (.items done :: stack) _
          = decode total (fuel + others + cost) stack
              (.opened (.items (done ++ [value])) (style.write depth item ++
                (style.writeItems depth items ++ (blanks.1 ++ 93 :: rest)))) := by
            rw [← Nat.add_assoc, ← Nat.add_assoc, decode, comma]
            rfl
        _ = _ := by
            rw [read, continued, List.append_assoc]
            rfl

/-- A key is read with its colon, up to its value. -/
theorem scanKey_quoted {key text : Text} (valid : Scalars key) (starts : StartsValue text)
    (done : List (Text × Json)) :
    scanKey done (style.quoted key ++ 58 :: (style.behindColon.1 ++ text)) =
      .ok (.opened (.entries done key) text) := by
  have behind := style.scanString_quoted valid (58 :: (style.behindColon.1 ++ text))
  have colon : isBlank 58 = false := rfl
  have skipped : skip (style.behindColon.1 ++ text) = text := by
    rw [skip_blanks]
    exact starts.skip_eq
  have spelled : style.quoted key ++ 58 :: (style.behindColon.1 ++ text) =
      34 :: (key.flatMap style.escapeCode ++ 34 :: 58 :: (style.behindColon.1 ++ text)) := by
    simp [Escaping.quoted]
  rw [spelled]
  simp only [scanKey, behind, bind, Except.bind, skip_solid colon, skipped]
  rfl

/-- A new key of a dictionary goes to its end. -/
theorem assign_fresh {key : Text} (value : Json) {entries : List (Text × Json)}
    (fresh : key ∉ entries.map Prod.fst) :
    assign key value entries = entries ++ [(key, value)] := by
  induction entries with
  | nil => rfl
  | cons entry rest ih =>
      rcases entry with ⟨other, old⟩
      simp only [List.map_cons, List.mem_cons, not_or] at fresh
      have apart : (key == other) = false := beq_eq_false_iff_ne.mpr fresh.1
      rw [assign, if_neg (by simp [apart]), ih fresh.2, List.cons_append]

/-- The entry behind a finished one is read up to its value. -/
theorem resume_entry (depth : Nat) {next : Text} (valid : Scalars next) {text : Text}
    (starts : StartsValue text) {done : List (Text × Json)} {key : Text} (value : Json)
    (fresh : key ∉ done.map Prod.fst) :
    resume (.entries done key) value
        (44 :: ((style.between depth).1 ++ (style.quoted next ++ 58 ::
          (style.behindColon.1 ++ text)))) =
      .ok (.opened (.entries (done ++ [(key, value)]) next) text) := by
  have solid : isBlank 44 = false := rfl
  have quote : isBlank 34 = false := rfl
  have skipped : ∀ behind, skip (style.quoted next ++ behind) = style.quoted next ++ behind :=
    fun behind => skip_solid quote _
  simp only [resume, skip_solid solid, skip_blanks, skipped, assign_fresh value fresh]
  exact scanKey_quoted style valid starts _

theorem not_mem_of_nodup {done entries : List (Text × Json)} {key : Text} {value : Json}
    (distinct : ((done ++ (key, value) :: entries).map Prod.fst).Nodup) :
    key ∉ done.map Prod.fst := by
  rw [List.map_append, List.nodup_append] at distinct
  intro member
  exact distinct.2.2 key member key List.mem_cons_self rfl

/-- The entries behind a finished one are read in turn, up to the end of the last one. -/
theorem decode_writeEntries {depth : Nat} {entries : List (Text × Json)}
    (valid : ∀ entry ∈ entries, Scalars entry.1)
    (starts : ∀ entry ∈ entries, StartsValue (style.write depth entry.2))
    (reads : ∀ entry ∈ entries,
      Reads room (style.write depth entry.2) (style.reading entry.2))
    (fits : room + 1 + stack.length ≤ total) {tail : Text} (ends : EndsNumber tail)
    (done : List (Text × Json)) (key : Text) (value : Json)
    (distinct : ((done ++ (key, value) :: style.readingEntries entries).map Prod.fst).Nodup) :
    ∃ cost earlier lastKey last,
      done ++ (key, value) :: style.readingEntries entries = earlier ++ [(lastKey, last)] ∧
      ∀ fuel,
        decode total (fuel + cost) (.entries done key :: stack)
            (.complete value (style.writeEntries depth entries ++ tail)) =
          decode total fuel (.entries earlier lastKey :: stack) (.complete last tail) := by
  induction entries generalizing done key value with
  | nil => exact ⟨0, done, key, value, rfl, fun _ => rfl⟩
  | cons entry entries ih =>
      rcases entry with ⟨next, item⟩
      rw [List.forall_mem_cons] at valid starts reads
      have fresh := not_mem_of_nodup distinct
      have regrouped : done ++ (key, value) :: style.readingEntries ((next, item) :: entries) =
          (done ++ [(key, value)]) ++ (next, style.reading item) ::
            style.readingEntries entries := by
        simp [Style.readingEntries]
      have behind := endsNumber_writeEntries style depth entries ends
      rcases reads.1.opened (.entries (done ++ [(key, value)]) next) fits behind with
        ⟨cost, read⟩
      rcases ih valid.2 starts.2 reads.2 (done ++ [(key, value)]) next (style.reading item)
        (regrouped ▸ distinct) with ⟨others, earlier, lastKey, last, same, continued⟩
      refine ⟨others + cost + 1, earlier, lastKey, last, regrouped.trans same, fun fuel => ?_⟩
      have comma : resume (.entries done key) value
          (style.writeEntries depth ((next, item) :: entries) ++ tail) =
          .ok (.opened (.entries (done ++ [(key, value)]) next)
            (style.write depth item ++ (style.writeEntries depth entries ++ tail))) := by
        simp only [Style.writeEntries, List.cons_append, List.append_assoc]
        exact resume_entry style depth valid.1 (starts.1.append _) value fresh
      calc decode total (fuel + (others + cost + 1)) (.entries done key :: stack) _
          = decode total (fuel + others + cost) stack
              (.opened (.entries (done ++ [(key, value)]) next)
                (style.write depth item ++ (style.writeEntries depth entries ++ tail))) := by
            rw [← Nat.add_assoc, ← Nat.add_assoc, decode, comma]
            rfl
        _ = _ := by rw [read, continued]

/-- The closing bracket ends an object. -/
theorem resume_closing (blanks : Blanks) {done : List (Text × Json)} {key : Text} (value : Json)
    (fresh : key ∉ done.map Prod.fst) :
    resume (.entries done key) value (blanks.1 ++ 125 :: rest) =
      .ok (.complete (.dict (done ++ [(key, value)])) rest) := by
  have bracket : isBlank 125 = false := rfl
  simp only [resume, skip_blanks, skip_solid bracket, assign_fresh value fresh]

end Containers

/-! ### Round trip -/

namespace Style

variable (style : Style)

theorem startsValue_write {room : Nat} {value : Json} (readable : Readable room value)
    (depth : Nat) : StartsValue (style.write depth value) := by
  cases readable with
  | null => exact ⟨_, _, rfl, rfl, by decide, by decide⟩
  | bool value => cases value <;> exact ⟨_, _, rfl, rfl, by decide, by decide⟩
  | int value bound =>
      have scanned := scanNumber_intText bound endsNumber_nil
      rw [List.append_nil] at scanned
      exact startsValue_of_scanNumber scanned
  | finite value =>
      have scanned := style.reads value [] endsNumber_nil
      rw [List.append_nil] at scanned
      exact startsValue_of_scanNumber scanned
  | nan => exact ⟨_, _, rfl, rfl, by decide, by decide⟩
  | infinite negative => cases negative <;> exact ⟨_, _, rfl, rfl, by decide, by decide⟩
  | str text valid => exact ⟨34, _, rfl, rfl, by decide, by decide⟩
  | list items each => cases items <;> exact ⟨91, _, rfl, rfl, by decide, by decide⟩
  | dict entries valid distinct each =>
      cases entries <;> exact ⟨123, _, rfl, rfl, by decide, by decide⟩

/-- An opening bracket in front of the text of an item. -/
theorem scanOnce_list (depth : Nat) {room : Nat} (positive : 0 < room) {text : Text}
    (starts : StartsValue text) :
    scanOnce room (91 :: ((style.opening depth).1 ++ text)) =
      .ok (.opened (.items []) text) := by
  have skipped : skip ((style.opening depth).1 ++ text) = text := by
    rw [skip_blanks]
    exact starts.skip_eq
  rcases starts with ⟨code, tail, rfl, -, open_, -⟩
  rw [scanOnce, if_neg (Nat.pos_iff_ne_zero.mp positive), skipped]
  split
  next closed => exact absurd (List.head_eq_of_cons_eq closed) open_
  next => rfl

theorem scanOnce_dict (depth : Nat) {room : Nat} (positive : 0 < room) {key text : Text}
    (valid : Scalars key) (starts : StartsValue text) :
    scanOnce room (123 :: ((style.opening depth).1 ++ (style.quoted key ++ 58 ::
        (style.behindColon.1 ++ text)))) =
      .ok (.opened (.entries [] key) text) := by
  have quote : isBlank 34 = false := rfl
  have skipped : ∀ behind, skip (style.quoted key ++ behind) = style.quoted key ++ behind :=
    fun behind => skip_solid quote _
  rw [scanOnce, if_neg (Nat.pos_iff_ne_zero.mp positive), skip_blanks, skipped]
  exact scanKey_quoted style valid starts []

theorem reads_list {room depth : Nat} {items : List Json}
    (starts : ∀ item ∈ items, StartsValue (style.write (depth + 1) item))
    (reads : ∀ item ∈ items, Reads room (style.write (depth + 1) item) (style.reading item)) :
    Reads (room + 1) (style.write depth (.list items)) (style.reading (.list items)) := by
  intro total stack rest fits ends
  have positive : 0 < total - stack.length := by omega
  cases items with
  | nil =>
      refine ⟨.complete (.list []) rest, 0, ?_, fun _ => rfl⟩
      have bracket : isBlank 93 = false := rfl
      rw [write, List.cons_append, scanOnce, if_neg (Nat.pos_iff_ne_zero.mp positive),
        List.cons_append, skip_solid bracket]
      rfl
  | cons item items =>
      rw [List.forall_mem_cons] at starts reads
      have behind := endsNumber_writeItems style (depth + 1) items
        (endsNumber_closing rest (style.closing depth) (.inl rfl))
      rcases reads.1.opened (.items []) fits behind with ⟨cost, read⟩
      rcases decode_writeItems style rest starts.2 reads.2 fits (style.closing depth) []
        (style.reading item) with ⟨others, continued⟩
      have spelled : style.write depth (.list (item :: items)) ++ rest =
          91 :: ((style.opening (depth + 1)).1 ++ (style.write (depth + 1) item ++
            (style.writeItems (depth + 1) items ++
              ((style.closing depth).1 ++ 93 :: rest)))) := by
        simp [write]
      refine ⟨.opened (.items []) (style.write (depth + 1) item ++
        (style.writeItems (depth + 1) items ++ ((style.closing depth).1 ++ 93 :: rest))),
        others + cost, ?_, fun fuel => ?_⟩
      · rw [spelled]
        exact style.scanOnce_list (depth + 1) positive (starts.1.append _)
      · rw [← Nat.add_assoc, read, continued]
        rfl

theorem reads_dict {room depth : Nat} {entries : List (Text × Json)}
    (valid : ∀ entry ∈ entries, Scalars entry.1) (distinct : (entries.map Prod.fst).Nodup)
    (starts : ∀ entry ∈ entries, StartsValue (style.write (depth + 1) entry.2))
    (reads : ∀ entry ∈ entries,
      Reads room (style.write (depth + 1) entry.2) (style.reading entry.2)) :
    Reads (room + 1) (style.write depth (.dict entries)) (style.reading (.dict entries)) := by
  intro total stack rest fits ends
  have positive : 0 < total - stack.length := by omega
  cases entries with
  | nil =>
      refine ⟨.complete (.dict []) rest, 0, ?_, fun _ => rfl⟩
      have bracket : isBlank 125 = false := rfl
      rw [write, List.cons_append, scanOnce, if_neg (Nat.pos_iff_ne_zero.mp positive),
        List.cons_append, skip_solid bracket]
      rfl
  | cons entry entries =>
      rcases entry with ⟨key, value⟩
      rw [List.forall_mem_cons] at valid starts reads
      have closed := endsNumber_closing rest (style.closing depth) (.inr rfl)
      have behind := endsNumber_writeEntries style (depth + 1) entries closed
      rcases reads.1.opened (.entries [] key) fits behind with ⟨cost, read⟩
      rw [← style.map_fst_readingEntries, readingEntries] at distinct
      rcases decode_writeEntries style valid.2 starts.2 reads.2 fits closed [] key
        (style.reading value) distinct with ⟨others, earlier, lastKey, last, same, continued⟩
      have fresh : lastKey ∉ earlier.map Prod.fst := by
        rw [← List.nil_append ((key, style.reading value) :: _), same] at distinct
        exact not_mem_of_nodup distinct
      have spelled : style.write depth (.dict ((key, value) :: entries)) ++ rest =
          123 :: ((style.opening (depth + 1)).1 ++ (style.quoted key ++ 58 ::
            (style.behindColon.1 ++ (style.write (depth + 1) value ++
              (style.writeEntries (depth + 1) entries ++
                ((style.closing depth).1 ++ 125 :: rest)))))) := by
        simp [write]
      refine ⟨.opened (.entries [] key) (style.write (depth + 1) value ++
        (style.writeEntries (depth + 1) entries ++ ((style.closing depth).1 ++ 125 :: rest))),
        1 + others + cost, ?_, fun fuel => ?_⟩
      · rw [spelled]
        exact style.scanOnce_dict (depth + 1) positive valid.1 (starts.1.append _)
      · rw [← Nat.add_assoc, read, ← Nat.add_assoc, continued, decode,
          resume_closing rest (style.closing depth) last fresh, ← same]
        rfl

/-- Whatever is readable is read: by induction on its containers. -/
theorem reads_write {room : Nat} {value : Json} (readable : Readable room value)
    (depth : Nat) : Reads room (style.write depth value) (style.reading value) := by
  induction readable generalizing depth with
  | null => exact reads_of_scanOnce fun _ _ _ => rfl
  | bool value => cases value <;> exact reads_of_scanOnce fun _ _ _ => rfl
  | int value bound =>
      refine reads_of_scanOnce fun room rest ends => ?_
      exact scanOnce_of_scanNumber (scanNumber_intText bound ends)
  | finite value =>
      refine reads_of_scanOnce fun room rest ends => ?_
      exact scanOnce_of_scanNumber (style.reads value rest ends)
  | nan => exact reads_of_scanOnce fun _ _ _ => rfl
  | infinite negative => cases negative <;> exact reads_of_scanOnce fun _ _ _ => rfl
  | str text valid =>
      refine reads_of_scanOnce fun room rest _ => ?_
      have literal := style.scanString_quoted valid rest
      have spelled : style.write depth (.str text) ++ rest =
          34 :: (text.flatMap style.escapeCode ++ 34 :: rest) := by
        simp [write, Escaping.quoted]
      rw [spelled]
      simp only [scanOnce, literal, bind, Except.bind]
      rfl
  | list items each ih =>
      exact style.reads_list
        (fun item member => style.startsValue_write (each item member) (depth + 1))
        (fun item member => ih item member (depth + 1))
  | dict entries valid distinct each ih =>
      exact style.reads_dict valid distinct
        (fun entry member => style.startsValue_write (each entry member) (depth + 1))
        (fun entry member => ih entry member (depth + 1))

/-- The decoder makes of a text the document that was written, as far as its numbers
allow. -/
theorem loads_write {room : Nat} {value : Json} (readable : Readable room value) :
    loads room (style.write 0 value) = .ok (style.reading value) := by
  have starts := style.startsValue_write readable 0
  rcases style.reads_write readable 0 room [] [] (by simp) endsNumber_nil with
    ⟨first, cost, scanned, continued⟩
  rw [List.append_nil, List.length_nil, Nat.sub_zero] at scanned
  have skipped := starts.skip_eq
  have noMark : ¬(style.write 0 value).head? = some 0xFEFF := by
    rcases starts with ⟨code, tail, same, -, -, ascii⟩
    rw [same, List.head?_cons, Option.some.injEq]
    omega
  have decoded : decode room (style.write 0 value).length [] first =
      .ok (style.reading value, []) := by
    have enough := decode_of_scanOnce (skipped.symm ▸ scanned) cost
    rw [← enough, continued]
    cases (style.write 0 value).length <;> rfl
  simp only [loads, if_neg noMark, skipped, scanned, decoded, bind, Except.bind]
  rfl

/-! ### Numbers that are read as they were printed -/

theorem writeItems_readingItems {depth : Nat} {items : List Json}
    (each : ∀ item ∈ items, style.write depth (style.reading item) = style.write depth item) :
    style.writeItems depth (style.readingItems items) = style.writeItems depth items := by
  induction items with
  | nil => rfl
  | cons item items ih =>
      rw [List.forall_mem_cons] at each
      rw [readingItems, writeItems, each.1, ih each.2, writeItems]

theorem writeEntries_readingEntries {depth : Nat} {entries : List (Text × Json)}
    (each : ∀ entry ∈ entries,
      style.write depth (style.reading entry.2) = style.write depth entry.2) :
    style.writeEntries depth (style.readingEntries entries) =
      style.writeEntries depth entries := by
  induction entries with
  | nil => rfl
  | cons entry entries ih =>
      rcases entry with ⟨key, value⟩
      rw [List.forall_mem_cons] at each
      rw [readingEntries, writeEntries, each.1, ih each.2, writeEntries]

/-- What is read has the same text again when that holds of numbers. -/
theorem write_reading
    (same : ∀ value, ∃ number, style.denotes value = .float (.finite number) ∧
      style.print number = style.print value)
    {room : Nat} {value : Json} (readable : Readable room value) (depth : Nat) :
    style.write depth (style.reading value) = style.write depth value := by
  induction readable generalizing depth with
  | null => rfl
  | bool value => rfl
  | int value bound => rfl
  | finite value =>
      rcases same value with ⟨number, denoted, printed⟩
      rw [reading, denoted, write, printed, write]
  | nan => rfl
  | infinite negative => rfl
  | str text valid => rfl
  | list items each ih =>
      cases items with
      | nil => rfl
      | cons item items =>
          rw [List.forall_mem_cons] at ih
          rw [reading, readingItems, write, ih.1, style.writeItems_readingItems
            fun other member => ih.2 other member (depth + 1), write]
  | dict entries valid distinct each ih =>
      cases entries with
      | nil => rfl
      | cons entry entries =>
          rcases entry with ⟨key, value⟩
          rw [List.forall_mem_cons] at ih
          rw [reading, readingEntries, write, ih.1, style.writeEntries_readingEntries
            fun other member => ih.2 other member (depth + 1), write]

/-! ### The characters of a text -/

mutual

/-- The strings of a value, its keys included. -/
def texts : Json → List Text
  | .str text => [text]
  | .list items => textsOfItems items
  | .dict entries => textsOfEntries entries
  | _ => []

def textsOfItems : List Json → List Text
  | [] => []
  | item :: items => texts item ++ textsOfItems items

def textsOfEntries : List (Text × Json) → List Text
  | [] => []
  | (key, value) :: entries => key :: (texts value ++ textsOfEntries entries)

end

theorem mem_textsOfEntries {text : Text} {entries : List (Text × Json)} :
    text ∈ textsOfEntries entries ↔
      ∃ entry ∈ entries, text = entry.1 ∨ text ∈ texts entry.2 := by
  induction entries with
  | nil => simp [textsOfEntries]
  | cons entry entries ih =>
      rcases entry with ⟨key, value⟩
      rw [textsOfEntries, List.mem_cons, List.mem_append, ih, List.exists_mem_cons_iff, or_assoc]

/-- A visible character, or one of the texts that the writer leaves as it is. -/
def Shows (texts : List Text) (code : Nat) : Prop :=
  32 < code ∧ code < 127 ∨ ∃ text ∈ texts, code ∈ text ∧ style.plain code = true

variable {style}

theorem Shows.mono {texts others : List Text} {code : Nat} (shows : style.Shows texts code)
    (subset : texts ⊆ others) : style.Shows others code := by
  rcases shows with visible | ⟨text, member, inside, plain⟩
  · exact .inl visible
  · exact .inr ⟨text, subset member, inside, plain⟩

theorem shows_quoted {text : Text} {code : Nat} (member : code ∈ style.quoted text) :
    style.Shows [text] code := by
  rcases style.mem_quoted member with visible | ⟨inside, plain⟩
  · exact .inl visible
  · exact .inr ⟨text, List.mem_singleton_self text, inside, plain⟩

theorem shows_writeItems {depth code : Nat} (compact : style.toLayout = .compact)
    {items : List Json}
    (each : ∀ item ∈ items, code ∈ style.write depth item → style.Shows (texts item) code)
    (member : code ∈ style.writeItems depth items) : style.Shows (textsOfItems items) code := by
  induction items with
  | nil => cases member
  | cons item items ih =>
      rw [List.forall_mem_cons] at each
      have between : (style.between depth).1 = [] := by rw [compact]; rfl
      rw [writeItems, between, List.nil_append, List.mem_cons, List.mem_append] at member
      rw [textsOfItems]
      rcases member with rfl | first | rest
      · exact .inl (by decide)
      · exact (each.1 first).mono (List.subset_append_left _ _)
      · exact (ih each.2 rest).mono (List.subset_append_right _ _)

theorem shows_writeEntries {depth code : Nat} (compact : style.toLayout = .compact)
    {entries : List (Text × Json)}
    (each : ∀ entry ∈ entries, code ∈ style.write depth entry.2 →
      style.Shows (texts entry.2) code)
    (member : code ∈ style.writeEntries depth entries) :
    style.Shows (textsOfEntries entries) code := by
  induction entries with
  | nil => cases member
  | cons entry entries ih =>
      rcases entry with ⟨key, value⟩
      rw [List.forall_mem_cons] at each
      have between : (style.between depth).1 = [] := by rw [compact]; rfl
      have colon : style.behindColon.1 = [] := by rw [compact]; rfl
      rw [writeEntries, between, colon, List.nil_append, List.nil_append, List.mem_cons,
        List.mem_append, List.mem_cons, List.mem_append] at member
      rw [textsOfEntries]
      rcases member with rfl | named | rfl | first | rest
      · exact .inl (by decide)
      · exact (shows_quoted named).mono (by simp)
      · exact .inl (by decide)
      · exact (each.1 first).mono
          (List.subset_cons_of_subset _ (List.subset_append_left _ _))
      · exact (ih each.2 rest).mono
          (List.subset_cons_of_subset _ (List.subset_append_right _ _))

/-- A compact text shows visible characters, and what its writer leaves of the strings. -/
theorem shows_write {room : Nat} {value : Json} (readable : Readable room value)
    (compact : style.toLayout = .compact) {depth code : Nat}
    (member : code ∈ style.write depth value) : style.Shows (texts value) code := by
  have opening : ∀ depth, (style.opening depth).1 = [] := by rw [compact]; exact fun _ => rfl
  have closing : ∀ depth, (style.closing depth).1 = [] := by rw [compact]; exact fun _ => rfl
  have colon : style.behindColon.1 = [] := by rw [compact]; rfl
  induction readable generalizing depth with
  | null =>
      have visible : ∀ code ∈ Text.ofString "null", 32 < code ∧ code < 127 := by decide
      exact .inl (visible code member)
  | bool value =>
      have visible : ∀ value : Bool, ∀ code ∈ Text.ofString (if value then "true" else "false"),
          32 < code ∧ code < 127 := by decide
      exact .inl (visible value code member)
  | int value bound => exact .inl (visible_intText value code member)
  | finite value => exact .inl (style.visible value code member)
  | nan =>
      have visible : ∀ code ∈ Text.ofString "NaN", 32 < code ∧ code < 127 := by decide
      exact .inl (visible code member)
  | infinite negative =>
      have visible : ∀ negative : Bool,
          ∀ code ∈ Text.ofString (if negative then "-Infinity" else "Infinity"),
          32 < code ∧ code < 127 := by decide
      exact .inl (visible negative code member)
  | str text _ => exact shows_quoted member
  | list items each ih =>
      rw [texts]
      cases items with
      | nil =>
          have visible : ∀ code ∈ [91, 93], 32 < code ∧ code < 127 := by decide
          exact .inl (visible code member)
      | cons item items =>
          rw [List.forall_mem_cons] at ih
          simp only [write, opening, closing, List.nil_append, List.mem_cons, List.mem_append,
            List.not_mem_nil, or_false] at member
          rw [textsOfItems]
          rcases member with rfl | first | rest | rfl
          · exact .inl (by decide)
          · exact (ih.1 first).mono (List.subset_append_left _ _)
          · exact (shows_writeItems compact (fun item inside => ih.2 item inside) rest).mono
              (List.subset_append_right _ _)
          · exact .inl (by decide)
  | dict entries _ _ each ih =>
      rw [texts]
      cases entries with
      | nil =>
          have visible : ∀ code ∈ [123, 125], 32 < code ∧ code < 127 := by decide
          exact .inl (visible code member)
      | cons entry entries =>
          rcases entry with ⟨key, value⟩
          rw [List.forall_mem_cons] at ih
          simp only [write, opening, closing, colon, List.nil_append, List.mem_cons,
            List.mem_append, List.not_mem_nil, or_false] at member
          rw [textsOfEntries]
          rcases member with rfl | named | rfl | first | rest | rfl
          · exact .inl (by decide)
          · exact (shows_quoted named).mono (by simp)
          · exact .inl (by decide)
          · exact (ih.1 first).mono
              (List.subset_cons_of_subset _ (List.subset_append_left _ _))
          · exact (shows_writeEntries compact (fun entry inside => ih.2 entry inside) rest).mono
              (List.subset_cons_of_subset _ (List.subset_append_right _ _))
          · exact .inl (by decide)

variable (style)

/-! ### An object that breaks off -/

/-- The text of an object in a compact style, up to the value of the entry behind
the given ones. -/
def writeBroken (entries : List (Text × Json)) (key : Text) : Text :=
  match entries with
  | [] => 123 :: (style.quoted key ++ [58])
  | (first, value) :: entries =>
      123 :: (style.quoted first ++ 58 :: (style.write 1 value ++
        (style.writeEntries 1 entries ++ 44 :: (style.quoted key ++ [58]))))

/-- An object goes on behind any of its keys. -/
theorem write_dict_append (compact : style.toLayout = .compact) (entries : List (Text × Json))
    (key : Text) (value : Json) (others : List (Text × Json)) :
    style.write 0 (.dict (entries ++ (key, value) :: others)) =
      style.writeBroken entries key ++
        (style.write 1 value ++ (style.writeEntries 1 others ++ [125])) := by
  have opening : (style.opening 1).1 = [] := by rw [compact]; rfl
  have between : (style.between 1).1 = [] := by rw [compact]; rfl
  have closing : (style.closing 0).1 = [] := by rw [compact]; rfl
  have colon : style.behindColon.1 = [] := by rw [compact]; rfl
  have behind : ∀ entries, style.writeEntries 1 (entries ++ (key, value) :: others) =
      style.writeEntries 1 entries ++ 44 :: (style.quoted key ++ 58 ::
        (style.write 1 value ++ style.writeEntries 1 others)) := by
    intro entries
    induction entries with
    | nil => simp [writeEntries, between, colon]
    | cons entry entries ih =>
        rcases entry with ⟨other, item⟩
        rw [List.cons_append, writeEntries, ih]
        simp [writeEntries, between, colon]
  cases entries with
  | nil => simp [write, writeBroken, opening, closing, colon]
  | cons entry entries =>
      rcases entry with ⟨first, item⟩
      rw [List.cons_append, write, behind]
      simp [writeBroken, opening, closing, colon]

/-- A value that cannot be scanned ends the decoder. -/
theorem decode_refused {broken : Text}
    (refused : ∀ room, ∃ error, scanOnce room broken = .error error) (total fuel : Nat)
    (stack : List Frame) (frame : Frame) :
    ∃ error, decode total fuel stack (.opened frame broken) = .error error := by
  cases fuel with
  | zero => cases stack <;> exact ⟨recursionError, rfl⟩
  | succ fuel =>
      rcases refused (total - (stack.length + 1)) with ⟨error, scanned⟩
      refine ⟨error, ?_⟩
      rw [decode, scanned]
      rfl

theorem decode_writeBroken {room : Nat} {entries : List (Text × Json)} {key broken : Text}
    (compact : style.toLayout = .compact) (valid : ∀ entry ∈ entries, Scalars entry.1)
    (validKey : Scalars key) (distinct : (entries.map Prod.fst).Nodup)
    (readable : ∀ entry ∈ entries, Readable room entry.2) (starts : StartsValue broken)
    (refused : ∀ room, ∃ error, scanOnce room broken = .error error) :
    ∃ first cost, scanOnce (room + 1) (style.writeBroken entries key ++ broken) = .ok first ∧
      ∀ fuel, ∃ error, decode (room + 1) (fuel + cost) [] first = .error error := by
  have opening : (style.opening 1).1 = [] := by rw [compact]; rfl
  have between : (style.between 1).1 = [] := by rw [compact]; rfl
  have colon : style.behindColon.1 = [] := by rw [compact]; rfl
  cases entries with
  | nil =>
      have scanned := style.scanOnce_dict 1 (Nat.succ_pos room) validKey starts
      rw [opening, colon] at scanned
      have spelled : style.writeBroken [] key ++ broken =
          123 :: ([] ++ (style.quoted key ++ 58 :: ([] ++ broken))) := by
        simp [writeBroken]
      refine ⟨_, 0, spelled ▸ scanned, fun fuel => decode_refused refused _ fuel _ _⟩
  | cons entry entries =>
      rcases entry with ⟨first, value⟩
      rw [List.forall_mem_cons] at valid readable
      have begins := style.startsValue_write readable.1 1
      have ends : EndsNumber (44 :: (style.quoted key ++ 58 :: broken)) :=
        endsNumber_cons rfl (by decide) (by decide) (by decide)
      have behind := endsNumber_writeEntries style 1 entries ends
      have fits : room + 1 + ([] : List Frame).length ≤ room + 1 := le_rfl
      rcases (style.reads_write readable.1 1).opened (.entries [] first) fits behind with
        ⟨cost, read⟩
      rw [← style.map_fst_readingEntries, readingEntries] at distinct
      rcases decode_writeEntries style valid.2
        (fun entry member => style.startsValue_write (readable.2 entry member) 1)
        (fun entry member => style.reads_write (readable.2 entry member) 1)
        fits ends [] first (style.reading value) distinct
        with ⟨others, earlier, lastKey, last, same, continued⟩
      have fresh : lastKey ∉ earlier.map Prod.fst := by
        rw [← List.nil_append ((first, style.reading value) :: _), same] at distinct
        exact not_mem_of_nodup distinct
      have scanned := style.scanOnce_dict 1 (Nat.succ_pos room) valid.1
        (begins.append (style.writeEntries 1 entries ++ 44 :: (style.quoted key ++ 58 :: broken)))
      have comma := resume_entry style 1 validKey starts last fresh
      rw [opening, colon] at scanned
      rw [between, colon] at comma
      have spelled : style.writeBroken ((first, value) :: entries) key ++ broken =
          123 :: ([] ++ (style.quoted first ++ 58 :: ([] ++ (style.write 1 value ++
            (style.writeEntries 1 entries ++ 44 :: (style.quoted key ++ 58 :: broken)))))) := by
        simp [writeBroken]
      refine ⟨_, 1 + others + cost, spelled ▸ scanned, fun fuel => ?_⟩
      have stuck := decode_refused refused (room + 1) fuel []
        (.entries (earlier ++ [(lastKey, last)]) key)
      rcases stuck with ⟨error, stuck⟩
      refine ⟨error, ?_⟩
      rw [← Nat.add_assoc, read, ← Nat.add_assoc, continued, decode]
      change (do decode (room + 1) fuel [] (← resume _ _ _)) = _
      rw [← List.nil_append (style.quoted key ++ 58 :: broken), ← List.nil_append broken, comma]
      exact stuck

/-- An object that breaks off in a value that cannot be scanned is refused. -/
theorem loads_writeBroken {room : Nat} {entries : List (Text × Json)} {key broken : Text}
    (compact : style.toLayout = .compact) (valid : ∀ entry ∈ entries, Scalars entry.1)
    (validKey : Scalars key) (distinct : (entries.map Prod.fst).Nodup)
    (readable : ∀ entry ∈ entries, Readable room entry.2) (starts : StartsValue broken)
    (refused : ∀ room, ∃ error, scanOnce room broken = .error error) (value : Json) :
    loads (room + 1) (style.writeBroken entries key ++ broken) ≠ .ok value := by
  rcases style.decode_writeBroken compact valid validKey distinct readable starts refused with
    ⟨first, cost, scanned, stuck⟩
  have brace : isBlank 123 = false := rfl
  have skipped : skip (style.writeBroken entries key ++ broken) =
      style.writeBroken entries key ++ broken := by
    cases entries <;> exact skip_solid brace _
  have failed : ∃ error, decode (room + 1) (style.writeBroken entries key ++ broken).length []
      first = .error error := by
    rcases stuck (style.writeBroken entries key ++ broken).length with ⟨error, failed⟩
    exact ⟨error, (decode_of_scanOnce (skipped.symm ▸ scanned) cost) ▸ failed⟩
  rcases failed with ⟨error, failed⟩
  intro read
  simp only [loads, skipped, scanned, failed, bind, Except.bind] at read
  split at read <;> cases read

end Style

end JsonWriter

end Python
