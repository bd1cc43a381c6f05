import Mathlib.Data.List.TakeDrop
import Chitragupt.Lib.Text

/-!
# Server-sent events

The text form of an event stream: every event is a frame of named fields, and an
empty line ends it.  Readers of such streams differ in the characters that end a line
for them; frames whose texts have none of these are read back.
-/

namespace ServerSentEvents

/-! ## Lines -/

/-- The code points that end a line for a reader. -/
structure LineEnds where
  isEnd : Nat → Bool
  lineFeed : isEnd 10 = true
  carriageReturn : isEnd 13 = true
  visible : ∀ code, 32 ≤ code → code < 127 → isEnd code = false

namespace LineEnds

variable (ends : LineEnds)

/-- The lines of a text behind an open one.  A carriage return takes a line feed behind
it along. -/
def linesFrom (line : Text) : Text → List Text
  | [] => if line = [] then [] else [line]
  | 13 :: 10 :: rest => line :: linesFrom [] rest
  | code :: rest =>
      if ends.isEnd code then line :: linesFrom [] rest else linesFrom (line ++ [code]) rest

def lines (text : Text) : List Text := ends.linesFrom [] text

/-- A text that no line ends in. -/
def Plain (text : Text) : Prop := ∀ code ∈ text, ends.isEnd code = false

theorem plain_of_visible {text : Text} (visible : ∀ code ∈ text, 32 ≤ code ∧ code < 127) :
    ends.Plain text :=
  fun code member => ends.visible code (visible code member).1 (visible code member).2

theorem Plain.append {text other : Text} (plain : ends.Plain text)
    (otherPlain : ends.Plain other) : ends.Plain (text ++ other) := by
  intro code member
  rcases List.mem_append.mp member with first | last
  · exact plain code first
  · exact otherPlain code last

theorem linesFrom_of_isEnd_eq_false {code : Nat} (inside : ends.isEnd code = false)
    (line rest : Text) :
    ends.linesFrom line (code :: rest) = ends.linesFrom (line ++ [code]) rest := by
  rw [linesFrom, inside]
  · rfl
  · rintro tail rfl
    rw [ends.carriageReturn] at inside
    cases inside

/-- A line goes on as long as nothing ends it. -/
theorem linesFrom_append {part : Text} (plain : ends.Plain part) (line rest : Text) :
    ends.linesFrom line (part ++ rest) = ends.linesFrom (line ++ part) rest := by
  induction part generalizing line with
  | nil => rw [List.nil_append, List.append_nil]
  | cons code part ih =>
      rw [Plain, List.forall_mem_cons] at plain
      rw [List.cons_append, ends.linesFrom_of_isEnd_eq_false plain.1, ih plain.2,
        List.append_assoc, List.singleton_append]

/-- And ends at the first code point that ends it. -/
theorem linesFrom_break {code : Nat} (ending : ends.isEnd code = true) (single : code ≠ 13)
    (line rest : Text) :
    ends.linesFrom line (code :: rest) = line :: ends.linesFrom [] rest := by
  rw [linesFrom, ending]
  · rfl
  · rintro tail rfl
    exact absurd rfl single

theorem lines_append {part : Text} (plain : ends.Plain part) {code : Nat}
    (ending : ends.isEnd code = true) (single : code ≠ 13) (rest : Text) :
    ends.lines (part ++ code :: rest) = part :: ends.lines rest := by
  rw [lines, ends.linesFrom_append plain, ends.linesFrom_break ending single]
  rfl

end LineEnds

/-! ## Frames -/

/-- An event: its name and its data. -/
structure Frame where
  name : Text
  data : Text

namespace Frame

variable (frame : Frame)

def nameLine : Text := .ofString "event: " ++ frame.name

def dataLine : Text := .ofString "data: " ++ frame.data

/-- The text of one event. -/
def write : Text := frame.nameLine ++ 10 :: (frame.dataLine ++ [10, 10])

/-- No line ends within the name or the data. -/
structure Plain (ends : LineEnds) : Prop where
  name : ends.Plain frame.name
  data : ends.Plain frame.data

variable {frame} {ends : LineEnds}

theorem plain_nameLine (plain : ends.Plain frame.name) : ends.Plain frame.nameLine :=
  .append ends (ends.plain_of_visible (by decide)) plain

theorem plain_dataLine (plain : ends.Plain frame.data) : ends.Plain frame.dataLine :=
  .append ends (ends.plain_of_visible (by decide)) plain

/-- The three lines of an event. -/
theorem lines_write (plain : frame.Plain ends) (rest : Text) :
    ends.lines (frame.write ++ rest) =
      frame.nameLine :: frame.dataLine :: [] :: ends.lines rest := by
  have feed : (10 : Nat) ≠ 13 := by decide
  have spelled : frame.write ++ rest =
      frame.nameLine ++ 10 :: (frame.dataLine ++ 10 :: ([] ++ 10 :: rest)) := by
    simp [write]
  have empty : ends.Plain [] := by
    intro code member
    cases member
  rw [spelled, ends.lines_append (plain_nameLine plain.name) ends.lineFeed feed,
    ends.lines_append (plain_dataLine plain.data) ends.lineFeed feed,
    ends.lines_append empty ends.lineFeed feed]

end Frame

/-- The text of a stream. -/
def write (frames : List Frame) : Text := frames.flatMap Frame.write

/-! ## The standard reader -/

/-- What the lines since the last event have said. -/
structure Pending where
  eventType : Text := []
  data : Text := []

/-- The name and the value of a field; one blank behind the colon is not part of the
value. -/
def splitField (line : Text) : Text × Text :=
  match line.span (· != 58) with
  | (name, []) => (name, [])
  | (name, _ :: value) => (name, if value.head? = some 32 then value.tail else value)

/-- Take a line into account; fields of other names are ignored. -/
def Pending.take (pending : Pending) (line : Text) : Pending :=
  let (name, value) := splitField line
  if name = .ofString "event" then { pending with eventType := value }
  else if name = .ofString "data" then { pending with data := pending.data ++ value ++ [10] }
  else pending

/-- An empty line dispatches the event, if it has data. -/
def readLines (pending : Pending) : List Text → List Frame
  | [] => []
  | line :: lines =>
      if line = [] then
        if pending.data = [] then readLines {} lines
        else
          { name := if pending.eventType = [] then .ofString "message" else pending.eventType
            data := pending.data.dropLast } :: readLines {} lines
      else readLines (pending.take line) lines

/-- Line feeds, carriage returns and pairs of both end a line. -/
def standardEnds : LineEnds where
  isEnd code := code == 10 || code == 13
  lineFeed := rfl
  carriageReturn := rfl
  visible code low high := by
    rw [Bool.or_eq_false_iff, beq_eq_false_iff_ne, beq_eq_false_iff_ne]
    omega

/-- The events of a text, without a byte order mark in front of it. -/
def parse (text : Text) : List Frame :=
  readLines {} (standardEnds.lines (if text.head? = some 0xFEFF then text.tail else text))

theorem splitField_nameLine (frame : Frame) :
    splitField frame.nameLine = (.ofString "event", frame.name) := by
  have spelled : frame.nameLine = .ofString "event" ++ 58 :: 32 :: frame.name := rfl
  have name : ∀ code ∈ Text.ofString "event", (code != 58) = true := by decide
  rw [splitField, spelled, List.span_eq_takeWhile_dropWhile,
    List.takeWhile_append_of_pos name, List.dropWhile_append_of_pos name]
  simp

theorem splitField_dataLine (frame : Frame) :
    splitField frame.dataLine = (.ofString "data", frame.data) := by
  have spelled : frame.dataLine = .ofString "data" ++ 58 :: 32 :: frame.data := rfl
  have name : ∀ code ∈ Text.ofString "data", (code != 58) = true := by decide
  rw [splitField, spelled, List.span_eq_takeWhile_dropWhile,
    List.takeWhile_append_of_pos name, List.dropWhile_append_of_pos name]
  simp

/-- The lines of an event dispatch it. -/
theorem readLines_frame {frame : Frame} (named : frame.name ≠ []) (lines : List Text) :
    readLines {} (frame.nameLine :: frame.dataLine :: [] :: lines) =
      frame :: readLines {} lines := by
  have nameLine : frame.nameLine ≠ [] := List.cons_ne_nil _ _
  have dataLine : frame.dataLine ≠ [] := List.cons_ne_nil _ _
  have apart : Text.ofString "data" ≠ Text.ofString "event" := by decide
  have pending : (Pending.take {} frame.nameLine).take frame.dataLine =
      { eventType := frame.name, data := frame.data ++ [10] } := by
    simp only [Pending.take, splitField_nameLine, splitField_dataLine, if_true, if_neg apart,
      List.nil_append]
  rw [readLines, if_neg nameLine, readLines, if_neg dataLine, pending, readLines, if_pos rfl,
    if_neg (List.append_ne_nil_of_right_ne_nil _ (List.cons_ne_nil _ _)), if_neg named,
    List.dropLast_concat]

/-- The standard reader gets back the events that were written. -/
theorem parse_write {frames : List Frame} (plain : ∀ frame ∈ frames, frame.Plain standardEnds)
    (named : ∀ frame ∈ frames, frame.name ≠ []) : parse (write frames) = frames := by
  have noMark : ¬(write frames).head? = some 0xFEFF := by
    cases frames with
    | nil =>
        intro same
        cases same
    | cons frame frames =>
        have head : (write (frame :: frames)).head? = some 101 := rfl
        rw [head, Option.some.injEq]
        decide
  rw [parse, if_neg noMark]
  clear noMark
  induction frames with
  | nil => rfl
  | cons frame frames ih =>
      rw [List.forall_mem_cons] at plain named
      rw [write, List.flatMap_cons, ← write, Frame.lines_write plain.1,
        readLines_frame named.1, ih plain.2 named.2]

end ServerSentEvents
