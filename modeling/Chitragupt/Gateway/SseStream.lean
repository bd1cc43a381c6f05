import Mathlib.Data.List.Sort
import Chitragupt.Gateway.Readiness
import Chitragupt.Lib.Conversion
import Chitragupt.Lib.ServerSentEvents
import Chitragupt.Lib.JsonWriter
import Chitragupt.Lib.Padding
import Chitragupt.Pipeline.StateJson

/-!
# The stream of a turn on the wire

The response of the turn handler as the text of its events, with the writer of Go's
`encoding/json`, and two readers of it: the one that the format prescribes, and the one
of the test helpers, whose lines end where `str.splitlines` ends them.
-/

namespace Chitragupt

open Python (PyError Json strip)
open Python.JsonDecoder (dropPrefix? scanOnce)
open Python.JsonWriter (Escaping NumberFormat Readable Scalars StartsValue Style)
open ServerSentEvents (LineEnds)

/-! ## The writer -/

namespace GoJson

/-- Besides quotes, backslashes and control characters, three characters of HTML and two
line separators are escaped. -/
def escaping : Escaping where
  plain code := decide (32 ≤ code) && code != 34 && code != 92 && code != 60 && code != 62 &&
    code != 38 && code != 0x2028 && code != 0x2029
  short := Python.JsonWriter.letters
  plain_readable code plain := by
    simp only [Bool.and_eq_true, decide_eq_true_eq, bne_iff_ne, and_assoc] at plain
    exact ⟨plain.1, plain.2.1, plain.2.2.1⟩
  short_readable := Python.JsonWriter.letters_readable
  short_visible := Python.JsonWriter.letters_visible

variable (numbers : NumberFormat)

/-- The compact form.  Whole numbers below `1e21` have no fraction. -/
def style : Style where
  toEscaping := escaping
  toLayout := .compact
  toNumberFormat := numbers.withWholes 21 (by decide)

/-- `json.Marshal` of a string. -/
def jsonString (text : String) : Text := escaping.quoted (.ofString text)

/-- The order of keys. -/
def keyLe : Text → Text → Bool
  | [], _ => true
  | _ :: _, [] => false
  | code :: rest, other :: others => code < other || (code == other && keyLe rest others)

/-- The keys of a map are written in order. -/
def sortKeys : Json → Json
  | .dict entries => .dict (entries.mergeSort fun entry other => keyLe entry.1 other.1)
  | other => other

/-- `json.Marshal` of a map. -/
def marshalText (data : Json) : Text := (style numbers).write 0 (sortKeys data)

end GoJson

namespace SseEvent

variable (numbers : NumberFormat)

/-- The name of an event. -/
def name : SseEvent → Text
  | .token _ => .ofString "token"
  | .error _ => .ofString "error"
  | .complete _ => .ofString "complete"

/-- The text behind `data:`; without a completion that can be written there is none. -/
def data : SseEvent → Text
  | .token text => GoJson.jsonString text
  | .error message => GoJson.jsonString message
  | .complete none => []
  | .complete (some data) => GoJson.marshalText numbers data

def frame (event : SseEvent) : ServerSentEvents.Frame := ⟨event.name, event.data numbers⟩

/-- The document that is written for an event. -/
def document : SseEvent → Option Json
  | .token text => some (.ofString text)
  | .error message => some (.ofString message)
  | .complete data => data.map GoJson.sortKeys

/-- The value that an event carries to its reader. -/
def payload (event : SseEvent) : Option Json :=
  event.document.map (GoJson.style numbers).reading

/-- The strings of an event. -/
def texts (event : SseEvent) : List Text := event.document.elim [] Style.texts

end SseEvent

/-- The body of a streaming response. -/
def responseBody (numbers : NumberFormat) (events : List SseEvent) : Text :=
  ServerSentEvents.write (events.map (SseEvent.frame numbers))

/-! ## The reader of the test helpers -/

/-- The line boundaries of `str.splitlines`. -/
def lineBoundaries : List Nat := [10, 11, 12, 13, 28, 29, 30, 0x85, 0x2028, 0x2029]

theorem contains_lineBoundaries (code : Nat) (low : 32 ≤ code) (high : code < 127) :
    lineBoundaries.contains code = false := by
  simp only [lineBoundaries, List.contains_eq_mem, List.mem_cons, List.not_mem_nil, or_false,
    decide_eq_false_iff_not]
  omega

/-- `str.splitlines`, which the HTTP client uses. -/
def splitlines : LineEnds where
  isEnd code := lineBoundaries.contains code
  lineFeed := rfl
  carriageReturn := rfl
  visible := contains_lineBoundaries

namespace SSEReader

structure SSEEvent where
  type : Text
  data : Json

/-- The data of an event, or its text when that is not JSON. -/
def decodeData (room : Nat) (raw : Text) : Except PyError Json :=
  match Python.loads room raw with
  | .ok data => .ok data
  | .error error =>
      if error.cls = .jsonDecodeError then .ok (.dict [(.ofString "raw", .str raw)])
      else .error error

def unboundLocalError : PyError :=
  ⟨.other "UnboundLocalError",
    "cannot access local variable 'event_type' where it is not associated with a value"⟩

/-- The loop over the lines; the type of the current event is unbound at first. -/
def collectLines (room : Nat) (eventType : Option Text) :
    List Text → Except PyError (List SSEEvent)
  | [] => .ok []
  | line :: lines =>
      match dropPrefix? (.ofString "event: ") line with
      | some name => collectLines room (some (strip name)) lines
      | none =>
          match dropPrefix? (.ofString "data: ") line with
          | some raw => do
              let data ← decodeData room (strip raw)
              match eventType with
              | none => throw unboundLocalError
              | some type => do
                  let events ← collectLines room (some []) lines
                  return ⟨type, data⟩ :: events
          | none => collectLines room eventType lines

def collect (room : Nat) (body : Text) : Except PyError (List SSEEvent) :=
  collectLines room none (splitlines.lines body)

/-- What is collected for an event that arrives whole. -/
def received (numbers : NumberFormat) (event : SseEvent) : SSEEvent where
  type := event.name
  data := (event.payload numbers).getD (.dict [(.ofString "raw", .str [])])

end SSEReader

/-! ## What is sent can be read -/

namespace Handler

/-- The keys of a completion. -/
def completionKeys : List String :=
  [ "type", "intent", "transition_ready", "gap_criterion_id", "suggested_question", "cost_usd",
    "aborted", "current_phase", "unmet_ac_count" ]

variable (complete : Option TurnComplete) (response : Option TurnResultResponse)

theorem completion_keys_sublist :
    ((completion complete response).map Prod.fst).Sublist completionKeys := by
  rcases complete with _ | turn <;> rcases response with _ | result
  · exact List.singleton_sublist.mpr List.mem_cons_self
  · change ["type", "current_phase", "unmet_ac_count"].Sublist completionKeys
    decide
  · exact List.sublist_append_left completionKeys.dropLast.dropLast _
  · exact List.Sublist.refl _

theorem nodup_completion_keys : ((completion complete response).map Prod.fst).Nodup :=
  (completion_keys_sublist complete response).nodup (by decide)

variable {complete response}

/-- The counts of a response have decimal texts that can be read. -/
def Countable (response : Option TurnResultResponse) : Prop :=
  ∀ result ∈ response, result.unmetAcCount < 10 ^ Python.JsonDecoder.maxStrDigits

/-- Scalars, told apart from the containers. -/
def IsScalar : Json → Prop
  | .list _ => False
  | .dict _ => False
  | _ => True

theorem isScalar_completion : ∀ field ∈ completion complete response, IsScalar field.2 := by
  cases complete <;> cases response <;> simp [completion, IsScalar, Json.ofString]

theorem readable_completion (countable : Countable response) :
    Readable 1 (objectJson (completion complete response)) := by
  refine readable_objectJson (nodup_completion_keys complete response) ?_
  have counts : ∀ result ∈ response, Readable 0 (.int result.unmetAcCount) := by
    intro result present
    exact .int _ (by rw [Int.natAbs_natCast]; exact countable result present)
  have cost : ∀ value, Readable 0 (.float value) := by
    intro value
    cases value with
    | finite number => exact .finite number
    | infinite negative => exact .infinite negative
    | nan => exact .nan
  intro field member
  rcases complete with _ | turn <;> rcases response with _ | result <;>
    simp only [completion, Option.elim, List.nil_append, List.cons_append, List.append_nil,
      List.mem_cons, List.not_mem_nil, or_false] at member
  · rcases member with rfl
    exact readable_ofString _
  · rcases member with rfl | rfl | rfl
    · exact readable_ofString _
    · exact readable_ofString _
    · exact counts result rfl
  · rcases member with rfl | rfl | rfl | rfl | rfl | rfl | rfl
    · exact readable_ofString _
    · exact readable_ofString _
    · exact .bool _
    · exact readable_ofString _
    · exact readable_ofString _
    · exact cost _
    · exact .bool _
  · rcases member with rfl | rfl | rfl | rfl | rfl | rfl | rfl | rfl | rfl
    · exact readable_ofString _
    · exact readable_ofString _
    · exact .bool _
    · exact readable_ofString _
    · exact readable_ofString _
    · exact cost _
    · exact .bool _
    · exact readable_ofString _
    · exact counts result rfl

end Handler

/-- The order of the keys does not matter for reading. -/
theorem GoJson.readable_sortKeys {room : Nat} {data : Json} (readable : Readable room data) :
    Readable room (sortKeys data) := by
  cases readable with
  | dict entries valid distinct each =>
      have same := List.mergeSort_perm entries fun entry other => keyLe entry.1 other.1
      refine .dict _ (fun entry member => ?_) ?_ fun entry member => ?_
      · exact valid entry (same.mem_iff.mp member)
      · exact (same.map Prod.fst).nodup_iff.mpr distinct
      · exact each entry (same.mem_iff.mp member)
  | null => exact .null
  | bool value => exact .bool value
  | int value bound => exact .int value bound
  | finite value => exact .finite value
  | nan => exact .nan
  | infinite negative => exact .infinite negative
  | str text valid => exact .str text valid
  | list items each => exact .list items each

namespace SseEvent

/-- The completion, if there is one, was put together by the handler. -/
def Sendable : SseEvent → Prop
  | .complete (some data) => ∃ complete response, Handler.Countable response ∧
      data = objectJson (Handler.completion complete response)
  | _ => True

variable {numbers : NumberFormat} {event : SseEvent}

theorem readable_document (sendable : event.Sendable) :
    ∀ value ∈ event.document, Readable 1 value := by
  intro value carried
  cases event with
  | token text =>
      rcases Option.some.inj carried with rfl
      exact readable_ofString text
  | error message =>
      rcases Option.some.inj carried with rfl
      exact readable_ofString message
  | complete data =>
      rcases Option.map_eq_some_iff.mp carried with ⟨data, rfl, rfl⟩
      rcases sendable with ⟨complete, response, countable, rfl⟩
      exact GoJson.readable_sortKeys (Handler.readable_completion countable)

/-- The data of an event is the text of its document. -/
theorem data_eq :
    event.data numbers = event.document.elim [] ((GoJson.style numbers).write 0) := by
  cases event with
  | token text => rfl
  | error message => rfl
  | complete data => cases data <;> rfl

/-- The payload is decoded from the data, and nothing is decoded without one. -/
theorem loads_data (sendable : event.Sendable) {room : Nat} (fits : 1 ≤ room) :
    (Python.loads room (event.data numbers)).toOption = event.payload numbers := by
  rw [data_eq, payload]
  cases carried : event.document with
  | none => rfl
  | some value =>
      have readable := (readable_document sendable value carried).mono fits
      rw [Option.elim_some, (GoJson.style numbers).loads_write readable]
      rfl

end SseEvent

/-! ### Which lines end -/

section Plain

variable {ends : LineEnds} {numbers : NumberFormat} {event : SseEvent}

theorem plain_name : ends.Plain event.name := by
  have visible : ∀ name ∈ ["token", "error", "complete"],
      ∀ code ∈ Text.ofString name, 32 ≤ code ∧ code < 127 := by decide
  cases event with
  | token text => exact ends.plain_of_visible (visible "token" (by simp))
  | error message => exact ends.plain_of_visible (visible "error" (by simp))
  | complete data => exact ends.plain_of_visible (visible "complete" (by simp))

/-- No line ends in the data when none ends in what the writer leaves of the strings. -/
theorem plain_data (sendable : event.Sendable)
    (plain : ∀ text ∈ event.texts, ∀ code ∈ text, GoJson.escaping.plain code = true →
      ends.isEnd code = false) : ends.Plain (event.data numbers) := by
  rw [SseEvent.data_eq]
  rw [SseEvent.texts] at plain
  cases carried : event.document with
  | none =>
      intro code member
      cases member
  | some value =>
      rw [carried] at plain
      intro code member
      have readable := SseEvent.readable_document sendable value carried
      rcases (GoJson.style numbers).shows_write readable rfl member with
        visible | ⟨text, inside, found, left⟩
      · exact ends.visible code visible.1.le visible.2
      · exact plain text inside code found left

theorem plain_frame_standardEnds (sendable : event.Sendable) :
    (event.frame numbers).Plain ServerSentEvents.standardEnds where
  name := plain_name
  data := by
    refine plain_data sendable fun text _ code _ left => ?_
    have printable := (GoJson.escaping.plain_readable code left).1
    simp only [ServerSentEvents.standardEnds, Bool.or_eq_false_iff, beq_eq_false_iff_ne]
    omega

/-- `str.splitlines` ends lines at one character that the writer leaves as it is. -/
theorem isEnd_splitlines_of_plain {code : Nat} (left : GoJson.escaping.plain code = true) :
    splitlines.isEnd code = true ↔ code = 0x85 := by
  simp only [GoJson.escaping, splitlines, lineBoundaries, List.contains_eq_mem, List.mem_cons,
    List.not_mem_nil, or_false, Bool.and_eq_true, decide_eq_true_eq, bne_iff_ne] at left ⊢
  omega

theorem plain_frame_splitlines (sendable : event.Sendable)
    (none_ : ∀ text ∈ event.texts, 0x85 ∉ text) : (event.frame numbers).Plain splitlines where
  name := plain_name
  data := by
    refine plain_data sendable fun text inside code found left => ?_
    rw [← Bool.not_eq_true, isEnd_splitlines_of_plain left]
    rintro rfl
    exact none_ text inside found

end Plain

/-! ## The reader that the format prescribes -/

section Standard

variable {numbers : NumberFormat}

theorem name_ne_nil (event : SseEvent) : event.name ≠ [] := by
  cases event <;> exact List.cons_ne_nil _ _

theorem parse_responseBody {events : List SseEvent}
    (sendable : ∀ event ∈ events, event.Sendable) :
    ServerSentEvents.parse (responseBody numbers events) =
      events.map (SseEvent.frame numbers) := by
  refine ServerSentEvents.parse_write (fun frame member => ?_) fun frame member => ?_
  · rcases List.mem_map.mp member with ⟨event, inside, rfl⟩
    exact plain_frame_standardEnds (sendable event inside)
  · rcases List.mem_map.mp member with ⟨event, _, rfl⟩
    exact name_ne_nil event

/-- A client gets back the name and the payload of each event. -/
theorem decoded_responseBody {events : List SseEvent}
    (sendable : ∀ event ∈ events, event.Sendable) {room : Nat} (fits : 1 ≤ room) :
    (ServerSentEvents.parse (responseBody numbers events)).map
        (fun frame => (frame.name, (Python.loads room frame.data).toOption)) =
      events.map fun event => (event.name, event.payload numbers) := by
  rw [parse_responseBody sendable, List.map_map]
  refine List.map_congr_left fun event member => ?_
  exact Prod.ext rfl (SseEvent.loads_data (sendable event member) fits)

namespace Handler

variable [Runtime] [Rendering] {servicer : AiOrchestrationServicer}
  {environment : Environment} {ambient : Ambient} {rpcError : PyError → String}
  {sessionId : String} {body : Option TurnReq} {service : StateEngineService}
  {events : List SseEvent}

omit [Runtime] [Rendering] in
/-- A phase has few criteria. -/
theorem unmetCount_evaluateAc_le (phase : SessionPhase) (state : SessionState) :
    (phase.evaluateAc state).unmetCount ≤ 7 := by
  have few : phase.criterionIds.length ≤ 7 := by cases phase <;> decide
  by_cases working : phase = .signedOff
  · subst working
    exact Nat.zero_le 7
  · have listed := congrArg List.length (phase.map_id_checks state)
    rw [List.length_map] at listed
    rw [SessionPhase.evaluateAc_eq working, AcResult.unmetCount, AcResult.fromChecks_criteria]
    refine (List.length_filter_le _ _).trans ?_
    rw [List.length_map, listed]
    exact few

omit [Runtime] [Rendering] in
theorem countable_turnResultResponse (state : Option SessionState) :
    Countable (state.map StateEngineService.turnResultResponse) := by
  intro result present
  rcases Option.map_eq_some_iff.mp present with ⟨state, _, rfl⟩
  refine (unmetCount_evaluateAc_le state.currentPhase state).trans_lt ?_
  exact (by decide : 7 < 10 ^ 1).trans_le
    (Nat.pow_le_pow_right (by decide) (by decide : 1 ≤ Python.JsonDecoder.maxStrDigits))

omit [Rendering] in
/-- A turn result is answered with the evaluation of a session. -/
theorem toOption_applyTurnResult (ambient : Ambient) (service : StateEngineService)
    (request : TurnResultRequest) :
    ∃ state : Option SessionState, (service.applyTurnResult ambient request).2.toOption =
      state.map StateEngineService.turnResultResponse := by
  rw [StateEngineService.applyTurnResult]
  split
  · exact ⟨none, rfl⟩
  · split
    · exact ⟨none, rfl⟩
    · exact ⟨some _, rfl⟩

/-- Every response of the handler can be sent. -/
theorem sendable_processTurn
    (answered : (processTurn servicer environment ambient rpcError sessionId body service).2 =
      .stream events) : ∀ event ∈ events, event.Sendable := by
  unfold processTurn at answered
  split at answered
  next => cases answered
  next request =>
    split at answered
    next => cases answered
    next =>
      split at answered
      next => cases answered
      next sessionState _ =>
        dsimp only at answered
        split at answered
        next error failed =>
          rcases TurnResponse.stream.inj answered with rfl
          intro event member
          rcases List.mem_append.mp member with token | last
          · rcases List.mem_map.mp token with ⟨text, _, rfl⟩
            trivial
          · rcases List.mem_singleton.mp last with rfl
            trivial
        next =>
          rcases TurnResponse.stream.inj answered with rfl
          intro event member
          rcases List.mem_append.mp member with token | last
          · rcases List.mem_map.mp token with ⟨text, _, rfl⟩
            trivial
          · rcases List.mem_singleton.mp last with rfl
            rcases toOption_applyTurnResult ambient service _ with ⟨state, same⟩
            rw [same, marshal]
            split
            · exact ⟨_, _, countable_turnResultResponse state, rfl⟩
            · trivial

end Handler

end Standard

/-! ## The reader of the test helpers on whole streams -/

section Helpers

variable {numbers : NumberFormat} {event : SseEvent}

theorem isSpace_of_visible {code : Nat} (low : 32 < code) (high : code < 127) :
    Python.isSpace code = false := by
  have all : ∀ code < 127, 32 < code → Python.isSpace code = false := by decide
  exact all code high low

theorem startsSolid_cons {code : Nat} (low : 32 < code) (high : code < 127) (rest : Text) :
    Padding.startsSolid Python.isSpace (code :: rest) = true := by
  rw [Padding.startsSolid, isSpace_of_visible low high]
  rfl

theorem endsSolid_concat {code : Nat} (low : 32 < code) (high : code < 127) (front : Text) :
    Padding.endsSolid Python.isSpace (front ++ [code]) = true := by
  rw [Padding.endsSolid, List.reverse_append]
  exact startsSolid_cons low high _

theorem startsSolid_append {front rest : Text}
    (solid : Padding.startsSolid Python.isSpace front = true) :
    Padding.startsSolid Python.isSpace (front ++ rest) = true := by
  cases front with
  | nil => cases solid
  | cons code front => exact solid

/-! ### Whole events -/

theorem strip_name (event : SseEvent) : strip event.name = event.name := by
  cases event <;> rfl

/-- Documents of events start and end with a quote or a bracket. -/
theorem strip_data (sendable : event.Sendable) :
    strip (event.data numbers) = event.data numbers := by
  have literal : ∀ text, strip (GoJson.escaping.quoted text) = GoJson.escaping.quoted text :=
    fun text => Padding.trimBy_of_solid (startsSolid_cons (by decide) (by decide) _)
      (endsSolid_concat (by decide) (by decide) (34 :: text.flatMap GoJson.escaping.escapeCode))
  cases event with
  | token text => exact literal _
  | error message => exact literal _
  | complete data =>
      cases data with
      | none => rfl
      | some data =>
          rcases sendable with ⟨complete, response, _, rfl⟩
          rw [SseEvent.data, GoJson.marshalText, objectJson, GoJson.sortKeys]
          cases List.mergeSort _ _ with
          | nil => rfl
          | cons entry entries =>
              refine Padding.trimBy_of_solid (startsSolid_cons (by decide) (by decide) _) ?_
              have spelled := (GoJson.style numbers).write_dict_append rfl [] entry.1 entry.2
                entries
              rw [List.nil_append] at spelled
              rw [spelled, ← List.append_assoc, ← List.append_assoc]
              exact endsSolid_concat (by decide) (by decide) _

namespace SSEReader

variable {room : Nat}

/-- The lines of an event, up to the end of its data. -/
theorem collectLines_frame (frame : ServerSentEvents.Frame) (eventType : Option Text)
    (lines : List Text) :
    collectLines room eventType (frame.nameLine :: frame.dataLine :: lines) = (do
      let data ← decodeData room (strip frame.data)
      let events ← collectLines room (some []) lines
      return ⟨strip frame.name, data⟩ :: events) := by
  have named : dropPrefix? (.ofString "event: ") frame.nameLine = some frame.name := rfl
  have other : dropPrefix? (.ofString "event: ") frame.dataLine = none := rfl
  have data : dropPrefix? (.ofString "data: ") frame.dataLine = some frame.data := rfl
  rw [collectLines, named]
  dsimp only
  rw [collectLines, other, data]

/-- The data of a whole event is decoded. -/
theorem decodeData_data (sendable : event.Sendable) (fits : 1 ≤ room) :
    decodeData room (strip (event.data numbers)) = .ok (received numbers event).data := by
  rw [strip_data sendable, decodeData, received, SseEvent.data_eq, SseEvent.payload]
  cases carried : event.document with
  | none => rfl
  | some value =>
      have readable := (SseEvent.readable_document sendable value carried).mono fits
      rw [Option.elim_some, (GoJson.style numbers).loads_write readable]
      rfl

end SSEReader

/-! ### Broken lines -/

/-- White space at the end of an unfinished literal may be lost. -/
theorem exists_strip_literal {head : Text}
    (solid : Padding.startsSolid Python.isSpace (head ++ [34]) = true) (text : Text) :
    ∃ kept, kept <+: text ∧
      strip (head ++ 34 :: text.flatMap GoJson.escaping.escapeCode) =
        head ++ 34 :: kept.flatMap GoJson.escaping.escapeCode := by
  have starts : ∀ rest, Padding.startsSolid Python.isSpace (head ++ 34 :: rest) = true := by
    intro rest
    have longer : Padding.startsSolid Python.isSpace ((head ++ [34]) ++ rest) = true :=
      startsSolid_append solid
    rwa [List.append_assoc] at longer
  induction text using List.reverseRecOn with
  | nil =>
      refine ⟨[], List.prefix_refl [], Padding.trimBy_of_solid (starts _) ?_⟩
      exact endsSolid_concat (by decide) (by decide) head
  | append_singleton text code ih =>
      have spelled : head ++ 34 :: (text ++ [code]).flatMap GoJson.escaping.escapeCode =
          (head ++ 34 :: text.flatMap GoJson.escaping.escapeCode) ++
            GoJson.escaping.escapeCode code := by
        simp
      rcases GoJson.escaping.concat_escapeCode code with plain | ⟨front, last, escaped, visible⟩
      · cases space : Python.isSpace code with
        | true =>
            rcases ih with ⟨kept, initial, stripped⟩
            refine ⟨kept, initial.trans (List.prefix_append _ _), ?_⟩
            have padded : strip ([] ++ (head ++ 34 :: text.flatMap GoJson.escaping.escapeCode) ++
                [code]) = strip (head ++ 34 :: text.flatMap GoJson.escaping.escapeCode) :=
              Padding.trimBy_padded (fun _ member => absurd member List.not_mem_nil)
                (fun _ member => List.mem_singleton.mp member ▸ space)
            rw [spelled, plain]
            exact padded.trans stripped
        | false =>
            refine ⟨_, List.prefix_refl _, Padding.trimBy_of_solid (starts _) ?_⟩
            rw [spelled, plain, Padding.endsSolid, List.reverse_append, List.reverse_singleton,
              List.singleton_append, Padding.startsSolid, space]
            rfl
      · refine ⟨_, List.prefix_refl _, Padding.trimBy_of_solid (starts _) ?_⟩
        rw [spelled, escaped, ← List.append_assoc]
        exact endsSolid_concat visible.1 visible.2 _

/-- A line of `str.splitlines` ends within the literal of a text. -/
theorem exists_literal_cut {text : Text} (marked : 0x85 ∈ text) :
    ∃ first rest, 0x85 ∉ first ∧ first <+: text ∧
      GoJson.escaping.quoted text =
        34 :: (first.flatMap GoJson.escaping.escapeCode ++ 0x85 :: rest) := by
  rcases List.eq_append_cons_of_mem marked with ⟨first, second, rfl, fresh⟩
  refine ⟨first, second.flatMap GoJson.escaping.escapeCode ++ [34], fresh,
    List.prefix_append _ _, ?_⟩
  have plain : GoJson.escaping.escapeCode 0x85 = [0x85] := rfl
  simp [Escaping.quoted, plain]

/-- No value can be scanned from a literal without its closing quote. -/
theorem scanOnce_unterminated {text : Text} (valid : Scalars text) (room : Nat) :
    scanOnce room (34 :: text.flatMap GoJson.escaping.escapeCode) =
      .error (Python.jsonDecodeError "Unterminated string starting at") := by
  rw [scanOnce, GoJson.escaping.scanString_unterminated valid]
  rfl

theorem scalars_of_initial {text first : Text} (valid : Scalars text) (initial : first <+: text) :
    Scalars first :=
  fun code member => valid code (initial.subset member)

/-- A line breaks off in the data of an event, and what stands before cannot be decoded. -/
def BreaksOff (data : Text) : Prop :=
  ∃ before behind, data = before ++ 0x85 :: behind ∧ splitlines.Plain before ∧
    ∀ room, 1 ≤ room → ∀ value, Python.loads room (strip before) ≠ .ok value

/-- What shows no text with the one line boundary that is written has no line boundary. -/
theorem plain_of_shows (numbers : NumberFormat) {texts : List Text}
    (fresh : ∀ text ∈ texts, 0x85 ∉ text) {part : Text}
    (shows : ∀ code ∈ part, (GoJson.style numbers).Shows texts code) :
    splitlines.Plain part := by
  intro code member
  rcases shows code member with visible | ⟨text, inside, found, left⟩
  · exact splitlines.visible code visible.1.le visible.2
  · rw [← Bool.not_eq_true, isEnd_splitlines_of_plain left]
    rintro rfl
    exact fresh text inside found

/-- A string breaks off at the line boundary in it. -/
theorem breaksOff_quoted (numbers : NumberFormat) {text : Text} (valid : Scalars text)
    (marked : 0x85 ∈ text) :
    BreaksOff (GoJson.escaping.quoted text) := by
  rcases exists_literal_cut marked with ⟨first, rest, fresh, initial, spelled⟩
  refine ⟨34 :: first.flatMap GoJson.escaping.escapeCode, rest, spelled, ?_, ?_⟩
  · have alone : ∀ text ∈ [first], 0x85 ∉ text := fun text member =>
      List.mem_singleton.mp member ▸ fresh
    refine plain_of_shows numbers alone fun code member => ?_
    exact Style.shows_quoted (List.mem_append_left [34] member)
  · intro room _ value read
    have quote : Padding.startsSolid Python.isSpace (([] : Text) ++ [34]) = true := rfl
    rcases exists_strip_literal quote first with ⟨kept, part, stripped⟩
    have refused := scanOnce_unterminated
      (scalars_of_initial valid (part.trans initial)) room
    have solid : Python.JsonWriter.isBlank 34 = false := rfl
    rw [List.nil_append, List.nil_append] at stripped
    rw [stripped, Python.loads, List.head?_cons, if_neg (by decide),
      Python.JsonWriter.skip_solid solid, refused] at read
    cases read

/-- Scalars are readable at any depth. -/
theorem readable_of_isScalar {value : Json} (scalar : Handler.IsScalar value) {room other : Nat}
    (readable : Readable room value) : Readable other value := by
  cases readable with
  | null => exact .null
  | bool value => exact .bool value
  | int value bound => exact .int value bound
  | finite value => exact .finite value
  | nan => exact .nan
  | infinite negative => exact .infinite negative
  | str text valid => exact .str text valid
  | list items each => exact scalar.elim
  | dict entries valid distinct each => exact scalar.elim

/-- The only strings of a scalar are strings. -/
theorem eq_str_of_mem_texts {value : Json} (scalar : Handler.IsScalar value) {text : Text}
    (member : text ∈ Style.texts value) : value = .str text := by
  cases value with
  | str other => rw [List.mem_singleton.mp member]
  | list items => exact scalar.elim
  | dict entries => exact scalar.elim
  | null | bool _ | int _ | float _ => exact absurd member List.not_mem_nil

/-- The first entry with a line boundary in its value. -/
theorem exists_first_marked {entries : List (Text × Json)}
    (scalar : ∀ entry ∈ entries, Handler.IsScalar entry.2)
    (keys : ∀ entry ∈ entries, 0x85 ∉ entry.1)
    (marked : ∃ text ∈ Style.textsOfEntries entries, 0x85 ∈ text) :
    ∃ earlier key text later, entries = earlier ++ (key, .str text) :: later ∧ 0x85 ∈ text ∧
      ∀ entry ∈ earlier, ∀ text ∈ Style.texts entry.2, 0x85 ∉ text := by
  let isMarked (entry : Text × Json) : Bool :=
    (Style.texts entry.2).any fun text => decide (0x85 ∈ text)
  have isMarked_iff : ∀ entry, isMarked entry = true ↔
      ∃ text ∈ Style.texts entry.2, 0x85 ∈ text := by
    simp [isMarked]
  cases found : entries.find? isMarked with
  | none =>
      rcases marked with ⟨text, member, boundary⟩
      rcases Style.mem_textsOfEntries.mp member with ⟨entry, present, rfl | inside⟩
      · exact absurd boundary (keys entry present)
      · exact absurd ((isMarked_iff entry).mpr ⟨text, inside, boundary⟩)
          (List.find?_eq_none.mp found entry present)
  | some entry =>
      rcases List.find?_eq_some_iff_append.mp found with ⟨here, earlier, later, rfl, unmarked⟩
      rcases (isMarked_iff entry).mp here with ⟨text, inside, boundary⟩
      have value := eq_str_of_mem_texts (scalar entry (by simp)) inside
      refine ⟨earlier, entry.1, text, later, ?_, boundary, fun other member text inside => ?_⟩
      · rw [← value]
      · intro boundary
        have none_ := unmarked other member
        rw [(isMarked_iff other).mpr ⟨text, inside, boundary⟩] at none_
        cases none_

/-- A completion breaks off at the first line boundary in its strings. -/
theorem breaksOff_write_dict {entries : List (Text × Json)} {room : Nat}
    (readable : Readable room (.dict entries))
    (scalar : ∀ entry ∈ entries, Handler.IsScalar entry.2)
    (keys : ∀ entry ∈ entries, 0x85 ∉ entry.1)
    (marked : ∃ text ∈ Style.textsOfEntries entries, 0x85 ∈ text) :
    BreaksOff ((GoJson.style numbers).write 0 (.dict entries)) := by
  rcases exists_first_marked scalar keys marked with
    ⟨earlier, key, text, later, rfl, boundary, fresh⟩
  have readableEarlier : ∀ room, ∀ entry ∈ earlier, Readable room entry.2 := by
    intro other entry member
    cases readable with
    | dict _ _ _ each =>
        have inside := List.mem_append_left ((key, Json.str text) :: later) member
        exact readable_of_isScalar (scalar entry inside) (each entry inside)
  have validKeys : (∀ entry ∈ earlier, Scalars entry.1) ∧ Scalars key ∧ Scalars text := by
    cases readable with
    | dict _ valid _ each =>
        refine ⟨fun entry member => valid entry (List.mem_append_left _ member),
          valid (key, .str text) (by simp), ?_⟩
        cases each (key, .str text) (by simp) with
        | str _ validText => exact validText
  have distinct : (earlier.map Prod.fst ++ [key]).Nodup := by
    cases readable with
    | dict _ _ distinct _ =>
        rw [List.map_append, List.map_cons] at distinct
        exact distinct.sublist (List.Sublist.append_left (by simp) _)
  rcases exists_literal_cut boundary with ⟨first, rest, freshFirst, initial, spelled⟩
  have validFirst := scalars_of_initial validKeys.2.2 initial
  refine ⟨(GoJson.style numbers).writeBroken earlier key ++
    34 :: first.flatMap GoJson.escaping.escapeCode,
    rest ++ ((GoJson.style numbers).writeEntries 1 later ++ [125]), ?_, ?_, ?_⟩
  · have literal : (GoJson.style numbers).write 1 (.str text) =
      34 :: (first.flatMap GoJson.escaping.escapeCode ++ 0x85 :: rest) := spelled
    rw [(GoJson.style numbers).write_dict_append rfl, literal]
    simp
  · -- The part in front of the boundary belongs to the text of a shorter object.
    have shorter : Readable 1 (.dict (earlier ++ [(key, .str first)])) := by
      refine .dict _ ?_ ?_ ?_
      · intro entry member
        rcases List.mem_append.mp member with before | last
        · exact validKeys.1 entry before
        · rw [List.mem_singleton.mp last]
          exact validKeys.2.1
      · rw [List.map_append]
        exact distinct
      · intro entry member
        rcases List.mem_append.mp member with before | last
        · exact readableEarlier 0 entry before
        · rw [List.mem_singleton.mp last]
          exact .str first validFirst
    have texts : ∀ text ∈ Style.texts (.dict (earlier ++ [(key, .str first)])), 0x85 ∉ text := by
      intro other member
      rcases Style.mem_textsOfEntries.mp member with ⟨entry, present, named | inside⟩
      · rw [named]
        rcases List.mem_append.mp present with before | last
        · exact keys entry (List.mem_append_left _ before)
        · rw [List.mem_singleton.mp last]
          exact keys (key, .str text) (by simp)
      · rcases List.mem_append.mp present with before | last
        · exact fresh entry before other inside
        · rw [List.mem_singleton.mp last] at inside
          rw [List.mem_singleton.mp inside]
          exact freshFirst
    refine plain_of_shows numbers texts fun code member => ?_
    suffices inside : code ∈ (GoJson.style numbers).write 0
      (.dict (earlier ++ [(key, .str first)])) from Style.shows_write shorter rfl inside
    rw [(GoJson.style numbers).write_dict_append rfl, ← List.append_assoc]
    refine List.mem_append_left _ ?_
    rcases List.mem_append.mp member with broken | last
    · exact List.mem_append_left _ broken
    · exact List.mem_append_right _ (List.mem_append_left [34] last)
  · intro room fits value read
    have brace : Padding.startsSolid Python.isSpace
        ((GoJson.style numbers).writeBroken earlier key ++ [34]) = true := by
      cases earlier <;> exact startsSolid_cons (by decide) (by decide) _
    rcases exists_strip_literal brace first with ⟨kept, part, stripped⟩
    rcases Nat.exists_eq_add_of_le' fits with ⟨spare, rfl⟩
    rw [stripped] at read
    refine (GoJson.style numbers).loads_writeBroken rfl validKeys.1 validKeys.2.1
      (distinct.sublist (List.sublist_append_left _ _)) (readableEarlier spare)
      ⟨34, _, rfl, rfl, by decide, by decide⟩ (fun room => ?_) value read
    exact ⟨_, scanOnce_unterminated (scalars_of_initial validFirst part) room⟩

/-- An event with the line boundary in one of its strings breaks off. -/
theorem breaksOff_data (numbers : NumberFormat) (sendable : event.Sendable)
    (marked : ∃ text ∈ event.texts, 0x85 ∈ text) : BreaksOff (event.data numbers) := by
  cases event with
  | token text =>
      rcases marked with ⟨other, member, boundary⟩
      rcases List.mem_singleton.mp member with rfl
      exact breaksOff_quoted numbers (Python.JsonWriter.scalars_ofString text) boundary
  | error message =>
      rcases marked with ⟨other, member, boundary⟩
      rcases List.mem_singleton.mp member with rfl
      exact breaksOff_quoted numbers (Python.JsonWriter.scalars_ofString message) boundary
  | complete data =>
      cases data with
      | none =>
          rcases marked with ⟨text, member, _⟩
          exact absurd member List.not_mem_nil
      | some data =>
          have readable := SseEvent.readable_document sendable _ rfl
          rcases sendable with ⟨complete, response, _, rfl⟩
          have field : ∀ entry ∈ ((Handler.completion complete response).map fun field =>
              (Text.ofString field.1, field.2)).mergeSort fun entry other =>
                GoJson.keyLe entry.1 other.1,
              ∃ field ∈ Handler.completion complete response,
                entry = (Text.ofString field.1, field.2) := by
            intro entry member
            rcases List.mem_map.mp (List.mem_mergeSort.mp member) with ⟨field, present, rfl⟩
            exact ⟨field, present, rfl⟩
          have plainKeys : ∀ name ∈ Handler.completionKeys, 0x85 ∉ Text.ofString name := by
            decide
          refine breaksOff_write_dict readable (fun entry member => ?_) (fun entry member => ?_)
            marked
          · rcases field entry member with ⟨field, present, rfl⟩
            exact Handler.isScalar_completion field present
          · rcases field entry member with ⟨field, present, rfl⟩
            exact plainKeys field.1 (Handler.completion_keys_sublist complete response
              |>.subset (List.mem_map_of_mem present))

/-- No event carries the dictionary that stands for undecodable data. -/
theorem payload_ne_raw (sendable : event.Sendable) (raw : Json) :
    event.payload numbers ≠ some (.dict [(.ofString "raw", raw)]) := by
  intro same
  cases event with
  | token text => cases same
  | error message => cases same
  | complete data =>
      cases data with
      | none => cases same
      | some data =>
          rcases sendable with ⟨complete, response, _, rfl⟩
          have entries := congrArg (List.map Prod.fst) (Json.dict.inj (Option.some.inj same))
          rw [Style.map_fst_readingEntries] at entries
          have first : (Text.ofString "type", Json.ofString "complete") ∈
              ((Handler.completion complete response).map fun field =>
                (Text.ofString field.1, field.2)).mergeSort fun entry other =>
                  GoJson.keyLe entry.1 other.1 :=
            List.mem_mergeSort.mpr List.mem_cons_self
          have named := List.mem_map_of_mem (f := Prod.fst) first
          rw [entries, List.map_singleton, List.mem_singleton] at named
          have apart : Text.ofString "type" ≠ Text.ofString "raw" := by decide
          exact apart named

namespace SSEReader

variable {room : Nat}

/-- What cannot be decoded is kept as text. -/
theorem decodeData_of_refused {raw : Text} (refused : ∀ value, Python.loads room raw ≠ .ok value)
    {data : Json} (decoded : decodeData room raw = .ok data) :
    data = .dict [(.ofString "raw", .str raw)] := by
  rw [decodeData] at decoded
  cases read : Python.loads room raw with
  | ok value => exact absurd read (refused value)
  | error error =>
      rw [read] at decoded
      dsimp only at decoded
      split at decoded
      · exact (Except.ok.inj decoded).symm
      · cases decoded

/-- Of an event that breaks off, something else is collected. -/
theorem collectLines_of_breaksOff (sendable : event.Sendable) (fits : 1 ≤ room)
    (broken : BreaksOff (event.data numbers)) (eventType : Option Text) (rest : Text)
    (events : List SSEEvent) :
    collectLines room eventType (splitlines.lines ((event.frame numbers).write ++ rest)) ≠
      .ok (received numbers event :: events) := by
  rcases broken with ⟨before, behind, spelled, plain, refused⟩
  let cut : ServerSentEvents.Frame := ⟨event.name, before⟩
  have boundary : splitlines.isEnd 0x85 = true := rfl
  have text : (event.frame numbers).write ++ rest =
      cut.nameLine ++ 10 :: (cut.dataLine ++ 0x85 :: (behind ++ 10 :: 10 :: rest)) := by
    simp [cut, ServerSentEvents.Frame.write, ServerSentEvents.Frame.nameLine,
      ServerSentEvents.Frame.dataLine, SseEvent.frame, spelled]
  rw [text, splitlines.lines_append (ServerSentEvents.Frame.plain_nameLine plain_name)
    splitlines.lineFeed (by decide),
    splitlines.lines_append (ServerSentEvents.Frame.plain_dataLine plain) boundary (by decide),
    collectLines_frame]
  intro same
  cases decoded : decodeData room (strip before) with
  | error error =>
      rw [decoded] at same
      cases same
  | ok data =>
      cases collected : collectLines room (some [])
        (splitlines.lines (behind ++ 10 :: 10 :: rest)) with
      | error error =>
          rw [decoded, collected] at same
          cases same
      | ok others =>
          rw [decoded, collected] at same
          have first := congrArg SSEEvent.data (List.cons.inj (Except.ok.inj same)).1
          have kept := decodeData_of_refused (refused room fits) decoded
          change data = (event.payload numbers).getD _ at first
          cases carried : event.payload numbers with
          | none =>
              have empty : event.data numbers = [] := by
                rw [SseEvent.data_eq, Option.map_eq_none_iff.mp carried]
                rfl
              rw [empty] at spelled
              exact absurd spelled.symm (List.append_ne_nil_of_right_ne_nil _
                (List.cons_ne_nil _ _))
          | some value =>
              rw [carried, Option.getD_some] at first
              exact payload_ne_raw sendable _
                (carried.trans (congrArg some (first.symm.trans kept)))

/-- The lines of a stream are collected as its events exactly when no event breaks off. -/
theorem collectLines_responseBody {events : List SseEvent}
    (sendable : ∀ event ∈ events, event.Sendable) (fits : 1 ≤ room)
    (eventType : Option Text) :
    collectLines room eventType (splitlines.lines (responseBody numbers events)) =
        .ok (events.map (received numbers)) ↔
      ∀ event ∈ events, ∀ text ∈ event.texts, 0x85 ∉ text := by
  induction events generalizing eventType with
  | nil => exact ⟨fun _ event member => absurd member List.not_mem_nil, fun _ => rfl⟩
  | cons event events ih =>
      rw [List.forall_mem_cons] at sendable
      rw [responseBody, List.map_cons, ServerSentEvents.write, List.flatMap_cons,
        ← ServerSentEvents.write, ← responseBody, List.forall_mem_cons, List.map_cons]
      by_cases clean : ∀ text ∈ event.texts, 0x85 ∉ text
      · have decoded : decodeData room (strip (event.frame numbers).data) =
          .ok (received numbers event).data := decodeData_data sendable.1 fits
        have named : strip (event.frame numbers).name = event.name := strip_name event
        have blank : ∀ lines, collectLines room (some []) ([] :: lines) =
          collectLines room (some []) lines := fun _ => rfl
        rw [ServerSentEvents.Frame.lines_write (plain_frame_splitlines sendable.1 clean),
          collectLines_frame, and_iff_right clean, ← ih sendable.2 (some []), named, decoded, blank]
        cases collectLines room (some []) (splitlines.lines (responseBody numbers events)) with
        | error error => exact iff_of_false (fun same => by cases same) (fun same => by cases same)
        | ok others =>
            refine ⟨fun same => ?_, fun same => ?_⟩
            · exact congrArg Except.ok (List.cons.inj (Except.ok.inj same)).2
            · exact congrArg (fun others => Except.ok (received numbers event :: others))
                (Except.ok.inj same)
      · have marked : ∃ text ∈ event.texts, 0x85 ∈ text := by
          simpa using clean
        have broken := breaksOff_data numbers sendable.1 marked
        exact iff_of_false (collectLines_of_breaksOff sendable.1 fits broken eventType _ _)
          fun all => clean all.1

end SSEReader

end Helpers

/-! ## The main results -/

namespace Handler

section Main

variable [Runtime] [Rendering] {servicer : AiOrchestrationServicer}
  {environment : Environment} {ambient : Ambient} {rpcError : PyError → String}
  {sessionId : String} {body : Option TurnReq} {service : StateEngineService}
  {events : List SseEvent} {numbers : NumberFormat}

/-- A client that reads the response as the format prescribes, and decodes the data of its
events, gets back every event that the handler sent, in order: its name, and its payload
where it has one. -/
theorem events_of_responseBody
    (answered : (processTurn servicer environment ambient rpcError sessionId body service).2 =
      .stream events) {room : Nat} (fits : 1 ≤ room) :
    (ServerSentEvents.parse (responseBody numbers events)).map
        (fun frame => (frame.name, (Python.loads room frame.data).toOption)) =
      events.map fun event => (event.name, event.payload numbers) :=
  decoded_responseBody (sendable_processTurn answered) fits

/-- The client of the test helpers collects the events of a response exactly when none of
their strings has the one line boundary that is sent as it is. -/
theorem collect_responseBody_iff
    (answered : (processTurn servicer environment ambient rpcError sessionId body service).2 =
      .stream events) {room : Nat} (fits : 1 ≤ room) :
    SSEReader.collect room (responseBody numbers events) =
        .ok (events.map (SSEReader.received numbers)) ↔
      ∀ event ∈ events, ∀ text ∈ event.texts, 0x85 ∉ text :=
  SSEReader.collectLines_responseBody (sendable_processTurn answered) fits none

end Main

end Handler

section Sample

open Python.JsonWriter (tenths)

attribute [local instance] referenceRuntime referenceRendering

def TurnResponse.isStream : TurnResponse → Bool
  | .stream _ => true
  | .jsonError _ _ => false

theorem exists_events_sampleTurn : ∃ events,
    (Handler.processTurn sampleServicer sampleEnvironment sampleAmbient sampleRpcError sampleId
      (some sampleTurn) sampleService).2 = .stream events := by
  have streams : (Handler.processTurn sampleServicer sampleEnvironment sampleAmbient
      sampleRpcError sampleId (some sampleTurn) sampleService).2.isStream = true := by
    decide +kernel
  cases answered : (Handler.processTurn sampleServicer sampleEnvironment sampleAmbient
    sampleRpcError sampleId (some sampleTurn) sampleService).2 with
  | stream events => exact ⟨events, rfl⟩
  | jsonError message status =>
      rw [answered] at streams
      cases streams

theorem events_of_responseBody_sampleTurn : ∃ events,
    (Handler.processTurn sampleServicer sampleEnvironment sampleAmbient sampleRpcError sampleId
      (some sampleTurn) sampleService).2 = .stream events ∧
    (ServerSentEvents.parse (responseBody tenths events)).map
        (fun frame => (frame.name, (Python.loads 1 frame.data).toOption)) =
      events.map fun event => (event.name, event.payload tenths) := by
  rcases exists_events_sampleTurn with ⟨events, answered⟩
  exact ⟨events, answered, Handler.events_of_responseBody answered le_rfl⟩

theorem collect_responseBody_iff_sampleTurn : ∃ events,
    (Handler.processTurn sampleServicer sampleEnvironment sampleAmbient sampleRpcError sampleId
      (some sampleTurn) sampleService).2 = .stream events ∧
    (SSEReader.collect 1 (responseBody tenths events) =
        .ok (events.map (SSEReader.received tenths)) ↔
      ∀ event ∈ events, ∀ text ∈ event.texts, 0x85 ∉ text) := by
  rcases exists_events_sampleTurn with ⟨events, answered⟩
  exact ⟨events, answered, Handler.collect_responseBody_iff answered le_rfl⟩

end Sample

end Chitragupt
