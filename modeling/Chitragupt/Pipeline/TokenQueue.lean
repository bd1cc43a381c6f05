import Chitragupt.Lib.AsyncQueue
import Chitragupt.Lib.Transition
import Chitragupt.Pipeline.Executor

/-!
# The token queue

The graph runs as a task beside the reader of the turn.  The guidance node waits for
room before it puts a token, and closes the queue with `None`; the graph task adds a
second mark when there is room for it.  The reader yields the tokens it takes and stops
at the first mark.
-/

namespace Chitragupt

open Python (PyError AsyncQueue)
open Transitions (System)

/-! ## The parties -/

/-- What the graph task has left to do with the queue. -/
inductive GraphTask where
  /-- The guidance node has `rest` to put, and closes the queue behind it unless its
  stream stalls; the result is that of the graph. -/
  | streaming (rest : List Text) (result : Option TurnResult)
  /-- The graph has ended; the `finally` block of `_run_graph` is left. -/
  | closing (result : TurnResult)
  | finished (result : TurnResult)
  | cancelled

namespace GraphTask

/-- The tokens not yet put. -/
def rest : GraphTask → List Text
  | .streaming rest _ => rest
  | _ => []

/-- The result of the graph, when it has one or will have one. -/
def result : GraphTask → Option TurnResult
  | .streaming _ result => result
  | .closing result => some result
  | .finished result => some result
  | .cancelled => none

/-- The task waits for room in the queue, or would if there were none. -/
def Putting : GraphTask → Prop
  | .streaming (_ :: _) _ => True
  | .streaming [] (some _) => True
  | _ => False

/-- `pipeline_task.cancel()`: a finished task stays as it is. -/
def cancel : GraphTask → GraphTask
  | .finished result => .finished result
  | _ => .cancelled

section Start

variable [Runtime] [Rendering] (config : OrchestrationConfig) (environment : Environment)

/-- The task of a turn.  A graph that raises before its guidance puts no token; a
failure of the guidance closes the queue as its success does. -/
def start (initial : PipelineState) : GraphTask :=
  if environment.slowNodes then .streaming [] none
  else
    match PipelineExecutor.prepare config environment initial with
    | .error error => .closing (.ofError error)
    | .ok state =>
        let generation := GuidanceGenerator.call config environment state
        .streaming generation.tokens
          (match generation.outcome with
            | .returns final => some (.ofState initial.llmCtx final)
            | _ => none)

/-- The task puts the tokens of the graph. -/
@[simp] theorem rest_start (initial : PipelineState) :
    (start config environment initial).rest =
      (PipelineExecutor.runGraph config environment initial).tokens := by
  rw [start, PipelineExecutor.runGraph, PipelineExecutor.invoke]
  cases environment.slowNodes with
  | true => rfl
  | false =>
      cases PipelineExecutor.prepare config environment initial with
      | error error => rfl
      | ok state => rfl

/-- It has the result of the graph, if that ends. -/
theorem result_start (initial : PipelineState) :
    (start config environment initial).result =
      match (PipelineExecutor.runGraph config environment initial).outcome with
      | .returns result => some result
      | _ => none := by
  rw [start, PipelineExecutor.runGraph, PipelineExecutor.invoke]
  cases environment.slowNodes with
  | true => rfl
  | false =>
      cases PipelineExecutor.prepare config environment initial with
      | error error => rfl
      | ok state =>
          have caught := GuidanceGenerator.call_ne_raises config environment state
          dsimp only [Bool.false_eq_true, if_false, result]
          cases called : (GuidanceGenerator.call config environment state).outcome with
          | returns final => simp [called]
          | timesOut => simp [called]
          | raises error => exact absurd called (caught error)

theorem start_ne_finished (initial : PipelineState) (result : TurnResult) :
    start config environment initial ≠ .finished result := by
  rw [start]
  split
  · exact nofun
  · split <;> exact nofun

theorem start_ne_cancelled (initial : PipelineState) :
    start config environment initial ≠ .cancelled := by
  rw [start]
  split
  · exact nofun
  · split <;> exact nofun

end Start

end GraphTask

/-- Where the reader is: at the queue, at a `yield`, behind the mark, or given up by the
ceiling or by its consumer. -/
inductive Reader where
  | waiting
  | yielding
  | finished
  | timedOut
  | closed
  deriving DecidableEq

structure TokenStreaming where
  queue : AsyncQueue (Option Text)
  task : GraphTask
  reader : Reader
  yielded : List Text

namespace TokenStreaming

/-- `run` has made the queue and created the task. -/
def start (maxsize : Int) (task : GraphTask) : TokenStreaming where
  queue := .new maxsize
  task
  reader := .waiting
  yielded := []

inductive Event where
  | put
  | close
  | conclude
  | take
  | resume
  | stop
  | disconnect
  | timeout
  deriving DecidableEq

/-! ## The steps -/

inductive Step : TokenStreaming → Event → TokenStreaming → Prop where
  /-- `await sink.put(text)`. -/
  | put {queue token rest result reader yielded} (room : queue.full = false) :
      Step ⟨queue, .streaming (token :: rest) result, reader, yielded⟩ .put
        ⟨queue.put (some token), .streaming rest result, reader, yielded⟩
  /-- `await sink.put(None)`, on success or in the handler of a failure. -/
  | close {queue result reader yielded} (room : queue.full = false) :
      Step ⟨queue, .streaming [] (some result), reader, yielded⟩ .close
        ⟨queue.put none, .closing result, reader, yielded⟩
  /-- `sink.put_nowait(None)`, with `QueueFull` ignored. -/
  | conclude {queue result reader yielded} :
      Step ⟨queue, .closing result, reader, yielded⟩ .conclude
        ⟨queue.tryPut none, .finished result, reader, yielded⟩
  /-- `queue.get()` returns a token, which is yielded. -/
  | take {maxsize token items task yielded} :
      Step ⟨⟨maxsize, some token :: items⟩, task, .waiting, yielded⟩ .take
        ⟨⟨maxsize, items⟩, task, .yielding, yielded ++ [token]⟩
  /-- The consumer asks for the next token. -/
  | resume {queue task yielded} :
      Step ⟨queue, task, .yielding, yielded⟩ .resume ⟨queue, task, .waiting, yielded⟩
  /-- `queue.get()` returns the mark. -/
  | stop {maxsize items task yielded} :
      Step ⟨⟨maxsize, none :: items⟩, task, .waiting, yielded⟩ .stop
        ⟨⟨maxsize, items⟩, task, .finished, yielded⟩
  /-- The consumer closes the generator at a `yield`.  Nothing is cancelled. -/
  | disconnect {queue task yielded} :
      Step ⟨queue, task, .yielding, yielded⟩ .disconnect ⟨queue, task, .closed, yielded⟩
  /-- Nothing has arrived for the length of the ceiling. -/
  | timeout {maxsize task yielded} :
      Step ⟨⟨maxsize, []⟩, task, .waiting, yielded⟩ .timeout
        ⟨⟨maxsize, []⟩, task.cancel, .timedOut, yielded⟩

/-- The graph task and the reader of one turn. -/
def system : System TokenStreaming Event where
  step := Step

/-- Neither a timeout nor a disconnect. -/
def Undisturbed (event : Event) : Prop := event ≠ .disconnect ∧ event ≠ .timeout

end TokenStreaming

end Chitragupt
