import Chitragupt.Lib.Coroutine
import Chitragupt.Pipeline.TurnStream

/-!
# Concurrent turns

All calls of the streaming RPC share one executor, and the result of a turn travels
through a field of it.  A call writes the field when its own run has ended and reads it
back without an `await` in between, so no other call can come between the two.
-/

namespace Chitragupt

open Python (PyError)
open Machines (Coroutine Tasks)

/-- Where a call of `RunPipeline` is. -/
inductive CallPoint where
  /-- In the loop over the tokens, with `rest` to come. -/
  | draining (rest : List Text)
  /-- `run` has its result and has not written it. -/
  | awaited (result : TurnResult)
  /-- `run` has written the result; it returns, or raises when the turn was aborted. -/
  | recorded (aborted : Bool)
  /-- The servicer has read the last result, behind the loop or in the handler. -/
  | loaded (result : Option TurnResult)
  | ended (error : Option PyError)

structure RunPipelineCall where
  point : CallPoint
  sent : List PipelineEvent

namespace RunPipelineCall

/-- The call waits for a token, for its task or for its client, or is over. -/
def suspended (call : RunPipelineCall) : Bool :=
  match call.point with
  | .draining _ => true
  | .ended _ => true
  | _ => false

section Calls

variable [FloatRounding]

/-- One step of the call that executes `run`, over the last result of the executor. -/
def step (run : PipelineRun) (call : RunPipelineCall) (last : Option TurnResult) :
    Option (RunPipelineCall × Option TurnResult) :=
  match call.point with
  | .draining (text :: rest) =>
      match protoText text with
      | .ok token => some (⟨.draining rest, call.sent ++ [.token token]⟩, last)
      | .error error => some (⟨.ended (some error), call.sent⟩, last)
  | .draining [] =>
      match run.ending with
      | .finished result => some (⟨.awaited result, call.sent⟩, last)
      | .aborted result => some (⟨.awaited result, call.sent⟩, last)
      | .raised error => some (⟨.ended (some error), call.sent⟩, last)
  | .awaited result => some (⟨.recorded result.aborted, call.sent⟩, some result)
  | .recorded _ => some (⟨.loaded last, call.sent⟩, last)
  | .loaded (some result) =>
      match buildTurnComplete result with
      | .ok turn => some (⟨.ended none, call.sent ++ [.complete turn]⟩, last)
      | .error error => some (⟨.ended (some error), call.sent⟩, last)
  | .loaded none => some (⟨.ended none, call.sent⟩, last)
  | .ended _ => none

/-- The call as a task of the event loop. -/
def coroutine (run : PipelineRun) : Coroutine RunPipelineCall (Option TurnResult) where
  step := step run
  suspended := suspended

end Calls

/-- A call before its first token. -/
def fresh (run : PipelineRun) : RunPipelineCall where
  point := .draining run.tokens
  sent := []

/-! ## What a call keeps by itself -/

/-- A stream behind events already sent. -/
def behind (sent : List PipelineEvent) (stream : EventStream) : EventStream where
  events := sent ++ stream.events
  error := stream.error

@[simp] theorem behind_nil (stream : EventStream) : behind [] stream = stream := rfl

theorem behind_behind (earlier later : List PipelineEvent) (stream : EventStream) :
    behind earlier (behind later stream) = behind (earlier ++ later) stream := by
  simp [behind]

section Calls

variable [FloatRounding]

theorem completeWith_cons (event : PipelineEvent) (events : List PipelineEvent)
    (result : TurnResult) :
    completeWith (event :: events) result = behind [event] (completeWith events result) := by
  rw [completeWith, completeWith]
  cases buildTurnComplete result <;> rfl

/-- The first token that its message takes goes ahead of the rest of the stream. -/
theorem streamOf_cons {text : Text} {token : String} (valid : protoText text = .ok token)
    (rest : List Text) (ending : RunEnding) :
    streamOf ⟨text :: rest, ending⟩ = behind [.token token] (streamOf ⟨rest, ending⟩) := by
  simp only [streamOf, tokenEvents, valid]
  rcases tokenEvents rest with ⟨events, error⟩
  cases error with
  | some error => rfl
  | none =>
      cases ending with
      | raised error => rfl
      | finished result | aborted result => exact completeWith_cons _ _ result

theorem streamOf_cons_error {text : Text} {error : PyError}
    (invalid : protoText text = .error error) (rest : List Text) (ending : RunEnding) :
    streamOf ⟨text :: rest, ending⟩ = ⟨[], some error⟩ := by
  simp only [streamOf, tokenEvents, invalid]

/-- The stream behind the last token of a run with a result. -/
theorem streamOf_nil {ending : RunEnding} {result : TurnResult}
    (ended : ending.result? = some result) :
    streamOf ⟨[], ending⟩ = completeWith [] result := by
  cases ending with
  | raised error => cases ended
  | finished found | aborted found =>
      cases ended
      rfl

/-- What a call has sent, and has left to send, makes up the stream of its own run. -/
def Faithful (run : PipelineRun) (call : RunPipelineCall) : Prop :=
  match call.point with
  | .draining rest => streamOf run = behind call.sent (streamOf ⟨rest, run.ending⟩)
  | .awaited result =>
      run.ending.result? = some result ∧
        streamOf run = behind call.sent (completeWith [] result)
  | .recorded _ =>
      ∃ result, run.ending.result? = some result ∧
        streamOf run = behind call.sent (completeWith [] result)
  | .loaded last =>
      ∃ result, last = some result ∧ run.ending.result? = some result ∧
        streamOf run = behind call.sent (completeWith [] result)
  | .ended error => streamOf run = ⟨call.sent, error⟩

/-- While a call goes from its write to its read, the executor holds its result. -/
def Holds (run : PipelineRun) (call : RunPipelineCall) (last : Option TurnResult) : Prop :=
  match call.point with
  | .recorded _ => last = run.ending.result?
  | _ => True

theorem faithful_fresh (run : PipelineRun) : Faithful run (fresh run) := rfl

/-- A step keeps the call faithful, and leaves the critical section or keeps the result. -/
theorem faithful_step {run : PipelineRun} {call moved : RunPipelineCall}
    {last after : Option TurnResult} (step : call.step run last = some (moved, after))
    (faithful : Faithful run call)
    (holds : call.suspended = true ∨ Holds run call last) :
    Faithful run moved ∧ (moved.suspended = true ∨ Holds run moved after) := by
  rcases call with ⟨point, sent⟩
  cases point with
  | draining rest =>
      rw [Faithful] at faithful
      cases rest with
      | cons text rest =>
          cases valid : protoText text with
          | ok token =>
              simp only [RunPipelineCall.step, valid, Option.some.injEq, Prod.mk.injEq] at step
              rcases step with ⟨rfl, rfl⟩
              refine ⟨?_, .inl rfl⟩
              rw [Faithful, faithful, streamOf_cons valid, behind_behind]
          | error error =>
              simp only [RunPipelineCall.step, valid, Option.some.injEq, Prod.mk.injEq] at step
              rcases step with ⟨rfl, rfl⟩
              refine ⟨?_, .inl rfl⟩
              rw [Faithful, faithful, streamOf_cons_error valid]
              simp [behind]
      | nil =>
          cases ending : run.ending with
          | finished result | aborted result =>
              simp only [RunPipelineCall.step, ending, Option.some.injEq, Prod.mk.injEq] at step
              rcases step with ⟨rfl, rfl⟩
              have own : run.ending.result? = some result := by
                rw [ending]
                rfl
              refine ⟨⟨own, ?_⟩, .inr trivial⟩
              rw [faithful, streamOf_nil own]
          | raised error =>
              simp only [RunPipelineCall.step, ending, Option.some.injEq, Prod.mk.injEq] at step
              rcases step with ⟨rfl, rfl⟩
              refine ⟨?_, .inl rfl⟩
              rw [Faithful, faithful, ending]
              simp [behind, streamOf, tokenEvents]
  | awaited result =>
      cases step
      exact ⟨⟨result, faithful.1, faithful.2⟩, .inr faithful.1.symm⟩
  | recorded aborted =>
      cases step
      rcases faithful with ⟨result, own, stream⟩
      have kept : last = run.ending.result? := holds.resolve_left Bool.false_ne_true
      exact ⟨⟨result, kept.trans own, own, stream⟩, .inr trivial⟩
  | loaded last =>
      rcases faithful with ⟨result, rfl, own, stream⟩
      rw [completeWith] at stream
      cases built : buildTurnComplete result with
      | ok turn =>
          simp only [RunPipelineCall.step, built, Option.some.injEq, Prod.mk.injEq] at step
          rcases step with ⟨rfl, rfl⟩
          rw [built] at stream
          exact ⟨stream, .inl rfl⟩
      | error error =>
          simp only [RunPipelineCall.step, built, Option.some.injEq, Prod.mk.injEq] at step
          rcases step with ⟨rfl, rfl⟩
          rw [built] at stream
          refine ⟨?_, .inl rfl⟩
          rw [Faithful, stream]
          simp [behind]
  | ended error => cases step

/-- A faithful call has sent a part of the stream of its own run. -/
theorem Faithful.streamed {run : PipelineRun} {call : RunPipelineCall}
    (faithful : Faithful run call) : call.sent <+: (streamOf run).events := by
  rcases call with ⟨point, sent⟩
  cases point with
  | draining rest =>
      rw [Faithful] at faithful
      rw [faithful]
      exact List.prefix_append _ _
  | awaited result =>
      rw [faithful.2]
      exact List.prefix_append _ _
  | recorded aborted =>
      rcases faithful with ⟨result, _, stream⟩
      rw [stream]
      exact List.prefix_append _ _
  | loaded last =>
      rcases faithful with ⟨result, _, _, stream⟩
      rw [stream]
      exact List.prefix_append _ _
  | ended error =>
      rw [Faithful] at faithful
      rw [faithful]

end Calls

end RunPipelineCall

/-! ## All calls together -/

section Concurrent

variable [FloatRounding] {ι : Type} [DecidableEq ι] (runs : ι → PipelineRun)

/-- The calls after a schedule, on an executor that still has the result of some earlier
turn. -/
def concurrentTurns (earlier : Option TurnResult) (schedule : List ι) :
    Tasks ι RunPipelineCall (Option TurnResult) :=
  (Coroutine.scheduler fun call => RunPipelineCall.coroutine (runs call)).run
    { locals := fun call => .fresh (runs call), shared := earlier, running := none } schedule

/-- Whatever the schedule, a call that completes its turn does so with the result of its
own run; and what a call sends is the stream that its run has alone. -/
theorem turns_not_swapped (earlier : Option TurnResult) (schedule : List ι) (call : ι) :
    (∀ turn, .complete turn ∈ ((concurrentTurns runs earlier schedule).locals call).sent →
      ∃ result, (runs call).ending.result? = some result ∧
        buildTurnComplete result = .ok turn) ∧
    ((concurrentTurns runs earlier schedule).locals call).sent <+:
      (streamOf (runs call)).events ∧
    ∀ error, ((concurrentTurns runs earlier schedule).locals call).point = .ended error →
      streamOf (runs call) =
        ⟨((concurrentTurns runs earlier schedule).locals call).sent, error⟩ := by
  have keeps : Coroutine.Keeps (fun call => RunPipelineCall.coroutine (runs call))
      (fun call => RunPipelineCall.Faithful (runs call))
      (fun call => RunPipelineCall.Holds (runs call))
      (concurrentTurns runs earlier schedule) := by
    apply Coroutine.keeps_run
    · intro call _ _ _ _ step faithful holds
      exact RunPipelineCall.faithful_step step faithful holds
    · intro call
      exact ⟨RunPipelineCall.faithful_fresh (runs call), .inl rfl⟩
  have faithful : RunPipelineCall.Faithful (runs call)
      ((concurrentTurns runs earlier schedule).locals call) := (keeps call).1
  refine ⟨?_, faithful.streamed, ?_⟩
  · intro turn sent
    exact (complete_mem_streamOf.mp (faithful.streamed.subset sent)).built
  · intro error ended
    rw [RunPipelineCall.Faithful, ended] at faithful
    exact faithful

end Concurrent

end Chitragupt
