import Chitragupt.Pipeline.TokenQueue
import Chitragupt.Pipeline.TurnStream

/-!
# Delivery of the tokens

What holds in every state of a turn's streaming, whatever the order of the steps: the
tokens yielded, those in the queue and those still to put are the tokens of the graph in
order, and a closed queue keeps a mark for the reader.  A reader that goes away leaves
the graph task behind when the rest of the tokens does not fit into the queue.
-/

namespace Chitragupt

open Python (PyError AsyncQueue)

/-! ## The stream behind the tokens -/

namespace PipelineExecutor

variable [Runtime] [Rendering] {config : OrchestrationConfig} {environment : Environment}
  {initial : PipelineState}

variable (config environment initial) in
/-- The nodes in front of the guidance return in time, and it opens a stream with this
request. -/
def Opens (request : LlmRequest) : Prop :=
  environment.slowNodes = false ∧ ∃ prepared, prepare config environment initial = .ok prepared ∧
    GuidanceGenerator.buildRequest config environment prepared = .ok request

/-- The tokens of a run are those of the stream that its guidance opens. -/
theorem tokens_runGraph_of_opens {request : LlmRequest}
    (opens : Opens config environment initial request) :
    (runGraph config environment initial).tokens = (environment.stream request).tokens := by
  obtain ⟨prompt, prepared, returned, built⟩ := opens
  rw [runGraph]
  dsimp only
  rw [invoke, prompt, if_neg Bool.false_ne_true, returned]
  dsimp only
  rw [GuidanceGenerator.tokens_call, GuidanceGenerator.generate, built]

/-- Without a stream a run has no tokens. -/
theorem tokens_runGraph_of_not_opens
    (none : ∀ request, ¬Opens config environment initial request) :
    (runGraph config environment initial).tokens = [] := by
  rw [runGraph]
  dsimp only
  rw [invoke]
  cases prompt : environment.slowNodes with
  | true => rfl
  | false =>
      rw [if_neg Bool.false_ne_true]
      cases returned : prepare config environment initial with
      | error error => rfl
      | ok prepared =>
          dsimp only
          rw [GuidanceGenerator.tokens_call, GuidanceGenerator.generate]
          cases built : GuidanceGenerator.buildRequest config environment prepared with
          | error error => rfl
          | ok request => exact absurd ⟨prompt, prepared, returned, built⟩ (none request)

end PipelineExecutor

namespace TokenStreaming

/-! ## The invariant -/

/-- Where the closing marks are, with `texts` the tokens in the queue. -/
def Marked (reader : Reader) (texts : List Text) (marks : Nat) : GraphTask → Prop
  | .streaming _ _ => marks = 0 ∧ reader ≠ .finished
  | .closing _ => (marks = 0 → texts = []) ∧ (reader = .finished → texts = [])
  | .finished _ => (reader = .finished ∨ marks ≠ 0) ∧ (reader = .finished → texts = [])
  | .cancelled => False

/-- Nothing is lost, doubled or out of order, and the marks are where they belong. -/
def Orderly (tokens : List Text) (state : TokenStreaming) : Prop :=
  ∃ texts marks, state.queue.Holds texts marks ∧
    state.yielded ++ (texts ++ state.task.rest) = tokens ∧
    Marked state.reader texts marks state.task

theorem orderly_start (maxsize : Int) {task : GraphTask} (fresh : ∀ result, task ≠ .finished result)
    (running : task ≠ .cancelled) : (start maxsize task).Orderly task.rest := by
  refine ⟨[], 0, .new maxsize, rfl, ?_⟩
  cases task with
  | streaming rest result => exact ⟨rfl, by simp [start]⟩
  | closing result => exact ⟨fun _ => rfl, fun _ => rfl⟩
  | finished result => exact absurd rfl (fresh result)
  | cancelled => exact absurd rfl running

/-- Every step keeps the order, unless the ceiling cancels the task. -/
theorem Orderly.next {tokens : List Text} {before after : TokenStreaming} {event : Event}
    (step : Step before event after) (orderly : before.Orderly tokens) :
    after.Orderly tokens ∨ after.task = .cancelled := by
  rcases orderly with ⟨texts, marks, holds, order, marked⟩
  cases step with
  | @put queue token rest result reader yielded room =>
      rcases marked with ⟨rfl, reading⟩
      refine .inl ⟨texts ++ [token], 0, holds.put_some token, ?_, rfl, reading⟩
      simpa [GraphTask.rest] using order
  | @close queue result reader yielded room =>
      rcases marked with ⟨rfl, reading⟩
      refine .inl ⟨texts, 1, holds.put_none, order, by simp, ?_⟩
      intro finished
      exact absurd finished reading
  | @conclude queue result reader yielded =>
      rcases holds.tryPut_none marked.1 with ⟨more, closed, held⟩
      exact .inl ⟨texts, more, held, order, .inr closed, marked.2⟩
  | @take maxsize token items task yielded =>
      rcases holds.of_cons_some with ⟨later, rfl, held⟩
      refine .inl ⟨later, marks, held, by simpa using order, ?_⟩
      cases task with
      | streaming rest result => exact ⟨marked.1, by simp⟩
      | closing result =>
          refine ⟨?_, by simp⟩
          intro unmarked
          cases marked.1 unmarked
      | finished result => exact ⟨.inr (marked.1.resolve_left (by simp)), by simp⟩
      | cancelled => exact marked.elim
  | @resume queue task yielded | @disconnect queue task yielded =>
      refine .inl ⟨texts, marks, holds, order, ?_⟩
      cases task with
      | streaming rest result => exact ⟨marked.1, by simp⟩
      | closing result => exact ⟨marked.1, by simp⟩
      | finished result => exact ⟨.inr (marked.1.resolve_left (by simp)), by simp⟩
      | cancelled => exact marked.elim
  | @stop maxsize items task yielded =>
      rcases holds.of_cons_none with ⟨rfl, fewer, rfl, held⟩
      refine .inl ⟨[], fewer, held, order, ?_⟩
      cases task with
      | streaming rest result => cases marked.1
      | closing result => exact ⟨fun _ => rfl, fun _ => rfl⟩
      | finished result => exact ⟨.inl rfl, fun _ => rfl⟩
      | cancelled => exact marked.elim
  | @timeout maxsize task yielded =>
      cases task with
      | finished result =>
          refine .inl ⟨texts, marks, holds, order, ?_⟩
          exact ⟨.inr (marked.1.resolve_left (by simp)), by simp⟩
      | _ => exact .inr rfl

theorem Step.cancelled {before after : TokenStreaming} {event : Event}
    (step : Step before event after) (cancelled : before.task = .cancelled) :
    after.task = .cancelled := by
  cases step with
  | put | close | conclude => cases cancelled
  | take | resume | stop | disconnect => exact cancelled
  | timeout =>
      dsimp only at cancelled
      rw [cancelled]
      rfl

/-! ## Undisturbed turns -/

/-- The reader is still there and the task has not been cancelled. -/
def Live (state : TokenStreaming) : Prop :=
  state.task ≠ .cancelled ∧ state.reader ≠ .timedOut ∧ state.reader ≠ .closed

theorem Live.next {before after : TokenStreaming} {event : Event} (quiet : Undisturbed event)
    (step : Step before event after) (live : before.Live) :
    after.Live ∧ after.task.result = before.task.result := by
  cases step with
  | put => exact ⟨⟨nofun, live.2⟩, rfl⟩
  | close => exact ⟨⟨nofun, live.2⟩, rfl⟩
  | conclude => exact ⟨⟨nofun, live.2⟩, rfl⟩
  | take => exact ⟨⟨live.1, nofun, nofun⟩, rfl⟩
  | resume => exact ⟨⟨live.1, nofun, nofun⟩, rfl⟩
  | stop => exact ⟨⟨live.1, nofun, nofun⟩, rfl⟩
  | disconnect => exact absurd rfl quiet.1
  | timeout => exact absurd rfl quiet.2

/-- The steps left to the task, at most. -/
def taskWeight : GraphTask → Nat
  | .streaming rest _ => 4 * rest.length + 8
  | .closing _ => 4
  | .finished _ => 0
  | .cancelled => 0

/-- A bound on the steps left: a token is put, taken and followed by a resumption. -/
def weight (state : TokenStreaming) : Nat :=
  taskWeight state.task + 3 * state.queue.items.length +
    if state.reader = .yielding then 1 else 0

theorem weight_lt {before after : TokenStreaming} {event : Event} (quiet : Undisturbed event)
    (step : Step before event after) : after.weight < before.weight := by
  cases step with
  | put =>
      simp only [weight, taskWeight, AsyncQueue.items_put, List.length_append, List.length_cons,
        List.length_nil]
      omega
  | close =>
      simp only [weight, taskWeight, AsyncQueue.items_put, List.length_append, List.length_cons,
        List.length_nil]
      omega
  | @conclude queue result reader yielded =>
      have longer := queue.length_tryPut_le none
      simp only [weight, taskWeight]
      omega
  | take =>
      simp only [weight, List.length_cons, reduceCtorEq, if_true, if_false]
      omega
  | resume => simp [weight]
  | stop => simp [weight]
  | disconnect => exact absurd rfl quiet.1
  | timeout => exact absurd rfl quiet.2

theorem terminates : system.Terminates Undisturbed :=
  Transitions.System.terminates_of_measure weight fun _ _ _ quiet step => weight_lt quiet step

/-- An undisturbed turn that cannot go on has ended, or waits for its stream. -/
theorem ended_of_stuck {tokens : List Text} {state : TokenStreaming}
    (orderly : state.Orderly tokens) (live : state.Live)
    (ends : state.task.result.isSome = true) (stuck : system.Stuck Undisturbed state) :
    state.reader = .finished ∧ ∃ result, state.task = .finished result := by
  rcases state with ⟨⟨maxsize, items⟩, task, reader, yielded⟩
  rcases orderly with ⟨texts, marks, holds, -, marked⟩
  have still : ∀ event after, Undisturbed event → ¬Step _ event after := stuck
  cases reader with
  | timedOut => exact absurd rfl live.2.1
  | closed => exact absurd rfl live.2.2
  | yielding => exact absurd .resume (still .resume _ ⟨nofun, nofun⟩)
  | finished =>
      cases task with
      | streaming rest result => exact absurd rfl marked.2
      | closing result => exact absurd .conclude (still .conclude _ ⟨nofun, nofun⟩)
      | finished result => exact ⟨rfl, result, rfl⟩
      | cancelled => exact marked.elim
  | waiting =>
      cases items with
      | cons item items =>
          cases item with
          | some token => exact absurd .take (still .take _ ⟨nofun, nofun⟩)
          | none => exact absurd .stop (still .stop _ ⟨nofun, nofun⟩)
      | nil =>
          have room : (AsyncQueue.mk maxsize ([] : List (Option Text))).full = false := by
            rw [Bool.eq_false_iff]
            intro full
            exact AsyncQueue.ne_nil_of_full full rfl
          cases task with
          | streaming rest result =>
              cases rest with
              | cons token rest => exact absurd (.put room) (still .put _ ⟨nofun, nofun⟩)
              | nil =>
                  cases result with
                  | none => cases ends
                  | some result => exact absurd (.close room) (still .close _ ⟨nofun, nofun⟩)
          | closing result => exact absurd .conclude (still .conclude _ ⟨nofun, nofun⟩)
          | finished result =>
              have closed := marked.1.resolve_left nofun
              have present := holds.none_mem closed
              cases present
          | cancelled => exact marked.elim

section Delivery

variable [Runtime] [Rendering] (maxsize : Int) (config : OrchestrationConfig)
  (environment : Environment) (initial : PipelineState)

/-- The streaming of a turn. -/
def opening : TokenStreaming := start maxsize (GraphTask.start config environment initial)

theorem orderly_opening : (opening maxsize config environment initial).Orderly
    (PipelineExecutor.runGraph config environment initial).tokens := by
  rw [← GraphTask.rest_start]
  apply orderly_start
  · exact GraphTask.start_ne_finished config environment initial
  · exact GraphTask.start_ne_cancelled config environment initial

/-- What undisturbed steps keep. -/
theorem undisturbed_invariant {state : TokenStreaming}
    (reached : system.Reaches Undisturbed (opening maxsize config environment initial) state) :
    state.Orderly (PipelineExecutor.runGraph config environment initial).tokens ∧ state.Live ∧
      state.task.result = (GraphTask.start config environment initial).result := by
  apply reached.invariant (fun state =>
    state.Orderly (PipelineExecutor.runGraph config environment initial).tokens ∧ state.Live ∧
      state.task.result = (GraphTask.start config environment initial).result)
  · rintro before event after quiet step ⟨orderly, live, same⟩
    rcases live.next quiet step with ⟨lives, kept⟩
    exact ⟨(orderly.next step).resolve_right lives.1, lives, kept.trans same⟩
  · exact ⟨orderly_opening maxsize config environment initial,
      ⟨GraphTask.start_ne_cancelled config environment initial, nofun, nofun⟩, rfl⟩

/-- Without a timeout and a disconnect the reader yields the tokens of the graph, which
are those of the stream that the guidance opens, in order and each of them once; while it
reads on behind a finished graph task, a mark is in the queue.  Every such turn comes to an
end, unless its stream stalls. -/
theorem tokens_delivered :
    system.Terminates Undisturbed ∧
      (∀ request, PipelineExecutor.Opens config environment initial request →
        (PipelineExecutor.runGraph config environment initial).tokens =
          (environment.stream request).tokens) ∧
      ((∀ request, ¬PipelineExecutor.Opens config environment initial request) →
        (PipelineExecutor.runGraph config environment initial).tokens = []) ∧
      ∀ state, system.Reaches Undisturbed (opening maxsize config environment initial) state →
        state.yielded <+: (PipelineExecutor.runGraph config environment initial).tokens ∧
        (state.reader = .finished →
          state.yielded = (PipelineExecutor.runGraph config environment initial).tokens) ∧
        ((∃ result, state.task = .finished result) → state.reader ≠ .finished →
          none ∈ state.queue.items) ∧
        (system.Stuck Undisturbed state →
          (PipelineExecutor.runGraph config environment initial).outcome = .timesOut ∨
            state.reader = .finished ∧ ∃ result, state.task = .finished result ∧
              (PipelineExecutor.runGraph config environment initial).outcome =
                .returns result) := by
  refine ⟨terminates, fun _ => PipelineExecutor.tokens_runGraph_of_opens,
    PipelineExecutor.tokens_runGraph_of_not_opens, ?_⟩
  intro state reached
  obtain ⟨orderly, live, same⟩ :=
    undisturbed_invariant maxsize config environment initial reached
  rcases orderly with ⟨texts, marks, holds, order, marked⟩
  refine ⟨⟨_, order⟩, ?_, ?_, ?_⟩
  · intro finished
    rcases state with ⟨queue, task, reader, yielded⟩
    cases task with
    | streaming rest result => exact absurd finished marked.2
    | closing result | finished result =>
        have empty := marked.2 finished
        subst empty
        simpa [GraphTask.rest] using order
    | cancelled => exact marked.elim
  · rintro ⟨result, done⟩ reading
    rw [done] at marked
    exact holds.none_mem (marked.1.resolve_left reading)
  · intro stuck
    rw [GraphTask.result_start] at same
    cases outcome : (PipelineExecutor.runGraph config environment initial).outcome with
    | timesOut => exact .inl rfl
    | raises error => exact absurd outcome (PipelineExecutor.runGraph_ne_raises config environment
        initial error)
    | returns result =>
        rw [outcome] at same
        have ends : state.task.result.isSome = true := by
          rw [same]
          rfl
        rcases ended_of_stuck ⟨texts, marks, holds, order, marked⟩ live ends stuck with
          ⟨finished, found, done⟩
        rw [done] at same
        cases same
        exact .inr ⟨finished, result, done, rfl⟩

/-! ## Readers that go away -/

/-- The task waits for room that it does not have. -/
def Blocked (state : TokenStreaming) : Prop :=
  state.task.Putting ∧ state.queue.full = true

/-- The consumer has closed the generator, and the task waits for room forever. -/
def Stranded (state : TokenStreaming) : Prop :=
  state.reader = .closed ∧ ∀ later, system.Reaches (fun _ => True) state later → later.Blocked

omit [Runtime] [Rendering] in
/-- Nobody else makes room once the reader is gone. -/
theorem Blocked.stuck {state : TokenStreaming} (blocked : state.Blocked)
    (gone : state.reader = .closed) : system.Stuck (fun _ => True) state := by
  intro event after _ step
  rcases blocked with ⟨putting, full⟩
  cases step with
  | put room => exact absurd full (Bool.eq_false_iff.mp room)
  | close room => exact absurd full (Bool.eq_false_iff.mp room)
  | conclude => exact putting
  | take => cases gone
  | resume => cases gone
  | stop => cases gone
  | disconnect => cases gone
  | timeout => cases gone

omit [Runtime] [Rendering] in
theorem Blocked.stranded {state : TokenStreaming} (blocked : state.Blocked)
    (gone : state.reader = .closed) : state.Stranded := by
  refine ⟨gone, ?_⟩
  intro later reached
  rw [(blocked.stuck gone).eq_of_reaches reached]
  exact blocked

/-- The puts that wait for room: the tokens, and the mark behind a stream that ends. -/
def puts (generation : Generation TurnResult) : Nat :=
  generation.tokens.length +
    match generation.outcome with
    | .timesOut => 0
    | _ => 1

theorem puts_runGraph : puts (PipelineExecutor.runGraph config environment initial) =
    (GraphTask.start config environment initial).rest.length +
      (GraphTask.start config environment initial).result.isSome.toNat := by
  rw [puts, GraphTask.rest_start, GraphTask.result_start]
  cases outcome : (PipelineExecutor.runGraph config environment initial).outcome with
  | returns result => rfl
  | timesOut => rfl
  | raises error =>
      exact absurd outcome
        (PipelineExecutor.runGraph_ne_raises config environment initial error)

omit [Runtime] [Rendering] in
/-- What disturbed steps keep too, as long as the task has not been cancelled. -/
theorem Orderly.kept {tokens : List Text} {before after : TokenStreaming} {event : Event}
    (step : Step before event after) (orderly : before.Orderly tokens)
    (running : after.task ≠ .cancelled)
    (started : before.reader = .yielding ∨ before.reader = .closed → before.yielded ≠ []) :
    after.queue.maxsize = before.queue.maxsize ∧ after.task.result = before.task.result ∧
      (after.reader = .yielding ∨ after.reader = .closed → after.yielded ≠ []) := by
  cases step with
  | put => exact ⟨rfl, rfl, started⟩
  | close => exact ⟨rfl, rfl, started⟩
  | @conclude queue result reader yielded => exact ⟨queue.maxsize_tryPut none, rfl, started⟩
  | take => exact ⟨rfl, rfl, by simp⟩
  | resume => exact ⟨rfl, rfl, by simp⟩
  | stop => exact ⟨rfl, rfl, by simp⟩
  | disconnect => exact ⟨rfl, rfl, fun _ => started (.inl rfl)⟩
  | @timeout maxsize task yielded =>
      refine ⟨rfl, ?_, by simp⟩
      cases task with
      | finished result => rfl
      | _ => exact absurd rfl running

/-- The facts that hold in every run, whatever disturbs it. -/
theorem disturbed_invariant {state : TokenStreaming}
    (reached : system.Reaches (fun _ => True) (opening maxsize config environment initial)
      state) :
    state.task = .cancelled ∨
      state.Orderly (PipelineExecutor.runGraph config environment initial).tokens ∧
        state.queue.maxsize = maxsize ∧
        state.task.result = (GraphTask.start config environment initial).result ∧
        (state.reader = .yielding ∨ state.reader = .closed → state.yielded ≠ []) := by
  apply reached.invariant (fun state => state.task = .cancelled ∨
    state.Orderly (PipelineExecutor.runGraph config environment initial).tokens ∧
      state.queue.maxsize = maxsize ∧
      state.task.result = (GraphTask.start config environment initial).result ∧
      (state.reader = .yielding ∨ state.reader = .closed → state.yielded ≠ []))
  · rintro before event after _ step facts
    by_cases cancelled : after.task = .cancelled
    · exact .inl cancelled
    · rcases facts with before | ⟨orderly, bound, same, started⟩
      · exact absurd (step.cancelled before) cancelled
      · rcases orderly.kept step cancelled started with ⟨kept, result, next⟩
        exact .inr ⟨(orderly.next step).resolve_right cancelled, kept.trans bound,
          result.trans same, next⟩
  · exact .inr ⟨orderly_opening maxsize config environment initial, rfl, rfl, by simp [opening, start]⟩

/-- A task whose puts fit into the queue behind the first token is never stranded. -/
theorem not_stranded_of_puts {state : TokenStreaming}
    (fits : maxsize ≤ 0 ∨
      (puts (PipelineExecutor.runGraph config environment initial) : Int) ≤ maxsize + 1)
    (reached : system.Reaches (fun _ => True) (opening maxsize config environment initial)
      state) : ¬state.Stranded := by
  rintro ⟨gone, forever⟩
  rcases forever state (.refl state) with ⟨putting, full⟩
  rcases disturbed_invariant maxsize config environment initial reached with
    cancelled | ⟨⟨texts, marks, holds, order, marked⟩, bound, same, started⟩
  · rw [cancelled] at putting
    exact putting
  · rcases AsyncQueue.full_iff.mp full with ⟨positive, filled⟩
    rw [bound] at positive filled
    rw [holds.length] at filled
    have yielded : 0 < state.yielded.length :=
      List.length_pos_of_ne_nil (started (.inr gone))
    have total := congrArg List.length order
    simp only [List.length_append] at total
    rw [puts_runGraph, ← same, GraphTask.rest_start] at fits
    cases task : state.task with
    | streaming rest result =>
        rw [task] at marked total fits putting
        have unmarked := marked.1
        cases rest with
        | cons token rest =>
            simp only [GraphTask.rest, List.length_cons] at total
            omega
        | nil =>
            cases result with
            | none => exact putting
            | some result =>
                -- The mark is the one put that is left.
                simp only [GraphTask.result, Option.isSome_some, Bool.toNat_true] at fits
                omega
    | _ =>
        rw [task] at putting
        exact putting

omit [Runtime] [Rendering] in
/-- With the reader gone the task fills the queue. -/
theorem exists_blocked {maxsize : Int} {items : List (Option Text)} {rest yielded : List Text}
    {result : Option TurnResult} (room : Nat) (positive : 0 < maxsize)
    (left : (items.length : Int) + room = maxsize)
    (many : room < rest.length + result.isSome.toNat) :
    ∃ final, system.Reaches (fun _ => True)
        ⟨⟨maxsize, items⟩, .streaming rest result, .closed, yielded⟩ final ∧
      final.Blocked ∧ final.reader = .closed := by
  induction room generalizing items rest with
  | zero =>
      refine ⟨_, .refl _, ⟨?_, ?_⟩, rfl⟩
      · cases rest with
        | cons token rest => exact trivial
        | nil =>
            cases result with
            | none => simp at many
            | some result => exact trivial
      · rw [AsyncQueue.full_iff]
        dsimp only
        omega
  | succ room ih =>
      cases rest with
      | nil =>
          have few := Bool.toNat_le result.isSome
          rw [List.length_nil] at many
          omega
      | cons token rest =>
          have free : (AsyncQueue.mk maxsize items).full = false := by
            rw [Bool.eq_false_iff]
            intro full
            have bound := AsyncQueue.full_iff.mp full
            dsimp only at bound
            omega
          have longer : ((items ++ [some token]).length : Int) + room = maxsize := by
            rw [List.length_append, List.length_singleton]
            push_cast
            omega
          have fewer : room < rest.length + result.isSome.toNat := by
            rw [List.length_cons] at many
            omega
          rcases ih longer fewer with ⟨final, reached, blocked⟩
          exact ⟨final, reached.head trivial (.put free), blocked⟩

omit [Runtime] [Rendering] in
/-- A consumer that leaves after the first token strands a task with too many puts. -/
theorem exists_stranded {maxsize : Int} (token : Text) {rest : List Text}
    {result : Option TurnResult} (positive : 0 < maxsize)
    (many : maxsize < (rest.length + result.isSome.toNat : Nat)) :
    ∃ state, system.Reaches (fun _ => True)
        (start maxsize (.streaming (token :: rest) result)) state ∧ state.Stranded := by
  have empty : (AsyncQueue.new maxsize : AsyncQueue (Option Text)).full = false := by
    rw [Bool.eq_false_iff]
    intro full
    exact AsyncQueue.ne_nil_of_full full rfl
  have put : system.step (start maxsize (.streaming (token :: rest) result)) .put
      ⟨⟨maxsize, [some token]⟩, .streaming rest result, .waiting, []⟩ := Step.put empty
  have take : system.step ⟨⟨maxsize, [some token]⟩, .streaming rest result, .waiting, []⟩ .take
      ⟨⟨maxsize, []⟩, .streaming rest result, .yielding, [token]⟩ := Step.take
  have disconnect : system.step ⟨⟨maxsize, []⟩, .streaming rest result, .yielding, [token]⟩
      .disconnect ⟨⟨maxsize, []⟩, .streaming rest result, .closed, [token]⟩ := Step.disconnect
  obtain ⟨final, reached, blocked, gone⟩ :
      ∃ final, system.Reaches (fun _ => True)
        ⟨⟨maxsize, []⟩, .streaming rest result, .closed, [token]⟩ final ∧
        final.Blocked ∧ final.reader = .closed :=
    exists_blocked maxsize.toNat positive (by simp [positive.le]) (by omega)
  exact ⟨final, ((reached.head trivial disconnect).head trivial take).head trivial put,
    blocked.stranded gone⟩

/-- No order of the steps strands the graph task exactly when all puts behind the first
token fit into the queue. -/
theorem never_stranded_iff :
    (∀ state, system.Reaches (fun _ => True) (opening maxsize config environment initial)
        state → ¬state.Stranded) ↔
      maxsize ≤ 0 ∨
        (puts (PipelineExecutor.runGraph config environment initial) : Int) ≤ maxsize + 1 := by
  constructor
  · intro never
    by_contra overflow
    rw [not_or, not_le, not_le] at overflow
    rcases overflow with ⟨positive, many⟩
    rw [puts_runGraph] at many
    -- More than one put: the graph reaches its guidance, which has a token.
    cases task : GraphTask.start config environment initial with
    | streaming rest result =>
        rw [task] at many
        cases rest with
        | nil =>
            have few := Bool.toNat_le (GraphTask.streaming [] result).result.isSome
            simp only [GraphTask.rest, List.length_nil] at many
            omega
        | cons token rest =>
            simp only [GraphTask.rest, GraphTask.result, List.length_cons] at many
            have left : maxsize < (rest.length + result.isSome.toNat : Nat) := by omega
            rcases exists_stranded token positive left with ⟨state, reached, stranded⟩
            rw [← task] at reached
            exact never state reached stranded
    | closing result | finished result | cancelled =>
        rw [task] at many
        simp [GraphTask.rest, GraphTask.result] at many
        omega
  · intro fits state reached
    exact not_stranded_of_puts maxsize config environment initial fits reached

end Delivery

section Sample

attribute [local instance] referenceRuntime referenceRendering

/-- The state of the sample request before its first node. -/
def sampleInitial : PipelineState :=
  PipelineExecutor.initialState (SessionState.new 0xA1 1700000000000000000 1 2).toJson
    (.ofString sampleRequest.userMessage)
    (.forTurn {} .absent (SessionState.new 0xA1 1700000000000000000 1 2).toJson)

/-- Two tokens and a queue for one: the consumer leaves after the first token, and the
closing mark never fits. -/
theorem stranded_of_sampleInitial :
    ¬∀ maxsize config environment initial, 0 < maxsize →
      ∀ state, system.Reaches (fun _ => True) (opening maxsize config environment initial)
        state → ¬state.Stranded := by
  intro all
  have never := all 1 {} sampleEnvironment sampleInitial Int.one_pos
  have facts : (GraphTask.start {} sampleEnvironment sampleInitial).rest.length = 2 ∧
      (GraphTask.start {} sampleEnvironment sampleInitial).result.isSome = true := by
    decide +kernel
  cases task : GraphTask.start {} sampleEnvironment sampleInitial with
  | streaming rest result =>
      rw [task] at facts
      cases rest with
      | nil => cases facts.1
      | cons token rest =>
          have last : rest.length = 1 := Nat.succ.inj facts.1
          have ends : result.isSome = true := facts.2
          have left : (1 : Int) < (rest.length + result.isSome.toNat : Nat) := by
            rw [last, ends]
            decide
          rcases exists_stranded token Int.one_pos left with ⟨state, reached, stranded⟩
          rw [← task] at reached
          exact never state reached stranded
  | closing result | finished result | cancelled =>
      rw [task] at facts
      cases facts.1

end Sample

end TokenStreaming

end Chitragupt
