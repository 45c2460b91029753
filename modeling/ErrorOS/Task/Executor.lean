import ErrorOS.Task.ArrayQueue

/-!
# The async executor

`Executor` keeps the live tasks (`BTreeMap<TaskId, Task>`), the queue of ids
to poll (an `ArrayQueue` of capacity 100 that every waker shares) and one
cached waker per task it has polled.  `task/mod.rs`, which defines `Task` and
`TaskId`, is not in the repository: a task is its id here, and what its
future does when polled (wake wakers, return `Ready` or `Pending`) is the
environment's choice, an event of the run.

`run` is `loop { run_ready_tasks(); sleep_if_idle(); }`.  Each event is one
atomic step: `spawn` before `run`, the executor's next step, a wake or the
result of the task being polled, or an interrupt whose handler wakes tasks.
Interrupts come between any two steps except while `sleep_if_idle` holds them
disabled.  A future may keep a clone of its waker anywhere (an `AtomicWaker`,
say), so a wake may name any task, one that has finished included.  `wfi`
returns at the next interrupt.
-/

namespace ErrorOS.Task

/-- How the executor stops the kernel: a panic of the shared model, or
`spawn`'s own `panic!`. -/
inductive Stop where
  | panic (panic : Panic)
  | explicitPanic (message : String)
deriving DecidableEq, Repr

/-- Where `run` is. -/
inductive Executor.Phase where
  /-- `kernel_main` has not called `run` yet and spawns tasks. -/
  | spawning
  /-- At the head of `run_ready_tasks`' loop, about to pop. -/
  | popping
  /-- Inside `task.poll` of this task. -/
  | polling (taskId : Nat)
  /-- `run_ready_tasks` found the queue empty; `sleep_if_idle` is about to
  disable interrupts. -/
  | idle
  /-- Interrupts are disabled and `is_empty` comes next. -/
  | checking
  /-- The queue was empty: interrupts are enabled again and `wfi` comes next. -/
  | enabled
  /-- In `wfi`, until the next interrupt. -/
  | sleeping
deriving DecidableEq, Repr

/-- `Executor`, with the point its `run` loop has reached. -/
structure Executor where
  tasks : List Nat
  taskQueue : ArrayQueue Nat
  wakerCache : List Nat
  phase : Executor.Phase

/-- One atomic step of a kernel run around the executor. -/
inductive Executor.Event where
  /-- `kernel_main` spawns a task. -/
  | spawn (taskId : Nat)
  /-- `kernel_main` calls `run`. -/
  | run
  /-- The executor's next step. -/
  | step
  /-- The task being polled wakes a waker. -/
  | wake (taskId : Nat)
  /-- The task being polled returns `Ready` (`true`) or `Pending`. -/
  | finish (ready : Bool)
  /-- A trap handler runs and wakes the wakers of these tasks. -/
  | interrupt (wakes : List Nat)
deriving DecidableEq, Repr

namespace Executor

/-- The points of the run loop outside a poll. -/
def Phase.isLoop : Phase → Bool
  | .popping | .idle | .checking | .enabled | .sleeping => true
  | .spawning | .polling _ => false

/-- `Executor::new`; `ArrayQueue::new(100)` passes its assertion
(`ArrayQueue.new_of_pos`). -/
def new : Executor :=
  { tasks := [], taskQueue := ArrayQueue.empty 100, wakerCache := [], phase := .spawning }

/-- `Executor::spawn`. -/
def spawn (executor : Executor) (taskId : Nat) : Except Stop Executor :=
  if taskId ∈ executor.tasks then throw (.explicitPanic "task with same ID already in tasks")
  else
    match executor.taskQueue.push taskId with
    | .ok taskQueue => pure { executor with tasks := executor.tasks ++ [taskId], taskQueue }
    | .error _ => throw (.panic (.expect "queue full"))

/-- `TaskWaker::wake_task`, which `wake` and `wake_by_ref` call. -/
def wakeTask (taskQueue : ArrayQueue Nat) (taskId : Nat) : Except Stop (ArrayQueue Nat) :=
  match taskQueue.push taskId with
  | .ok taskQueue => pure taskQueue
  | .error _ => throw (.panic (.expect "task_queue full"))

/-- One turn of `run_ready_tasks`' `while let`: an empty queue ends
`run_ready_tasks`; the id of a task that is gone is skipped; otherwise the
task's waker is cached (`or_insert_with`) and the task is polled. -/
def runReadyTasksStep (executor : Executor) : Executor :=
  match executor.taskQueue.pop with
  | (none, taskQueue) => { executor with taskQueue, phase := .idle }
  | (some taskId, taskQueue) =>
      if taskId ∈ executor.tasks then
        { executor with
          taskQueue
          wakerCache :=
            if taskId ∈ executor.wakerCache then executor.wakerCache
            else executor.wakerCache ++ [taskId]
          phase := .polling taskId }
      else { executor with taskQueue }

/-- The end of `task.poll`: a finished task and its cached waker are removed. -/
def finishPoll (executor : Executor) (taskId : Nat) (ready : Bool) : Executor :=
  if ready then
    { executor with
      tasks := executor.tasks.erase taskId
      wakerCache := executor.wakerCache.erase taskId
      phase := .popping }
  else { executor with phase := .popping }

/-- `sleep_if_idle` with interrupts disabled: on an empty queue it enables
them and goes on to `wfi`, otherwise it enables them and `run` loops. -/
def sleepIfIdle (executor : Executor) : Executor :=
  { executor with phase := if executor.taskQueue.isEmpty then .enabled else .popping }

/-- The executor's next step from each point of `run`. -/
def step (executor : Executor) : Executor :=
  match executor.phase with
  | .popping => executor.runReadyTasksStep
  | .idle => { executor with phase := .checking }
  | .checking => executor.sleepIfIdle
  | .enabled => { executor with phase := .sleeping }
  | _ => executor

/-- The effect of one event; an event that cannot happen at the executor's
point leaves it as it is. -/
def next (executor : Executor) : Event → Except Stop Executor
  | .spawn taskId =>
      if executor.phase = .spawning then executor.spawn taskId else pure executor
  | .run =>
      pure (if executor.phase = .spawning then { executor with phase := .popping } else executor)
  | .step => pure executor.step
  | .wake taskId =>
      match executor.phase with
      | .polling _ => do
          let taskQueue ← wakeTask executor.taskQueue taskId
          pure { executor with taskQueue }
      | _ => pure executor
  | .finish ready =>
      match executor.phase with
      | .polling taskId => pure (executor.finishPoll taskId ready)
      | _ => pure executor
  | .interrupt wakes =>
      if executor.phase = .checking then pure executor
      else do
        let taskQueue ← wakes.foldlM wakeTask executor.taskQueue
        pure { executor with
          taskQueue
          phase := if executor.phase = .sleeping then .popping else executor.phase }

def runEvents : Executor → List Event → Except Stop Executor
  | executor, [] => pure executor
  | executor, event :: events => do runEvents (← executor.next event) events

theorem runEvents_cons_of_ok {executor middle : Executor} {event : Event}
    (stepped : executor.next event = .ok middle) (events : List Event) :
    executor.runEvents (event :: events) = middle.runEvents events := by
  simp only [runEvents, stepped, bind, Except.bind]

theorem runEvents_append (executor : Executor) (first second : List Event) :
    executor.runEvents (first ++ second) =
      (executor.runEvents first).bind fun middle => middle.runEvents second := by
  induction first generalizing executor with
  | nil => rfl
  | cons event first induction =>
      simp only [List.cons_append, runEvents, bind, Except.bind]
      cases executor.next event with
      | error => rfl
      | ok middle => exact induction middle

section Inversion

variable {s s' : Executor}

/-- What one event does to the tasks, the waker cache and the phase: nothing
but a move within the run loop, a spawn before `run`, the start of a poll of
a live task, or the end of a poll. -/
theorem next_cases {event : Event} (stepped : s.next event = .ok s') :
    (s'.tasks = s.tasks ∧ s'.wakerCache = s.wakerCache ∧
        (s'.phase = s.phase ∨ s'.phase.isLoop)) ∨
      (∃ taskId, s.phase = .spawning ∧ s'.phase = .spawning ∧ taskId ∉ s.tasks ∧
        s'.tasks = s.tasks ++ [taskId] ∧ s'.wakerCache = s.wakerCache) ∨
      (∃ taskId, s.phase = .popping ∧ taskId ∈ s.tasks ∧ s'.tasks = s.tasks ∧
        s'.wakerCache =
          (if taskId ∈ s.wakerCache then s.wakerCache else s.wakerCache ++ [taskId]) ∧
        s'.phase = .polling taskId) ∨
      (∃ taskId, s.phase = .polling taskId ∧ s'.tasks = s.tasks.erase taskId ∧
        s'.wakerCache = s.wakerCache.erase taskId ∧ s'.phase = .popping) := by
  cases event with
  | spawn taskId =>
      simp only [next] at stepped
      split at stepped
      · rename_i spawning
        unfold spawn at stepped
        split at stepped
        · cases stepped
        · rename_i fresh
          split at stepped
          · cases stepped
            exact .inr (.inl ⟨taskId, spawning, spawning, fresh, rfl, rfl⟩)
          · cases stepped
      · cases stepped
        exact .inl ⟨rfl, rfl, .inl rfl⟩
  | run =>
      cases stepped
      split
      · exact .inl ⟨rfl, rfl, .inr rfl⟩
      · exact .inl ⟨rfl, rfl, .inl rfl⟩
  | step =>
      cases stepped
      unfold step
      split
      · rename_i popping
        unfold runReadyTasksStep
        split
        · exact .inl ⟨rfl, rfl, .inr rfl⟩
        · split
          · exact .inr (.inr (.inl ⟨_, popping, ‹_›, rfl, rfl, rfl⟩))
          · exact .inl ⟨rfl, rfl, .inl rfl⟩
      · exact .inl ⟨rfl, rfl, .inr rfl⟩
      · refine .inl ⟨rfl, rfl, .inr ?_⟩
        unfold sleepIfIdle
        split <;> rfl
      · exact .inl ⟨rfl, rfl, .inr rfl⟩
      · exact .inl ⟨rfl, rfl, .inl rfl⟩
  | wake taskId =>
      simp only [next] at stepped
      split at stepped
      · simp only [bind, Except.bind] at stepped
        split at stepped
        · cases stepped
        · cases stepped
          exact .inl ⟨rfl, rfl, .inl rfl⟩
      · cases stepped
        exact .inl ⟨rfl, rfl, .inl rfl⟩
  | finish ready =>
      simp only [next] at stepped
      split at stepped
      · rename_i taskId polling
        cases stepped
        unfold finishPoll
        split
        · exact .inr (.inr (.inr ⟨taskId, polling, rfl, rfl, rfl⟩))
        · exact .inl ⟨rfl, rfl, .inr rfl⟩
      · cases stepped
        exact .inl ⟨rfl, rfl, .inl rfl⟩
  | interrupt wakes =>
      simp only [next] at stepped
      split at stepped
      · cases stepped
        exact .inl ⟨rfl, rfl, .inl rfl⟩
      · simp only [bind, Except.bind] at stepped
        split at stepped
        · cases stepped
        · cases stepped
          refine .inl ⟨rfl, rfl, ?_⟩
          split
          · exact .inr rfl
          · exact .inl rfl

end Inversion

end Executor

end ErrorOS.Task
