import ErrorOS.Rust
import ErrorOS.Process.Pcb
import Mathlib.Logic.Function.Basic

/-!
# The round-robin scheduler

`Scheduler` follows `scheduler.rs`: a process table from ids to PCBs, a FIFO
ready queue and the current id.  A `ProcessHandle` is an `Arc<Mutex<_>>` that
the table owns; every handle the scheduler locks is the table entry under its
key, so writing through a handle is writing that entry (`setProcess`).  The
context switch and the jump of `start_process` only move control: the
bookkeeping before them is the whole effect of `schedule` on the state.
-/

namespace ErrorOS.Process

/-- The scheduler's state. -/
structure Scheduler where
  processes : Nat → Option ProcessControlBlock
  readyQueue : List Nat
  current : Option Nat

namespace Scheduler

/-- `Scheduler::new`. -/
def new : Scheduler :=
  { processes := fun _ => none, readyQueue := [], current := none }

/-- `get_process`. -/
def getProcess (scheduler : Scheduler) (pid : Nat) : Option ProcessControlBlock :=
  scheduler.processes pid

/-- A write through the handle stored under `pid`. -/
def setProcess (scheduler : Scheduler) (pid : Nat) (process : ProcessControlBlock) :
    Scheduler :=
  { scheduler with processes := Function.update scheduler.processes pid (some process) }

/-- `add_process`: insert into the table, and queue the id if it is ready. -/
def addProcess (scheduler : Scheduler) (process : ProcessControlBlock) : Scheduler :=
  let scheduler := scheduler.setProcess process.pid process
  if process.state = .ready then
    { scheduler with readyQueue := scheduler.readyQueue ++ [process.pid] }
  else scheduler

/-- `remove_process`. -/
def removeProcess (scheduler : Scheduler) (pid : Nat) : Scheduler :=
  { readyQueue := scheduler.readyQueue.filter (· ≠ pid)
    processes := Function.update scheduler.processes pid none
    current := if scheduler.current = some pid then none else scheduler.current }

/-- `pick_next`: pop the head of the ready queue. -/
def pickNext (scheduler : Scheduler) : Option Nat × Scheduler :=
  match scheduler.readyQueue with
  | [] => (none, scheduler)
  | pid :: rest => (some pid, { scheduler with readyQueue := rest })

/-- `enqueue`: append the id only if its entry exists and is ready. -/
def enqueue (scheduler : Scheduler) (pid : Nat) : Scheduler :=
  match scheduler.getProcess pid with
  | some process =>
      if process.state = .ready then
        { scheduler with readyQueue := scheduler.readyQueue ++ [pid] }
      else scheduler
  | none => scheduler

/-- The bookkeeping that `switch_to` and `start_process` share: the next
process runs with a fresh slice and becomes current. -/
def promote (scheduler : Scheduler) (next : ProcessControlBlock) (nextPid : Nat) :
    Scheduler :=
  { scheduler.setProcess nextPid (next.setState .running).resetTimeSlice with
    current := some nextPid }

/-- `switch_to`: a still running current process is demoted and re-queued at
the tail; a blocked or exited one is left as it is. -/
def switchTo (scheduler : Scheduler) (currentPid : Nat) (current : ProcessControlBlock)
    (next : ProcessControlBlock) (nextPid : Nat) : Scheduler :=
  let scheduler :=
    if current.state = .running then
      (scheduler.setProcess currentPid (current.setState .ready)).enqueue current.pid
    else scheduler
  scheduler.promote next nextPid

/-- `start_process`: the first schedule, with no process to save. -/
def startProcess (scheduler : Scheduler) (next : ProcessControlBlock) (nextPid : Nat) :
    Scheduler :=
  scheduler.promote next nextPid

/-- `schedule`.  The popped id is lost when its entry is missing, and
`get_process(current_pid).unwrap()` panics when the current id has none. -/
def schedule (scheduler : Scheduler) : Except Panic Scheduler :=
  match scheduler.pickNext with
  | (none, scheduler) => pure scheduler
  | (some nextPid, scheduler) =>
      match scheduler.getProcess nextPid with
      | none => pure scheduler
      | some next =>
          if scheduler.current = some nextPid then
            pure (scheduler.setProcess nextPid (next.setState .running).resetTimeSlice)
          else
            match scheduler.current with
            | some currentPid =>
                match scheduler.getProcess currentPid with
                | some current => pure (scheduler.switchTo currentPid current next nextPid)
                | none => throw .unwrapNone
            | none => pure (scheduler.startProcess next nextPid)

/-- `tick`: charge the current process one tick, and schedule once its
slice is used up. -/
def tick (scheduler : Scheduler) : Except Panic Scheduler :=
  match scheduler.current with
  | none => pure scheduler
  | some currentPid =>
      match scheduler.getProcess currentPid with
      | none => pure scheduler
      | some process =>
          let scheduler := scheduler.setProcess currentPid process.tick.1
          if process.tick.2 then scheduler.schedule else pure scheduler

/-- `block_current`: the current process is marked blocked, whatever its
state, and the scheduler picks another one. -/
def blockCurrent (scheduler : Scheduler) : Except Panic Scheduler :=
  match scheduler.current with
  | none => pure scheduler
  | some currentPid =>
      match scheduler.getProcess currentPid with
      | none => pure scheduler
      | some process =>
          (scheduler.setProcess currentPid (process.setState .blocked)).schedule

/-- `wake_up`: only a blocked process is made ready and queued. -/
def wakeUp (scheduler : Scheduler) (pid : Nat) : Scheduler :=
  match scheduler.getProcess pid with
  | some process =>
      if process.state = .blocked then
        (scheduler.setProcess pid (process.setState .ready)).enqueue pid
      else scheduler
  | none => scheduler

@[simp] theorem setProcess_processes (scheduler : Scheduler) (pid : Nat)
    (process : ProcessControlBlock) :
    (scheduler.setProcess pid process).processes =
      Function.update scheduler.processes pid (some process) := rfl

@[simp] theorem setProcess_readyQueue (scheduler : Scheduler) (pid : Nat)
    (process : ProcessControlBlock) :
    (scheduler.setProcess pid process).readyQueue = scheduler.readyQueue := rfl

@[simp] theorem setProcess_current (scheduler : Scheduler) (pid : Nat)
    (process : ProcessControlBlock) :
    (scheduler.setProcess pid process).current = scheduler.current := rfl

@[simp] theorem promote_processes (scheduler : Scheduler) (next : ProcessControlBlock)
    (nextPid : Nat) :
    (scheduler.promote next nextPid).processes =
      Function.update scheduler.processes nextPid
        (some (next.setState .running).resetTimeSlice) := rfl

@[simp] theorem promote_readyQueue (scheduler : Scheduler) (next : ProcessControlBlock)
    (nextPid : Nat) :
    (scheduler.promote next nextPid).readyQueue = scheduler.readyQueue := rfl

@[simp] theorem promote_current (scheduler : Scheduler) (next : ProcessControlBlock)
    (nextPid : Nat) :
    (scheduler.promote next nextPid).current = some nextPid := rfl

@[simp] theorem enqueue_processes (scheduler : Scheduler) (pid : Nat) :
    (scheduler.enqueue pid).processes = scheduler.processes := by
  unfold enqueue
  split <;> (try split) <;> rfl

@[simp] theorem enqueue_current (scheduler : Scheduler) (pid : Nat) :
    (scheduler.enqueue pid).current = scheduler.current := by
  unfold enqueue
  split <;> (try split) <;> rfl

/-- What `enqueue` does to the queue: it appends `pid` exactly when the entry
of `pid` is ready. -/
theorem enqueue_readyQueue (scheduler : Scheduler) (pid : Nat) :
    (scheduler.enqueue pid).readyQueue =
      if ∃ process, scheduler.processes pid = some process ∧ process.state = .ready then
        scheduler.readyQueue ++ [pid]
      else scheduler.readyQueue := by
  unfold enqueue getProcess
  split
  · rename_i process found
    by_cases ready : process.state = .ready <;> simp [found, ready]
  · rename_i missing
    simp [missing]

theorem switchTo_of_running {scheduler : Scheduler} {currentPid nextPid : Nat}
    {current next : ProcessControlBlock} (running : current.state = .running) :
    scheduler.switchTo currentPid current next nextPid =
      ((scheduler.setProcess currentPid (current.setState .ready)).enqueue current.pid).promote
        next nextPid := by
  simp [switchTo, running]

theorem switchTo_of_not_running {scheduler : Scheduler} {currentPid nextPid : Nat}
    {current next : ProcessControlBlock} (idle : current.state ≠ .running) :
    scheduler.switchTo currentPid current next nextPid = scheduler.promote next nextPid := by
  simp [switchTo, idle]

section ScheduleEquations

/-! One equation for each way `schedule` can go. -/

variable {scheduler : Scheduler} {nextPid : Nat} {rest : List Nat}

theorem schedule_of_readyQueue_nil (empty : scheduler.readyQueue = []) :
    scheduler.schedule = .ok scheduler := by
  simp [schedule, pickNext, empty, pure, Except.pure]

theorem schedule_of_missing (queue : scheduler.readyQueue = nextPid :: rest)
    (missing : scheduler.processes nextPid = none) :
    scheduler.schedule = .ok { scheduler with readyQueue := rest } := by
  simp [schedule, pickNext, getProcess, queue, missing, pure, Except.pure]

theorem schedule_of_current {next : ProcessControlBlock}
    (queue : scheduler.readyQueue = nextPid :: rest)
    (found : scheduler.processes nextPid = some next) (same : scheduler.current = some nextPid) :
    scheduler.schedule = .ok ({ scheduler with readyQueue := rest }.setProcess nextPid
      (next.setState .running).resetTimeSlice) := by
  simp [schedule, pickNext, getProcess, queue, found, same, pure, Except.pure]

theorem schedule_of_switch {next current : ProcessControlBlock} {currentPid : Nat}
    (queue : scheduler.readyQueue = nextPid :: rest)
    (found : scheduler.processes nextPid = some next)
    (isCurrent : scheduler.current = some currentPid) (different : currentPid ≠ nextPid)
    (currentFound : scheduler.processes currentPid = some current) :
    scheduler.schedule =
      .ok ({ scheduler with readyQueue := rest }.switchTo currentPid current next nextPid) := by
  simp [schedule, pickNext, getProcess, queue, found, isCurrent, different, currentFound,
    pure, Except.pure]

theorem schedule_of_start {next : ProcessControlBlock}
    (queue : scheduler.readyQueue = nextPid :: rest)
    (found : scheduler.processes nextPid = some next) (idle : scheduler.current = none) :
    scheduler.schedule = .ok ({ scheduler with readyQueue := rest }.startProcess next nextPid) := by
  simp [schedule, pickNext, getProcess, queue, found, idle, pure, Except.pure]

theorem tick_of_found {scheduler : Scheduler} {currentPid : Nat} {process : ProcessControlBlock}
    (isCurrent : scheduler.current = some currentPid)
    (found : scheduler.processes currentPid = some process) :
    scheduler.tick =
      if process.tick.2 then (scheduler.setProcess currentPid process.tick.1).schedule
      else .ok (scheduler.setProcess currentPid process.tick.1) := by
  simp only [tick, getProcess, isCurrent, found]
  rfl

theorem blockCurrent_of_found {scheduler : Scheduler} {currentPid : Nat}
    {process : ProcessControlBlock} (isCurrent : scheduler.current = some currentPid)
    (found : scheduler.processes currentPid = some process) :
    scheduler.blockCurrent =
      (scheduler.setProcess currentPid (process.setState .blocked)).schedule := by
  simp only [blockCurrent, getProcess, isCurrent, found]

end ScheduleEquations

end Scheduler

/-- `create_process` as the scheduler sees it: a fresh PCB for the id that
`ProcessId::new` issued. -/
def createProcess (pid : Nat) : ProcessControlBlock :=
  ProcessControlBlock.new pid

/-- `exit_current_process`: the current process records its exit code, which
makes it a zombie, and the scheduler picks another one. -/
def exitCurrentProcess (scheduler : Scheduler) (exitCode : Int) : Except Panic Scheduler :=
  match scheduler.current with
  | none => pure scheduler
  | some currentPid =>
      match scheduler.getProcess currentPid with
      | none => pure scheduler
      | some process =>
          (scheduler.setProcess currentPid (process.setExitCode exitCode)).schedule

/-- The operations a kernel run performs on the scheduler. -/
inductive Operation where
  | addProcess (pid : Nat)
  | removeProcess (pid : Nat)
  | schedule
  | tick
  | blockCurrent
  | wakeUp (pid : Nat)
  | exitCurrentProcess (exitCode : Int)
deriving DecidableEq, Repr

namespace Operation

def run : Operation → Scheduler → Except Panic Scheduler
  | .addProcess pid, scheduler => pure (scheduler.addProcess (createProcess pid))
  | .removeProcess pid, scheduler => pure (scheduler.removeProcess pid)
  | .schedule, scheduler => scheduler.schedule
  | .tick, scheduler => scheduler.tick
  | .blockCurrent, scheduler => scheduler.blockCurrent
  | .wakeUp pid, scheduler => pure (scheduler.wakeUp pid)
  | .exitCurrentProcess exitCode, scheduler =>
      ErrorOS.Process.exitCurrentProcess scheduler exitCode

/-- Only processes whose id is not in the table yet are added: `create_process`
draws a fresh id for each. -/
def Admissible : Operation → Scheduler → Prop
  | .addProcess pid, scheduler => scheduler.processes pid = none
  | _, _ => True

instance instDecidableAdmissible :
    (operation : Operation) → (scheduler : Scheduler) → Decidable (operation.Admissible scheduler)
  | .addProcess pid, scheduler => inferInstanceAs (Decidable (scheduler.processes pid = none))
  | .removeProcess _, _ => isTrue trivial
  | .schedule, _ => isTrue trivial
  | .tick, _ => isTrue trivial
  | .blockCurrent, _ => isTrue trivial
  | .wakeUp _, _ => isTrue trivial
  | .exitCurrentProcess _, _ => isTrue trivial

end Operation

/-- The states a run from `Scheduler::new` reaches. -/
inductive Reachable : Scheduler → Prop where
  | new : Reachable Scheduler.new
  | step {scheduler next : Scheduler} (operation : Operation) :
      Reachable scheduler → operation.Admissible scheduler →
      operation.run scheduler = .ok next → Reachable next

/-- Runs a list of operations, stopping at a panic or at an inadmissible
operation. -/
def runOperations : List Operation → Scheduler → Option (Except Panic Scheduler)
  | [], scheduler => some (.ok scheduler)
  | operation :: rest, scheduler =>
      if operation.Admissible scheduler then
        match operation.run scheduler with
        | .ok next => runOperations rest next
        | .error panic => some (.error panic)
      else none

theorem Reachable.runOperations {operations : List Operation} {start final : Scheduler}
    (reachable : Reachable start)
    (ran : runOperations operations start = some (.ok final)) : Reachable final := by
  induction operations generalizing start with
  | nil =>
      cases ran
      exact reachable
  | cons operation rest induction =>
      simp only [ErrorOS.Process.runOperations] at ran
      split at ran
      · rename_i admissible
        split at ran
        · rename_i next stepped
          exact induction (.step operation reachable admissible stepped) ran
        · cases ran
      · cases ran

/-- The state a run of `operations` from `Scheduler::new` ends in, or
`Scheduler::new` when the run stops early. -/
def afterRun (operations : List Operation) : Scheduler :=
  match runOperations operations Scheduler.new with
  | some (.ok scheduler) => scheduler
  | _ => Scheduler.new

theorem reachable_afterRun (operations : List Operation) : Reachable (afterRun operations) := by
  unfold afterRun
  split
  · rename_i ran
    exact Reachable.new.runOperations ran
  · exact .new

end ErrorOS.Process
