import Mathlib.Logic.Basic

/-!
# Process control blocks

`ProcessControlBlock` keeps the fields of `pcb.rs` that the scheduler reads or
writes: the id, the lifecycle state, the remaining time slice and the exit
code.  The register context, address space, stack and heap bounds, name,
parent, priority and children are never read by the scheduler and are left
out.
-/

namespace ErrorOS.Process

/-- `ProcessState`. -/
inductive ProcessState where
  | ready
  | running
  | blocked
  | zombie
deriving DecidableEq, Repr

/-- The scheduler's view of a `ProcessControlBlock`. -/
structure ProcessControlBlock where
  pid : Nat
  state : ProcessState
  timeSlice : Nat
  exitCode : Option Int
deriving DecidableEq, Repr

namespace ProcessControlBlock

/-- `ProcessControlBlock::new` for the id that `ProcessId::new` returned. -/
def new (pid : Nat) : ProcessControlBlock :=
  { pid, state := .ready, timeSlice := 5, exitCode := none }

def setState (process : ProcessControlBlock) (state : ProcessState) :
    ProcessControlBlock :=
  { process with state }

/-- `set_exit_code`: records the code and makes the process a zombie, whatever
its state was. -/
def setExitCode (process : ProcessControlBlock) (code : Int) : ProcessControlBlock :=
  { process with exitCode := some code, state := .zombie }

def resetTimeSlice (process : ProcessControlBlock) : ProcessControlBlock :=
  { process with timeSlice := 5 }

/-- `tick`: one clock tick off the slice, saturating at zero; the flag says
the slice is used up. -/
def tick (process : ProcessControlBlock) : ProcessControlBlock × Bool :=
  let process :=
    if process.timeSlice > 0 then { process with timeSlice := process.timeSlice - 1 }
    else process
  (process, process.timeSlice == 0)

@[simp] theorem setState_pid (process : ProcessControlBlock) (state : ProcessState) :
    (process.setState state).pid = process.pid := rfl

@[simp] theorem setState_state (process : ProcessControlBlock) (state : ProcessState) :
    (process.setState state).state = state := rfl

@[simp] theorem setState_timeSlice (process : ProcessControlBlock) (state : ProcessState) :
    (process.setState state).timeSlice = process.timeSlice := rfl

@[simp] theorem setExitCode_pid (process : ProcessControlBlock) (code : Int) :
    (process.setExitCode code).pid = process.pid := rfl

@[simp] theorem setExitCode_state (process : ProcessControlBlock) (code : Int) :
    (process.setExitCode code).state = .zombie := rfl

@[simp] theorem resetTimeSlice_pid (process : ProcessControlBlock) :
    process.resetTimeSlice.pid = process.pid := rfl

@[simp] theorem resetTimeSlice_state (process : ProcessControlBlock) :
    process.resetTimeSlice.state = process.state := rfl

@[simp] theorem resetTimeSlice_timeSlice (process : ProcessControlBlock) :
    process.resetTimeSlice.timeSlice = 5 := rfl

@[simp] theorem tick_pid (process : ProcessControlBlock) :
    process.tick.1.pid = process.pid := by
  unfold tick
  split <;> rfl

@[simp] theorem tick_state (process : ProcessControlBlock) :
    process.tick.1.state = process.state := by
  unfold tick
  split <;> rfl

@[simp] theorem tick_timeSlice (process : ProcessControlBlock) :
    process.tick.1.timeSlice = process.timeSlice - 1 := by
  unfold tick
  split
  · rfl
  · dsimp only
    omega

@[simp] theorem tick_exhausted (process : ProcessControlBlock) :
    process.tick.2 = true ↔ process.timeSlice ≤ 1 := by
  unfold tick
  split <;> simp <;> omega

end ProcessControlBlock

end ErrorOS.Process
