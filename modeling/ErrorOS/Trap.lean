import Mathlib.Data.Nat.Digits
import ErrorOS.Task.KeyboardRuns
import ErrorOS.Syscall.Refinement
import ErrorOS.Process.Scheduler
import ErrorOS.Process.Context

/-!
# The trap dispatcher

`trap_handler` reads `scause`, `stval` and `sepc` and dispatches on the cause.
The timer interrupt polls the keyboard (`poll_keyboard`) and sets the next
deadline; external and software interrupts log a line; a breakpoint logs and
moves `sepc` past the 2-byte `ebreak`; a system call runs the call that
`syscall_dispatcher` decodes and moves `sepc` past the 4-byte `ecall`, except
`sys_exit`, which spins in `loop {}`; page faults log and halt in
`hlt_loop`; an illegal instruction and every other cause end in `panic!`.

The machine is what these handlers touch: the keyboard task with the console
writer and the serial line (a `Pipeline` holds all three), the files of the
system-call layer, the scheduler, `sepc`, and the deadline last handed to
SBI.  The console belongs to the pipeline here: a system call runs on the
files with the pipeline's writer and line, and hands them back.

Left out: the registers of a system call (`SyscallContext` and
`syscall_dispatcher` are not in the repository, so the decoded call is an
input and the result written to `a0` is not kept), the diagnostics printed
before `hlt_loop` and the `panic!` messages (both format the `riscv` crate's
`Debug` output), and the trap entry and exit: `init` installs
`trap_handler` itself as the vector, and the source has no code that saves
registers or returns with `sret`.
-/

namespace ErrorOS.Trap

open Console Task Process Syscall

/-- An interrupt cause of `scause::Trap`. -/
inductive Interrupt where
  | supervisorSoft
  | supervisorTimer
  | supervisorExternal
  /-- Any interrupt `trap_handler` has no arm for. -/
  | other (code : Nat)
deriving DecidableEq, Repr

/-- An exception cause of `scause::Trap`. -/
inductive Exception where
  | breakpoint
  | loadPageFault
  | storePageFault
  | instructionPageFault
  | illegalInstruction
  | userEnvCall
  /-- Any exception `trap_handler` has no arm for. -/
  | other (code : Nat)
deriving DecidableEq, Repr

/-- `scause::Trap`, what `scause.cause()` returns. -/
inductive Cause where
  | interrupt (interrupt : Interrupt)
  | exception (exception : Exception)
deriving DecidableEq, Repr

/-- A call `syscall_dispatcher` decodes: one on files, or one of the process
calls of `syscall_impl.rs`. -/
inductive Request where
  | files (call : Call)
  | exit (exitCode : Int)
  | getpid
  | fork
  | exec
  | waitpid

/-- What the hart and the outside world supply to one trap: its cause, the
`time` that `set_next_timer` reads, what `sbi_console_getchar` returns to
`poll_keyboard`, and the call that `syscall_dispatcher` decodes. -/
structure Input where
  cause : Cause
  time : Nat
  returns : List Int
  call : Request

/-- What the trap handlers read and write. -/
structure Machine where
  keyboard : Pipeline
  files : Kernel
  scheduler : Scheduler
  sepc : Nat
  deadline : Nat

/-- How `trap_handler` ends. -/
inductive Outcome where
  /-- It returns and the hart runs on. -/
  | running (machine : Machine)
  /-- The hart stays in the handler for good: `hlt_loop`, or the `loop {}`
  of `sys_exit`. -/
  | halted
  /-- A `panic!`. -/
  | panicked

/-- `TIMER_INTERVAL`. -/
def timerInterval : Nat := 1000000

/-- `set_next_timer`: `time + TIMER_INTERVAL` on `u64`, as wide as `usize`,
handed to `sbi_set_timer`. -/
def setNextTimer (time : Nat) : Except Panic Nat := usizeAdd time timerInterval

/-- `{:#x}`. -/
def hex (value : Nat) : String := "0x" ++ String.mk (Nat.toDigits 16 value)

namespace Machine

def serialPrintln (machine : Machine) (text : String) : Machine :=
  { machine with
    keyboard := { machine.keyboard with serial := Console.serialPrintln machine.keyboard.serial text } }

def println (machine : Machine) (text : String) : Except Panic Machine := do
  let (writer, serial) ←
    Console.println machine.keyboard.writer machine.keyboard.serial
      (text.data.flatMap String.utf8EncodeChar)
  pure { machine with keyboard := { machine.keyboard with writer, serial } }

/-- The files as a system call sees them, with the pipeline's console. -/
def callKernel (machine : Machine) : Kernel :=
  { machine.files with writer := machine.keyboard.writer, serial := machine.keyboard.serial }

end Machine

/-- The call a request names, on the files: `none` for `sys_exit`, which
prints its line and never returns. -/
def Request.run : Request → Kernel → Except Panic (Option Kernel)
  | .files call, kernel => (fun out => some out.2) <$> call.run kernel
  | .exit _, _ => pure none
  | .getpid, kernel => pure (some kernel)
  | .fork, kernel => pure (some (sysFork kernel).2)
  | .exec, kernel => pure (some (sysExec kernel).2)
  | .waitpid, kernel => pure (some (sysWaitpid kernel).2)

/-- `timer_interrupt_handler`. -/
def timerInterruptHandler (time : Nat) (returns : List Int) (machine : Machine) :
    Except Panic Machine := do
  let keyboard ← machine.keyboard.pollKeyboard returns
  let deadline ← setNextTimer time
  pure { machine with keyboard, deadline }

/-- `external_interrupt_handler`. -/
def externalInterruptHandler (machine : Machine) : Machine :=
  machine.serialPrintln "[INTERRUPT] External interrupt received"

/-- `software_interrupt_handler`. -/
def softwareInterruptHandler (machine : Machine) : Machine :=
  machine.serialPrintln "[INTERRUPT] Software interrupt received"

/-- `breakpoint_handler`. -/
def breakpointHandler (sepc : Nat) (machine : Machine) : Except Panic Machine := do
  let machine := machine.serialPrintln ("[EXCEPTION] Breakpoint at " ++ hex sepc)
  let machine ← machine.println ("EXCEPTION: BREAKPOINT at " ++ hex sepc)
  let sepc ← usizeAdd sepc 2
  pure { machine with sepc }

/-- `syscall_handler`, for the call `syscall_dispatcher` decodes: the call
runs on the files with the pipeline's console, and `sepc` moves past the
`ecall`. -/
def syscallHandler (request : Request) (sepc : Nat) (machine : Machine) : Except Panic Outcome := do
  let some files ← request.run machine.callKernel | pure .halted
  let sepc ← usizeAdd sepc 4
  pure (.running { machine with
    keyboard := { machine.keyboard with writer := files.writer, serial := files.serial }
    files
    sepc })

/-- `trap_handler`. -/
def trapHandler (input : Input) (machine : Machine) : Except Panic Outcome :=
  let sepc := machine.sepc
  match input.cause with
  | .interrupt .supervisorTimer =>
      .running <$> timerInterruptHandler input.time input.returns machine
  | .interrupt .supervisorExternal => pure (.running (externalInterruptHandler machine))
  | .interrupt .supervisorSoft => pure (.running (softwareInterruptHandler machine))
  | .interrupt (.other _) => pure .panicked
  | .exception .breakpoint => .running <$> breakpointHandler sepc machine
  | .exception .loadPageFault => pure .halted
  | .exception .storePageFault => pure .halted
  | .exception .instructionPageFault => pure .halted
  | .exception .illegalInstruction => pure .panicked
  | .exception .userEnvCall => syscallHandler input.call sepc machine
  | .exception (.other _) => pure .panicked

/-- One atomic step of the machine: a trap, or a step of the keyboard task,
which the executor polls. -/
inductive Event where
  | trap (input : Input)
  | poll
  | step

namespace Machine

def next (machine : Machine) : Event → Except Panic Outcome
  | .trap input => trapHandler input machine
  | .poll => (fun keyboard => .running { machine with keyboard }) <$> machine.keyboard.poll
  | .step => (fun keyboard => .running { machine with keyboard }) <$> machine.keyboard.pollStep

/-- A run, which ends at the first trap that does not return. -/
def runEvents : Machine → List Event → Except Panic Outcome
  | machine, [] => pure (.running machine)
  | machine, event :: events => do
      match ← machine.next event with
      | .running machine => runEvents machine events
      | stopped => pure stopped

end Machine

/-! ## Critical sections -/

/-- `enable_interrupts`: `sstatus::set_sie`. -/
def enableInterrupts : BitVec 64 → BitVec 64 := SstatusExt.setBit SstatusExt.sieBit

/-- `disable_interrupts`: `sstatus::clear_sie`. -/
def disableInterrupts : BitVec 64 → BitVec 64 := SstatusExt.clearBit SstatusExt.sieBit

/-- `without_interrupts`, with `sstatus` passed through the closure: SIE is
cleared around the closure if it was set, and set again after it. -/
def withoutInterrupts {α : Type} (closure : BitVec 64 → α × BitVec 64) (sstatus : BitVec 64) :
    α × BitVec 64 :=
  let sie := sstatus.getLsbD SstatusExt.sieBit
  let (ret, sstatus) := closure (if sie then disableInterrupts sstatus else sstatus)
  (ret, if sie then enableInterrupts sstatus else sstatus)

/-- The closure of `without_interrupts` runs with SIE clear and every other
status bit as it was; afterwards SIE is set if it was set before or the
closure set it, and every other bit is as the closure left it.  So a closure
that leaves SIE alone runs with interrupts off and returns them to their
state, which is what makes `print!` and `serial_print!` atomic. -/
theorem without_interrupts_spec {α : Type} (closure : BitVec 64 → α × BitVec 64)
    (sstatus : BitVec 64) :
    ∃ inside, inside.getLsbD 1 = false ∧
      (∀ index, index ≠ 1 → inside.getLsbD index = sstatus.getLsbD index) ∧
      (withoutInterrupts closure sstatus).1 = (closure inside).1 ∧
      ∀ index, (withoutInterrupts closure sstatus).2.getLsbD index =
        if index = 1 then sstatus.getLsbD 1 || (closure inside).2.getLsbD 1
        else (closure inside).2.getLsbD index := by
  unfold withoutInterrupts
  rw [show SstatusExt.sieBit = 1 from rfl]
  cases enabled : sstatus.getLsbD 1
  · refine ⟨sstatus, enabled, fun _ _ => rfl, by simp, fun index => ?_⟩
    split
    · subst index
      simp [enabled]
    · simp
  · refine ⟨disableInterrupts sstatus, ?_, fun index other => ?_, by simp, fun index => ?_⟩
    · simp [disableInterrupts, SstatusExt.getLsbD_clearBit, SstatusExt.sieBit]
    · simp [disableInterrupts, SstatusExt.getLsbD_clearBit, SstatusExt.sieBit, other]
    · simp only [enableInterrupts, if_true, SstatusExt.getLsbD_setBit (show SstatusExt.sieBit < 64 by decide)]
      split
      · subst index
        simp [enabled, SstatusExt.sieBit]
      · simp [SstatusExt.sieBit, *]

/-! ## What each trap does -/

section Handlers

variable {machine next : Machine}

theorem map_eq_ok {ε α β : Type} {f : α → β} {x : Except ε α} {b : β} :
    f <$> x = .ok b ↔ ∃ a, x = .ok a ∧ f a = b := by
  cases x with
  | error => exact ⟨nofun, fun ⟨_, failed, _⟩ => nomatch failed⟩
  | ok a =>
      constructor
      · rintro ⟨⟩
        exact ⟨a, rfl, rfl⟩
      · rintro ⟨_, ⟨⟩, rfl⟩
        rfl

theorem bind_eq_ok {ε α β : Type} {x : Except ε α} {f : α → Except ε β} {b : β} :
    x >>= f = .ok b ↔ ∃ a, x = .ok a ∧ f a = .ok b := by
  cases x with
  | error => exact ⟨nofun, fun ⟨_, failed, _⟩ => nomatch failed⟩
  | ok a =>
      constructor
      · exact fun bound => ⟨a, rfl, bound⟩
      · rintro ⟨_, same, bound⟩
        cases same
        exact bound

theorem Request.run_eq_none {request : Request} {kernel : Kernel} :
    request.run kernel = .ok none ↔ ∃ exitCode, request = .exit exitCode := by
  cases request with
  | files call =>
      simp only [Request.run, map_eq_ok, Option.some_ne_none, and_false, exists_false,
        reduceCtorEq]
  | exit exitCode => exact ⟨fun _ => ⟨exitCode, rfl⟩, fun _ => rfl⟩
  | getpid | fork | exec | waitpid => exact ⟨nofun, fun ⟨_, called⟩ => nomatch called⟩

theorem syscallHandler_eq_ok {request : Request} {sepc : Nat} {outcome : Outcome}
    (handled : syscallHandler request sepc machine = .ok outcome) :
    (outcome = .halted ∧ ∃ exitCode, request = .exit exitCode) ∨
      ∃ writer serial files, outcome = .running { machine with
        keyboard := { machine.keyboard with writer, serial }
        files
        sepc := sepc + 4 } := by
  obtain ⟨result, ran, handled⟩ := bind_eq_ok.mp handled
  cases result with
  | none =>
      cases handled
      exact .inl ⟨rfl, Request.run_eq_none.mp ran⟩
  | some files =>
      obtain ⟨advanced, added, handled⟩ := bind_eq_ok.mp handled
      cases handled
      exact .inr ⟨_, _, files, by rw [(usizeAdd_eq_ok.mp added).2]⟩

@[simp] theorem syscallHandler_eq_halted {request : Request} {sepc : Nat} :
    syscallHandler request sepc machine = .ok .halted ↔ ∃ exitCode, request = .exit exitCode := by
  refine ⟨fun handled => ?_, fun ⟨exitCode, called⟩ => by rw [called]; rfl⟩
  rcases syscallHandler_eq_ok handled with ⟨-, exited⟩ | ⟨_, _, _, running⟩
  · exact exited
  · cases running

@[simp] theorem syscallHandler_ne_panicked {request : Request} {sepc : Nat} :
    syscallHandler request sepc machine ≠ .ok .panicked := fun handled => by
  rcases syscallHandler_eq_ok handled with ⟨stopped, -⟩ | ⟨_, _, _, running⟩
  · cases stopped
  · cases running

end Handlers

/-! ## Runs of traps and keyboard steps -/

section Runs

variable {machine next : Machine}

end Runs

end ErrorOS.Trap

