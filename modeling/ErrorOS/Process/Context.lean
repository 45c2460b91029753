import ErrorOS.Process.Pid
import ErrorOS.Process.Scheduler

/-!
# Register contexts and whole process control blocks

`ProcessContext` is the register record that `switch_context` saves and
loads, in its `#[repr(C)]` order: the general registers but `zero`, then
`sepc`, `sstatus` and `satp`.  `new_user_context` starts from the all-zero
context, puts the entry point, stack top and translation root in place, and
takes `sstatus` from the hart (`csrr`), clearing the previous-privilege bit
(SPP, bit 8) and setting the interrupt-enable-on-return bit (SPIE, bit 5).
The model takes the value `csrr` read as an argument, and `sstatus` is the one
word the code works on bit by bit, so it is a `BitVec 64`; every other
register is a number.

`Pcb` is the whole `ProcessControlBlock`: the scheduler's view of
`ErrorOS.Process.Pcb` and the fields only its constructor, `create_process`
and the child list touch.  The address space is left out: nothing sets it.
-/

namespace ErrorOS.Process

/-- `ProcessContext`. -/
structure ProcessContext where
  (ra sp gp tp : Nat)
  (t0 t1 t2 t3 t4 t5 t6 : Nat)
  (s0 s1 s2 s3 s4 s5 s6 s7 s8 s9 s10 s11 : Nat)
  (a0 a1 a2 a3 a4 a5 a6 a7 : Nat)
  sepc : Nat
  sstatus : BitVec 64
  satp : Nat
deriving DecidableEq, Repr

/-- `ProcessContext::new`: every register 0. -/
def ProcessContext.new : ProcessContext :=
  { ra := 0, sp := 0, gp := 0, tp := 0,
    t0 := 0, t1 := 0, t2 := 0, t3 := 0, t4 := 0, t5 := 0, t6 := 0,
    s0 := 0, s1 := 0, s2 := 0, s3 := 0, s4 := 0, s5 := 0,
    s6 := 0, s7 := 0, s8 := 0, s9 := 0, s10 := 0, s11 := 0,
    a0 := 0, a1 := 0, a2 := 0, a3 := 0, a4 := 0, a5 := 0, a6 := 0, a7 := 0,
    sepc := 0, sstatus := 0, satp := 0 }

namespace SstatusExt

/-- `SPP_BIT`. -/
def sppBit : Nat := 8

/-- `SPIE_BIT`. -/
def spieBit : Nat := 5

/-- `SIE_BIT`, the bit `sstatus::set_sie` and `clear_sie` of the `riscv`
crate set and clear. -/
def sieBit : Nat := 1

/-- `*sstatus |= 1 << bit`. -/
def setBit (bit : Nat) (sstatus : BitVec 64) : BitVec 64 := sstatus ||| 1#64 <<< bit

/-- `*sstatus &= !(1 << bit)`. -/
def clearBit (bit : Nat) (sstatus : BitVec 64) : BitVec 64 := sstatus &&& ~~~(1#64 <<< bit)

/-- `set_user_mode`: SPP = 0. -/
def setUserMode : BitVec 64 → BitVec 64 := clearBit sppBit

/-- `set_supervisor_mode`: SPP = 1. -/
def setSupervisorMode : BitVec 64 → BitVec 64 := setBit sppBit

/-- `enable_interrupt_on_return`: SPIE = 1. -/
def enableInterruptOnReturn : BitVec 64 → BitVec 64 := setBit spieBit

theorem getLsbD_setBit {bit : Nat} (small : bit < 64) (sstatus : BitVec 64) (index : Nat) :
    (setBit bit sstatus).getLsbD index = (decide (index = bit) || sstatus.getLsbD index) := by
  simp only [setBit, BitVec.getLsbD_or, BitVec.getLsbD_shiftLeft, BitVec.getLsbD_one]
  by_cases same : index = bit
  · subst same
    simp [small]
  · by_cases inside : index < 64
    · simp [same, inside]
      omega
    · simp [same, inside]

theorem getLsbD_clearBit (bit : Nat) (sstatus : BitVec 64) (index : Nat) :
    (clearBit bit sstatus).getLsbD index = (!decide (index = bit) && sstatus.getLsbD index) := by
  simp only [clearBit, BitVec.getLsbD_and, BitVec.getLsbD_not, BitVec.getLsbD_shiftLeft,
    BitVec.getLsbD_one]
  by_cases same : index = bit
  · subst same
    simp
  · by_cases inside : index < 64
    · cases sstatus.getLsbD index <;> simp [same, inside]
      omega
    · simp [same, inside, BitVec.getLsbD_ge sstatus index (by omega)]

end SstatusExt

/-- `ProcessContext::new_user_context`; `status` is the value that its
`csrr sstatus` read. -/
def newUserContext (entryPoint userStackTop satpValue : Nat) (status : BitVec 64) :
    ProcessContext :=
  { ProcessContext.new with
    sepc := entryPoint
    sp := userStackTop
    satp := satpValue
    sstatus := SstatusExt.enableInterruptOnReturn (SstatusExt.setUserMode status) }

/-- A user context starts at the entry point on the given stack and
translation root, returns to user mode (SPP, bit 8, clear) with interrupts
enabled (SPIE, bit 5, set), keeps every other status bit as it was read, and
has every other register 0. -/
theorem newUserContext_spec (entryPoint userStackTop satpValue : Nat) (status : BitVec 64) :
    (newUserContext entryPoint userStackTop satpValue status).sepc = entryPoint ∧
      (newUserContext entryPoint userStackTop satpValue status).sp = userStackTop ∧
      (newUserContext entryPoint userStackTop satpValue status).satp = satpValue ∧
      (newUserContext entryPoint userStackTop satpValue status).sstatus.getLsbD 8 = false ∧
      (newUserContext entryPoint userStackTop satpValue status).sstatus.getLsbD 5 = true ∧
      (∀ index, index ≠ 8 → index ≠ 5 →
        (newUserContext entryPoint userStackTop satpValue status).sstatus.getLsbD index =
          status.getLsbD index) ∧
      { newUserContext entryPoint userStackTop satpValue status with
        sepc := 0, sp := 0, satp := 0, sstatus := 0 } = ProcessContext.new := by
  have bit (index : Nat) :
      (newUserContext entryPoint userStackTop satpValue status).sstatus.getLsbD index =
        (decide (index = 5) || !decide (index = 8) && status.getLsbD index) := by
    rw [newUserContext, SstatusExt.enableInterruptOnReturn, SstatusExt.setUserMode,
      SstatusExt.getLsbD_setBit (by decide), SstatusExt.getLsbD_clearBit]
    rfl
  refine ⟨rfl, rfl, rfl, ?_, ?_, fun index other₈ other₅ => ?_, rfl⟩ <;>
    simp [bit, *]

/-- The whole `ProcessControlBlock`; `view` holds the fields the scheduler
reads. -/
structure Pcb where
  view : ProcessControlBlock
  parentPid : Option Nat
  name : String
  context : ProcessContext
  heapBottom : Nat
  heapTop : Nat
  userStackBottom : Nat
  userStackTop : Nat
  priority : Nat
  children : List Nat
deriving DecidableEq, Repr

namespace Pcb

/-- `ProcessControlBlock::new`, with the id that `ProcessId::new` draws from
`NEXT_PID`. -/
def new (name : String) (parentPid : Option Nat) (nextPid : Usize) : Pcb × Usize :=
  let (pid, nextPid) := ProcessId.new nextPid
  ({ view := ProcessControlBlock.new pid.asUsize.val
     parentPid
     name
     context := ProcessContext.new
     heapBottom := 0
     heapTop := 0
     userStackBottom := 0
     userStackTop := 0
     priority := 1
     children := [] }, nextPid)

def setUserStack (process : Pcb) (bottom top : Nat) : Pcb :=
  { process with userStackBottom := bottom, userStackTop := top }

/-- `set_heap`: an empty heap at `bottom`. -/
def setHeap (process : Pcb) (bottom : Nat) : Pcb :=
  { process with heapBottom := bottom, heapTop := bottom }

/-- `add_child`: appended, duplicates kept. -/
def addChild (process : Pcb) (childPid : Nat) : Pcb :=
  { process with children := process.children ++ [childPid] }

/-- `remove_child`: every copy of the id goes. -/
def removeChild (process : Pcb) (childPid : Nat) : Pcb :=
  { process with children := process.children.filter fun pid => pid != childPid }

/-- `can_reclaim`, which is `is_zombie`. -/
def canReclaim (process : Pcb) : Bool := process.view.state == .zombie

/-- `create_process_handle`: the `Arc<Mutex<_>>` around a new PCB. -/
def createProcessHandle (name : String) (parentPid : Option Nat) (nextPid : Usize) :
    Pcb × Usize :=
  new name parentPid nextPid

/-- `create_process`: a new PCB with a 64 KiB user stack below
`user_stack_top` and a user context at the entry point (`satp = 0`: identity
mapping).  `status` is the `sstatus` that `new_user_context` reads. -/
def createProcess (name : String) (entryPoint userStackTop : Nat) (parentPid : Option Nat)
    (nextPid : Usize) (status : BitVec 64) : Except Panic (Pcb × Usize) := do
  let (process, nextPid) := createProcessHandle name parentPid nextPid
  let bottom ← usizeSub userStackTop 0x10000
  let process := process.setUserStack bottom userStackTop
  let satpValue := 0
  pure ({ process with context := newUserContext entryPoint userStackTop satpValue status },
    nextPid)

theorem createProcess_eq_ok {name : String} {entryPoint userStackTop : Nat}
    {parentPid : Option Nat} {nextPid : Usize} {status : BitVec 64}
    (above : 0x10000 ≤ userStackTop) :
    createProcess name entryPoint userStackTop parentPid nextPid status =
      .ok ({ view := ErrorOS.Process.createProcess nextPid.val
             parentPid
             name
             context := newUserContext entryPoint userStackTop 0 status
             heapBottom := 0
             heapTop := 0
             userStackBottom := userStackTop - 0x10000
             userStackTop
             priority := 1
             children := [] }, (ProcessId.new nextPid).2) := by
  simp only [createProcess, createProcessHandle, usizeSub_of_le above]
  rfl

/-- `create_process` panics exactly when the stack top is below 64 KiB, where
`user_stack_top - 0x10000` underflows.  Otherwise it returns the fresh
`Ready` PCB that the scheduler adds, for the id drawn from `NEXT_PID`, with a
64 KiB user stack ending at the top and a user context at the entry point on
that stack. -/
theorem createProcess_result (name : String) (entryPoint userStackTop : Nat)
    (parentPid : Option Nat) (nextPid : Usize) (status : BitVec 64) :
    (userStackTop < 0x10000 →
      createProcess name entryPoint userStackTop parentPid nextPid status =
        .error .arithmeticOverflow) ∧
    (0x10000 ≤ userStackTop →
      ∃ process, createProcess name entryPoint userStackTop parentPid nextPid status =
          .ok (process, (ProcessId.new nextPid).2) ∧
        process.view = ErrorOS.Process.createProcess nextPid.val ∧
        process.userStackBottom + 0x10000 = userStackTop ∧
        process.userStackTop = userStackTop ∧
        process.context = newUserContext entryPoint userStackTop 0 status ∧
        process.parentPid = parentPid ∧ process.name = name ∧ process.children = []) := by
  constructor
  · intro below
    simp only [createProcess, createProcessHandle, usizeSub, if_neg (show ¬0x10000 ≤ userStackTop by omega)]
    rfl
  · intro above
    exact ⟨_, createProcess_eq_ok above, rfl, Nat.sub_add_cancel above, rfl, rfl, rfl, rfl, rfl⟩

-- The crate's own `test_process_creation` calls
-- `create_process("test", 0x1000, 0x2000, None)`, whose stack top is below 64 KiB.
example (nextPid : Usize) (status : BitVec 64) :
    createProcess "test" 0x1000 0x2000 none nextPid status = .error .arithmeticOverflow :=
  rfl

end Pcb

end ErrorOS.Process
