import ErrorOS.Process.Context

/-!
# The boot processes

`init_system_processes` creates the `init` process, a `shell` and three user
tasks with `create_process` and adds each to the scheduler: `init` first,
with no parent, then the others with `init` as their parent.  Every process
gets a 64 KiB stack ending at its stack top and starts at its entry point,
which is the bottom of that same stack; the user tasks' stack tops are only
`0x1000` apart, so their stacks overlap.  No `add_child` is called, so
`init`'s list of children stays empty.  The printing of the demonstration and
the dashboards it shows are left out.
-/

namespace ErrorOS.Process

/-- The name `init_system_processes` gives user task `i`. -/
def userTaskName (i : Nat) : String :=
  match i with
  | 1 => "user_task1"
  | 2 => "user_task2"
  | 3 => "user_task3"
  | _ => "user_task"

/-- The loop `for i in 1..=3` of `init_system_processes`, over the given
`i`s, with `init`'s id as the parent. -/
def createUserTasks (parent : Nat) (status : BitVec 64) :
    List Nat → Scheduler → Usize → Except Panic (Scheduler × List Pcb × Usize)
  | [], scheduler, nextPid => pure (scheduler, [], nextPid)
  | i :: rest, scheduler, nextPid => do
      let (proc, nextPid) ← Pcb.createProcess (userTaskName i) (0x80200000 + i * 0x1000)
        (0x80210000 + i * 0x1000) (some parent) nextPid status
      let (scheduler, procs, nextPid) ←
        createUserTasks parent status rest (scheduler.addProcess proc.view) nextPid
      pure (scheduler, proc :: procs, nextPid)

/-- `init_system_processes`: the scheduler afterwards, the PCBs in creation
order and `NEXT_PID`.  `status` is the `sstatus` each `new_user_context`
reads; nothing between the calls changes it. -/
def initSystemProcesses (scheduler : Scheduler) (nextPid : Usize) (status : BitVec 64) :
    Except Panic (Scheduler × List Pcb × Usize) := do
  let (initProc, nextPid) ← Pcb.createProcess "init" 0x80000000 0x80010000 none nextPid status
  let scheduler := scheduler.addProcess initProc.view
  let (shellProc, nextPid) ←
    Pcb.createProcess "shell" 0x80100000 0x80110000 (some initProc.view.pid) nextPid status
  let scheduler := scheduler.addProcess shellProc.view
  let (scheduler, userProcs, nextPid) ←
    createUserTasks initProc.view.pid status [1, 2, 3] scheduler nextPid
  pure (scheduler, initProc :: shellProc :: userProcs, nextPid)

@[simp] theorem createProcess_pid (pid : Nat) : (createProcess pid).pid = pid := rfl

@[simp] theorem Scheduler.addProcess_createProcess_readyQueue (scheduler : Scheduler) (pid : Nat) :
    (scheduler.addProcess (createProcess pid)).readyQueue = scheduler.readyQueue ++ [pid] := rfl

theorem Scheduler.addProcess_createProcess_processes (scheduler : Scheduler) {pid other : Nat}
    (different : other ≠ pid) :
    (scheduler.addProcess (createProcess pid)).processes other = scheduler.processes other := by
  simp [Scheduler.addProcess, Scheduler.setProcess, createProcess, ProcessControlBlock.new,
    Function.update_noteq different]

theorem Reachable.addProcess_createProcess {scheduler : Scheduler} {pid : Nat}
    (reachable : Reachable scheduler) (fresh : scheduler.processes pid = none) :
    Reachable (scheduler.addProcess (createProcess pid)) :=
  .step (.addProcess pid) reachable fresh rfl

/-- `init_system_processes` on any reachable scheduler, with `NEXT_PID`
short of wrapping and the five ids it will issue not in the table: it
succeeds; the scheduler it leaves is reachable, so every invariant of the
scheduler holds there, and has the five new ids queued in creation order; the
new PCBs are the fresh `Ready` PCBs the scheduler expects, `init` the parent
of the other four, no one's children recorded; and every process starts at
the bottom of its own stack, while the three user tasks' stacks overlap. -/
theorem init_system_processes_spec {scheduler : Scheduler} {nextPid : Usize} (status : BitVec 64)
    (reachable : Reachable scheduler) (room : nextPid.val + 5 ≤ usizeMax)
    (fresh : ∀ pid, nextPid.val ≤ pid → pid < nextPid.val + 5 → scheduler.processes pid = none) :
    ∃ booted procs next, initSystemProcesses scheduler nextPid status = .ok (booted, procs, next) ∧
      Reachable booted ∧
      booted.readyQueue = scheduler.readyQueue ++ (List.range 5).map (nextPid.val + ·) ∧
      next.val = nextPid.val + 5 ∧
      procs.map (·.view) = (List.range 5).map (fun k => createProcess (nextPid.val + k)) ∧
      procs.map (·.parentPid) = none :: List.replicate 4 (some nextPid.val) ∧
      procs.map (·.children) = List.replicate 5 [] ∧
      procs.map (fun proc => (proc.context.sepc, proc.userStackBottom, proc.userStackTop)) =
        [(0x80000000, 0x80000000, 0x80010000), (0x80100000, 0x80100000, 0x80110000),
          (0x80201000, 0x80201000, 0x80211000), (0x80202000, 0x80202000, 0x80212000),
          (0x80203000, 0x80203000, 0x80213000)] := by
  obtain ⟨v, bounded⟩ := nextPid
  simp only at room fresh ⊢
  have counted (k : Nat) (small : k < 5) : (v + k + 1) % (usizeMax + 1) = v + k + 1 :=
    Nat.mod_eq_of_lt (by unfold usizeMax at room ⊢; omega)
  simp only [initSystemProcesses, createUserTasks, bind, Except.bind, pure, Except.pure,
    Pcb.createProcess_eq_ok (show 0x10000 ≤ 0x80010000 by decide),
    Pcb.createProcess_eq_ok (show 0x10000 ≤ 0x80110000 by decide),
    Pcb.createProcess_eq_ok (show 0x10000 ≤ 0x80210000 + 1 * 0x1000 by decide),
    Pcb.createProcess_eq_ok (show 0x10000 ≤ 0x80210000 + 2 * 0x1000 by decide),
    Pcb.createProcess_eq_ok (show 0x10000 ≤ 0x80210000 + 3 * 0x1000 by decide),
    ProcessId.new, Usize.fetchAdd, ProcessId.asUsize, createProcess_pid,
    counted 0 (by decide), counted 1 (by decide), counted 2 (by decide), counted 3 (by decide),
    counted 4 (by decide), Nat.add_zero]
  refine ⟨_, _, _, rfl, ?_, by simp [List.range_succ], rfl, by simp [List.range_succ], rfl, rfl,
    rfl⟩
  refine ((((reachable.addProcess_createProcess ?_).addProcess_createProcess ?_).addProcess_createProcess
    ?_).addProcess_createProcess ?_).addProcess_createProcess ?_ <;>
    simp (disch := omega) only [Scheduler.addProcess_createProcess_processes, fresh]

end ErrorOS.Process
