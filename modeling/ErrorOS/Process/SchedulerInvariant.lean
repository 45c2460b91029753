import ErrorOS.Process.Scheduler

/-!
# Invariants of reachable scheduler states

`Consistent` is what every state reached from `Scheduler::new` keeps: each
entry is stored under its own id, only the current process may be running,
and the current id and every queued id name table entries.  It is shown once
per operation, which also shows that no operation panics: the `unwrap` in
`schedule` always finds the current process.

More does not hold.  `schedule` returns at once when the ready queue is
empty, so `block_current` and `exit_current_process` leave the current id on
the process they just blocked or retired.  A later `wake_up` queues that
process while it is still current, and `block_current` then blocks it again
without taking it out of the queue; nor does it look at the state it
overwrites, so a zombie that is still current becomes blocked.  The last
section states these steps for every state and follows them in reachable
runs.
-/

namespace ErrorOS.Process

open Scheduler

/-- The invariant of reachable scheduler states. -/
structure Consistent (scheduler : Scheduler) : Prop where
  pid_eq : ∀ {pid process}, scheduler.processes pid = some process → process.pid = pid
  running_current : ∀ {pid process}, scheduler.processes pid = some process →
    process.state = .running → scheduler.current = some pid
  current_mem : ∀ {pid}, scheduler.current = some pid → scheduler.processes pid ≠ none
  queue_mem : ∀ {pid}, pid ∈ scheduler.readyQueue → scheduler.processes pid ≠ none

namespace Consistent

variable {scheduler : Scheduler}

theorem new : Consistent Scheduler.new where
  pid_eq := by simp [Scheduler.new]
  running_current := by simp [Scheduler.new]
  current_mem := by simp [Scheduler.new]
  queue_mem := by simp [Scheduler.new]

theorem withQueue (consistent : Consistent scheduler) {queue : List Nat}
    (queueMem : ∀ pid ∈ queue, scheduler.processes pid ≠ none) :
    Consistent { scheduler with readyQueue := queue } where
  pid_eq := consistent.pid_eq
  running_current := consistent.running_current
  current_mem := consistent.current_mem
  queue_mem := queueMem _

theorem setProcess (consistent : Consistent scheduler) {pid : Nat}
    {process : ProcessControlBlock} (pidEq : process.pid = pid)
    (runningCurrent : process.state = .running → scheduler.current = some pid) :
    Consistent (scheduler.setProcess pid process) where
  pid_eq := by
    intro other entry found
    by_cases same : other = pid
    · subst same
      simp only [setProcess_processes, Function.update_same, Option.some.injEq] at found
      exact found ▸ pidEq
    · simp only [setProcess_processes, Function.update_noteq same] at found
      exact consistent.pid_eq found
  running_current := by
    intro other entry found running
    by_cases same : other = pid
    · subst same
      simp only [setProcess_processes, Function.update_same, Option.some.injEq] at found
      exact runningCurrent (found ▸ running)
    · simp only [setProcess_processes, Function.update_noteq same] at found
      exact consistent.running_current found running
  current_mem := by
    intro other isCurrent
    by_cases same : other = pid
    · simp [same]
    · simpa [Function.update_noteq same] using consistent.current_mem isCurrent
  queue_mem := by
    intro other member
    by_cases same : other = pid
    · simp [same]
    · simpa [Function.update_noteq same] using consistent.queue_mem member

theorem enqueue (consistent : Consistent scheduler) (pid : Nat) :
    Consistent (scheduler.enqueue pid) where
  pid_eq := fun found => consistent.pid_eq (by rwa [enqueue_processes] at found)
  running_current := fun found running => by
    rw [enqueue_current]
    exact consistent.running_current (by rwa [enqueue_processes] at found) running
  current_mem := fun isCurrent => by
    rw [enqueue_processes]
    exact consistent.current_mem (by rwa [enqueue_current] at isCurrent)
  queue_mem := by
    intro other member
    rw [enqueue_readyQueue] at member
    rw [enqueue_processes]
    split at member
    · rename_i ready
      obtain ⟨process, found, -⟩ := ready
      rcases List.mem_append.mp member with member | member
      · exact consistent.queue_mem member
      · simp only [List.mem_singleton] at member
        simp [member, found]
    · exact consistent.queue_mem member

theorem promote (consistent : Consistent scheduler) {next : ProcessControlBlock}
    {nextPid : Nat} (found : scheduler.processes nextPid = some next)
    (idle : ∀ {pid process}, scheduler.processes pid = some process →
      process.state ≠ .running) :
    Consistent (scheduler.promote next nextPid) where
  pid_eq := by
    intro other entry entryFound
    by_cases same : other = nextPid
    · subst same
      simp only [promote_processes, Function.update_same, Option.some.injEq] at entryFound
      simpa [← entryFound] using consistent.pid_eq found
    · simp only [promote_processes, Function.update_noteq same] at entryFound
      exact consistent.pid_eq entryFound
  running_current := by
    intro other entry entryFound running
    by_cases same : other = nextPid
    · simp [same]
    · simp only [promote_processes, Function.update_noteq same] at entryFound
      exact absurd running (idle entryFound)
  current_mem := by
    intro other isCurrent
    simp only [promote_current, Option.some.injEq] at isCurrent
    simp [isCurrent]
  queue_mem := by
    intro other member
    by_cases same : other = nextPid
    · simp [same]
    · simpa [Function.update_noteq same] using consistent.queue_mem member

theorem switchTo (consistent : Consistent scheduler) {currentPid nextPid : Nat}
    {current next : ProcessControlBlock}
    (currentFound : scheduler.processes currentPid = some current)
    (found : scheduler.processes nextPid = some next) (different : currentPid ≠ nextPid)
    (onlyCurrent : ∀ {pid process}, scheduler.processes pid = some process →
      process.state = .running → pid = currentPid) :
    Consistent (scheduler.switchTo currentPid current next nextPid) := by
  by_cases running : current.state = .running
  · rw [switchTo_of_running running]
    have currentPidEq := consistent.pid_eq currentFound
    have demoted := (consistent.setProcess
      (show (current.setState .ready).pid = currentPid from currentPidEq)
      (by simp)).enqueue current.pid
    refine demoted.promote (by simp [Function.update_noteq different.symm, found]) ?_
    intro pid process entry
    by_cases atCurrent : pid = currentPid
    · subst atCurrent
      simp only [enqueue_processes, setProcess_processes, Function.update_same,
        Option.some.injEq] at entry
      simp [← entry]
    · simp only [enqueue_processes, setProcess_processes,
        Function.update_noteq atCurrent] at entry
      exact fun running => atCurrent (onlyCurrent entry running)
  · rw [switchTo_of_not_running running]
    refine consistent.promote found ?_
    intro pid process entry entryRunning
    have atCurrent := onlyCurrent entry entryRunning
    subst atCurrent
    rw [currentFound, Option.some.injEq] at entry
    exact running (entry ▸ entryRunning)

theorem schedule (consistent : Consistent scheduler) :
    ∃ next, scheduler.schedule = .ok next ∧ Consistent next := by
  match queue : scheduler.readyQueue with
  | [] => exact ⟨scheduler, schedule_of_readyQueue_nil queue, consistent⟩
  | nextPid :: rest =>
      have popped : Consistent { scheduler with readyQueue := rest } :=
        consistent.withQueue fun pid member =>
          consistent.queue_mem (by simp [queue, member])
      match found : scheduler.processes nextPid with
      | none => exact ⟨_, schedule_of_missing queue found, popped⟩
      | some next =>
          by_cases same : scheduler.current = some nextPid
          · exact ⟨_, schedule_of_current queue found same,
              popped.setProcess (by simpa using consistent.pid_eq found) fun _ => same⟩
          · match isCurrent : scheduler.current with
            | none =>
                refine ⟨_, schedule_of_start queue found isCurrent, popped.promote found ?_⟩
                intro pid process entry running
                simpa [isCurrent] using consistent.running_current entry running
            | some currentPid =>
                have different : currentPid ≠ nextPid := fun equal => same (equal ▸ isCurrent)
                obtain ⟨current, currentFound⟩ :=
                  Option.ne_none_iff_exists'.mp (consistent.current_mem isCurrent)
                refine ⟨_, schedule_of_switch queue found isCurrent different currentFound,
                  popped.switchTo currentFound found different ?_⟩
                intro pid process entry running
                simpa [isCurrent] using (consistent.running_current entry running).symm

theorem addProcess (consistent : Consistent scheduler) (pid : Nat) :
    Consistent (scheduler.addProcess (createProcess pid)) := by
  have added := consistent.setProcess (show (createProcess pid).pid = pid from rfl) (by
    simp [createProcess, ProcessControlBlock.new])
  simp only [Scheduler.addProcess, createProcess, ProcessControlBlock.new, if_true]
  refine added.withQueue fun other member => ?_
  rcases List.mem_append.mp member with member | member
  · exact added.queue_mem member
  · simp only [List.mem_singleton] at member
    simp [member, createProcess, ProcessControlBlock.new]

theorem removeProcess (consistent : Consistent scheduler) (pid : Nat) :
    Consistent (scheduler.removeProcess pid) where
  pid_eq := by
    intro other entry found
    by_cases same : other = pid
    · simp [Scheduler.removeProcess, same] at found
    · simp only [Scheduler.removeProcess, Function.update_noteq same] at found
      exact consistent.pid_eq found
  running_current := by
    intro other entry found running
    by_cases same : other = pid
    · simp [Scheduler.removeProcess, same] at found
    · simp only [Scheduler.removeProcess, Function.update_noteq same] at found
      simp [Scheduler.removeProcess, consistent.running_current found running, same]
  current_mem := by
    intro other isCurrent
    simp only [Scheduler.removeProcess] at isCurrent ⊢
    split at isCurrent
    · cases isCurrent
    · have different : other ≠ pid := by rintro rfl; contradiction
      simpa [Function.update_noteq different] using consistent.current_mem isCurrent
  queue_mem := by
    intro other member
    simp only [Scheduler.removeProcess, List.mem_filter, decide_eq_true_eq] at member ⊢
    simpa [Function.update_noteq member.2] using consistent.queue_mem member.1

theorem wakeUp (consistent : Consistent scheduler) (pid : Nat) :
    Consistent (scheduler.wakeUp pid) := by
  unfold Scheduler.wakeUp getProcess
  split
  · rename_i process found
    split
    · exact (consistent.setProcess (by simpa using consistent.pid_eq found)
        (by simp)).enqueue pid
    · exact consistent
  · exact consistent

/-- `tick`, `block_current` and `exit_current_process` share one shape: write
the current process, keeping its id, and possibly schedule. -/
theorem updateCurrent (consistent : Consistent scheduler) {currentPid : Nat}
    {process updated : ProcessControlBlock} (isCurrent : scheduler.current = some currentPid)
    (found : scheduler.processes currentPid = some process) (pidEq : updated.pid = process.pid) :
    Consistent (scheduler.setProcess currentPid updated) ∧
      ∃ next, (scheduler.setProcess currentPid updated).schedule = .ok next ∧
        Consistent next := by
  have updatedConsistent := consistent.setProcess
    (show updated.pid = currentPid from pidEq.trans (consistent.pid_eq found)) fun _ => isCurrent
  exact ⟨updatedConsistent, updatedConsistent.schedule⟩

theorem tick (consistent : Consistent scheduler) :
    ∃ next, scheduler.tick = .ok next ∧ Consistent next := by
  match isCurrent : scheduler.current with
  | none => exact ⟨scheduler, by simp [Scheduler.tick, isCurrent, pure, Except.pure], consistent⟩
  | some currentPid =>
      match found : scheduler.processes currentPid with
      | none =>
          exact ⟨scheduler, by simp [Scheduler.tick, getProcess, isCurrent, found, pure,
            Except.pure], consistent⟩
      | some process =>
          rw [tick_of_found isCurrent found]
          obtain ⟨updated, scheduled⟩ :=
            consistent.updateCurrent isCurrent found (ProcessControlBlock.tick_pid process)
          split
          · exact scheduled
          · exact ⟨_, rfl, updated⟩

theorem blockCurrent (consistent : Consistent scheduler) :
    ∃ next, scheduler.blockCurrent = .ok next ∧ Consistent next := by
  match isCurrent : scheduler.current with
  | none =>
      exact ⟨scheduler, by simp [Scheduler.blockCurrent, isCurrent, pure, Except.pure],
        consistent⟩
  | some currentPid =>
      match found : scheduler.processes currentPid with
      | none =>
          exact ⟨scheduler, by simp [Scheduler.blockCurrent, getProcess, isCurrent, found, pure,
            Except.pure], consistent⟩
      | some process =>
          rw [blockCurrent_of_found isCurrent found]
          exact (consistent.updateCurrent isCurrent found (process.setState_pid _)).2

theorem exitCurrentProcess (consistent : Consistent scheduler) (exitCode : Int) :
    ∃ next, Process.exitCurrentProcess scheduler exitCode = .ok next ∧ Consistent next := by
  match isCurrent : scheduler.current with
  | none =>
      exact ⟨scheduler, by simp [Process.exitCurrentProcess, isCurrent, pure, Except.pure],
        consistent⟩
  | some currentPid =>
      match found : scheduler.processes currentPid with
      | none =>
          exact ⟨scheduler, by simp [Process.exitCurrentProcess, getProcess, isCurrent, found,
            pure, Except.pure], consistent⟩
      | some process =>
          simp only [Process.exitCurrentProcess, getProcess, isCurrent, found]
          exact (consistent.updateCurrent isCurrent found (process.setExitCode_pid _)).2

/-- From a consistent state every admissible operation succeeds and keeps the
invariant. -/
theorem run (consistent : Consistent scheduler) {operation : Operation}
    (admissible : operation.Admissible scheduler) :
    ∃ next, operation.run scheduler = .ok next ∧ Consistent next := by
  cases operation with
  | addProcess pid => exact ⟨_, rfl, consistent.addProcess pid⟩
  | removeProcess pid => exact ⟨_, rfl, consistent.removeProcess pid⟩
  | schedule => exact consistent.schedule
  | tick => exact consistent.tick
  | blockCurrent => exact consistent.blockCurrent
  | wakeUp pid => exact ⟨_, rfl, consistent.wakeUp pid⟩
  | exitCurrentProcess exitCode => exact consistent.exitCurrentProcess exitCode

end Consistent

theorem Reachable.consistent {scheduler : Scheduler} (reachable : Reachable scheduler) :
    Consistent scheduler := by
  induction reachable with
  | new => exact Consistent.new
  | step operation _ admissible ran induction =>
      obtain ⟨next, ranOk, consistent⟩ := induction.run admissible
      rw [ran, Except.ok.injEq] at ranOk
      exact ranOk ▸ consistent

/-- In every reachable state at most one process runs and it is the current
one, the current id and every queued id name table entries, and therefore
`schedule` succeeds: its `unwrap` finds the current process and its
"process not found" branch, which would drop the popped id, is never taken. -/
theorem reachable_running_unique_current {scheduler : Scheduler}
    (reachable : Reachable scheduler) :
    (∀ pid other process entry, scheduler.processes pid = some process →
      process.state = .running → scheduler.processes other = some entry →
      entry.state = .running → pid = other) ∧
    (∀ pid process, scheduler.processes pid = some process →
      process.state = .running → scheduler.current = some pid) ∧
    (∀ pid, scheduler.current = some pid → scheduler.processes pid ≠ none) ∧
    (∀ pid ∈ scheduler.readyQueue, scheduler.processes pid ≠ none) ∧
    (∃ next, scheduler.schedule = .ok next) ∧
    (∀ nextPid rest, scheduler.readyQueue = nextPid :: rest →
      scheduler.processes nextPid ≠ none) := by
  have consistent := reachable.consistent
  refine ⟨fun pid other process entry found running otherFound otherRunning => ?_,
    fun _ _ => consistent.running_current, fun _ => consistent.current_mem,
    fun _ => consistent.queue_mem, ?_, fun nextPid rest queue => consistent.queue_mem ?_⟩
  · have first := consistent.running_current found running
    rw [consistent.running_current otherFound otherRunning, Option.some.injEq] at first
    exact first.symm
  · obtain ⟨next, scheduled, -⟩ := consistent.schedule
    exact ⟨next, scheduled⟩
  · simp [queue]

/-- `P1` and `P2` are added and `P1` is scheduled: `schedule` succeeds again. -/
theorem reachable_running_unique_current_two :
    ∃ next, (afterRun [.addProcess 1, .addProcess 2, .schedule]).schedule = .ok next :=
  (reachable_running_unique_current (reachable_afterRun _)).2.2.2.2.1

/-- The current id always names an entry, and that entry is the only running
one unless no entry runs at all: `block_current` and `exit_current_process`
leave the current id on their process when nothing else is ready. -/
theorem reachable_current_running_or_none_running {scheduler : Scheduler}
    (reachable : Reachable scheduler) {pid : Nat} (isCurrent : scheduler.current = some pid) :
    ∃ process, scheduler.processes pid = some process ∧
      ((process.state = .running ∧ ∀ other entry, scheduler.processes other = some entry →
          entry.state = .running → other = pid) ∨
        ∀ other entry, scheduler.processes other = some entry → entry.state ≠ .running) := by
  have consistent := reachable.consistent
  obtain ⟨process, found⟩ := Option.ne_none_iff_exists'.mp (consistent.current_mem isCurrent)
  have unique : ∀ other entry, scheduler.processes other = some entry → entry.state = .running →
      other = pid := fun other entry entryFound running => by
    have otherCurrent := consistent.running_current entryFound running
    rw [isCurrent, Option.some.injEq] at otherCurrent
    exact otherCurrent.symm
  refine ⟨process, found, ?_⟩
  by_cases running : process.state = .running
  · exact .inl ⟨running, unique⟩
  · refine .inr fun other entry entryFound entryRunning => running ?_
    obtain rfl := unique other entry entryFound entryRunning
    rw [found, Option.some.injEq] at entryFound
    exact entryFound ▸ entryRunning

theorem reachable_current_running_or_none_running_blocked :
    Reachable (afterRun [.addProcess 1, .schedule, .blockCurrent]) ∧
      (afterRun [.addProcess 1, .schedule, .blockCurrent]).current = some 1 ∧
      ∃ process, (afterRun [.addProcess 1, .schedule, .blockCurrent]).processes 1 = some process ∧
        ((process.state = .running ∧ ∀ other entry,
            (afterRun [.addProcess 1, .schedule, .blockCurrent]).processes other = some entry →
              entry.state = .running → other = 1) ∨
          ∀ other entry, (afterRun [.addProcess 1, .schedule, .blockCurrent]).processes other =
            some entry → entry.state ≠ .running) :=
  ⟨reachable_afterRun _, rfl, reachable_current_running_or_none_running (reachable_afterRun _) rfl⟩

/-! ## The current id outlives its process's turn -/

section Stale

variable {scheduler : Scheduler} {pid : Nat} {process : ProcessControlBlock}

theorem blockCurrent_of_readyQueue_nil (isCurrent : scheduler.current = some pid)
    (found : scheduler.processes pid = some process) (empty : scheduler.readyQueue = []) :
    scheduler.blockCurrent = .ok (scheduler.setProcess pid (process.setState .blocked)) := by
  rw [blockCurrent_of_found isCurrent found, schedule_of_readyQueue_nil (by simpa using empty)]

theorem exitCurrentProcess_of_readyQueue_nil (isCurrent : scheduler.current = some pid)
    (found : scheduler.processes pid = some process) (empty : scheduler.readyQueue = [])
    (exitCode : Int) :
    exitCurrentProcess scheduler exitCode =
      .ok (scheduler.setProcess pid (process.setExitCode exitCode)) := by
  simp only [exitCurrentProcess, getProcess, isCurrent, found]
  exact schedule_of_readyQueue_nil (by simpa using empty)

/-- When the current process is queued behind another one, `block_current`
switches to the other and leaves the blocked id in the queue. -/
theorem blockCurrent_of_queued {nextPid : Nat} {rest : List Nat} {next : ProcessControlBlock}
    (isCurrent : scheduler.current = some pid) (found : scheduler.processes pid = some process)
    (queue : scheduler.readyQueue = nextPid :: rest)
    (nextFound : scheduler.processes nextPid = some next) (different : pid ≠ nextPid) :
    scheduler.blockCurrent = .ok (({ scheduler with readyQueue := rest }.setProcess pid
      (process.setState .blocked)).promote next nextPid) := by
  rw [blockCurrent_of_found isCurrent found,
    schedule_of_switch
      (show (scheduler.setProcess pid (process.setState .blocked)).readyQueue = _ from queue)
      (by simpa [Function.update_noteq different.symm] using nextFound)
      isCurrent different (Function.update_same _ _ _),
    switchTo_of_not_running (by simp)]
  rfl

end Stale

/-- The ready queue holds no id twice, and exactly the ids of ready entries. -/
def ReadyQueueExact (scheduler : Scheduler) : Prop :=
  scheduler.readyQueue.Nodup ∧
    (∀ pid ∈ scheduler.readyQueue,
      ∃ process, scheduler.processes pid = some process ∧ process.state = .ready) ∧
    (∀ pid process, scheduler.processes pid = some process → process.state = .ready →
      pid ∈ scheduler.readyQueue)

/-- `P1` runs, blocks with nothing ready, is woken behind `P2` while still
current, and blocks again: its id stays queued with a blocked entry. -/
theorem readyQueue_holds_blocked :
    ¬ ∀ scheduler, Reachable scheduler → ReadyQueueExact scheduler := by
  intro invariant
  have reachable :=
    reachable_afterRun [.addProcess 1, .schedule, .blockCurrent, .addProcess 2, .wakeUp 1]
  obtain ⟨process, found⟩ : ∃ process, (afterRun [.addProcess 1, .schedule, .blockCurrent,
      .addProcess 2, .wakeUp 1]).processes 1 = some process := ⟨_, rfl⟩
  obtain ⟨next, nextFound⟩ : ∃ next, (afterRun [.addProcess 1, .schedule, .blockCurrent,
      .addProcess 2, .wakeUp 1]).processes 2 = some next := ⟨_, rfl⟩
  have isCurrent : (afterRun [.addProcess 1, .schedule, .blockCurrent, .addProcess 2,
      .wakeUp 1]).current = some 1 := rfl
  have queue : (afterRun [.addProcess 1, .schedule, .blockCurrent, .addProcess 2,
      .wakeUp 1]).readyQueue = [2, 1] := rfl
  have blocked := blockCurrent_of_queued isCurrent found queue nextFound (by decide)
  obtain ⟨entry, stored, ready⟩ := (invariant _ (.step .blockCurrent reachable trivial blocked)).2.1 1
    (by simp)
  simp only [promote_processes, setProcess_processes, Function.update_noteq (by decide : 1 ≠ 2),
    Function.update_same, Option.some.injEq] at stored
  cases stored
  cases ready

/-- `P1` exits with nothing ready and stays current; `block_current` then turns
the zombie into a blocked process. -/
theorem zombie_reblocked :
    ¬ ∀ (scheduler : Scheduler) (operation : Operation) (next : Scheduler) (pid : Nat)
      (process : ProcessControlBlock), Reachable scheduler →
      operation.Admissible scheduler → operation.run scheduler = .ok next →
      scheduler.processes pid = some process → process.state = .zombie →
      ∀ after : ProcessControlBlock, next.processes pid = some after →
        after.state = .zombie := by
  intro invariant
  have reachable := reachable_afterRun [.addProcess 1, .schedule]
  obtain ⟨process, found⟩ :
      ∃ process, (afterRun [.addProcess 1, .schedule]).processes 1 = some process := ⟨_, rfl⟩
  have isCurrent : (afterRun [.addProcess 1, .schedule]).current = some 1 := rfl
  have exited := exitCurrentProcess_of_readyQueue_nil isCurrent found rfl 0
  have retired : ((afterRun [.addProcess 1, .schedule]).setProcess 1
      (process.setExitCode 0)).processes 1 = some (process.setExitCode 0) := by simp
  have stillCurrent : ((afterRun [.addProcess 1, .schedule]).setProcess 1
      (process.setExitCode 0)).current = some 1 := isCurrent
  have blocked := blockCurrent_of_readyQueue_nil stillCurrent retired rfl
  have reblocked := invariant _ .blockCurrent _ 1 _ (.step (.exitCurrentProcess 0) reachable trivial
    exited) trivial blocked retired rfl ((process.setExitCode 0).setState .blocked) (by simp)
  cases reblocked

/-- `P1` runs alone and blocks: the current id names a blocked process. -/
theorem current_left_blocked :
    ¬ ∀ scheduler, Reachable scheduler → ∀ pid, scheduler.current = some pid →
      ∃ process, scheduler.processes pid = some process ∧ process.state = .running := by
  intro invariant
  have reachable := reachable_afterRun [.addProcess 1, .schedule]
  obtain ⟨process, found⟩ :
      ∃ process, (afterRun [.addProcess 1, .schedule]).processes 1 = some process := ⟨_, rfl⟩
  have isCurrent : (afterRun [.addProcess 1, .schedule]).current = some 1 := rfl
  have blocked := blockCurrent_of_readyQueue_nil isCurrent found rfl
  obtain ⟨entry, stored, running⟩ :=
    invariant _ (.step .blockCurrent reachable trivial blocked) 1 isCurrent
  rw [setProcess_processes, Function.update_same, Option.some.injEq] at stored
  cases stored
  cases running

end ErrorOS.Process
