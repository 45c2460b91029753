import ErrorOS.Process.SchedulerInvariant
import Mathlib.Data.List.Rotate

/-!
# Round-robin rotation under clock ticks

A run of `Scheduler::tick` calls alone rotates the ready queue: the running
process keeps the processor until its slice is spent, then the head of the
queue runs for five ticks while the old process waits at the tail.  The
configuration `Rotating` is what one switch restores, so the whole law
follows from one countdown lemma and one switch lemma by induction over the
number of completed turns.
-/

namespace ErrorOS.Process

open Scheduler

/-- `count` calls of `Scheduler::tick`, stopping at a panic. -/
def ticks : Nat → Scheduler → Except Panic Scheduler
  | 0, scheduler => pure scheduler
  | count + 1, scheduler => scheduler.tick >>= ticks count

theorem ticks_succ_of_tick {scheduler next : Scheduler} {count : Nat}
    (ticked : scheduler.tick = .ok next) : ticks (count + 1) scheduler = ticks count next := by
  simp [ticks, ticked, bind, Except.bind]

theorem ticks_add_of_ok {scheduler middle : Scheduler} {first : Nat}
    (ran : ticks first scheduler = .ok middle) (second : Nat) :
    ticks (first + second) scheduler = ticks second middle := by
  induction first generalizing scheduler with
  | zero =>
      cases ran
      simp
  | succ first induction =>
      rw [Nat.add_right_comm]
      cases ticked : scheduler.tick with
      | error panic => simp [ticks, ticked, bind, Except.bind] at ran
      | ok next =>
          rw [ticks_succ_of_tick ticked] at ran ⊢
          exact induction ran

/-- The configuration a run of ticks rotates: `pid` runs as `process`, the
queued processes are distinct and ready, and each entry is stored under its
own id. -/
structure Rotating (scheduler : Scheduler) (pid : Nat) (process : ProcessControlBlock) :
    Prop where
  current_eq : scheduler.current = some pid
  found : scheduler.processes pid = some process
  running : process.state = .running
  pid_eq : process.pid = pid
  nodup : scheduler.readyQueue.Nodup
  ready : ∀ queued ∈ scheduler.readyQueue, ∃ entry, scheduler.processes queued = some entry ∧
    entry.state = .ready ∧ entry.pid = queued

namespace Rotating

variable {scheduler : Scheduler} {pid : Nat} {process : ProcessControlBlock}

theorem ne_of_mem (rotating : Rotating scheduler pid process) {queued : Nat}
    (member : queued ∈ scheduler.readyQueue) : queued ≠ pid := by
  rintro rfl
  obtain ⟨entry, entryFound, entryReady, -⟩ := rotating.ready queued member
  rw [rotating.found, Option.some.injEq] at entryFound
  simp [← entryFound, rotating.running] at entryReady

theorem tick_stay (rotating : Rotating scheduler pid process)
    (stays : 2 ≤ process.timeSlice ∨ scheduler.readyQueue = []) :
    scheduler.tick = .ok (scheduler.setProcess pid process.tick.1) ∧
      Rotating (scheduler.setProcess pid process.tick.1) pid process.tick.1 := by
  constructor
  · rw [tick_of_found rotating.current_eq rotating.found]
    split
    · rename_i exhausted
      rw [ProcessControlBlock.tick_exhausted] at exhausted
      have empty : scheduler.readyQueue = [] := stays.resolve_left (by omega)
      exact schedule_of_readyQueue_nil (by simpa using empty)
    · rfl
  · refine ⟨by simpa using rotating.current_eq, by simp, by simpa using rotating.running,
      by simpa using rotating.pid_eq, by simpa using rotating.nodup, ?_⟩
    intro queued member
    rw [setProcess_readyQueue] at member
    simpa [Function.update_noteq (rotating.ne_of_mem member)] using rotating.ready queued member

theorem ticks_countdown (rotating : Rotating scheduler pid process) (count : Nat)
    (stays : count < process.timeSlice ∨ scheduler.readyQueue = []) :
    ∃ after running, ticks count scheduler = .ok after ∧ Rotating after pid running ∧
      running.timeSlice = process.timeSlice - count ∧
      after.readyQueue = scheduler.readyQueue := by
  induction count generalizing scheduler process with
  | zero => exact ⟨scheduler, process, rfl, rotating, rfl, rfl⟩
  | succ count induction =>
      obtain ⟨ticked, ticking⟩ := rotating.tick_stay (stays.imp_left fun _ => by omega)
      obtain ⟨after, running, ran, afterRotating, slice, queue⟩ :=
        induction ticking (by
          rw [ProcessControlBlock.tick_timeSlice, setProcess_readyQueue]
          exact stays.imp_left fun _ => by omega)
      refine ⟨after, running, by rw [ticks_succ_of_tick ticked, ran], afterRotating, ?_, ?_⟩
      · rw [slice, ProcessControlBlock.tick_timeSlice]
        omega
      · simpa using queue

theorem tick_switch (rotating : Rotating scheduler pid process)
    (spent : process.timeSlice ≤ 1) {nextPid : Nat} {rest : List Nat}
    (queue : scheduler.readyQueue = nextPid :: rest) :
    ∃ after next, scheduler.tick = .ok after ∧ Rotating after nextPid next ∧
      next.timeSlice = 5 ∧ after.readyQueue = rest ++ [pid] := by
  obtain ⟨next, nextFound, nextReady, nextPidEq⟩ := rotating.ready nextPid (by simp [queue])
  have different : pid ≠ nextPid := (rotating.ne_of_mem (by simp [queue])).symm
  have exhausted : process.tick.2 = true := by simpa using spent
  let ticked := scheduler.setProcess pid process.tick.1
  let demoted := { ticked with readyQueue := rest }.setProcess pid
    (process.tick.1.setState .ready)
  have requeued : (demoted.enqueue process.tick.1.pid).readyQueue = rest ++ [pid] := by
    rw [enqueue_readyQueue, if_pos ⟨process.tick.1.setState .ready,
      by simp [demoted, rotating.pid_eq], by simp⟩]
    simp [demoted, rotating.pid_eq]
  refine ⟨(demoted.enqueue process.tick.1.pid).promote next nextPid,
    (next.setState .running).resetTimeSlice, ?_, ?_, rfl, requeued⟩
  · rw [tick_of_found rotating.current_eq rotating.found, if_pos exhausted,
      schedule_of_switch (show ticked.readyQueue = _ from queue)
        (by simpa [ticked, Function.update_noteq different.symm] using nextFound)
        rotating.current_eq different (Function.update_same _ _ _),
      switchTo_of_running (by simpa using rotating.running)]
  · have restNodup : rest.Nodup := (List.nodup_cons.mp (queue ▸ rotating.nodup)).2
    have nextNotRest : nextPid ∉ rest := (List.nodup_cons.mp (queue ▸ rotating.nodup)).1
    have pidNotRest : pid ∉ rest := fun member => rotating.ne_of_mem (by simp [queue, member]) rfl
    refine ⟨rfl, by simp, rfl, by simpa using nextPidEq, ?_, ?_⟩
    · rw [promote_readyQueue, requeued]
      exact List.nodup_append.mpr ⟨restNodup, by simp, by simpa using pidNotRest⟩
    · intro queued member
      rw [promote_readyQueue, requeued, List.mem_append, List.mem_singleton] at member
      rcases member with member | rfl
      · have notNext : queued ≠ nextPid := fun equal => nextNotRest (equal ▸ member)
        have notPid : queued ≠ pid := fun equal => pidNotRest (equal ▸ member)
        simpa [demoted, ticked, Function.update_noteq notNext, Function.update_noteq notPid]
          using rotating.ready queued (by simp [queue, member])
      · simp [demoted, ticked, different, rotating.pid_eq]

/-- A full turn: after the remaining slice the head of the queue runs with a
fresh slice and the old process waits at the tail. -/
theorem ticks_turn (rotating : Rotating scheduler pid process) (positive : 1 ≤ process.timeSlice)
    {nextPid : Nat} {rest : List Nat} (queue : scheduler.readyQueue = nextPid :: rest) :
    ∃ after next, ticks process.timeSlice scheduler = .ok after ∧ Rotating after nextPid next ∧
      next.timeSlice = 5 ∧ after.readyQueue = rest ++ [pid] := by
  obtain ⟨last, running, ran, lastRotating, slice, sameQueue⟩ :=
    rotating.ticks_countdown (process.timeSlice - 1) (.inl (by omega))
  obtain ⟨after, next, ticked, afterRotating, fresh, afterQueue⟩ :=
    lastRotating.tick_switch (by omega) (sameQueue.trans queue)
  refine ⟨after, next, ?_, afterRotating, fresh, afterQueue⟩
  rw [show process.timeSlice = process.timeSlice - 1 + 1 by omega, ticks_add_of_ok ran,
    ticks_succ_of_tick ticked]
  rfl

/-- After `j + 1` turns the queue followed by the current process is the cycle
`queue ++ [pid]` rotated `j + 1` times. -/
theorem ticks_rotation (rotating : Rotating scheduler pid process)
    (positive : 1 ≤ process.timeSlice) (nonempty : scheduler.readyQueue ≠ []) (turns : Nat) :
    ∃ after current next, ticks (process.timeSlice + 5 * turns) scheduler = .ok after ∧
      Rotating after current next ∧ next.timeSlice = 5 ∧
      after.readyQueue ++ [current] = (scheduler.readyQueue ++ [pid]).rotate (turns + 1) := by
  induction turns with
  | zero =>
      obtain ⟨nextPid, rest, queue⟩ := List.exists_cons_of_ne_nil nonempty
      obtain ⟨after, next, ran, afterRotating, fresh, afterQueue⟩ :=
        rotating.ticks_turn positive queue
      exact ⟨after, nextPid, next, ran, afterRotating, fresh, by
        simp [afterQueue, queue, List.rotate_cons_succ]⟩
  | succ turns induction =>
      obtain ⟨middle, current, running, ran, middleRotating, fresh, middleQueue⟩ := induction
      have lengthEq := congrArg List.length middleQueue
      simp only [List.length_append, List.length_singleton, List.length_rotate] at lengthEq
      obtain ⟨nextPid, rest, queue⟩ :=
        List.exists_cons_of_ne_nil (List.ne_nil_of_length_pos (by
          have := List.length_pos.mpr nonempty
          omega) : middle.readyQueue ≠ [])
      obtain ⟨after, next, turned, afterRotating, afterFresh, afterQueue⟩ :=
        middleRotating.ticks_turn (by omega) queue
      refine ⟨after, nextPid, next, ?_, afterRotating, afterFresh, ?_⟩
      · rw [show process.timeSlice + 5 * (turns + 1) = process.timeSlice + 5 * turns + 5 by
          omega, ticks_add_of_ok ran, ← fresh, turned]
      · rw [afterQueue, ← List.rotate_rotate, ← middleQueue, queue]
        simp [List.rotate_cons_succ]

end Rotating

theorem eq_getD_of_append_eq_rotate {queue cycle : List Nat} {current turns : Nat}
    (rotated : queue ++ [current] = cycle.rotate (turns + 1)) (fallback : Nat) :
    current = cycle.getD (turns % cycle.length) fallback := by
  have lengthEq : cycle.length = queue.length + 1 := by
    simpa using (congrArg List.length rotated).symm
  have last := congrArg (fun list => list[queue.length]?) rotated
  simp only [List.getElem?_append_right (Nat.le_refl _), Nat.sub_self,
    List.getElem?_cons_zero] at last
  rw [List.getElem?_rotate (by simp [lengthEq]), lengthEq,
    show queue.length + (turns + 1) = turns + (queue.length + 1) by omega,
    Nat.add_mod_right] at last
  simp [List.getD_eq_getElem?_getD, lengthEq, ← last]

/-- The process current after `count` ticks in a round robin: `pid` until its
`slice` is spent, then, five ticks each, the entries of `queue ++ [pid]` in
cyclic order. -/
def rotationOrder (queue : List Nat) (pid slice count : Nat) : Nat :=
  if count < slice then pid
  else (queue ++ [pid]).getD ((count - slice) / 5 % (queue.length + 1)) pid

/-- Round-robin rotation.  From a reachable state where `pid` runs with a
slice of at least one tick before a queue of distinct ready processes, a run
of ticks alone keeps `pid` current until its slice is spent and then makes
each entry of the cycle `queue ++ [pid]` current in turn for five ticks, so
that with an empty queue `pid` stays current forever.  With a non-empty queue,
after tick `slice + 5 * turns` the current process has a fresh slice of five
and the queue followed by it is the cycle rotated `turns + 1` times: the
process it replaced waits at the tail. -/
theorem ticks_roundRobin {scheduler : Scheduler} (reachable : Reachable scheduler)
    {pid : Nat} {process : ProcessControlBlock} (isCurrent : scheduler.current = some pid)
    (found : scheduler.processes pid = some process) (running : process.state = .running)
    (positive : 1 ≤ process.timeSlice) (distinct : scheduler.readyQueue.Nodup)
    (ready : ∀ queued ∈ scheduler.readyQueue,
      ∃ entry, scheduler.processes queued = some entry ∧ entry.state = .ready) :
    (∀ count, ∃ after, ticks count scheduler = .ok after ∧
      after.current = some (rotationOrder scheduler.readyQueue pid process.timeSlice count)) ∧
    (scheduler.readyQueue ≠ [] → ∀ turns, ∃ after current next,
      ticks (process.timeSlice + 5 * turns) scheduler = .ok after ∧
      after.current = some current ∧ after.processes current = some next ∧
      next.timeSlice = 5 ∧
      after.readyQueue ++ [current] = (scheduler.readyQueue ++ [pid]).rotate (turns + 1)) := by
  have consistent := reachable.consistent
  have rotating : Rotating scheduler pid process :=
    ⟨isCurrent, found, running, consistent.pid_eq found, distinct, fun queued member => by
      obtain ⟨entry, entryFound, entryReady⟩ := ready queued member
      exact ⟨entry, entryFound, entryReady, consistent.pid_eq entryFound⟩⟩
  refine ⟨fun count => ?_, fun nonempty turns => ?_⟩
  · unfold rotationOrder
    split
    · rename_i early
      obtain ⟨after, _, ran, afterRotating, -⟩ := rotating.ticks_countdown count (.inl early)
      exact ⟨after, ran, afterRotating.current_eq⟩
    · rename_i late
      by_cases empty : scheduler.readyQueue = []
      · obtain ⟨after, _, ran, afterRotating, -⟩ := rotating.ticks_countdown count (.inr empty)
        exact ⟨after, ran, by simp [afterRotating.current_eq, empty, Nat.mod_one]⟩
      · obtain ⟨middle, current, next, ran, middleRotating, fresh, middleQueue⟩ :=
          rotating.ticks_rotation positive empty ((count - process.timeSlice) / 5)
        obtain ⟨after, _, phaseRan, afterRotating, -⟩ :=
          middleRotating.ticks_countdown ((count - process.timeSlice) % 5) (.inl (by omega))
        refine ⟨after, ?_, ?_⟩
        · rw [show count = process.timeSlice + 5 * ((count - process.timeSlice) / 5) +
            (count - process.timeSlice) % 5 by omega, ticks_add_of_ok ran, phaseRan]
        · rw [afterRotating.current_eq, eq_getD_of_append_eq_rotate middleQueue pid]
          simp
  · obtain ⟨after, current, next, ran, afterRotating, fresh, afterQueue⟩ :=
      rotating.ticks_rotation positive nonempty turns
    exact ⟨after, current, next, ran, afterRotating.current_eq, afterRotating.found, fresh,
      afterQueue⟩

/-- `P1`, `P2` and `P3` are added and `P1` is scheduled: after seven ticks
`P2` runs, and after ten ticks `P3` runs while `P1` and `P2` wait in order. -/
theorem ticks_roundRobin_three :
    (∃ after, ticks 7 (afterRun [.addProcess 1, .addProcess 2, .addProcess 3, .schedule]) =
      .ok after ∧ after.current = some 2) ∧
    ∃ after current next,
      ticks 10 (afterRun [.addProcess 1, .addProcess 2, .addProcess 3, .schedule]) = .ok after ∧
      after.current = some current ∧ after.processes current = some next ∧
      next.timeSlice = 5 ∧ after.readyQueue ++ [current] = [1, 2, 3] := by
  have rotation := ticks_roundRobin (reachable_afterRun
    [.addProcess 1, .addProcess 2, .addProcess 3, .schedule]) rfl rfl rfl (by decide) (by decide)
    (by
      intro queued member
      simp only [show (afterRun [.addProcess 1, .addProcess 2, .addProcess 3, .schedule]).readyQueue
        = [2, 3] from rfl, List.mem_cons, List.mem_singleton, List.not_mem_nil, or_false] at member
      rcases member with rfl | rfl <;> exact ⟨_, rfl, rfl⟩)
  exact ⟨rotation.1 7, rotation.2 (by decide) 1⟩

end ErrorOS.Process
