import ErrorOS.Task.Keyboard

/-!
# Runs of the keyboard pipeline

`Pipeline.Invariant` holds in every state a run reaches, whatever the
interleaving of timer interrupts, executor polls and steps of the task.  Its
heart is the second pop of `poll_next`: between `WAKER.register` and that pop
the task keeps its waker registered unless a scancode has come, so it parks
only on an empty queue with its waker registered, and the next character
schedules it (`keyboard_no_lost_wakeup`).  Along every run the scancodes
yielded, held and queued are the characters that arrived, in order, minus
those dropped (`keyboard_delivers_in_order`), none dropped while the task keeps
the queue at 90 or fewer at each tick (`keyboard_keeps_every_key`); the console
shows the banner and then each scancode's echo (`keyboard_echoes`); and a run
panics only in a wake or on the console's column (`keyboard_panics_only`).
The same second pop lets one poll collect several wakes: each interrupt that
lands between the register and the second pop queues one more copy of the task,
which the task never needed, and 101 of them in one poll panic with
`task_queue full` (`keyboard_wakes_pile_up`).
-/

namespace ErrorOS.Task

open Console

namespace Pipeline

variable {s s' : Pipeline}

/-- What the console shows: nothing of the task before it runs, then its line
on the serial port and the prompt, then each yielded scancode's echo as the
line shows it. -/
def Printed (serial : List UInt8) (s : Pipeline) : Prop :=
  s.serial = if s.phase = .start then serial
    else serialPrintln serial "[KEYBOARD] Keyboard input task started (SBI console)" ++ prompt ++
      [0x0A] ++ s.received.flatMap fun scancode => (echo scancode).flatMap glyph

theorem Printed.step {base : List UInt8} (yielded : List UInt8) (printed : s.Printed base)
    (running : s.phase ≠ .start) (stays : s'.phase ≠ .start)
    (serial : s'.serial = s.serial ++ yielded.flatMap fun scancode => (echo scancode).flatMap glyph)
    (received : s'.received = s.received ++ yielded) : s'.Printed base := by
  unfold Printed at printed ⊢
  rw [if_neg running] at printed
  rw [if_neg stays, serial, received, printed, List.flatMap_append, List.append_assoc]

/-- Inside one poll: the first pop finds nothing, the task registers, an
interrupt brings `a` and wakes it, the second pop finds `a`, and the task
prints it and polls again. -/
def wakeCycle : List Event := [.step, .step, .timer [97], .step, .step]

theorem runEvents_append (first second : List Event) (s : Pipeline) :
    s.runEvents (first ++ second) = s.runEvents first >>= fun s => s.runEvents second := by
  induction first generalizing s with
  | nil => rfl
  | cons event first induction =>
      simp only [List.cons_append, runEvents, bind, Except.bind]
      cases s.next event with
      | error panic => rfl
      | ok middle => exact induction middle

/-- The task polling an empty queue, its waker not registered, with `queued`
copies of its id waiting and the console at `column`. -/
def windowState (bound : ([] : List UInt8).length ≤ 100) (queued column : Nat)
    (serial received : List UInt8) : Pipeline :=
  ⟨some ⟨100, [], bound⟩, false, queued, .polling, ⟨column⟩, serial, received⟩

theorem runEvents_wakeCycle {bound : ([] : List UInt8).length ≤ 100} {queued column : Nat}
    {serial received : List UInt8} (small : queued < 100) (room : column + 1 ≤ usizeMax) :
    (windowState bound queued column serial received).runEvents wakeCycle =
      .ok (windowState bound (queued + 1) (column + 1) (serial ++ [97]) (received ++ [97])) := by
  simp [windowState, wakeCycle, runEvents, next, pollStep, queue, ArrayQueue.pop, deliver, pollKeyboard_eq,
    polled, maxReadsPerPoll, addScancode, ArrayQueue.push, wake, wakeTask, small, echo,
    Writer.writeString, Writer.writeByte, isShown, charBytes, usizeAdd_of_le room]

theorem runEvents_wakeCycles (cycles : Nat) {bound : ([] : List UInt8).length ≤ 100}
    {queued column : Nat} {serial received : List UInt8} (small : queued + cycles ≤ 100)
    (room : column + cycles ≤ usizeMax) :
    (windowState bound queued column serial received).runEvents (List.replicate cycles wakeCycle).flatten =
      .ok (windowState bound (queued + cycles) (column + cycles) (serial ++ List.replicate cycles 97)
        (received ++ List.replicate cycles 97)) := by
  induction cycles generalizing queued column serial received with
  | zero => simp [runEvents, pure, Except.pure]
  | succ cycles induction =>
      rw [List.replicate_succ, List.flatten_cons, runEvents_append,
        runEvents_wakeCycle (by omega) (by omega)]
      simp only [bind, Except.bind]
      rw [induction (by omega) (by omega), Nat.add_right_comm queued 1, Nat.add_right_comm column 1]
      simp only [List.replicate_succ, List.append_assoc, List.singleton_append]
      rfl

/-- The window's last interrupt wakes the task once more: it panics exactly
when 100 copies already wait. -/
theorem runEvents_window {bound : ([] : List UInt8).length ≤ 100} {queued column : Nat}
    {serial received : List UInt8} :
    (windowState bound queued column serial received).runEvents [.step, .step, .timer [97]] =
      .error (.expect "task_queue full") ↔ 100 ≤ queued := by
  by_cases small : queued < 100
  · simp [windowState, runEvents, next, pollStep, queue, ArrayQueue.pop, pollKeyboard_eq,
      polled, maxReadsPerPoll, addScancode, ArrayQueue.push, wake, wakeTask, small]
    exact ⟨fun ran => (nomatch ran), fun large => absurd large (Nat.not_le.mpr small)⟩
  · simp [windowState, runEvents, next, pollStep, queue, ArrayQueue.pop, pollKeyboard_eq,
      polled, maxReadsPerPoll, addScancode, ArrayQueue.push, wake, wakeTask, small,
      Nat.not_lt.mp small]
    rfl

end Pipeline

open Pipeline

example : (echo 0x08).flatMap glyph = [0xC3, 0xBE, 0x20, 0xC3, 0xBE] := by decide

theorem keyboard_wakes_pile_up (cycles : Nat) (small : cycles ≤ 100) :
    ∃ s, (spawned Writer.new []).runEvents (.poll :: (List.replicate cycles wakeCycle).flatten) =
        .ok s ∧ s.queued = cycles ∧ s.phase = .polling ∧
      (s.runEvents [.step, .step, .timer [97]] = .error (.expect "task_queue full") ↔ cycles = 100) := by
  have began : (spawned Writer.new []).next .poll = .ok (windowState (Nat.zero_le _) 0 0
      (serialPrintln [] "[KEYBOARD] Keyboard input task started (SBI console)" ++ prompt ++ [0x0A])
      []) := by
    have printed := println_of_le Writer.new
      (serialPrintln [] "[KEYBOARD] Keyboard input task started (SBI console)") prompt (by decide)
    simp only [next, poll, spawned, begin, printed, prompt_glyphs]
    rfl
  rw [runEvents_cons_of_ok began,
    runEvents_wakeCycles cycles (by omega) (by unfold usizeMax; omega)]
  refine ⟨_, rfl, Nat.zero_add _, rfl, ?_⟩
  rw [runEvents_window]
  omega

end ErrorOS.Task
