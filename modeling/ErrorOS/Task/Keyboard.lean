import ErrorOS.Task.ArrayQueue
import ErrorOS.Console

/-!
# The keyboard pipeline

`keyboard.rs` carries input from the SBI console to the keyboard task.  Each
timer interrupt runs `poll_keyboard`, which reads at most ten characters and
hands each to `add_scancode`; that pushes it into `SCANCODE_QUEUE`, an
`ArrayQueue` of 100 that the task's `ScancodeStream::new` creates, drops it
when the queue is full or not there yet, and after a push wakes the waker in
`WAKER`.  The keyboard task `print_keypresses` polls the stream: `poll_next`
pops; finding nothing it registers its waker and pops again, and answers
`Pending` only when the second pop finds nothing too, taking the waker back
when it does find a scancode.  The task prints every scancode it gets.

An interrupt can come between any two steps of the task, so its poll is cut at
every access to shared state: `Phase` says which access comes next, and a run
is any interleaving of `Event`s.  The executor is seen from the task:
`queued` counts the copies of the task's id in the executor's task queue,
which holds no other id once `example_task` has finished in its first poll; a
wake pushes a copy and panics with `task_queue full` at 100, and the executor
polls the task when it pops one.  `WAKER` holds nothing or the task's waker,
the only one ever registered.  The task is the console's only writer while it
runs.
-/

namespace ErrorOS.Task

open Console

/-- `MAX_READS_PER_POLL`. -/
def maxReadsPerPoll : Nat := 10

/-- `sbi_console_getchar`, from the value the legacy SBI call leaves in `a0`:
nothing when it is negative, else its low byte (`ret as u8`). -/
def sbiConsoleGetchar (ret : Int) : Option UInt8 :=
  if 0 ≤ ret then some (UInt8.ofNat ret.toNat) else none

/-- Where the keyboard task is. -/
inductive Phase where
  /-- Spawned; `print_keypresses` has not run yet. -/
  | start
  /-- Its last poll answered `Pending`. -/
  | parked
  /-- `poll_next` pops next. -/
  | polling
  /-- The first pop found nothing; `WAKER.register` next. -/
  | registering
  /-- Registered; the second pop next. -/
  | repolling
  /-- The second pop found this scancode; `WAKER.take` next. -/
  | taking (scancode : UInt8)
deriving DecidableEq, Repr

/-- The scancode the task holds between the second pop and `WAKER.take`. -/
def Phase.held : Phase → List UInt8
  | .taking scancode => [scancode]
  | _ => []

/-- The statics of `keyboard.rs`, the keyboard task, its copies in the
executor's queue, and the console. -/
structure Pipeline where
  /-- `SCANCODE_QUEUE`, empty until `ScancodeStream::new`. -/
  scancodeQueue : Option (ArrayQueue UInt8)
  /-- `WAKER` holds the task's waker. -/
  waker : Bool
  queued : Nat
  phase : Phase
  writer : Writer
  serial : List UInt8
  /-- The scancodes the stream has yielded, in order. -/
  received : List UInt8

/-- `{:x}` of a digit below 16. -/
def hexDigit (digit : UInt8) : UInt8 := if digit < 10 then 0x30 + digit else 0x57 + digit

/-- What `print_keypresses` prints for a scancode: a newline for CR and LF,
`"\x08 \x08"` for backspace and delete, printable ASCII as itself, and any
other byte as `[{:02x}]`. -/
def echo (scancode : UInt8) : List UInt8 :=
  if scancode = 0x0D ∨ scancode = 0x0A then [0x0A]
  else if scancode = 0x08 ∨ scancode = 0x7F then [0x08, 0x20, 0x08]
  else if 0x20 ≤ scancode ∧ scancode ≤ 0x7E then [scancode]
  else [0x5B, hexDigit (scancode / 16), hexDigit (scancode % 16), 0x5D]

/-- The text of `println!("[KEYBOARD] Press keys to test...")`. -/
def prompt : List UInt8 := "[KEYBOARD] Press keys to test...".data.flatMap String.utf8EncodeChar

theorem prompt_glyphs : prompt.flatMap glyph = prompt := by decide

namespace Pipeline

/-- `executor.spawn(Task::new(print_keypresses()))`: the id queued once and no
queue yet. -/
def spawned (writer : Writer) (serial : List UInt8) : Pipeline :=
  ⟨none, false, 1, .start, writer, serial, []⟩

/-- The scancodes waiting in the queue. -/
def items (s : Pipeline) : List UInt8 :=
  match s.scancodeQueue with
  | some queue => queue.items
  | none => []

/-- Every scancode the queue has taken: yielded, held, or waiting. -/
def accepted (s : Pipeline) : List UInt8 := s.received ++ s.phase.held ++ s.items

/-- `TaskWaker::wake_task` for the keyboard task. -/
def wakeTask (s : Pipeline) : Except Panic Pipeline :=
  if s.queued < 100 then pure { s with queued := s.queued + 1 }
  else throw (.expect "task_queue full")

/-- `AtomicWaker::wake`: the registered waker, if any, is taken out and
woken. -/
def wake (s : Pipeline) : Except Panic Pipeline :=
  if s.waker then wakeTask { s with waker := false } else pure s

/-- `add_scancode`. -/
def addScancode (s : Pipeline) (scancode : UInt8) : Except Panic Pipeline :=
  match s.scancodeQueue with
  | none => pure s
  | some queue =>
      match queue.push scancode with
      | .error _ => pure s
      | .ok queue => wake { s with scancodeQueue := some queue }

/-- The loop of `poll_keyboard` with `reads` reads left; `returns` are what
the SBI call returns in turn, and it returns `-1` once they run out. -/
def pollKeyboardLoop : Nat → Pipeline → List Int → Except Panic Pipeline
  | 0, s, _ => pure s
  | _ + 1, s, [] => pure s
  | reads + 1, s, ret :: returns =>
      match sbiConsoleGetchar ret with
      | some ch => do
          let s ← s.addScancode ch
          pollKeyboardLoop reads s returns
      | none => pure s

/-- `poll_keyboard`, which every timer interrupt runs. -/
def pollKeyboard (s : Pipeline) (returns : List Int) : Except Panic Pipeline :=
  pollKeyboardLoop maxReadsPerPoll s returns

/-- The first poll of `print_keypresses` up to its first `poll_next`: a line
on the serial port, the prompt, and `ScancodeStream::new`, whose
`try_init_once` creates the queue unless it is there. -/
def begin (s : Pipeline) : Except Panic Pipeline := do
  let serial := serialPrintln s.serial "[KEYBOARD] Keyboard input task started (SBI console)"
  let (writer, serial) ← println s.writer serial prompt
  let queue ← match s.scancodeQueue with
    | some queue => pure queue
    | none => ArrayQueue.new 100
  pure { s with
    scancodeQueue := some queue
    writer := writer
    serial := serial
    phase := .polling }

/-- The `try_get().expect(..)` of `poll_next`. -/
def queue (s : Pipeline) : Except Panic (ArrayQueue UInt8) :=
  match s.scancodeQueue with
  | some queue => pure queue
  | none => throw (.expect "scancode queue not initialized")

/-- `poll_next` answered `Ready(Some(scancode))`: the task prints it and polls
the stream again. -/
def deliver (s : Pipeline) (scancode : UInt8) : Except Panic Pipeline := do
  let (writer, serial) ← s.writer.writeString s.serial (echo scancode)
  pure { s with
    writer := writer
    serial := serial
    received := s.received ++ [scancode]
    phase := .polling }

/-- The task's next step within a poll. -/
def pollStep (s : Pipeline) : Except Panic Pipeline :=
  match s.phase with
  | .polling => do
      let queue ← s.queue
      match queue.pop with
      | (some scancode, queue) => deliver { s with scancodeQueue := some queue } scancode
      | (none, _) => pure { s with phase := .registering }
  | .registering => pure { s with waker := true, phase := .repolling }
  | .repolling => do
      let queue ← s.queue
      match queue.pop with
      | (some scancode, queue) =>
          pure { s with scancodeQueue := some queue, phase := .taking scancode }
      | (none, _) => pure { s with phase := .parked }
  | .taking scancode => deliver { s with waker := false } scancode
  | .start | .parked => pure s

/-- The executor pops the task's id and polls it, which it does only between
the task's polls. -/
def poll (s : Pipeline) : Except Panic Pipeline :=
  if s.queued = 0 then pure s
  else match s.phase with
    | .start => begin { s with queued := s.queued - 1 }
    | .parked => pure { s with queued := s.queued - 1, phase := .polling }
    | _ => pure s

end Pipeline

/-- One step of a run: a timer interrupt whose SBI calls return `returns`,
the executor polling the task, or the task's next step. -/
inductive Event where
  | timer (returns : List Int)
  | poll
  | step

/-- The characters `poll_keyboard` hands to `add_scancode`: at most ten, up
to the first call that returns nothing. -/
def polled (returns : List Int) : List UInt8 :=
  ((returns.take maxReadsPerPoll).takeWhile fun ret => decide (0 ≤ ret)).map
    fun ret => UInt8.ofNat ret.toNat

namespace Pipeline

def next (s : Pipeline) : Event → Except Panic Pipeline
  | .timer returns => s.pollKeyboard returns
  | .poll => s.poll
  | .step => s.pollStep

def runEvents (s : Pipeline) : List Event → Except Panic Pipeline
  | [] => pure s
  | event :: events => do
      let s ← s.next event
      runEvents s events

/-! ## What each operation does -/

variable {s s' : Pipeline}

theorem pollKeyboardLoop_eq (reads : Nat) (s : Pipeline) (returns : List Int) :
    pollKeyboardLoop reads s returns =
      (((returns.take reads).takeWhile fun ret => decide (0 ≤ ret)).map
        fun ret => UInt8.ofNat ret.toNat).foldlM addScancode s := by
  induction reads generalizing s returns with
  | zero => rfl
  | succ reads induction =>
      cases returns with
      | nil => rfl
      | cons ret returns =>
          unfold pollKeyboardLoop sbiConsoleGetchar
          by_cases nonnegative : 0 ≤ ret
          · simp only [if_pos nonnegative, List.take_succ_cons, List.takeWhile_cons,
              decide_eq_true nonnegative, if_true, List.map_cons, List.foldlM_cons, induction]
          · simp only [if_neg nonnegative, List.take_succ_cons, List.takeWhile_cons,
              decide_eq_false nonnegative, Bool.false_eq_true, if_false, List.map_nil, List.foldlM_nil]

theorem pollKeyboard_eq (s : Pipeline) (returns : List Int) :
    s.pollKeyboard returns = (polled returns).foldlM addScancode s :=
  pollKeyboardLoop_eq _ _ _

theorem runEvents_cons_of_ok {middle : Pipeline} {event : Event} {events : List Event}
    (stepped : s.next event = .ok middle) : s.runEvents (event :: events) = middle.runEvents events := by
  rw [runEvents, stepped]
  rfl

end Pipeline

end ErrorOS.Task
