import ErrorOS.Rust

/-!
# Bounded queues

The keyboard's scancode queue and the executor's task queue are
`crossbeam_queue::ArrayQueue`s of capacity 100: bounded FIFO queues whose
`push` hands the value back when the queue is full and whose `pop` gives the
oldest value.  Their operations are linearizable, so each is one atomic step
here; a queue is the list of its values, oldest first, and carries its bound.
-/

namespace ErrorOS.Task

/-- `ArrayQueue<T>`: the values, oldest first, never more than the capacity. -/
structure ArrayQueue (α : Type) where
  capacity : Nat
  items : List α
  length_le : items.length ≤ capacity

namespace ArrayQueue

variable {α : Type}

/-- The empty queue of a capacity. -/
def empty (capacity : Nat) : ArrayQueue α := ⟨capacity, [], Nat.zero_le _⟩

/-- `ArrayQueue::new`, which asserts a positive capacity. -/
def new (capacity : Nat) : Except Panic (ArrayQueue α) :=
  if capacity = 0 then throw (.assertion "cap > 0") else pure (empty capacity)

/-- `ArrayQueue::push`: the value goes to the back, or comes back as the
error when the queue is full. -/
def push (queue : ArrayQueue α) (value : α) : Except α (ArrayQueue α) :=
  if room : queue.items.length < queue.capacity then
    .ok ⟨queue.capacity, queue.items ++ [value], by
      rw [List.length_append, List.length_singleton]
      exact room⟩
  else .error value

/-- `ArrayQueue::pop`: the oldest value, if any. -/
def pop : ArrayQueue α → Option α × ArrayQueue α
  | ⟨capacity, [], length_le⟩ => (none, ⟨capacity, [], length_le⟩)
  | ⟨capacity, value :: rest, length_le⟩ =>
      (some value, ⟨capacity, rest, Nat.le_of_succ_le length_le⟩)

/-- `ArrayQueue::is_empty`. -/
def isEmpty (queue : ArrayQueue α) : Bool := queue.items.isEmpty

theorem new_of_pos {capacity : Nat} (positive : 0 < capacity) :
    (new capacity : Except Panic (ArrayQueue α)) = .ok (empty capacity) := by
  rw [new, if_neg (Nat.pos_iff_ne_zero.mp positive)]
  rfl

@[simp] theorem empty_items (capacity : Nat) : (empty capacity : ArrayQueue α).items = [] := rfl

@[simp] theorem empty_capacity (capacity : Nat) :
    (empty capacity : ArrayQueue α).capacity = capacity := rfl

variable {queue next : ArrayQueue α} {value : α}

theorem push_of_lt (room : queue.items.length < queue.capacity) :
    ∃ next, queue.push value = .ok next ∧ next.items = queue.items ++ [value] ∧
      next.capacity = queue.capacity := by
  rw [push, dif_pos room]
  exact ⟨_, rfl, rfl, rfl⟩

theorem push_of_full (full : queue.capacity ≤ queue.items.length) :
    queue.push value = .error value := by
  rw [push, dif_neg (Nat.not_lt.mpr full)]

@[simp] theorem pop_fst (queue : ArrayQueue α) : queue.pop.1 = queue.items.head? := by
  rcases queue with ⟨_, _ | _, _⟩ <;> rfl

@[simp] theorem pop_items (queue : ArrayQueue α) : queue.pop.2.items = queue.items.tail := by
  rcases queue with ⟨_, _ | _, _⟩ <;> rfl

@[simp] theorem pop_capacity (queue : ArrayQueue α) : queue.pop.2.capacity = queue.capacity := by
  rcases queue with ⟨_, _ | _, _⟩ <;> rfl

end ArrayQueue

end ErrorOS.Task
