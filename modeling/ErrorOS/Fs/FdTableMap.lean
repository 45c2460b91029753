import ErrorOS.Fs.FdTable
import Mathlib.Data.Finset.Card

/-!
# The descriptor table as a partial map

Read through `get`, a `FileDescriptorTable` is a finite partial map from
descriptors to files.  `AllocatesLeast` and `Closes` say what `alloc` and
`dealloc` do to that map; `alloc_allocatesLeast` and `dealloc_closes` show
that the vector code does exactly that, the first for every table with the
three standard slots, the second for every table.  Along every run from
`with_stdio` the standard streams keep their slots, and `count` counts the
mapped descriptors.
-/

namespace ErrorOS.Fs

namespace FileDescriptorTable

variable {File : Type} {table : FileDescriptorTable File}

/-! ## The partial map -/

/-- `alloc` of `file` returned `fd` and took `table` to `next`: `fd` is the
least descriptor from 3 on that named no file, it now names `file`, and every
other descriptor keeps its file. -/
def AllocatesLeast (table next : FileDescriptorTable File) (file : File) (fd : Nat) : Prop :=
  3 ≤ fd ∧ table.get fd = none ∧ (∀ other, 3 ≤ other → other < fd → table.get other ≠ none) ∧
    next.get fd = some file ∧ ∀ other, other ≠ fd → next.get other = table.get other

/-- `dealloc` of `fd` answered `closed` and took `table` to `next`: it closes
exactly the mapped descriptors from 3 on, and only `fd` changes. -/
def Closes (table next : FileDescriptorTable File) (fd : Nat) (closed : Bool) : Prop :=
  (closed = true ↔ 3 ≤ fd ∧ table.get fd ≠ none) ∧
    next.get fd = (if closed then none else table.get fd) ∧
    ∀ other, other ≠ fd → next.get other = table.get other

/-- The descriptors that name a file. -/
def mappedFds (table : FileDescriptorTable File) : Finset Nat :=
  (Finset.range table.entries.length).filter fun fd => table.isValid fd

theorem get_of_lt {fd : Nat} (inside : fd < table.entries.length) :
    table.get fd = table.entries.get ⟨fd, inside⟩ := by
  simp [get, List.getElem?_eq_getElem inside]

theorem lt_of_get_ne_none {fd : Nat} (mapped : table.get fd ≠ none) :
    fd < table.entries.length := by
  by_contra outside
  exact mapped (by simp [get, List.getElem?_eq_none (Nat.le_of_not_lt outside)])

theorem mem_mappedFds {fd : Nat} : fd ∈ mappedFds table ↔ table.get fd ≠ none := by
  simp only [mappedFds, isValid, Finset.mem_filter, Finset.mem_range, Option.isSome_iff_ne_none]
  exact ⟨And.right, fun mapped => ⟨lt_of_get_ne_none mapped, mapped⟩⟩

/-! ## The scan of `alloc` -/

theorem ne_none_of_not_free {slot : Option File} {index : Nat}
    (occupied : ¬ (slot.isNone ∧ 3 ≤ index)) (atLeast : 3 ≤ index) : slot ≠ none :=
  fun empty => occupied ⟨Option.isNone_iff_eq_none.mpr empty, atLeast⟩

theorem firstFreeSlot_some {start index : Nat} {entries : List (Option File)}
    (found : firstFreeSlot start entries = some index) :
    ∃ offset, index = start + offset ∧ 3 ≤ index ∧ entries[offset]? = some none ∧
      ∀ earlier < offset, 3 ≤ start + earlier → entries[earlier]?.join ≠ none := by
  induction entries generalizing start with
  | nil => cases found
  | cons slot rest induction =>
      simp only [firstFreeSlot] at found
      split at found
      · rename_i free
        cases found
        exact ⟨0, rfl, free.2, by rw [List.getElem?_cons_zero, Option.isNone_iff_eq_none.mp free.1],
          fun _ before => absurd before (Nat.not_lt_zero _)⟩
      · rename_i occupied
        obtain ⟨offset, rfl, large, empty, before⟩ := induction found
        refine ⟨offset + 1, by omega, large, by rw [List.getElem?_cons_succ]; exact empty, ?_⟩
        rintro (_ | earlier) less atLeast
        · rw [List.getElem?_cons_zero]
          exact ne_none_of_not_free occupied atLeast
        · rw [List.getElem?_cons_succ]
          exact before earlier (Nat.lt_of_succ_lt_succ less) (by omega)

theorem firstFreeSlot_none {start : Nat} {entries : List (Option File)}
    (missing : firstFreeSlot start entries = none) :
    ∀ offset < entries.length, 3 ≤ start + offset → entries[offset]?.join ≠ none := by
  induction entries generalizing start with
  | nil => exact fun _ less => absurd less (Nat.not_lt_zero _)
  | cons slot rest induction =>
      simp only [firstFreeSlot] at missing
      split at missing
      · cases missing
      · rename_i occupied
        rintro (_ | offset) less atLeast
        · rw [List.getElem?_cons_zero]
          exact ne_none_of_not_free occupied atLeast
        · rw [List.getElem?_cons_succ]
          exact induction missing offset (Nat.lt_of_succ_lt_succ less) (by omega)

/-! ## `alloc` and `dealloc` on the map -/

/-- `alloc` hands out the least free descriptor from 3 on, once the three
standard slots exist. -/
theorem alloc_allocatesLeast (atLeastThree : 3 ≤ table.entries.length) (file : File) :
    ∃ fd, (table.alloc file).2 = some fd ∧
      AllocatesLeast table (table.alloc file).1 file fd := by
  unfold alloc
  split
  · rename_i index found
    obtain ⟨offset, rfl, large, empty, before⟩ := firstFreeSlot_some found
    simp only [Nat.zero_add] at large before ⊢
    have inside : offset < table.entries.length := (List.getElem?_eq_some_iff.mp empty).1
    refine ⟨offset, rfl, large, by simp [get, empty],
      fun other atLeast less => before other less atLeast, by simp [get, inside], ?_⟩
    intro other different
    simp [get, List.getElem?_set_ne (Ne.symm different)]
  · rename_i missing
    refine ⟨table.entries.length, rfl, atLeastThree, by simp [get],
      fun other atLeast less => firstFreeSlot_none missing other less (by omega),
      by simp [get], ?_⟩
    intro other different
    simp only [get]
    by_cases less : other < table.entries.length
    · rw [List.getElem?_append_left less]
    · rw [List.getElem?_eq_none (by simp only [List.length_append, List.length_singleton]; omega),
        List.getElem?_eq_none (by omega)]

theorem dealloc_of_lt_three {fd : Nat} (small : fd < 3) : table.dealloc fd = (table, false) := by
  rw [dealloc, dif_neg (by omega)]

/-- `dealloc` closes exactly the mapped descriptors from 3 on, in every
table. -/
theorem dealloc_closes (fd : Nat) :
    Closes table (table.dealloc fd).1 fd (table.dealloc fd).2 := by
  unfold dealloc
  split
  · rename_i bounds
    have current := get_of_lt bounds.2
    split
    · rename_i occupied
      have mapped : table.get fd ≠ none := current ▸ Option.isSome_iff_ne_none.mp occupied
      refine ⟨⟨fun _ => ⟨bounds.1, mapped⟩, fun _ => rfl⟩, by simp [get, bounds.2],
        fun other different => ?_⟩
      simp [get, List.getElem?_set_ne (Ne.symm different)]
    · rename_i empty
      refine ⟨⟨fun closed => (nomatch closed), fun ⟨_, mapped⟩ =>
        absurd (Option.isSome_iff_ne_none.mpr (current ▸ mapped)) empty⟩, rfl, fun _ _ => rfl⟩
  · rename_i outside
    refine ⟨⟨fun closed => (nomatch closed), fun ⟨large, mapped⟩ =>
      absurd ⟨large, lt_of_get_ne_none mapped⟩ outside⟩, rfl, fun _ _ => rfl⟩

/-! ## Tables without the standard slots -/

theorem alloc_of_length_lt_three (short : table.entries.length < 3) (file : File) :
    table.alloc file = (⟨table.entries ++ [some file], table.entries.length + 1⟩,
      some table.entries.length) ∧
      ((table.alloc file).1.dealloc table.entries.length).2 = false := by
  have missing : firstFreeSlot 0 table.entries = none := by
    cases found : firstFreeSlot 0 table.entries with
    | none => rfl
    | some index =>
        obtain ⟨offset, rfl, large, empty, -⟩ := firstFreeSlot_some found
        have := (List.getElem?_eq_some_iff.mp empty).1
        omega
  have allocated : table.alloc file = (⟨table.entries ++ [some file], table.entries.length + 1⟩,
      some table.entries.length) := by
    simp only [alloc, missing]
  rw [allocated, dealloc_of_lt_three short]
  exact ⟨rfl, rfl⟩

/-- `FileDescriptorTable::new()` starts with no slots: its first `alloc`
returns descriptor 0, which then names the file but which `dealloc` never
releases. -/
theorem new_alloc_reserved_fd {File : Type} (file : File) :
    ((new : FileDescriptorTable File).alloc file).2 = some 0 ∧
      ((new : FileDescriptorTable File).alloc file).1.get 0 = some file ∧
      (((new : FileDescriptorTable File).alloc file).1.dealloc 0).2 = false := by
  obtain ⟨allocated, refused⟩ := @alloc_of_length_lt_three File new (Nat.zero_lt_succ 2) file
  rw [allocated] at refused ⊢
  exact ⟨rfl, rfl, refused⟩

/-! ## `count` -/

theorem length_filter_isSome (entries : List (Option File)) :
    (entries.filter fun entry => entry.isSome).length =
      ((List.range entries.length).filter fun fd => entries[fd]?.join.isSome).length := by
  induction entries with
  | nil => rfl
  | cons entry rest induction =>
      rw [List.length_cons, List.range_succ_eq_map, List.filter_cons, List.filter_cons,
        List.filter_map]
      cases entry <;> simp [Function.comp_def, induction]

theorem count_eq_card : table.count = (mappedFds table).card := by
  rw [count, length_filter_isSome]
  simp [mappedFds, isValid, get, Finset.card, Multiset.range]

/-! ## Runs from `with_stdio` -/

/-- The tables reachable from `with_stdio` by `alloc` and `dealloc`; `get`,
`is_valid` and `count` only read the table. -/
inductive FdRun (stdin stdout stderr : File) : FileDescriptorTable File → Prop where
  | withStdio : FdRun stdin stdout stderr (withStdio stdin stdout stderr)
  | alloc {table : FileDescriptorTable File} (file : File) :
      FdRun stdin stdout stderr table → FdRun stdin stdout stderr (table.alloc file).1
  | dealloc {table : FileDescriptorTable File} (fd : Nat) :
      FdRun stdin stdout stderr table → FdRun stdin stdout stderr (table.dealloc fd).1

/-- The standard streams keep descriptors 0, 1 and 2 along every run. -/
theorem FdRun.stdio {stdin stdout stderr : File} (run : FdRun stdin stdout stderr table) :
    table.get 0 = some stdin ∧ table.get 1 = some stdout ∧ table.get 2 = some stderr := by
  induction run with
  | withStdio => exact ⟨rfl, rfl, rfl⟩
  | @alloc previous file _ stdio =>
      have atLeastThree := lt_of_get_ne_none (stdio.2.2 ▸ Option.some_ne_none stderr)
      obtain ⟨fd, -, large, -, -, -, frame⟩ := alloc_allocatesLeast atLeastThree file
      rw [frame 0 (by omega), frame 1 (by omega), frame 2 (by omega)]
      exact stdio
  | @dealloc previous fd _ stdio =>
      by_cases small : fd < 3
      · rw [dealloc_of_lt_three small]
        exact stdio
      · have frame := (@dealloc_closes _ previous fd).2.2
        rw [frame 0 (by omega), frame 1 (by omega), frame 2 (by omega)]
        exact stdio

/-- Every table reachable from `with_stdio` is a partial map on which `alloc`
and `dealloc` act as `AllocatesLeast` and `Closes` say, whose descriptors 0, 1
and 2 name the standard streams, and whose `count` and `is_valid` read the
map. -/
theorem fdRun_partial_map {stdin stdout stderr : File}
    (run : FdRun stdin stdout stderr table) :
    (∀ file, ∃ fd, (table.alloc file).2 = some fd ∧
      AllocatesLeast table (table.alloc file).1 file fd) ∧
    (∀ fd, Closes table (table.dealloc fd).1 fd (table.dealloc fd).2) ∧
    (table.get 0 = some stdin ∧ table.get 1 = some stdout ∧ table.get 2 = some stderr) ∧
    table.count = (mappedFds table).card ∧ (∀ fd, fd ∈ mappedFds table ↔ table.get fd ≠ none) ∧
    ∀ fd, table.isValid fd = true ↔ table.get fd ≠ none := by
  have stdio := run.stdio
  exact ⟨alloc_allocatesLeast (lt_of_get_ne_none (stdio.2.2 ▸ Option.some_ne_none stderr)),
    dealloc_closes, stdio, count_eq_card, fun _ => mem_mappedFds,
    fun _ => Option.isSome_iff_ne_none⟩

theorem fdRun_partial_map_withStdio :
    (withStdio 0 1 2).get 0 = some 0 ∧ (withStdio 0 1 2).get 1 = some 1 ∧
      (withStdio 0 1 2).get 2 = some 2 :=
  (fdRun_partial_map FdRun.withStdio).2.2.1

end FileDescriptorTable

end ErrorOS.Fs
