import Mathlib.Data.List.Basic

/-!
# The file-descriptor table

`fd_table.rs` keeps one slot per descriptor in a vector, `None` for a closed
descriptor, with 0, 1 and 2 for the standard streams.  The model keeps the
slots as a list of optional files.  An `FdEntry`'s flags are always 0 and
never read, so a slot holds just its file; a file handle
(`Arc<Mutex<dyn File>>`) is any value of the type parameter.
-/

namespace ErrorOS.Fs

/-- `FileDescriptorTable`. -/
structure FileDescriptorTable (File : Type) where
  entries : List (Option File)
  nextFd : Nat
deriving DecidableEq, Repr

namespace FileDescriptorTable

variable {File : Type}

/-- `FileDescriptorTable::new`. -/
def new : FileDescriptorTable File := ⟨[], 3⟩

/-- `FileDescriptorTable::with_stdio`: the three standard streams in slots 0, 1
and 2. -/
def withStdio (stdin stdout stderr : File) : FileDescriptorTable File :=
  ⟨[some stdin, some stdout, some stderr], 3⟩

/-- The loop of `alloc` over the enumerated slots: the first index, from
`index` on, whose slot is empty and which is at least 3. -/
def firstFreeSlot : Nat → List (Option File) → Option Nat
  | _, [] => none
  | index, slot :: rest =>
      if slot.isNone ∧ 3 ≤ index then some index else firstFreeSlot (index + 1) rest

/-- `alloc`: the first empty slot from 3 on takes the file; with none, a new
slot is pushed at the end. -/
def alloc (table : FileDescriptorTable File) (file : File) :
    FileDescriptorTable File × Option Nat :=
  match firstFreeSlot 0 table.entries with
  | some index => (⟨table.entries.set index (some file), index + 1⟩, some index)
  | none =>
      let fd := table.entries.length
      (⟨table.entries ++ [some file], fd + 1⟩, some fd)

/-- `dealloc`: a descriptor from 3 on, inside the vector and occupied, is
closed. -/
def dealloc (table : FileDescriptorTable File) (fd : Nat) : FileDescriptorTable File × Bool :=
  if bounds : 3 ≤ fd ∧ fd < table.entries.length then
    if (table.entries.get ⟨fd, bounds.2⟩).isSome then
      (⟨table.entries.set fd none, if fd < table.nextFd then fd else table.nextFd⟩, true)
    else (table, false)
  else (table, false)

/-- `get`: the file of an open descriptor; `None` past the vector's end. -/
def get (table : FileDescriptorTable File) (fd : Nat) : Option File :=
  table.entries[fd]?.join

/-- `is_valid`. -/
def isValid (table : FileDescriptorTable File) (fd : Nat) : Bool :=
  (table.get fd).isSome

/-- `count`: the occupied slots. -/
def count (table : FileDescriptorTable File) : Nat :=
  (table.entries.filter fun entry => entry.isSome).length

end FileDescriptorTable

end ErrorOS.Fs
