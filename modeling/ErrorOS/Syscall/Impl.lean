import ErrorOS.Fs.Directory
import ErrorOS.Fs.Stdio
import ErrorOS.Fs.FdTableMap
import ErrorOS.Fs.RamFsCreate
import ErrorOS.Fs.RamFileSpec

/-!
# The system calls

`syscall_impl.rs` serves user programs from the global `RAMFS`, the global
`FD_TABLE`, which `manager.rs` sets up with the standard streams in
descriptors 0, 1 and 2, and the console.  `Kernel` holds what the calls read
and write: the inode counter and the root directory, the inodes by number
(what the root's entries and the open RAM files point to), the descriptor
table, the console writer and the serial line.

A user buffer is the `len` bytes at its pointer, or nothing for a null
pointer; a path is the memory from its pointer on.  `sys_open` and
`sys_mkdir` measure a path up to its NUL and give up once it passes 256
bytes, and a path that is not UTF-8 fails as well.  Every call answers with
an `isize`, `-1` for each failure.  `sys_open` looks the path up in the root
and creates an empty regular file under it when it is missing; `sys_mkdir`
creates a directory there.
-/

namespace ErrorOS.Syscall

open Fs Console

/-- The kernel objects the system calls use. -/
structure Kernel where
  ramfs : RamFS
  root : RamNode
  inodes : Nat → Option RamInode
  fdTable : FileDescriptorTable OpenFile
  writer : Writer
  serial : List UInt8

/-- `value as isize` for a `usize` value: its 64 bits read in two's
complement. -/
def asIsize (value : Nat) : Int :=
  if value ≤ isizeMax then value else (value : Int) - (usizeMax + 1)

theorem asIsize_of_le {value : Nat} (small : value ≤ isizeMax) : asIsize value = value :=
  if_pos small

namespace Kernel

/-- The kernel after `fs::init` and before any call: `RamFS::new`, no other
inode, `FD_TABLE` from `with_stdio`, and the console writer at column 0. -/
def boot : Kernel where
  ramfs := RamFS.new.1
  root := RamFS.new.2
  inodes := fun _ => none
  fdTable := .withStdio .stdin .stdout .stderr
  writer := Console.Writer.new
  serial := []

/-- The kernel after the file behind `fd` changed through its `Arc`. -/
def setFile (kernel : Kernel) (fd : Nat) (file : OpenFile) : Kernel :=
  { kernel with fdTable := ⟨kernel.fdTable.entries.set fd (some file), kernel.fdTable.nextFd⟩ }

/-- The kernel after the inode numbered `ino` changed through its `Arc`. -/
def setInode (kernel : Kernel) (ino : Nat) (inode : RamInode) : Kernel :=
  { kernel with inodes := Function.update kernel.inodes ino (some inode) }

/-- `File::write` on the file behind `fd`.  A RAM file's inode is always in
the table (`Abstracts.fds` in the refinement), so the last branch is never
taken. -/
def writeFile (kernel : Kernel) (fd : Nat) (buf : Bytes) :
    OpenFile → Except Panic (Except FileError Nat × Kernel)
  | .stdin => pure (.error Stdin.write, kernel)
  | .stdout => do
      let (result, writer, serial) ← Stdout.write kernel.writer kernel.serial buf
      pure (result, { kernel with writer, serial })
  | .stderr => do
      let (result, writer, serial) ← Stderr.write kernel.writer kernel.serial buf
      pure (result, { kernel with writer, serial })
  | .ramFile file ino =>
      match kernel.inodes ino with
      | some inode => do
          let (result, file, inode) ← file.write inode buf
          pure (result, (kernel.setFile fd (.ramFile file ino)).setInode ino inode)
      | none => pure (.error .notFound, kernel)

/-- `File::read` on the file behind `fd`, with the buffer it filled. -/
def readFile (kernel : Kernel) (fd : Nat) (buf : Bytes) :
    OpenFile → Except Panic (Except FileError (Nat × Bytes) × Kernel)
  | .stdin => pure (.error Stdin.read, kernel)
  | .stdout => pure (.error Stdout.read, kernel)
  | .stderr => pure (.error Stderr.read, kernel)
  | .ramFile file ino =>
      match kernel.inodes ino with
      | some inode => do
          let (result, file) ← file.read inode buf
          pure (result, kernel.setFile fd (.ramFile file ino))
      | none => pure (.error .notFound, kernel)

/-- The end of `sys_open`: `open_file` on the inode, then `alloc` of the new
handle. -/
def openIno (kernel : Kernel) (ino : Nat) : Int × Kernel :=
  match kernel.inodes ino with
  | none => (-1, kernel)
  | some inode =>
      match RamFS.openFile inode with
      | .error _ => (-1, kernel)
      | .ok file =>
          match kernel.fdTable.alloc (.ramFile file ino) with
          | (fdTable, some fd) => (asIsize fd, { kernel with fdTable })
          | (fdTable, none) => (-1, { kernel with fdTable })

end Kernel

/-- The loop of `sys_open` and `sys_mkdir` that measures a path: from `len`
on, the index of the first NUL, or nothing once `len` passes 256.  With
`fuel` 257 it never runs out. -/
def pathLen (path : Nat → UInt8) : Nat → Nat → Option Nat
  | 0, _ => none
  | fuel + 1, len =>
      if path len ≠ 0 then
        if 256 < len + 1 then none else pathLen path fuel (len + 1)
      else some len

/-- The path at a pointer: nothing for a null pointer, for a path past 256
bytes, or for bytes that are not UTF-8. -/
def readPath (path : Option (Nat → UInt8)) : Option String := do
  let memory ← path
  let len ← pathLen memory 257 0
  fromUtf8 ((List.range len).map memory)

/-- `sys_write`. -/
def sysWrite (kernel : Kernel) (fd : Nat) (buf : Option Bytes) : Except Panic (Int × Kernel) :=
  match buf with
  | none => pure (-1, kernel)
  | some slice =>
      match kernel.fdTable.get fd with
      | some file => do
          let (result, kernel) ← kernel.writeFile fd slice file
          pure (match result with
            | .ok n => asIsize n
            | .error _ => -1, kernel)
      | none =>
          pure (-1, { kernel with
            serial := serialPrintln kernel.serial s!"[SYSCALL] sys_write: invalid fd={fd}" })

/-- `sys_read`, with the buffer as the call leaves it. -/
def sysRead (kernel : Kernel) (fd : Nat) (buf : Option Bytes) :
    Except Panic ((Int × Option Bytes) × Kernel) :=
  match buf with
  | none => pure ((-1, none), kernel)
  | some slice =>
      match kernel.fdTable.get fd with
      | some file => do
          let (result, kernel) ← kernel.readFile fd slice file
          pure (match result with
            | .ok (n, filled) => (asIsize n, some filled)
            | .error _ => (-1, some slice), kernel)
      | none => pure ((-1, some slice), kernel)

/-- `sys_open`: the root's entry for the path, or else a new regular file
under it, opened in the least free descriptor.  `flags` is not read. -/
def sysOpen (kernel : Kernel) (path : Option (Nat → UInt8)) : Except Panic (Int × Kernel) :=
  match readPath path with
  | none => pure (-1, kernel)
  | some name =>
      match kernel.root.lookup name with
      | .ok ino => pure (kernel.openIno ino)
      | .error _ => do
          let (result, root, ramfs) ← kernel.ramfs.createFile kernel.root name
          match result with
          | .ok node =>
              pure (({ kernel with root, ramfs }.setInode node.inode.ino node.inode).openIno
                node.inode.ino)
          | .error _ => pure (-1, { kernel with root, ramfs })

/-- `sys_close`. -/
def sysClose (kernel : Kernel) (fd : Nat) : Int × Kernel :=
  let (fdTable, closed) := kernel.fdTable.dealloc fd
  (if closed then 0 else -1, { kernel with fdTable })

/-- `sys_mkdir`: a new directory in the root. -/
def sysMkdir (kernel : Kernel) (path : Option (Nat → UInt8)) : Except Panic (Int × Kernel) :=
  match readPath path with
  | none => pure (-1, kernel)
  | some name => do
      let (result, root, ramfs) ← kernel.ramfs.createDirectory kernel.root name
      match result with
      | .ok node => pure (0, { kernel with root, ramfs }.setInode node.inode.ino node.inode)
      | .error _ => pure (-1, { kernel with root, ramfs })

/-- `sys_getpid`: 1, whichever process calls. -/
def sysGetpid : Int := 1

/-- The calls that are not implemented yet: a line on the serial port, then
`-1`. -/
def notImplemented (kernel : Kernel) (call : String) : Int × Kernel :=
  (-1, { kernel with serial := serialPrintln kernel.serial s!"[SYSCALL] {call}: not implemented yet" })

/-- `sys_fork`. -/
def sysFork (kernel : Kernel) : Int × Kernel := notImplemented kernel "sys_fork"

/-- `sys_exec`; the path is not read. -/
def sysExec (kernel : Kernel) : Int × Kernel := notImplemented kernel "sys_exec"

/-- `sys_waitpid`; neither argument is read. -/
def sysWaitpid (kernel : Kernel) : Int × Kernel := notImplemented kernel "sys_waitpid"

/-- `sys_exit`: a line on the serial port; the call then spins in `loop {}`
and never returns. -/
def sysExit (kernel : Kernel) (exitCode : Int) : Kernel :=
  { kernel with serial := serialPrintln kernel.serial s!"[SYSCALL] sys_exit({exitCode})" }

/-! ## The path scan -/

/-- From `len`, with enough fuel, the scan stops at the first NUL when it
comes within 256 bytes, and fails otherwise. -/
theorem pathLen_eq_some (memory : Nat → UInt8) {fuel len found : Nat}
    (enough : 257 ≤ fuel + len) (start : len ≤ 256) :
    pathLen memory fuel len = some found ↔
      len ≤ found ∧ found ≤ 256 ∧ memory found = 0 ∧ ∀ index, len ≤ index → index < found →
        memory index ≠ 0 := by
  induction fuel generalizing len with
  | zero => exact ⟨fun stopped => (nomatch stopped), fun ⟨_, short, _⟩ => absurd enough (by omega)⟩
  | succ fuel induction =>
      unfold pathLen
      by_cases nul : memory len = 0
      · rw [if_neg (not_not.mpr nul)]
        constructor
        · rintro ⟨⟩
          exact ⟨Nat.le_refl _, by omega, nul, fun index above below => absurd below (by omega)⟩
        · rintro ⟨above, -, -, before⟩
          rcases Nat.lt_or_eq_of_le above with less | rfl
          · exact absurd nul (before len (Nat.le_refl _) less)
          · rfl
      · rw [if_pos nul]
        split
        · rename_i long
          refine ⟨fun stopped => (nomatch stopped), fun ⟨above, short, ended, before⟩ => ?_⟩
          rcases Nat.lt_or_eq_of_le above with less | rfl
          · omega
          · exact absurd ended nul
        · rename_i within
          rw [induction (by omega) (by omega)]
          constructor
          · rintro ⟨above, short, ended, before⟩
            refine ⟨by omega, short, ended, fun index atLeast below => ?_⟩
            rcases Nat.lt_or_eq_of_le atLeast with less | rfl
            · exact before index less below
            · exact nul
          · rintro ⟨above, short, ended, before⟩
            have moved : len ≠ found := fun same => nul (same ▸ ended)
            exact ⟨by omega, short, ended,
              fun index atLeast below => before index (by omega) below⟩

/-- A path is read when its NUL comes within its first 257 bytes and the
bytes before it are UTF-8; the name is the string they spell. -/
theorem readPath_eq_some {memory : Nat → UInt8} {name : String} :
    readPath (some memory) = some name ↔
      ∃ len ≤ 256, memory len = 0 ∧ (∀ index < len, memory index ≠ 0) ∧
        fromUtf8 ((List.range len).map memory) = some name := by
  simp only [readPath, Option.bind_eq_bind, Option.some_bind, Option.bind_eq_some]
  constructor
  · rintro ⟨len, scanned, decoded⟩
    obtain ⟨-, short, ended, before⟩ := (pathLen_eq_some memory (Nat.le_refl _) (by decide)).mp scanned
    exact ⟨len, short, ended, fun index below => before index (Nat.zero_le _) below, decoded⟩
  · rintro ⟨len, short, ended, before, decoded⟩
    exact ⟨len, (pathLen_eq_some memory (Nat.le_refl _) (by decide)).mpr
      ⟨Nat.zero_le _, short, ended, fun index _ below => before index below⟩, decoded⟩

/-! ## The descriptor table through an `Arc` -/

namespace Kernel

variable {kernel : Kernel}

theorem setFile_get {fd : Nat} (mapped : kernel.fdTable.get fd ≠ none) (file : OpenFile)
    (other : Nat) :
    (kernel.setFile fd file).fdTable.get other =
      if other = fd then some file else kernel.fdTable.get other := by
  have inside := FileDescriptorTable.lt_of_get_ne_none mapped
  simp only [setFile, FileDescriptorTable.get, List.getElem?_set]
  by_cases same : other = fd
  · simp [same, inside]
  · simp [same, Ne.symm same]

@[simp] theorem setFile_inodes (fd : Nat) (file : OpenFile) :
    (kernel.setFile fd file).inodes = kernel.inodes := rfl

@[simp] theorem setFile_root (fd : Nat) (file : OpenFile) :
    (kernel.setFile fd file).root = kernel.root := rfl

@[simp] theorem setFile_ramfs (fd : Nat) (file : OpenFile) :
    (kernel.setFile fd file).ramfs = kernel.ramfs := rfl

@[simp] theorem setInode_fdTable (ino : Nat) (inode : RamInode) :
    (kernel.setInode ino inode).fdTable = kernel.fdTable := rfl

@[simp] theorem setInode_root (ino : Nat) (inode : RamInode) :
    (kernel.setInode ino inode).root = kernel.root := rfl

@[simp] theorem setInode_ramfs (ino : Nat) (inode : RamInode) :
    (kernel.setInode ino inode).ramfs = kernel.ramfs := rfl

@[simp] theorem setInode_inodes (ino : Nat) (inode : RamInode) :
    (kernel.setInode ino inode).inodes = Function.update kernel.inodes ino (some inode) := rfl

/-! ## One lemma for each call -/

/-- An output stream from column 0 prints text and answers with its length,
and refuses other bytes. -/
theorem writeFile_output (fd : Nat) (buf : Bytes) {file : OpenFile}
    (output : file = .stdout ∨ file = .stderr) (atStart : kernel.writer = ⟨0⟩) :
    kernel.writeFile fd buf file =
      if (fromUtf8 buf.toList).isSome then
        .ok (.ok buf.toList.length,
          { kernel with serial := kernel.serial ++ buf.toList.flatMap glyph ++ [0x0A] })
      else .ok (.error .ioError, kernel) := by
  have printed := printText_of_column_zero kernel.serial buf
  rcases output with rfl | rfl <;>
  · simp only [writeFile, Stdout.write, Stderr.write, atStart, printed]
    split
    · simp only [bind, Except.bind, pure, Except.pure]
    · rw [← atStart]
      rfl

/-- A RAM file whose write ends within `isize::MAX` bytes writes its inode's
data at the handle's offset, which moves past the bytes. -/
theorem writeFile_ramFile (fd : Nat) {ino : Nat} {file : RamFile} {inode : RamInode} {buf : Bytes}
    (found : kernel.inodes ino = some inode) (regular : inode.fileType = .regularFile)
    (bounded : file.offset + buf.toList.length ≤ isizeMax) (counted : inode.modified < u64Max) :
    ∃ data : Bytes, kernel.writeFile fd buf (.ramFile file ino) =
        .ok (.ok buf.toList.length, (kernel.setFile fd (.ramFile ⟨file.offset + buf.toList.length⟩ ino)).setInode
          ino { inode with data, size := data.toList.length, modified := inode.modified + 1 }) ∧
      data.toList = overwrite inode.data.toList file.offset buf.toList := by
  obtain ⟨data, written, dataList⟩ := RamFile.write_of_regular regular bounded counted
  exact ⟨data, by simp only [writeFile, found, written, bind, Except.bind]; rfl, dataList⟩

/-- A RAM file reads its inode's data from the handle's offset into the
buffer, and the offset moves past the bytes read. -/
theorem readFile_ramFile (fd : Nat) {ino : Nat} {file : RamFile} {inode : RamInode} (buf : Bytes)
    (found : kernel.inodes ino = some inode) (regular : inode.fileType = .regularFile)
    (bounded : file.offset ≤ usizeMax) :
    ∃ filled : Bytes, kernel.readFile fd buf (.ramFile file ino) =
        .ok (.ok (readCount inode.data.toList file.offset buf.toList.length, filled),
          kernel.setFile fd (.ramFile
            ⟨file.offset + readCount inode.data.toList file.offset buf.toList.length⟩ ino)) ∧
      filled.toList = readInto inode.data.toList file.offset buf.toList := by
  obtain ⟨filled, read, filledList⟩ := RamFile.read_of_regular regular bounded buf
  exact ⟨filled, by simp only [readFile, found, read, bind, Except.bind]; rfl, filledList⟩

theorem openIno_regular {ino : Nat} {inode : RamInode} {next : FileDescriptorTable OpenFile}
    {fd : Nat} (found : kernel.inodes ino = some inode) (regular : inode.fileType = .regularFile)
    (allocated : kernel.fdTable.alloc (.ramFile RamFile.new ino) = (next, some fd)) :
    kernel.openIno ino = (asIsize fd, { kernel with fdTable := next }) := by
  have opened := RamFS.openFile_eq_ok.mpr ⟨regular, rfl⟩
  simp only [openIno, found, opened, allocated]

theorem openIno_not_regular {ino : Nat} {inode : RamInode} (found : kernel.inodes ino = some inode)
    (notRegular : inode.fileType ≠ .regularFile) : kernel.openIno ino = (-1, kernel) := by
  have refused : RamFS.openFile inode = .error .isDirectory := by
    rw [RamFS.openFile, if_pos notRegular]
  simp only [openIno, found, refused]

end Kernel

theorem sysClose_eq (kernel : Kernel) (fd : Nat) :
    sysClose kernel fd = (if (kernel.fdTable.dealloc fd).2 then 0 else -1,
      { kernel with fdTable := (kernel.fdTable.dealloc fd).1 }) := rfl

end ErrorOS.Syscall
