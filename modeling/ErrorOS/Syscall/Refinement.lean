import ErrorOS.Syscall.Impl

/-!
# The system calls against a file API

What the calls are for, stated without the kernel's data structures: a root
directory whose names each hold a directory or a file of bytes; descriptors
that each stand for a standard stream or for a named file with an offset of
its own; and the serial line.  `Files.write`, `Files.read`, `Files.openAt`,
`Files.close` and `Files.mkdir` say what each call answers and how it changes
these, and `Call.Spec` lets `open` take the least free descriptor from 3 on.

`Abstracts` relates a kernel to the files it stands for: the root's entries
name the inodes whose bytes are the files, distinct names distinct inodes,
numbers below the counter; each descriptor's handle points into the root
under the name its stream gives, at the same offset; the console is at
column 0 and the serial lines agree.  `Abstracts.run` shows that from
related states every admissible call answers as the file API does and keeps
the states related, and `syscalls_refine_files` runs this from boot over
every sequence of calls.  The calls are admissible while they stay within
what Rust represents: a write into a file ends within `isize::MAX` bytes, an
open's descriptor fits an `isize`, and fewer than `usize::MAX - 2` calls
leave the inode counter room.
-/

namespace ErrorOS.Syscall

open Fs Console

/-- What a name of the root holds. -/
inductive Node where
  | directory
  | file (contents : List UInt8)
deriving DecidableEq

/-- What a descriptor stands for. -/
inductive Stream where
  | stdin
  | stdout
  | stderr
  | file (name : String) (offset : Nat)
deriving DecidableEq

/-- The file API's state. -/
structure Files where
  names : String → Option Node
  fds : Nat → Option Stream
  serial : List UInt8

/-- What a call gives back: the `isize` it returns and, for a read, the
buffer's bytes after it. -/
structure Reply where
  result : Int
  buffer : Option (List UInt8)
deriving DecidableEq

namespace Files

/-- Nothing named yet, and the standard streams in descriptors 0, 1 and 2. -/
def boot : Files where
  names := fun _ => none
  fds := fun fd =>
    if fd = 0 then some .stdin else if fd = 1 then some .stdout else if fd = 2 then some .stderr
    else none
  serial := []

/-- What an output stream does with a buffer: it prints UTF-8 text as its
glyphs and a newline, and refuses other bytes. -/
def print (files : Files) (buf : Bytes) : Int × Files :=
  if (fromUtf8 buf.toList).isSome then
    (buf.toList.length,
      { files with serial := files.serial ++ buf.toList.flatMap glyph ++ [0x0A] })
  else (-1, files)

/-- A write: nothing for a null buffer; a line on the serial port for a
descriptor that stands for nothing; standard input refuses; an output stream
prints; a file takes the bytes at the descriptor's offset, after zeros up to
it, and the offset moves past them. -/
def write (files : Files) (fd : Nat) : Option Bytes → Int × Files
  | none => (-1, files)
  | some buf =>
      match files.fds fd with
      | none =>
          (-1, { files with
            serial := serialPrintln files.serial s!"[SYSCALL] sys_write: invalid fd={fd}" })
      | some .stdin => (-1, files)
      | some .stdout | some .stderr => files.print buf
      | some (.file name offset) =>
          match files.names name with
          | some (.file contents) =>
              (buf.toList.length, { files with
                names := Function.update files.names name
                  (some (.file (overwrite contents offset buf.toList)))
                fds := Function.update files.fds fd
                  (some (.file name (offset + buf.toList.length))) })
          | _ => (-1, files)

/-- A read: only a file can be read; it copies the bytes from the
descriptor's offset into the front of the buffer, and the offset moves past
them. -/
def read (files : Files) (fd : Nat) : Option Bytes → Reply × Files
  | none => (⟨-1, none⟩, files)
  | some buf =>
      match files.fds fd with
      | some (.file name offset) =>
          match files.names name with
          | some (.file contents) =>
              let count := readCount contents offset buf.toList.length
              (⟨count, some (readInto contents offset buf.toList)⟩,
                { files with
                  fds := Function.update files.fds fd (some (.file name (offset + count))) })
          | _ => (⟨-1, some buf.toList⟩, files)
      | _ => (⟨-1, some buf.toList⟩, files)

/-- An open that takes descriptor `fd`: a path that cannot be read, and a
directory, fail; a missing name becomes an empty file; the descriptor stands
for the file at offset 0. -/
def openAt (files : Files) (path : Option (Nat → UInt8)) (fd : Nat) : Int × Files :=
  match readPath path with
  | none => (-1, files)
  | some name =>
      match files.names name with
      | some .directory => (-1, files)
      | some (.file _) =>
          (fd, { files with fds := Function.update files.fds fd (some (.file name 0)) })
      | none =>
          (fd, { files with
            names := Function.update files.names name (some (.file []))
            fds := Function.update files.fds fd (some (.file name 0)) })

/-- A close: a descriptor from 3 on that stands for something stops
standing for it. -/
def close (files : Files) (fd : Nat) : Int × Files :=
  if 3 ≤ fd ∧ files.fds fd ≠ none then
    (0, { files with fds := Function.update files.fds fd none })
  else (-1, files)

/-- A new directory under a name that is still free. -/
def mkdir (files : Files) (path : Option (Nat → UInt8)) : Int × Files :=
  match readPath path with
  | none => (-1, files)
  | some name =>
      match files.names name with
      | some _ => (-1, files)
      | none => (0, { files with names := Function.update files.names name (some .directory) })

/-- The least descriptor from 3 on that stands for nothing. -/
def LeastFree (files : Files) (fd : Nat) : Prop :=
  3 ≤ fd ∧ files.fds fd = none ∧ ∀ other, 3 ≤ other → other < fd → files.fds other ≠ none

end Files

/-- The calls on files. -/
inductive Call where
  | write (fd : Nat) (buf : Option Bytes)
  | read (fd : Nat) (buf : Option Bytes)
  | «open» (path : Option (Nat → UInt8))
  | close (fd : Nat)
  | mkdir (path : Option (Nat → UInt8))

namespace Call

/-- The system call for each call, with its reply. -/
def run : Call → Kernel → Except Panic (Reply × Kernel)
  | .write fd buf, kernel => do
      let (result, kernel) ← sysWrite kernel fd buf
      pure (⟨result, none⟩, kernel)
  | .read fd buf, kernel => do
      let ((result, buffer), kernel) ← sysRead kernel fd buf
      pure (⟨result, buffer.map Bytes.toList⟩, kernel)
  | .open path, kernel => do
      let (result, kernel) ← sysOpen kernel path
      pure (⟨result, none⟩, kernel)
  | .close fd, kernel => pure (⟨(sysClose kernel fd).1, none⟩, (sysClose kernel fd).2)
  | .mkdir path, kernel => do
      let (result, kernel) ← sysMkdir kernel path
      pure (⟨result, none⟩, kernel)

/-- What the file API lets a call answer, and the state it leaves. -/
def Spec : Call → Files → Reply × Files → Prop
  | .write fd buf, files, (reply, after) =>
      reply = ⟨(files.write fd buf).1, none⟩ ∧ after = (files.write fd buf).2
  | .read fd buf, files, out => out = files.read fd buf
  | .open path, files, (reply, after) => ∃ fd, files.LeastFree fd ∧
      reply = ⟨(files.openAt path fd).1, none⟩ ∧ after = (files.openAt path fd).2
  | .close fd, files, (reply, after) =>
      reply = ⟨(files.close fd).1, none⟩ ∧ after = (files.close fd).2
  | .mkdir path, files, (reply, after) =>
      reply = ⟨(files.mkdir path).1, none⟩ ∧ after = (files.mkdir path).2

/-- The calls within what Rust represents: a write into a file ends within
`isize::MAX` bytes, and every descriptor is below `isize::MAX` when an open
takes a new one. -/
def Admissible : Call → Files → Prop
  | .write fd (some buf), files =>
      ∀ name offset, files.fds fd = some (.file name offset) → offset + buf.toList.length ≤ isizeMax
  | .open _, files => ∀ fd, files.fds fd ≠ none → fd < isizeMax
  | _, _ => True

end Call

/-! ## The abstraction -/

/-- The node an inode stands for: a regular file's bytes, and a directory
for any other inode, which `open_file` refuses as it refuses one. -/
def nodeOf (inode : RamInode) : Node :=
  if inode.fileType = .regularFile then .file inode.data.toList else .directory

/-- A descriptor's file and its stream: the same standard stream, or a RAM
handle pointing to the inode that the stream's name names, at the stream's
offset. -/
def FdAbstracts (entries : String → Option Nat) : Option OpenFile → Option Stream → Prop
  | none, none => True
  | some .stdin, some .stdin => True
  | some .stdout, some .stdout => True
  | some .stderr, some .stderr => True
  | some (.ramFile file ino), some (.file name offset) => entries name = some ino ∧ file.offset = offset
  | _, _ => False

/-- The kernel stands for the files. -/
structure Abstracts (kernel : Kernel) (files : Files) : Prop where
  root : kernel.root.inode.fileType = .directory
  names : ∀ name, files.names name = (kernel.root.entries name).bind fun ino => (kernel.inodes ino).map nodeOf
  linked : ∀ name ino, kernel.root.entries name = some ino → kernel.inodes ino ≠ none
  distinct : ∀ name other ino, kernel.root.entries name = some ino →
    kernel.root.entries other = some ino → name = other
  fresh : ∀ name ino, kernel.root.entries name = some ino → ino < kernel.ramfs.nextIno
  fds : ∀ fd, FdAbstracts kernel.root.entries (kernel.fdTable.get fd) (files.fds fd)
  streams : ∀ fd name offset, files.fds fd = some (.file name offset) →
    (∃ contents, files.names name = some (.file contents)) ∧ offset ≤ isizeMax
  stdio : files.fds 0 = some .stdin ∧ files.fds 1 = some .stdout ∧ files.fds 2 = some .stderr
  writer : kernel.writer = ⟨0⟩
  serial : kernel.serial = files.serial

theorem abstracts_boot : Abstracts Kernel.boot Files.boot where
  root := rfl
  names _ := rfl
  linked _ _ named := nomatch named
  distinct _ _ _ named := nomatch named
  fresh _ _ named := nomatch named
  fds fd := by
    match fd with
    | 0 | 1 | 2 => trivial
    | fd + 3 =>
        simp [Kernel.boot, FileDescriptorTable.withStdio, FileDescriptorTable.get, Files.boot,
          FdAbstracts]
  streams fd _ _ named := by
    dsimp only [Files.boot] at named
    split_ifs at named <;> cases named
  stdio := ⟨rfl, rfl, rfl⟩
  writer := rfl
  serial := rfl

/-- Every inode counts at most `count` modifications in its `u64` counter,
so `count` more writes cannot overflow it while `count < u64::MAX`. -/
def ModifiedWithin (kernel : Kernel) (count : Nat) : Prop :=
  ∀ ino inode, kernel.inodes ino = some inode → inode.modified ≤ count

theorem modifiedWithin_boot : ModifiedWithin Kernel.boot 0 :=
  fun _ _ stored => nomatch stored

theorem ModifiedWithin.mono {kernel : Kernel} {count more : Nat} (within : ModifiedWithin kernel count)
    (le : count ≤ more) : ModifiedWithin kernel more :=
  fun ino inode stored => Nat.le_trans (within ino inode stored) le

theorem ModifiedWithin.setInode {kernel : Kernel} {count ino : Nat} {inode : RamInode}
    (within : ModifiedWithin kernel count) (bounded : inode.modified ≤ count) :
    ModifiedWithin (kernel.setInode ino inode) count := by
  intro other found stored
  by_cases same : other = ino
  · subst same
    simp only [Kernel.setInode, Function.update_same, Option.some.injEq] at stored
    exact stored ▸ bounded
  · simp only [Kernel.setInode, Function.update_noteq same] at stored
    exact within other found stored

theorem nodeOf_eq_file {inode : RamInode} {contents : List UInt8} :
    nodeOf inode = .file contents ↔ inode.fileType = .regularFile ∧ contents = inode.data.toList := by
  unfold nodeOf
  split
  · rename_i regular
    simp only [Node.file.injEq, regular, true_and, eq_comm]
  · exact ⟨fun same => (nomatch same), fun ⟨regular, _⟩ => absurd regular ‹_›⟩

theorem fdAbstracts_none {entries : String → Option Nat} {file : Option OpenFile}
    {stream : Option Stream} (related : FdAbstracts entries file stream) :
    file = none ↔ stream = none := by
  rcases file with _ | (_ | _ | _ | _) <;> rcases stream with _ | (_ | _ | _ | _) <;>
    simp_all [FdAbstracts]

theorem FdAbstracts.mono {entries more : String → Option Nat} {file : Option OpenFile}
    {stream : Option Stream} (related : FdAbstracts entries file stream)
    (kept : ∀ name ino, entries name = some ino → more name = some ino) :
    FdAbstracts more file stream := by
  rcases file with _ | (_ | _ | _ | ⟨handle, ino⟩) <;> rcases stream with _ | (_ | _ | _ | ⟨name, offset⟩) <;>
    simp only [FdAbstracts] at related ⊢
  exact ⟨kept name ino related.1, related.2⟩

/-! ## What a related kernel holds -/

namespace Abstracts

variable {kernel : Kernel} {files : Files}

theorem get_eq_none_iff (related : Abstracts kernel files) (fd : Nat) :
    kernel.fdTable.get fd = none ↔ files.fds fd = none :=
  fdAbstracts_none (related.fds fd)

theorem three_le_length (related : Abstracts kernel files) : 3 ≤ kernel.fdTable.entries.length :=
  FileDescriptorTable.lt_of_get_ne_none fun empty =>
    absurd ((related.get_eq_none_iff 2).mp empty) (by rw [related.stdio.2.2]; exact Option.some_ne_none _)

theorem three_le_of_file (related : Abstracts kernel files) {fd : Nat} {name : String} {offset : Nat}
    (stream : files.fds fd = some (.file name offset)) : 3 ≤ fd := by
  obtain ⟨stdin, stdout, stderr⟩ := related.stdio
  by_contra small
  rcases (by omega : fd = 0 ∨ fd = 1 ∨ fd = 2) with rfl | rfl | rfl <;> simp_all

theorem ramFile_of_file (related : Abstracts kernel files) {fd : Nat} {name : String}
    {offset : Nat} (stream : files.fds fd = some (.file name offset)) :
    ∃ handle ino inode, kernel.fdTable.get fd = some (.ramFile handle ino) ∧
      handle.offset = offset ∧ kernel.root.entries name = some ino ∧
      kernel.inodes ino = some inode ∧ inode.fileType = .regularFile ∧
      files.names name = some (.file inode.data.toList) ∧ offset ≤ isizeMax := by
  obtain ⟨⟨contents, isFile⟩, within⟩ := related.streams fd name offset stream
  have described := related.fds fd
  rw [stream] at described
  rcases found : kernel.fdTable.get fd with _ | (_ | _ | _ | ⟨handle, ino⟩) <;>
    rw [found] at described <;> simp only [FdAbstracts] at described
  obtain ⟨named, moved⟩ := described
  have node := related.names name
  rw [isFile, named, Option.some_bind] at node
  rcases stored : kernel.inodes ino with _ | inode
  · rw [stored] at node
    cases node
  · rw [stored, Option.map_some'] at node
    obtain ⟨regular, rfl⟩ := nodeOf_eq_file.mp (Option.some.inj node).symm
    exact ⟨handle, ino, inode, rfl, moved, named, stored, regular, isFile, within⟩

theorem leastFree_of_allocates (related : Abstracts kernel files) {next : FileDescriptorTable OpenFile}
    {file : OpenFile} {fd : Nat}
    (allocates : FileDescriptorTable.AllocatesLeast kernel.fdTable next file fd) :
    files.LeastFree fd := by
  obtain ⟨large, empty, before, -, -⟩ := allocates
  exact ⟨large, (related.get_eq_none_iff fd).mp empty,
    fun other atLeast less free => before other atLeast less ((related.get_eq_none_iff other).mpr free)⟩

/-! ## The changes the calls make -/

theorem appendSerial (related : Abstracts kernel files) (line : List UInt8 → List UInt8) :
    Abstracts { kernel with serial := line kernel.serial } { files with serial := line files.serial } :=
  { related with serial := by rw [related.serial] }

theorem bumpCounter (related : Abstracts kernel files) {count : Nat}
    (more : kernel.ramfs.nextIno ≤ count) : Abstracts { kernel with ramfs := ⟨count⟩ } files :=
  { related with fresh := fun name ino named => Nat.lt_of_lt_of_le (related.fresh name ino named) more }

theorem moveHandle (related : Abstracts kernel files) {fd ino old offset : Nat} {name : String}
    (stream : files.fds fd = some (.file name old)) (named : kernel.root.entries name = some ino)
    (within : offset ≤ isizeMax) :
    Abstracts (kernel.setFile fd (.ramFile ⟨offset⟩ ino))
      { files with fds := Function.update files.fds fd (some (.file name offset)) } where
  root := related.root
  names := related.names
  linked := related.linked
  distinct := related.distinct
  fresh := related.fresh
  fds other := by
    dsimp only at *
    have mapped : kernel.fdTable.get fd ≠ none :=
      fun empty => absurd ((related.get_eq_none_iff fd).mp empty) (by rw [stream]; exact Option.some_ne_none _)
    rw [Kernel.setFile_get mapped]
    by_cases same : other = fd
    · subst same
      simp [FdAbstracts, named]
    · rw [if_neg same, Function.update_noteq same]
      exact related.fds other
  streams other name' offset' found := by
    dsimp only at *
    by_cases same : other = fd
    · subst same
      simp only [Function.update_same, Option.some.injEq, Stream.file.injEq] at found
      obtain ⟨rfl, rfl⟩ := found
      exact ⟨(related.streams _ _ _ stream).1, within⟩
    · rw [Function.update_noteq same] at found
      exact related.streams other name' offset' found
  stdio := by
    dsimp only at *
    have large := related.three_le_of_file stream
    simp only [Function.update_noteq (show (0 : Nat) ≠ fd by omega),
      Function.update_noteq (show (1 : Nat) ≠ fd by omega),
      Function.update_noteq (show (2 : Nat) ≠ fd by omega)]
    exact related.stdio
  writer := related.writer
  serial := related.serial

theorem writeInode (related : Abstracts kernel files) {name : String} {ino : Nat} (inode : RamInode)
    (named : kernel.root.entries name = some ino) (regular : inode.fileType = .regularFile) :
    Abstracts (kernel.setInode ino inode)
      { files with names := Function.update files.names name (some (.file inode.data.toList)) } where
  root := related.root
  names other := by
    dsimp only at *
    by_cases same : other = name
    · subst same
      simp [Kernel.setInode, named, nodeOf, regular]
    · rw [Function.update_noteq same, related.names other]
      cases entry : kernel.root.entries other with
      | none => simp [entry]
      | some number =>
          have different : number ≠ ino := fun equal =>
            same (related.distinct other name ino (equal ▸ entry) named)
          simp [Kernel.setInode, entry, Function.update_noteq different]
  linked other number entry := by
    by_cases same : number = ino
    · subst same
      simp [Kernel.setInode]
    · simp only [Kernel.setInode, Function.update_noteq same]
      exact related.linked other number entry
  distinct := related.distinct
  fresh := related.fresh
  fds := related.fds
  streams fd name' offset stream := by
    dsimp only at *
    obtain ⟨⟨contents, isFile⟩, within⟩ := related.streams fd name' offset stream
    refine ⟨?_, within⟩
    by_cases same : name' = name
    · subst same
      exact ⟨_, Function.update_same _ _ _⟩
    · exact ⟨contents, by rw [Function.update_noteq same]; exact isFile⟩
  stdio := related.stdio
  writer := related.writer
  serial := related.serial

theorem allocHandle (related : Abstracts kernel files) {name : String} {ino fd : Nat}
    {next : FileDescriptorTable OpenFile} (named : kernel.root.entries name = some ino)
    (isFile : ∃ contents, files.names name = some (.file contents))
    (allocates : FileDescriptorTable.AllocatesLeast kernel.fdTable next (.ramFile RamFile.new ino) fd) :
    Abstracts { kernel with fdTable := next }
      { files with fds := Function.update files.fds fd (some (.file name 0)) } where
  root := related.root
  names := related.names
  linked := related.linked
  distinct := related.distinct
  fresh := related.fresh
  fds other := by
    dsimp only at *
    obtain ⟨-, -, -, placed, frame⟩ := allocates
    by_cases same : other = fd
    · subst same
      simp [placed, FdAbstracts, named, RamFile.new]
    · rw [frame other same, Function.update_noteq same]
      exact related.fds other
  streams other name' offset stream := by
    dsimp only at *
    by_cases same : other = fd
    · subst same
      simp only [Function.update_same, Option.some.injEq, Stream.file.injEq] at stream
      obtain ⟨rfl, rfl⟩ := stream
      exact ⟨isFile, Nat.zero_le _⟩
    · rw [Function.update_noteq same] at stream
      exact related.streams other name' offset stream
  stdio := by
    dsimp only at *
    have large := allocates.1
    simp only [Function.update_noteq (show (0 : Nat) ≠ fd by omega),
      Function.update_noteq (show (1 : Nat) ≠ fd by omega),
      Function.update_noteq (show (2 : Nat) ≠ fd by omega)]
    exact related.stdio
  writer := related.writer
  serial := related.serial

/-- The kernel after a creation entered the counter's number under a free
name, and the inode `make` built with it. -/
def created (kernel : Kernel) (name : String) (make : Nat → RamInode) : Kernel :=
  { kernel with
    root := { kernel.root with
      entries := Function.update kernel.root.entries name (some kernel.ramfs.nextIno) }
    ramfs := ⟨kernel.ramfs.nextIno + 1⟩ }.setInode kernel.ramfs.nextIno (make kernel.ramfs.nextIno)

theorem modifiedWithin_created {name : String} {make : Nat → RamInode} {count : Nat}
    (within : ModifiedWithin kernel count) (bounded : (make kernel.ramfs.nextIno).modified ≤ count) :
    ModifiedWithin (created kernel name make) count :=
  ModifiedWithin.setInode within bounded

theorem createEntry (related : Abstracts kernel files) {name : String} (make : Nat → RamInode)
    (absent : kernel.root.entries name = none) :
    Abstracts (created kernel name make)
      { files with names := Function.update files.names name (some (nodeOf (make kernel.ramfs.nextIno))) } where
  root := related.root
  names other := by
    dsimp only at *
    by_cases same : other = name
    · subst same
      simp [created, Kernel.setInode]
    · rw [Function.update_noteq same, related.names other]
      simp only [created, Kernel.setInode, Function.update_noteq same]
      cases entry : kernel.root.entries other with
      | none => rfl
      | some number =>
          have different : number ≠ kernel.ramfs.nextIno :=
            Nat.ne_of_lt (related.fresh other number entry)
          simp [Function.update_noteq different]
  linked other number entry := by
    simp only [created, Kernel.setInode] at entry ⊢
    by_cases same : other = name
    · subst same
      simp only [Function.update_same, Option.some.injEq] at entry
      subst entry
      simp
    · rw [Function.update_noteq same] at entry
      rw [Function.update_noteq (Nat.ne_of_lt (related.fresh other number entry))]
      exact related.linked other number entry
  distinct one other number first second := by
    simp only [created, Kernel.setInode] at first second
    by_cases oneNew : one = name <;> by_cases otherNew : other = name
    · rw [oneNew, otherNew]
    · subst oneNew
      rw [Function.update_same, Option.some.injEq] at first
      rw [Function.update_noteq otherNew] at second
      exact absurd (related.fresh other number second) (by omega)
    · subst otherNew
      rw [Function.update_same, Option.some.injEq] at second
      rw [Function.update_noteq oneNew] at first
      exact absurd (related.fresh one number first) (by omega)
    · rw [Function.update_noteq oneNew] at first
      rw [Function.update_noteq otherNew] at second
      exact related.distinct one other number first second
  fresh other number entry := by
    simp only [created, Kernel.setInode] at entry ⊢
    by_cases same : other = name
    · subst same
      simp only [Function.update_same, Option.some.injEq] at entry
      omega
    · rw [Function.update_noteq same] at entry
      exact Nat.lt_succ_of_lt (related.fresh other number entry)
  fds fd := (related.fds fd).mono fun other number entry => by
    have different : other ≠ name := fun same => by rw [same, absent] at entry; cases entry
    simp only [created, Kernel.setInode, Function.update_noteq different, entry]
  streams fd name' offset stream := by
    dsimp only at *
    obtain ⟨⟨contents, isFile⟩, within⟩ := related.streams fd name' offset stream
    have different : name' ≠ name := fun same => by
      rw [same, related.names, absent] at isFile
      cases isFile
    exact ⟨⟨contents, by rw [Function.update_noteq different]; exact isFile⟩, within⟩
  stdio := related.stdio
  writer := related.writer
  serial := related.serial

theorem dealloc (related : Abstracts kernel files) (fd : Nat) :
    (kernel.fdTable.dealloc fd).2 = decide (3 ≤ fd ∧ files.fds fd ≠ none) ∧
      Abstracts { kernel with fdTable := (kernel.fdTable.dealloc fd).1 } (files.close fd).2 := by
  obtain ⟨closes, closedSlot, frame⟩ := @FileDescriptorTable.dealloc_closes _ kernel.fdTable fd
  have free := related.get_eq_none_iff fd
  have answer : (kernel.fdTable.dealloc fd).2 = decide (3 ≤ fd ∧ files.fds fd ≠ none) := by
    rw [Bool.eq_iff_iff, closes, decide_eq_true_iff, Ne, Ne, free]
  refine ⟨answer, ?_⟩
  unfold Files.close
  split
  · rename_i closing
    rw [answer, decide_eq_true closing, if_pos rfl] at closedSlot
    exact { related with
      fds := fun other => by
        dsimp only at *
        by_cases same : other = fd
        · subst same
          simp only [closedSlot, Function.update_same, FdAbstracts]
        · rw [frame other same, Function.update_noteq same]
          exact related.fds other
      streams := fun other name offset stream => by
        dsimp only at *
        by_cases same : other = fd
        · subst same
          simp at stream
        · rw [Function.update_noteq same] at stream
          exact related.streams other name offset stream
      stdio := by
        dsimp only at *
        simp only [Function.update_noteq (show (0 : Nat) ≠ fd by omega),
          Function.update_noteq (show (1 : Nat) ≠ fd by omega),
          Function.update_noteq (show (2 : Nat) ≠ fd by omega)]
        exact related.stdio }
  · rename_i kept
    rw [answer, decide_eq_false kept, if_neg Bool.false_ne_true] at closedSlot
    exact { related with
      fds := fun other => by
        dsimp only at *
        by_cases same : other = fd
        · subst same
          rw [closedSlot]
          exact related.fds other
        · rw [frame other same]
          exact related.fds other }

/-! ## Each call answers as the file API does -/

theorem print (related : Abstracts kernel files) {fd count : Nat} {buf : Bytes} {file : OpenFile}
    (within : ModifiedWithin kernel count) (output : file = .stdout ∨ file = .stderr)
    (found : kernel.fdTable.get fd = some file) :
    ∃ next, sysWrite kernel fd (some buf) = .ok ((files.print buf).1, next) ∧
      Abstracts next (files.print buf).2 ∧ next.ramfs = kernel.ramfs ∧ ModifiedWithin next count := by
  have printed := Kernel.writeFile_output fd buf output related.writer
  unfold Files.print
  split
  · rename_i valid
    rw [if_pos valid] at printed
    refine ⟨_, ?_, related.appendSerial (fun serial => serial ++ buf.toList.flatMap glyph ++ [0x0A]),
      rfl, within⟩
    simp only [sysWrite, found, printed, bind, Except.bind, asIsize_of_le buf.length_le]
    rfl
  · rename_i invalid
    rw [if_neg invalid] at printed
    exact ⟨kernel, by simp only [sysWrite, found, printed, bind, Except.bind]; rfl, related, rfl, within⟩

/-- `sys_write` answers as the file API's write and keeps the states
related. -/
theorem write (related : Abstracts kernel files) (fd : Nat) (buf : Option Bytes)
    (admissible : (Call.write fd buf).Admissible files) {count : Nat}
    (within : ModifiedWithin kernel count) (spare : count < u64Max) :
    ∃ next, sysWrite kernel fd buf = .ok ((files.write fd buf).1, next) ∧
      Abstracts next (files.write fd buf).2 ∧ next.ramfs = kernel.ramfs ∧
      ModifiedWithin next (count + 1) := by
  have more := within.mono (Nat.le_succ count)
  rcases buf with _ | buf
  · exact ⟨kernel, rfl, related, rfl, more⟩
  have described := related.fds fd
  rcases stream : files.fds fd with _ | (_ | _ | _ | ⟨name, offset⟩) <;>
    rw [stream] at described <;> simp only [Files.write, stream]
  · have empty := (related.get_eq_none_iff fd).mpr stream
    exact ⟨_, by simp only [sysWrite, empty]; rfl,
      related.appendSerial (fun serial => serialPrintln serial s!"[SYSCALL] sys_write: invalid fd={fd}"),
      rfl, more⟩
  · rcases found : kernel.fdTable.get fd with _ | (_ | _ | _ | _) <;>
      rw [found] at described <;> simp only [FdAbstracts] at described
    exact ⟨kernel, by simp only [sysWrite, found, Kernel.writeFile]; rfl, related, rfl, more⟩
  · rcases found : kernel.fdTable.get fd with _ | (_ | _ | _ | _) <;>
      rw [found] at described <;> simp only [FdAbstracts] at described
    exact related.print more (Or.inl rfl) found
  · rcases found : kernel.fdTable.get fd with _ | (_ | _ | _ | _) <;>
      rw [found] at described <;> simp only [FdAbstracts] at described
    exact related.print more (Or.inr rfl) found
  · obtain ⟨handle, ino, inode, found, rfl, named, stored, regular, isFile, -⟩ :=
      related.ramFile_of_file stream
    have bounded := admissible name handle.offset stream
    have counted := within ino inode stored
    obtain ⟨data, written, dataList⟩ :=
      Kernel.writeFile_ramFile fd stored regular bounded (Nat.lt_of_le_of_lt counted spare)
    have result := (related.moveHandle stream named bounded).writeInode
      { inode with data := data, size := data.toList.length, modified := inode.modified + 1 } named regular
    simp only [isFile, ← dataList]
    refine ⟨_, ?_, result, rfl, more.setInode (Nat.succ_le_succ counted)⟩
    simp only [sysWrite, found, written, bind, Except.bind, asIsize_of_le buf.length_le]
    rfl

/-- `sys_read` answers as the file API's read, with the same bytes in the
buffer, and keeps the states related. -/
theorem read (related : Abstracts kernel files) (fd : Nat) (buf : Option Bytes) {count : Nat}
    (within : ModifiedWithin kernel count) :
    ∃ buffer next, sysRead kernel fd buf = .ok (((files.read fd buf).1.result, buffer), next) ∧
      buffer.map Bytes.toList = (files.read fd buf).1.buffer ∧
      Abstracts next (files.read fd buf).2 ∧ next.ramfs = kernel.ramfs ∧ ModifiedWithin next count := by
  rcases buf with _ | buf
  · exact ⟨none, kernel, rfl, rfl, related, rfl, within⟩
  have described := related.fds fd
  rcases stream : files.fds fd with _ | (_ | _ | _ | ⟨name, offset⟩) <;>
    rw [stream] at described <;> simp only [Files.read, stream]
  · have empty := (related.get_eq_none_iff fd).mpr stream
    exact ⟨some buf, kernel, by simp only [sysRead, empty]; rfl, rfl, related, rfl, within⟩
  all_goals
    rcases found : kernel.fdTable.get fd with _ | (_ | _ | _ | ⟨handle, ino⟩) <;>
      rw [found] at described <;> simp only [FdAbstracts] at described
  iterate 3
    exact ⟨some buf, kernel, by simp only [sysRead, found, Kernel.readFile]; rfl, rfl, related, rfl, within⟩
  · obtain ⟨handle, ino, inode, found, rfl, named, stored, regular, isFile, small⟩ :=
      related.ramFile_of_file stream
    obtain ⟨filled, readEq, filledList⟩ := Kernel.readFile_ramFile fd buf stored regular
      (Nat.le_trans small (by decide))
    have counted : readCount inode.data.toList handle.offset buf.toList.length ≤ isizeMax :=
      Nat.le_trans (Nat.min_le_left _ _) buf.length_le
    have moved : handle.offset + readCount inode.data.toList handle.offset buf.toList.length ≤
        isizeMax := by
      have := inode.data.length_le
      unfold readCount
      omega
    simp only [isFile]
    exact ⟨some filled, _, by simp only [sysRead, found, readEq, bind, Except.bind, asIsize_of_le counted]; rfl,
      by rw [Option.map_some', filledList], related.moveHandle stream named moved, rfl, within⟩

theorem le_isizeMax_of_leastFree {fd : Nat} (free : files.LeastFree fd)
    (small : ∀ fd, files.fds fd ≠ none → fd < isizeMax) : fd ≤ isizeMax := by
  obtain ⟨large, -, before⟩ := free
  rcases Nat.lt_or_eq_of_le large with above | rfl
  · have := small (fd - 1) (before (fd - 1) (by omega) (by omega))
    omega
  · decide

theorem openEntry (related : Abstracts kernel files) (name : String) (ino : Nat) (inode : RamInode)
    (small : ∀ fd, files.fds fd ≠ none → fd < isizeMax)
    (named : kernel.root.entries name = some ino) (stored : kernel.inodes ino = some inode)
    (regular : inode.fileType = .regularFile) (isFile : ∃ contents, files.names name = some (.file contents))
    {count : Nat} (within : ModifiedWithin kernel count) :
    ∃ fd next, files.LeastFree fd ∧ kernel.openIno ino = ((fd : Int), next) ∧
      Abstracts next { files with fds := Function.update files.fds fd (some (.file name 0)) } ∧
      next.ramfs = kernel.ramfs ∧ ModifiedWithin next count := by
  obtain ⟨fd, allocated, allocates⟩ :=
    FileDescriptorTable.alloc_allocatesLeast related.three_le_length (.ramFile RamFile.new ino)
  have free := related.leastFree_of_allocates allocates
  refine ⟨fd, _, free, ?_, related.allocHandle named isFile allocates, rfl, within⟩
  rw [Kernel.openIno_regular stored regular (Prod.ext rfl allocated),
    asIsize_of_le (le_isizeMax_of_leastFree free small)]

theorem exists_leastFree (related : Abstracts kernel files) : ∃ fd, files.LeastFree fd := by
  obtain ⟨fd, -, allocates⟩ :=
    FileDescriptorTable.alloc_allocatesLeast related.three_le_length OpenFile.stdin
  exact ⟨fd, related.leastFree_of_allocates allocates⟩

/-- `sys_open` answers as the file API's open in the least free descriptor,
and keeps the states related, taking at most one inode number. -/
theorem «open» (related : Abstracts kernel files) (path : Option (Nat → UInt8))
    (admissible : (Call.open path).Admissible files) (room : kernel.ramfs.nextIno < usizeMax)
    {count : Nat} (within : ModifiedWithin kernel count) :
    ∃ fd next, files.LeastFree fd ∧ sysOpen kernel path = .ok ((files.openAt path fd).1, next) ∧
      Abstracts next (files.openAt path fd).2 ∧ next.ramfs.nextIno ≤ kernel.ramfs.nextIno + 1 ∧
      ModifiedWithin next count := by
  obtain ⟨someFd, someFree⟩ := related.exists_leastFree
  cases readable : readPath path with
  | none =>
      refine ⟨someFd, kernel, someFree, ?_, ?_, Nat.le_succ _, within⟩ <;>
        simp only [sysOpen, Files.openAt, readable]
      · rfl
      · exact related
  | some name =>
  have looked := RamNode.lookup_of_directory name related.root
  have node := related.names name
  cases entry : kernel.root.entries name with
  | none =>
      -- a missing name: a new empty file, opened
      rw [entry, Option.none_bind] at node
      have createdEq := RamFS.create_of_absent RamInode.newFile related.root entry room
      obtain ⟨fd, next, free, opened, result, sameCounter, modifiedNext⟩ :=
        (related.createEntry RamInode.newFile entry).openEntry name kernel.ramfs.nextIno
          (RamInode.newFile kernel.ramfs.nextIno) admissible (by simp [created]) (by simp [created])
          rfl ⟨[], by simp; rfl⟩ (modifiedWithin_created within (Nat.zero_le _))
      refine ⟨fd, next, free, ?_, ?_, ?_, modifiedNext⟩
      · simp only [sysOpen, readable, looked, entry, RamFS.createFile, createdEq, bind, Except.bind,
          Files.openAt, node]
        exact congrArg _ opened
      · simp only [Files.openAt, readable, node]
        exact result
      · rw [sameCounter]
        rfl
  | some ino =>
      rw [entry, Option.some_bind] at node
      cases stored : kernel.inodes ino with
      | none => exact absurd stored (related.linked name ino entry)
      | some inode =>
      rw [stored, Option.map_some'] at node
      by_cases regular : inode.fileType = .regularFile
      · have isFile : nodeOf inode = .file inode.data.toList := by rw [nodeOf, if_pos regular]
        obtain ⟨fd, next, free, opened, result, sameCounter, modifiedNext⟩ := related.openEntry name ino inode
          admissible entry stored regular ⟨_, by rw [node, isFile]⟩ within
        refine ⟨fd, next, free, ?_, ?_, by rw [sameCounter]; exact Nat.le_succ _, modifiedNext⟩
        · simp only [sysOpen, readable, looked, entry, opened, Files.openAt, node, isFile]
          rfl
        · simp only [Files.openAt, readable, node, isFile]
          exact result
      · have isDirectory : nodeOf inode = .directory := by rw [nodeOf, if_neg regular]
        refine ⟨someFd, kernel, someFree, ?_, ?_, Nat.le_succ _, within⟩
        · simp only [sysOpen, readable, looked, entry, Kernel.openIno_not_regular stored regular,
            Files.openAt, node, isDirectory]
          rfl
        · simp only [Files.openAt, readable, node, isDirectory]
          exact related

/-- `sys_mkdir` answers as the file API's mkdir and keeps the states
related, taking at most one inode number. -/
theorem mkdir (related : Abstracts kernel files) (path : Option (Nat → UInt8))
    (room : kernel.ramfs.nextIno < usizeMax) {count : Nat} (within : ModifiedWithin kernel count) :
    ∃ next, sysMkdir kernel path = .ok ((files.mkdir path).1, next) ∧
      Abstracts next (files.mkdir path).2 ∧ next.ramfs.nextIno ≤ kernel.ramfs.nextIno + 1 ∧
      ModifiedWithin next count := by
  cases readable : readPath path with
  | none =>
      refine ⟨kernel, ?_, ?_, Nat.le_succ _, within⟩ <;> simp only [sysMkdir, Files.mkdir, readable]
      · rfl
      · exact related
  | some name =>
  have node := related.names name
  cases entry : kernel.root.entries name with
  | none =>
      rw [entry, Option.none_bind] at node
      have createdEq := RamFS.create_of_absent RamInode.newDirectory related.root entry room
      refine ⟨created kernel name RamInode.newDirectory, ?_, ?_, Nat.le_refl _,
        modifiedWithin_created within (Nat.zero_le _)⟩
      · simp only [sysMkdir, readable, RamFS.createDirectory, createdEq, bind, Except.bind,
          Files.mkdir, node]
        rfl
      · simp only [Files.mkdir, readable, node]
        exact related.createEntry RamInode.newDirectory entry
  | some ino =>
      rw [entry, Option.some_bind] at node
      cases stored : kernel.inodes ino with
      | none => exact absurd stored (related.linked name ino entry)
      | some inode =>
      rw [stored, Option.map_some'] at node
      have refused := RamFS.create_of_present RamInode.newDirectory related.root entry room
      refine ⟨{ kernel with ramfs := ⟨kernel.ramfs.nextIno + 1⟩ }, ?_, ?_, Nat.le_refl _, within⟩
      · simp only [sysMkdir, readable, RamFS.createDirectory, refused, bind, Except.bind,
          Files.mkdir, node]
        rfl
      · simp only [Files.mkdir, readable, node]
        exact related.bumpCounter (Nat.le_succ _)

/-- Every admissible call answers as the file API lets it, and keeps the
states related, taking at most one inode number. -/
theorem run (related : Abstracts kernel files) (call : Call) (admissible : call.Admissible files)
    (room : kernel.ramfs.nextIno < usizeMax) {count : Nat} (within : ModifiedWithin kernel count)
    (spare : count < u64Max) :
    ∃ reply next after, call.run kernel = .ok (reply, next) ∧ call.Spec files (reply, after) ∧
      Abstracts next after ∧ next.ramfs.nextIno ≤ kernel.ramfs.nextIno + 1 ∧
      ModifiedWithin next (count + 1) := by
  have more := within.mono (Nat.le_succ count)
  cases call with
  | write fd buf =>
      obtain ⟨next, written, result, counter, modifiedNext⟩ := related.write fd buf admissible within spare
      exact ⟨_, next, _, by simp only [Call.run, written, bind, Except.bind]; rfl, ⟨rfl, rfl⟩, result,
        by rw [counter]; exact Nat.le_succ _, modifiedNext⟩
  | read fd buf =>
      obtain ⟨buffer, next, readEq, filled, result, counter, modifiedNext⟩ := related.read fd buf more
      refine ⟨_, next, _, by simp only [Call.run, readEq, bind, Except.bind]; rfl, ?_, result,
        by rw [counter]; exact Nat.le_succ _, modifiedNext⟩
      simp only [Call.Spec, filled]
  | «open» path =>
      obtain ⟨fd, next, free, opened, result, counter, modifiedNext⟩ := related.open path admissible room more
      exact ⟨_, next, _, by simp only [Call.run, opened, bind, Except.bind]; rfl, ⟨fd, free, rfl, rfl⟩,
        result, counter, modifiedNext⟩
  | close fd =>
      obtain ⟨answer, result⟩ := related.dealloc fd
      refine ⟨_, _, _, rfl, ⟨?_, rfl⟩, result, Nat.le_succ _, more⟩
      rw [sysClose_eq, answer, Files.close]
      by_cases closing : 3 ≤ fd ∧ files.fds fd ≠ none
      · rw [if_pos closing, decide_eq_true closing, if_pos rfl]
      · rw [if_neg closing, decide_eq_false closing, if_neg Bool.false_ne_true]
  | mkdir path =>
      obtain ⟨next, made, result, counter, modifiedNext⟩ := related.mkdir path room more
      exact ⟨_, next, _, by simp only [Call.run, made, bind, Except.bind]; rfl, ⟨rfl, rfl⟩, result,
        counter, modifiedNext⟩

end Abstracts

/-! ## Runs of calls -/

/-- A sequence of calls on the kernel, stopped by the first panic. -/
def runCalls : List Call → Kernel → Except Panic (List Reply × Kernel)
  | [], kernel => pure ([], kernel)
  | call :: calls, kernel => do
      let (reply, kernel) ← call.run kernel
      let (replies, kernel) ← runCalls calls kernel
      pure (reply :: replies, kernel)

/-- The runs of the file API, each call answered as `Call.Spec` lets it. -/
inductive SpecRun : Files → List Call → List Reply → Files → Prop where
  | nil (files : Files) : SpecRun files [] [] files
  | cons {files middle final : Files} {call : Call} {calls : List Call} {reply : Reply}
      {replies : List Reply} :
      call.Spec files (reply, middle) → SpecRun middle calls replies final →
      SpecRun files (call :: calls) (reply :: replies) final

/-- Every run of the file API over `calls` from `files` makes only
admissible calls. -/
def AdmissibleRun : Files → List Call → Prop
  | _, [] => True
  | files, call :: calls =>
      call.Admissible files ∧ ∀ out, call.Spec files out → AdmissibleRun out.2 calls

/-- From related states, a sequence of admissible calls that leaves the
inode counter and every inode's modification counter room runs without a
panic and answers as a run of the file API, ending in related states. -/
theorem Abstracts.refinesRun {kernel : Kernel} {files : Files} (related : Abstracts kernel files)
    (calls : List Call) (room : kernel.ramfs.nextIno + calls.length ≤ usizeMax) {count : Nat}
    (within : ModifiedWithin kernel count) (spare : count + calls.length ≤ u64Max)
    (admissible : AdmissibleRun files calls) :
    ∃ replies next after, runCalls calls kernel = .ok (replies, next) ∧
      SpecRun files calls replies after ∧ Abstracts next after := by
  induction calls generalizing kernel files count with
  | nil => exact ⟨[], kernel, files, rfl, .nil files, related⟩
  | cons call calls induction =>
      obtain ⟨now, later⟩ := admissible
      simp only [List.length_cons] at room spare
      obtain ⟨reply, middle, after, ran, spec, relatedAfter, counter, modifiedAfter⟩ :=
        related.run call now (by omega) within (by omega)
      obtain ⟨replies, next, final, rest, specRun, relatedFinal⟩ :=
        induction relatedAfter (by omega) modifiedAfter (by omega) (later _ spec)
      exact ⟨reply :: replies, next, final,
        by simp only [runCalls, ran, rest, bind, Except.bind]; rfl, .cons spec specRun, relatedFinal⟩

/-- From boot, every sequence of fewer than `usize::MAX - 1` system calls
whose runs in the file API make only admissible calls runs on the kernel
without a panic; its answers, and the bytes each read leaves in its buffer,
are those of a run of the file API, and the kernel ends standing for that
run's files.  So an open answers with the least free descriptor from 3 on
and creates a missing name as an empty file, every descriptor on a name
shares its bytes while keeping an offset of its own, a path past 256 bytes
or not UTF-8 fails, and the serial line shows what the output streams
print. -/
theorem syscalls_refine_files (calls : List Call) (room : calls.length + 2 ≤ usizeMax)
    (admissible : AdmissibleRun Files.boot calls) :
    ∃ replies kernel files, runCalls calls Kernel.boot = .ok (replies, kernel) ∧
      SpecRun Files.boot calls replies files ∧ Abstracts kernel files :=
  abstracts_boot.refinesRun calls (by rw [Nat.add_comm]; exact room) modifiedWithin_boot
    (by rw [Nat.zero_add]; exact Nat.le_trans (Nat.le_add_right _ 2) room) admissible

/-- Opening `a` and writing `hi` through the descriptor the open gives. -/
theorem syscalls_refine_files_open_write :
    ∃ replies kernel files,
      runCalls [.open (some fun i => if i = 0 then 97 else 0),
        .write 3 (some ⟨[104, 105], by decide⟩)] Kernel.boot = .ok (replies, kernel) ∧
      SpecRun Files.boot [.open (some fun i => if i = 0 then 97 else 0),
        .write 3 (some ⟨[104, 105], by decide⟩)] replies files ∧ Abstracts kernel files := by
  have named : readPath (some fun i => if i = 0 then 97 else 0) = some "a" := by decide
  refine syscalls_refine_files _ (by decide) ⟨fun fd mapped => ?_,
    fun ⟨_, _⟩ ⟨fd, _, _, after⟩ => ⟨fun name offset stream => ?_, fun _ _ => trivial⟩⟩
  · have small : fd ≤ 2 := by
      by_contra big
      exact mapped (by simp only [Files.boot]; rw [if_neg, if_neg, if_neg] <;> omega)
    unfold isizeMax
    omega
  · rw [after] at stream
    simp only [Files.openAt, named, Files.boot, Function.update_apply] at stream
    split_ifs at stream <;> cases stream
    decide

end ErrorOS.Syscall
