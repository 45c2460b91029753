import ErrorOS.Fs.File

/-!
# Files of the RAM file system

`ramfs.rs` keeps a regular file's bytes in its inode and a read/write offset
in each open handle; any number of handles share one inode behind its
`Arc<Mutex<RamInode>>`.  The model passes the locked inode to each handle
operation and returns it updated.  An operation's `Err` is a value; a panic
of the debug build (overflowing arithmetic, an out-of-range slice, a `Vec`
past `isize::MAX` bytes) is the `Panic` of the outer `Except`.  Every write
and truncation adds one to the `u64` counter `modified`, which panics at
`u64::MAX`; `mode`, `created` and `nlinks` are set by the constructors and
read by nothing the model covers, so they are left out.

Directories keep their entries in a map from names to inode handles, and
`RamFS` numbers the inodes it creates from a counter.  Creating a file or a
directory locks only the counter and the parent, so the model passes the
parent, like a handle's inode, and returns it updated; an entry names the
inode it points to by that inode's number.
-/

namespace ErrorOS.Fs

/-- `RamInode`, with the fields the file operations read or write. -/
structure RamInode where
  ino : Nat
  fileType : FileType
  size : Nat
  modified : Nat
  data : Bytes

namespace RamInode

/-- `RamInode::new_file`. -/
def newFile (ino : Nat) : RamInode :=
  ⟨ino, .regularFile, 0, 0, ⟨[], Nat.zero_le _⟩⟩

/-- `RamInode::read_at`: the bytes from `offset` on, as many as `buf` holds,
copied to its front; nothing at or past the end. -/
def readAt (inode : RamInode) (offset : Nat) (buf : Bytes) :
    Except Panic (Except FileError (Nat × Bytes)) :=
  if inode.fileType ≠ .regularFile then pure (.error .isDirectory)
  else if offset ≥ inode.data.length then pure (.ok (0, buf))
  else do
    let stop := min (← usizeAdd offset buf.length) inode.data.length
    let n ← usizeSub stop offset
    let filled ← buf.copyFromSlice 0 (← inode.data.slice offset stop)
    pure (.ok (n, filled))

/-- `RamInode::write_at`: the data grows with zeros to `offset + buf.len()`
when it is shorter, then `buf` is copied to `offset` and `modified` counts
the write. -/
def writeAt (inode : RamInode) (offset : Nat) (buf : Bytes) :
    Except Panic (Except FileError Nat × RamInode) :=
  if inode.fileType ≠ .regularFile then pure (.error .isDirectory, inode)
  else do
    let stop ← usizeAdd offset buf.length
    let grown ← if stop > inode.data.length then inode.data.resize stop 0 else pure inode.data
    let data ← grown.copyFromSlice offset buf.toList
    let modified ← u64Add inode.modified 1
    pure (.ok buf.length, { inode with data, size := data.length, modified })

/-- `RamInode::truncate`: the data is cut or grown with zeros to `size`, and
`modified` counts the change. -/
def truncate (inode : RamInode) (size : Nat) : Except Panic (Except FileError Unit × RamInode) :=
  if inode.fileType ≠ .regularFile then pure (.error .isDirectory, inode)
  else do
    let data ← inode.data.resize size 0
    let modified ← u64Add inode.modified 1
    pure (.ok (), { inode with data, size, modified })

end RamInode

/-- `RamFile`: an open handle's offset; its inode is passed with it. -/
structure RamFile where
  offset : Nat

/-- The offset `seek` computes from a base and an `isize` delta: a
non-negative delta is added, and the magnitude `(-delta) as usize` of a
negative one is subtracted, saturating at 0. -/
def seekFrom (base : Nat) (delta : Isize) : Except Panic Nat :=
  if 0 ≤ delta.val then usizeAdd base delta.val.toNat
  else do
    let magnitude ← isizeNeg delta.val
    pure (base - magnitude.toNat)

namespace RamFile

/-- `RamFile::new`. -/
def new : RamFile := ⟨0⟩

/-- `File::read`: `read_at` from the offset, which then advances. -/
def read (file : RamFile) (inode : RamInode) (buf : Bytes) :
    Except Panic (Except FileError (Nat × Bytes) × RamFile) := do
  match ← inode.readAt file.offset buf with
  | .error error => pure (.error error, file)
  | .ok (n, filled) => pure (.ok (n, filled), ⟨← usizeAdd file.offset n⟩)

/-- `File::write`: `write_at` at the offset, which then advances. -/
def write (file : RamFile) (inode : RamInode) (buf : Bytes) :
    Except Panic (Except FileError Nat × RamFile × RamInode) := do
  let (result, inode) ← inode.writeAt file.offset buf
  match result with
  | .error error => pure (.error error, file, inode)
  | .ok n => pure (.ok n, ⟨← usizeAdd file.offset n⟩, inode)

/-- `File::seek`, measured from the start, the offset or the inode's size. -/
def seek (file : RamFile) (inode : RamInode) (pos : SeekFrom) :
    Except Panic (Except FileError Nat × RamFile) := do
  let size := inode.size
  let newOffset ← match pos with
    | .start offset => pure offset.val
    | .current delta => seekFrom file.offset delta
    | .«end» delta => seekFrom size delta
  pure (.ok newOffset, ⟨newOffset⟩)

/-- `File::size`. -/
def size (inode : RamInode) : Except FileError Nat := .ok inode.size

end RamFile

/-! ## Directories and inode numbers -/

/-- `RamInode::new_directory`. -/
def RamInode.newDirectory (ino : Nat) : RamInode :=
  ⟨ino, .directory, 0, 0, ⟨[], Nat.zero_le _⟩⟩

/-- A `RamInode` with its `entries`, which only a directory fills: each name
maps to the inode its `Arc` points to, given by that inode's number. -/
structure RamNode where
  inode : RamInode
  entries : String → Option Nat

/-- `RamInode::add_entry`: only a directory takes entries, and each name once. -/
def RamNode.addEntry (node : RamNode) (name : String) (ino : Nat) : Except FileError RamNode :=
  if node.inode.fileType ≠ .directory then .error .notDirectory
  else if (node.entries name).isSome then .error .alreadyExists
  else .ok { node with entries := Function.update node.entries name (some ino) }

/-- `RamFS`: the number `alloc_ino` issues next.  Its root is a handle like
any other, passed with the call that locks it. -/
structure RamFS where
  nextIno : Nat

namespace RamFS

/-- `RamFS::new`: the root directory is inode 1, and numbering goes on from 2. -/
def new : RamFS × RamNode := (⟨2⟩, ⟨RamInode.newDirectory 1, fun _ => none⟩)

/-- `alloc_ino`: the next number, with `*next += 1` checked as in a debug
build. -/
def allocIno (fs : RamFS) : Except Panic (Nat × RamFS) := do
  let next ← usizeAdd fs.nextIno 1
  pure (fs.nextIno, ⟨next⟩)

/-- The body of `create_file` and `create_directory`: a number is allocated,
then `make` builds the inode and `add_entry` enters it in the parent under
`name`.  Returns the new inode, the parent after the call and the counter. -/
def create (make : Nat → RamInode) (fs : RamFS) (parent : RamNode) (name : String) :
    Except Panic (Except FileError RamNode × RamNode × RamFS) := do
  let (ino, fs) ← fs.allocIno
  match parent.addEntry name ino with
  | .error error => pure (.error error, parent, fs)
  | .ok parent => pure (.ok ⟨make ino, fun _ => none⟩, parent, fs)

/-- `RamFS::create_file`. -/
def createFile (fs : RamFS) (parent : RamNode) (name : String) :
    Except Panic (Except FileError RamNode × RamNode × RamFS) :=
  create RamInode.newFile fs parent name

/-- `RamFS::create_directory`. -/
def createDirectory (fs : RamFS) (parent : RamNode) (name : String) :
    Except Panic (Except FileError RamNode × RamNode × RamFS) :=
  create RamInode.newDirectory fs parent name

end RamFS

end ErrorOS.Fs
