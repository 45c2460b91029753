import ErrorOS.Fs.RamFs
import Mathlib.Logic.Function.Basic

/-!
# Looking up, removing and opening

The rest of a directory's interface in `ramfs.rs`: `lookup` and
`remove_entry` on a locked inode, `RamFS::lookup` and `RamFS::remove` that
lock the parent for them, and `open_file`, which hands out a handle at offset
0 on a regular file and refuses anything else.  A creation under a free name
enters the new inode under it; under a taken one it fails, and the inode
counter still moves on.
-/

namespace ErrorOS.Fs

namespace RamNode

/-- `RamInode::lookup`: the inode an entry names, by number. -/
def lookup (node : RamNode) (name : String) : Except FileError Nat :=
  if node.inode.fileType ≠ .directory then .error .notDirectory
  else match node.entries name with
    | some ino => .ok ino
    | none => .error .notFound

/-- `RamInode::remove_entry`. -/
def removeEntry (node : RamNode) (name : String) : Except FileError RamNode :=
  if node.inode.fileType ≠ .directory then .error .notDirectory
  else match node.entries name with
    | some _ => .ok { node with entries := Function.update node.entries name none }
    | none => .error .notFound

variable {node next : RamNode} {name : String}

theorem lookup_of_directory (name : String) (directory : node.inode.fileType = .directory) :
    node.lookup name = match node.entries name with
      | some ino => .ok ino
      | none => .error .notFound := by
  rw [lookup, if_neg (not_not.mpr directory)]

end RamNode

namespace RamFS

/-- `RamFS::lookup`: `lookup` on the locked parent. -/
def lookup (parent : RamNode) (name : String) : Except FileError Nat := parent.lookup name

/-- `RamFS::remove`: `remove_entry` on the locked parent. -/
def remove (parent : RamNode) (name : String) : Except FileError RamNode := parent.removeEntry name

/-- `RamFS::open_file`: a handle at offset 0, on a regular file only. -/
def openFile (inode : RamInode) : Except FileError RamFile :=
  if inode.fileType ≠ .regularFile then .error .isDirectory else .ok RamFile.new

theorem openFile_eq_ok {inode : RamInode} {file : RamFile} :
    openFile inode = .ok file ↔ inode.fileType = .regularFile ∧ file = RamFile.new := by
  unfold openFile
  split_ifs with notRegular
  · exact ⟨fun opened => (nomatch opened), fun ⟨regular, _⟩ => absurd regular notRegular⟩
  · exact ⟨fun opened => ⟨not_not.mp notRegular, (Except.ok.inj opened).symm⟩,
      fun ⟨_, same⟩ => same ▸ rfl⟩

variable (make : Nat → RamInode) {fs : RamFS} {parent : RamNode} {name : String}

/-- A creation under a name the directory does not hold enters the new
inode under it. -/
theorem create_of_absent (directory : parent.inode.fileType = .directory)
    (absent : parent.entries name = none) (room : fs.nextIno + 1 ≤ usizeMax) :
    create make fs parent name =
      .ok (.ok ⟨make fs.nextIno, fun _ => none⟩,
        { parent with entries := Function.update parent.entries name (some fs.nextIno) },
        ⟨fs.nextIno + 1⟩) := by
  have added : parent.addEntry name fs.nextIno =
      .ok { parent with entries := Function.update parent.entries name (some fs.nextIno) } := by
    rw [RamNode.addEntry, if_neg (not_not.mpr directory), absent]
    rfl
  simp only [create, allocIno, bind, Except.bind, usizeAdd_of_le room, pure, Except.pure, added]

theorem create_of_present (directory : parent.inode.fileType = .directory) {ino : Nat}
    (present : parent.entries name = some ino) (room : fs.nextIno + 1 ≤ usizeMax) :
    create make fs parent name = .ok (.error .alreadyExists, parent, ⟨fs.nextIno + 1⟩) := by
  have refused : parent.addEntry name fs.nextIno = .error .alreadyExists := by
    rw [RamNode.addEntry, if_neg (not_not.mpr directory), present]
    rfl
  simp only [create, allocIno, bind, Except.bind, usizeAdd_of_le room, pure, Except.pure, refused]

end RamFS

end ErrorOS.Fs
