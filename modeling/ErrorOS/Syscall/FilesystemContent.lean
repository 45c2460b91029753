import ErrorOS.Syscall.Impl
import ErrorOS.Fs.Inspector

/-!
# `init_filesystem_content` never returns

`init_filesystem_content` in `system_init.rs` fills the `RAMFS` that
`fs::init` set up: `/etc` with `passwd` and `hostname`,
`/home/user/README.txt`, `/tmp/test.log`, and `version` and `motd` in the
root.  Each file is written once, from offset 0, through the handle that
`open_file(..).unwrap()` gives, and the write's result is dropped.  A
creation that fails (`if let Ok`, or the `Err` arm of the match on `/etc`)
skips what depends on it.  Between the steps it shows the tree of the root,
first on entry, then after `/etc` and its files, and at the end the whole
dashboard, each through `get_root_entries`.

`get_root_entries` waits forever on the root's lock once the root has an
entry (`Fs.Inspector`).  So from any kernel whose root is a directory, the
function never returns (`init_filesystem_content_hangs`): with an entry in the
root it waits at the first tree, and otherwise it creates `/etc` and waits at
the second.  The printing and the delays are left out, and so are the entries
of the subdirectories, which nothing reads back.
-/

namespace ErrorOS.Fs.RamFS

theorem createFile_eq_create : createFile = create RamInode.newFile := rfl

theorem createDirectory_eq_create : createDirectory = create RamInode.newDirectory := rfl

end ErrorOS.Fs.RamFS

namespace ErrorOS.Syscall

open Fs

namespace Kernel

/-- `RAMFS.create_file(parent, name)` or `RAMFS.create_directory` (given as
`creating`): the new node when the parent took it, the parent after the
call, and the kernel with the counter moved on and the new inode in the
table. -/
def create (kernel : Kernel)
    (creating : RamFS → RamNode → String → Except Panic (Except FileError RamNode × RamNode × RamFS))
    (parent : RamNode) (name : String) : Except Panic (Option RamNode × RamNode × Kernel) := do
  let (result, parent, ramfs) ← creating kernel.ramfs parent name
  match result with
  | .ok node => pure (some node, parent, { kernel with ramfs }.setInode node.inode.ino node.inode)
  | .error _ => pure (none, parent, { kernel with ramfs })

/-- `RAMFS.open_file(node).unwrap()`, then `file.write(content).ok()`: the
bytes go into the inode through its `Arc`, and an error of the write is
dropped. -/
def writeContent (kernel : Kernel) (node : RamNode) (content : Bytes) : Except Panic Kernel :=
  match RamFS.openFile node.inode with
  | .error _ => throw (.expect "called Result::unwrap() on an Err value")
  | .ok file => do
      let (_, _, inode) ← file.write node.inode content
      pure (kernel.setInode node.inode.ino inode)

/-- `if let Ok(node) = RAMFS.create_file(parent, name)` around the write of
`content` into the new file; the parent after the call. -/
def createFileWith (kernel : Kernel) (parent : RamNode) (name : String) (content : Bytes) :
    Except Panic (RamNode × Kernel) := do
  match ← kernel.create RamFS.createFile parent name with
  | (none, parent, kernel) => pure (parent, kernel)
  | (some node, parent, kernel) => pure (parent, ← kernel.writeContent node content)

/-- `RAMFS.create_directory(root.clone(), name)`, with what is created
`inside` the new directory when there is one. -/
def createRootDirectory (kernel : Kernel) (name : String)
    (inside : Kernel → RamNode → Except Panic Kernel) : Except Panic Kernel := do
  match ← kernel.create RamFS.createDirectory kernel.root name with
  | (none, root, kernel) => pure { kernel with root }
  | (some directory, root, kernel) => inside { kernel with root } directory

end Kernel

/-- `b"root:x:0:0:root:/root:/bin/sh\n"`, written to `/etc/passwd`. -/
def passwdContent : Bytes := ⟨"root:x:0:0:root:/root:/bin/sh\n".toUTF8.data.toList, by decide⟩

/-- `b"error-os\n"`, written to `/etc/hostname`. -/
def hostnameContent : Bytes := ⟨"error-os\n".toUTF8.data.toList, by decide⟩

/-- `b"Welcome to Error OS!\n"`, written to `/home/user/README.txt`. -/
def readmeContent : Bytes := ⟨"Welcome to Error OS!\n".toUTF8.data.toList, by decide⟩

/-- `b"[INFO] System initialized\n"`, written to `/tmp/test.log`. -/
def testLogContent : Bytes := ⟨"[INFO] System initialized\n".toUTF8.data.toList, by decide⟩

/-- `b"Error OS v0.1.0\n"`, written to `/version`. -/
def versionContent : Bytes := ⟨"Error OS v0.1.0\n".toUTF8.data.toList, by decide⟩

/-- `b"Message of the Day: Welcome!\n"`, written to `/motd`. -/
def motdContent : Bytes := ⟨"Message of the Day: Welcome!\n".toUTF8.data.toList, by decide⟩

/-- The root names `init_filesystem_content` creates. -/
def contentNames : List String := ["etc", "home", "tmp", "version", "motd"]

/-- The names `list_entries` gives for the root while
`init_filesystem_content` runs, when `names` are the root's names on entry:
those of `names` and `contentNames` the root has by then. -/
def Kernel.rootNames (kernel : Kernel) (names : List String) : List String :=
  (names ∪ contentNames).filter fun name => (kernel.root.entries name).isSome

/-- `show_filesystem_tree` on the kernel's root. -/
def Kernel.showFilesystemTree (kernel : Kernel) (names : List String) (fuel : Nat) : Option Unit :=
  Fs.showFilesystemTree kernel.root (kernel.rootNames names) kernel.inodes fuel

/-- The `Ok` arm of step 1: `passwd` and `hostname` in the new `/etc`, then
the tree of the root; `none` when the tree still waits for the root's lock. -/
def etcFiles (names : List String) (fuel : Nat) (kernel : Kernel) (etcDir : RamNode) :
    Except Panic (Option Kernel) := do
  let (etcDir, kernel) ← kernel.createFileWith etcDir "passwd" passwdContent
  let (_, kernel) ← kernel.createFileWith etcDir "hostname" hostnameContent
  pure ((kernel.showFilesystemTree names fuel).map fun () => kernel)

/-- Step 1: `/etc`, and what `etcFiles` does in it. -/
def createEtc (names : List String) (fuel : Nat) (kernel : Kernel) : Except Panic (Option Kernel) := do
  match ← kernel.create RamFS.createDirectory kernel.root "etc" with
  | (none, root, kernel) => pure (some { kernel with root })
  | (some etcDir, root, kernel) => etcFiles names fuel { kernel with root } etcDir

/-- `/home`, `/home/user` and `/home/user/README.txt`. -/
def createHome (kernel : Kernel) : Except Panic Kernel :=
  kernel.createRootDirectory "home" fun kernel homeDir => do
    match ← kernel.create RamFS.createDirectory homeDir "user" with
    | (none, _, kernel) => pure kernel
    | (some userDir, _, kernel) =>
        let (_, kernel) ← kernel.createFileWith userDir "README.txt" readmeContent
        pure kernel

/-- `/tmp` and `/tmp/test.log`. -/
def createTmp (kernel : Kernel) : Except Panic Kernel :=
  kernel.createRootDirectory "tmp" fun kernel tmpDir => do
    let (_, kernel) ← kernel.createFileWith tmpDir "test.log" testLogContent
    pure kernel

/-- `init_filesystem_content`, with each `spin::Mutex::lock` of the
inspector polled at most `fuel` times, from a kernel whose root has the
entries `names`: `none` when an inspector still waits for the root's lock. -/
def initFilesystemContent (names : List String) (fuel : Nat) (kernel : Kernel) :
    Except Panic (Option Kernel) := do
  let some () := kernel.showFilesystemTree names fuel | pure none
  let some kernel ← createEtc names fuel kernel | pure none
  let kernel ← createHome kernel
  let kernel ← createTmp kernel
  let (root, kernel) ← kernel.createFileWith kernel.root "version" versionContent
  let kernel := { kernel with root }
  let (root, kernel) ← kernel.createFileWith kernel.root "motd" motdContent
  let kernel := { kernel with root }
  pure ((showFilesystemDashboard kernel.root (kernel.rootNames names) kernel.inodes fuel).map
    fun () => kernel)

namespace Kernel

variable {kernel : Kernel}

theorem rootNames_ne_nil {names : List String} {name : String} (member : name ∈ names ∪ contentNames)
    (named : (kernel.root.entries name).isSome) : kernel.rootNames names ≠ [] :=
  List.ne_nil_of_mem (List.mem_filter.mpr ⟨member, named⟩)

theorem rootNames_eq_nil (empty : ∀ name, kernel.root.entries name = none) (names : List String) :
    kernel.rootNames names = [] :=
  List.filter_eq_nil_iff.mpr fun name _ => by simp [empty name]

theorem create_eq (kernel : Kernel) (make : Nat → RamInode) (parent : RamNode) (name : String)
    (room : kernel.ramfs.nextIno + 1 ≤ usizeMax) :
    kernel.create (RamFS.create make) parent name =
      match parent.addEntry name kernel.ramfs.nextIno with
      | .error _ => .ok (none, parent, { kernel with ramfs := ⟨kernel.ramfs.nextIno + 1⟩ })
      | .ok parent => .ok (some ⟨make kernel.ramfs.nextIno, fun _ => none⟩, parent,
          { kernel with ramfs := ⟨kernel.ramfs.nextIno + 1⟩ }.setInode
            (make kernel.ramfs.nextIno).ino (make kernel.ramfs.nextIno)) := by
  cases added : parent.addEntry name kernel.ramfs.nextIno <;>
    simp only [create, RamFS.create, RamFS.allocIno, bind, Except.bind, usizeAdd_of_le room, pure,
      Except.pure, added]

theorem create_root (make : Nat → RamInode) {name : String}
    (directory : kernel.root.inode.fileType = .directory) (free : kernel.root.entries name = none)
    (room : kernel.ramfs.nextIno + 1 ≤ usizeMax) :
    kernel.create (RamFS.create make) kernel.root name =
      .ok (some ⟨make kernel.ramfs.nextIno, fun _ => none⟩,
        { kernel.root with
          entries := Function.update kernel.root.entries name (some kernel.ramfs.nextIno) },
        { kernel with ramfs := ⟨kernel.ramfs.nextIno + 1⟩ }.setInode
          (make kernel.ramfs.nextIno).ino (make kernel.ramfs.nextIno)) := by
  rw [create_eq kernel make _ name room, RamNode.addEntry, if_neg (not_not.mpr directory), free]
  rfl

theorem writeContent_newFile (kernel : Kernel) (ino : Nat) (content : Bytes) :
    ∃ inode, kernel.writeContent ⟨RamInode.newFile ino, fun _ => none⟩ content =
      .ok (kernel.setInode ino inode) := by
  obtain ⟨data, written, -⟩ :=
    @RamFile.write_of_regular RamFile.new (RamInode.newFile ino) rfl content
      (by simpa [RamFile.new] using content.length_le) (show 0 < u64Max by decide)
  have opened : RamFS.openFile (RamInode.newFile ino) = .ok RamFile.new := rfl
  exact ⟨_, by simp only [writeContent, opened, written, bind, Except.bind, pure, Except.pure]; rfl⟩

theorem createFileWith_ok (kernel : Kernel) (parent : RamNode) (name : String) (content : Bytes)
    (room : kernel.ramfs.nextIno + 1 ≤ usizeMax) :
    ∃ after next, kernel.createFileWith parent name content = .ok (after, next) ∧
      next.root = kernel.root ∧ next.ramfs.nextIno = kernel.ramfs.nextIno + 1 := by
  have creating := create_eq kernel RamInode.newFile parent name room
  rw [← RamFS.createFile_eq_create, show (RamInode.newFile kernel.ramfs.nextIno).ino =
    kernel.ramfs.nextIno from rfl] at creating
  cases added : parent.addEntry name kernel.ramfs.nextIno <;> rw [added] at creating
  · exact ⟨parent, _, by simp only [createFileWith, creating, bind, Except.bind]; rfl, by exact rfl,
      by exact rfl⟩
  · obtain ⟨inode, written⟩ := writeContent_newFile ({ kernel with
      ramfs := ⟨kernel.ramfs.nextIno + 1⟩ }.setInode kernel.ramfs.nextIno
        (RamInode.newFile kernel.ramfs.nextIno)) kernel.ramfs.nextIno content
    exact ⟨_, _, by simp only [createFileWith, creating, written, bind, Except.bind]; rfl, by exact rfl,
      by exact rfl⟩

end Kernel

theorem etcFiles_waits (names : List String) (fuel : Nat) (kernel : Kernel) (etcDir : RamNode)
    (directory : kernel.root.inode.fileType = .directory) (named : (kernel.root.entries "etc").isSome)
    (room : kernel.ramfs.nextIno + 2 ≤ usizeMax) : etcFiles names fuel kernel etcDir = .ok none := by
  obtain ⟨etcDir, middle, passwd, rootPasswd, counterPasswd⟩ :=
    Kernel.createFileWith_ok kernel etcDir "passwd" passwdContent (by omega)
  obtain ⟨_, next, hostname, rootHostname, -⟩ :=
    Kernel.createFileWith_ok middle etcDir "hostname" hostnameContent (by omega)
  have waiting : next.showFilesystemTree names fuel = none :=
    showFilesystemTree_of_ne_nil _ fuel (by rw [rootHostname, rootPasswd]; exact directory)
      (Kernel.rootNames_ne_nil (List.mem_union_right _ (List.mem_cons_self _ _))
        (by rw [rootHostname, rootPasswd]; exact named))
  simp only [etcFiles, passwd, hostname, waiting, bind, Except.bind, pure, Except.pure]
  rfl

/-- On a directory root without `etc`, step 1 creates `/etc` and its files
and then waits forever at the tree. -/
theorem createEtc_of_free {kernel : Kernel} (directory : kernel.root.inode.fileType = .directory)
    (free : kernel.root.entries "etc" = none) (room : kernel.ramfs.nextIno + 3 ≤ usizeMax)
    (names : List String) (fuel : Nat) : createEtc names fuel kernel = .ok none := by
  have creation := Kernel.create_root RamInode.newDirectory directory free (by omega)
  rw [← RamFS.createDirectory_eq_create] at creation
  simp only [createEtc, creation, bind, Except.bind]
  exact etcFiles_waits names fuel _ _ directory (by simp) (by simp only [Kernel.setInode]; omega)

/-- From any kernel whose root is a directory with the entries `names` and
whose inode counter has room for three more numbers,
`init_filesystem_content` never returns: whatever the fuel, it is still
waiting for the root's lock inside `get_root_entries`, at the first tree when
the root has an entry and at the tree after `/etc` otherwise. -/
theorem init_filesystem_content_hangs (kernel : Kernel) (names : List String)
    (directory : kernel.root.inode.fileType = .directory) (listed : kernel.root.Lists names)
    (room : kernel.ramfs.nextIno + 3 ≤ usizeMax) (fuel : Nat) :
    initFilesystemContent names fuel kernel = .ok none := by
  cases names with
  | cons name rest =>
      have waiting : kernel.showFilesystemTree (name :: rest) fuel = none :=
        showFilesystemTree_of_ne_nil _ fuel directory (Kernel.rootNames_ne_nil
          (List.mem_union_left (List.mem_cons_self _ _) _) ((listed name).mpr (List.mem_cons_self _ _)))
      simp only [initFilesystemContent, waiting]
      rfl
  | nil =>
      have empty : ∀ name, kernel.root.entries name = none := fun name =>
        Option.not_isSome_iff_eq_none.mp fun named => List.not_mem_nil name ((listed name).mp named)
      cases fuel with
      | zero => rfl
      | succ fuel =>
          have shown : kernel.showFilesystemTree [] (fuel + 1) = some () := by
            rw [Kernel.showFilesystemTree, Kernel.rootNames_eq_nil empty]
            exact showFilesystemTree_nil _ fuel
          simp only [initFilesystemContent, shown, createEtc_of_free directory (empty "etc") room,
            bind, Except.bind, pure, Except.pure]

/-- From boot, with a thousand polls for each lock. -/
theorem init_filesystem_content_hangs_boot :
    Kernel.boot.root.inode.fileType = .directory ∧ Kernel.boot.root.Lists [] ∧
      Kernel.boot.ramfs.nextIno + 3 ≤ usizeMax ∧ initFilesystemContent [] 1000 Kernel.boot = .ok none :=
  ⟨rfl, fun _ => by simp [Kernel.boot, RamFS.new], by decide,
    init_filesystem_content_hangs Kernel.boot [] rfl (fun _ => by simp [Kernel.boot, RamFS.new])
      (by decide) 1000⟩

end ErrorOS.Syscall
