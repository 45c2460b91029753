import ErrorOS.Fs.Directory

/-!
# The filesystem inspector

`fs/inspector.rs` takes snapshots of the root directory for the views that
`init_filesystem_content` prints.  `get_root_entries` lists the root's names
and looks each one up:

    if let Ok(entry_names) = root.lock().list_entries() {
        for name in entry_names {
            if let Ok(inode) = root.lock().lookup(&name) {

The guard that the first `root.lock()` returns is a temporary of the
`if let` scrutinee, so it lives through the whole body, and the second
`root.lock()` waits on a lock its own caller holds.  `spin::Mutex::lock`
polls until the lock is free; on the one hart nothing frees it, so the call
never returns once the root has an entry.  `spinLock` counts the polls with
fuel: `getRootEntries_of_ne_nil` says that for every fuel the call is still
waiting, and `getRootEntries_nil` that with no names it returns at once.

`RamNode` keeps its entries as a map, whose keys the model cannot list, so
the names `list_entries` gives are passed in.  The printing is left out; so
are the descriptor-table views, which take the free `FD_TABLE` lock and
print.
-/

namespace ErrorOS.Fs

/-- `spin::Mutex::lock`, polled at most `fuel` times: a free lock is taken at
the first poll, and a held one is polled again.  `none` is a call still
waiting when the fuel runs out. -/
def spinLock (held : Bool) : Nat → Option Unit
  | 0 => none
  | fuel + 1 => if held then spinLock held fuel else some ()

theorem spinLock_held (fuel : Nat) : spinLock true fuel = none := by
  induction fuel with
  | zero => rfl
  | succ fuel waiting => simpa only [spinLock, if_true] using waiting

/-- `EntrySnapshot`: what `get_root_entries` records of a root entry. -/
structure EntrySnapshot where
  name : String
  ino : Nat
  fileType : FileType
  size : Nat

/-- `RamInode::list_entries`: the names of a directory's entries, given as
`names` in the map's order. -/
def RamNode.listEntries (node : RamNode) (names : List String) : Except FileError (List String) :=
  if node.inode.fileType ≠ .directory then .error .notDirectory else .ok names

/-- `names` lists exactly the names `node` has entries for. -/
def RamNode.Lists (node : RamNode) (names : List String) : Prop :=
  ∀ name, (node.entries name).isSome ↔ name ∈ names

/-- `get_root_entries`: under the guard of a first `root.lock()`, the root's
names are listed, and for each the root is locked again, the name looked up
and the inode's number, type and size recorded.  `inodes` resolves an
entry's number to its inode, as the `Arc` in the entry does. -/
def getRootEntries (root : RamNode) (names : List String) (inodes : Nat → Option RamInode)
    (fuel : Nat) : Option (List EntrySnapshot) := do
  spinLock false fuel
  match root.listEntries names with
  | .error _ => pure []
  | .ok entryNames =>
      entryNames.foldlM (fun entries name => do
          spinLock true fuel
          match root.lookup name with
          | .error _ => pure entries
          | .ok ino =>
              spinLock false fuel
              match inodes ino with
              | none => pure entries
              | some inode => pure (entries ++ [⟨name, inode.ino, inode.fileType, inode.size⟩]))
        []

/-- `show_file_list`: the snapshots of `get_root_entries`, printed. -/
def showFileList (root : RamNode) (names : List String) (inodes : Nat → Option RamInode)
    (fuel : Nat) : Option Unit := do
  let _entries ← getRootEntries root names inodes fuel

/-- `show_filesystem_tree`: the snapshots of `get_root_entries`, and for each
directory among them the root locked to look it up and the directory locked
to list its names. -/
def showFilesystemTree (root : RamNode) (names : List String) (inodes : Nat → Option RamInode)
    (fuel : Nat) : Option Unit := do
  let entries ← getRootEntries root names inodes fuel
  entries.forM fun entry =>
    if entry.fileType = .directory then do
      spinLock false fuel
      match root.lookup entry.name with
      | .error _ => pure ()
      | .ok _ => spinLock false fuel
    else pure ()

/-- `show_filesystem_dashboard`: the descriptor-table views, then
`show_file_list` and `show_filesystem_tree`. -/
def showFilesystemDashboard (root : RamNode) (names : List String)
    (inodes : Nat → Option RamInode) (fuel : Nat) : Option Unit := do
  showFileList root names inodes fuel
  showFilesystemTree root names inodes fuel

section

variable {root : RamNode} {names : List String} (inodes : Nat → Option RamInode) (fuel : Nat)

theorem getRootEntries_of_ne_nil (directory : root.inode.fileType = .directory)
    (nonempty : names ≠ []) : getRootEntries root names inodes fuel = none := by
  obtain ⟨name, rest, rfl⟩ := List.exists_cons_of_ne_nil nonempty
  cases fuel with
  | zero => rfl
  | succ fuel =>
      simp only [getRootEntries, spinLock, RamNode.listEntries, directory, List.foldlM_cons,
        spinLock_held]
      rfl

theorem getRootEntries_nil : getRootEntries root [] inodes (fuel + 1) = some [] := by
  unfold getRootEntries RamNode.listEntries
  split_ifs <;> rfl

theorem showFilesystemTree_of_ne_nil (directory : root.inode.fileType = .directory)
    (nonempty : names ≠ []) : showFilesystemTree root names inodes fuel = none := by
  rw [showFilesystemTree, getRootEntries_of_ne_nil inodes fuel directory nonempty]
  rfl

theorem showFilesystemTree_nil : showFilesystemTree root [] inodes (fuel + 1) = some () := by
  rw [showFilesystemTree, getRootEntries_nil]
  rfl

end

end ErrorOS.Fs
