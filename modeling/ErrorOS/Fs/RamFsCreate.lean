import ErrorOS.Fs.RamFs

/-!
# Creating files and directories

`create_file` and `create_directory` take a number from `alloc_ino` before
`add_entry` looks at the parent.  A creation fails when the parent is no
directory or already holds the name; it then leaves the parent's entries as
they were, but the number it took is gone: along any sequence of
creations from `RamFS::new`, on any parents, the call numbered `k` from 0
gets inode number `k + 2`, whether it succeeds or fails.  The inodes created
are numbered in increasing order, with a gap wherever a creation failed.
-/

namespace ErrorOS.Fs

namespace RamFS

variable {make : Nat → RamInode} {fs next : RamFS} {parent after : RamNode} {name : String}
  {result : Except FileError RamNode}

/-- A creation that returns has taken number `fs.nextIno`: `add_entry` either
refused it, leaving the parent as it was, or entered the new inode. -/
theorem create_ok (created : create make fs parent name = .ok (result, after, next)) :
    next.nextIno = fs.nextIno + 1 ∧
      ((∃ error, parent.addEntry name fs.nextIno = .error error ∧ result = .error error ∧
          after = parent) ∨
        (parent.addEntry name fs.nextIno = .ok after ∧
          result = .ok ⟨make fs.nextIno, fun _ => none⟩)) := by
  unfold create allocIno at created
  cases bounded : usizeAdd fs.nextIno 1 with
  | error panic => simp [bounded, bind, Except.bind] at created
  | ok sum =>
      obtain ⟨-, rfl⟩ := usizeAdd_eq_ok.mp bounded
      simp only [bind, Except.bind, bounded, pure, Except.pure] at created
      split at created <;> simp only [Except.ok.injEq, Prod.mk.injEq] at created
      · rename_i error entered
        obtain ⟨rfl, rfl, rfl⟩ := created
        exact ⟨rfl, Or.inl ⟨error, entered, rfl, rfl⟩⟩
      · rename_i added entered
        obtain ⟨rfl, rfl, rfl⟩ := created
        exact ⟨rfl, Or.inr ⟨entered, rfl⟩⟩

/-! ## Sequences of creations -/

/-- A sequence of `create_file` and `create_directory` calls from `RamFS::new`,
each on any parent and under any name, with what each call gave: the number
of the inode it created, or nothing when it failed. -/
inductive CreationRun : RamFS → List (Option Nat) → Prop where
  | new : CreationRun RamFS.new.1 []
  | createFile {fs next : RamFS} {calls : List (Option Nat)} {result : Except FileError RamNode}
      {after : RamNode} (parent : RamNode) (name : String) :
      CreationRun fs calls → fs.createFile parent name = .ok (result, after, next) →
      CreationRun next (calls ++ [result.toOption.map fun node => node.inode.ino])
  | createDirectory {fs next : RamFS} {calls : List (Option Nat)}
      {result : Except FileError RamNode} {after : RamNode} (parent : RamNode) (name : String) :
      CreationRun fs calls → fs.createDirectory parent name = .ok (result, after, next) →
      CreationRun next (calls ++ [result.toOption.map fun node => node.inode.ino])

theorem create_numbers {calls : List (Option Nat)} (numbered : ∀ ino, (make ino).ino = ino)
    (counted : fs.nextIno = calls.length + 2)
    (earlier : ∀ k ino, calls[k]? = some (some ino) → ino = k + 2)
    (created : create make fs parent name = .ok (result, after, next)) :
    next.nextIno = (calls ++ [result.toOption.map fun node => node.inode.ino]).length + 2 ∧
      ∀ k ino, (calls ++ [result.toOption.map fun node => node.inode.ino])[k]? = some (some ino) →
        ino = k + 2 := by
  obtain ⟨advanced, outcome⟩ := create_ok created
  have newNumber : ∀ ino, result.toOption.map (fun node => node.inode.ino) = some ino →
      ino = fs.nextIno := by
    rcases outcome with ⟨error, -, rfl, -⟩ | ⟨-, rfl⟩
    · simp [Except.toOption]
    · simp [Except.toOption, numbered, eq_comm]
  refine ⟨by simp only [advanced, counted, List.length_append, List.length_singleton],
    fun k ino found => ?_⟩
  rcases Nat.lt_trichotomy k calls.length with before | rfl | beyond
  · rw [List.getElem?_append_left before] at found
    exact earlier k ino found
  · rw [List.getElem?_concat_length] at found
    rw [newNumber ino (Option.some.inj found), counted]
  · rw [List.getElem?_eq_none (by simp only [List.length_append, List.length_singleton]; omega)]
      at found
    cases found

/-- Along every sequence of creations the call numbered `k` from 0 gets inode
number `k + 2`, failed calls included, and the counter stands at the number
of calls plus 2. -/
theorem CreationRun.numbers {calls : List (Option Nat)} (run : CreationRun fs calls) :
    fs.nextIno = calls.length + 2 ∧ ∀ k ino, calls[k]? = some (some ino) → ino = k + 2 := by
  induction run with
  | new => exact ⟨rfl, fun _ _ found => by simp at found⟩
  | createFile parent name _ created numbered =>
      exact create_numbers (fun _ => rfl) numbered.1 numbered.2 created
  | createDirectory parent name _ created numbered =>
      exact create_numbers (fun _ => rfl) numbered.1 numbered.2 created

/-- Creating `a` twice in the root and then `b`: the call that fails still
moves the counter from 3 to 4, so `b` becomes inode 4 and not 3. -/
theorem failed_create_takes_ino :
    ∃ root, RamFS.new.1.createFile RamFS.new.2 "a" =
        .ok (.ok ⟨RamInode.newFile 2, fun _ => none⟩, root, ⟨3⟩) ∧
      (⟨3⟩ : RamFS).createFile root "a" = .ok (.error .alreadyExists, root, ⟨4⟩) ∧
      ∃ after, (⟨4⟩ : RamFS).createFile root "b" =
        .ok (.ok ⟨RamInode.newFile 4, fun _ => none⟩, after, ⟨5⟩) :=
  ⟨_, rfl, rfl, _, rfl⟩

end RamFS

end ErrorOS.Fs
