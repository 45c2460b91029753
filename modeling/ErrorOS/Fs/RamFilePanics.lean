import ErrorOS.Fs.RamFileSpec

/-!
# Where the file calls panic

On a regular inode the calls of a `RamFile` return `Ok` or `Err` except in a
few places, none of them a slice index.  `write` panics once it would end
past `isize::MAX` bytes: at `offset + buf.len()` when that passes
`usize::MAX`, and otherwise in `Vec::resize`.  `seek` panics when
`offset + delta` passes `usize::MAX` and when it negates `isize::MIN`; from
the end only the second can happen, as no file holds more than `isize::MAX`
bytes.  `truncate` panics past `isize::MAX` bytes.  A write or a truncation
that fits panics when `modified` is already at `u64::MAX`, and `read` never
panics.  `FileOperation.Panics` lists these cases and
`file_calls_panic_only_on_overflow` shows that they are exactly the panics of
the code.  Every state reachable from `open_file` is valid, so this holds
along every run.
-/

namespace ErrorOS.Fs

open RamInode SharedFile

/-- The panics of a call, read off the reference state and the inode's
`modified` counter. -/
def FileOperation.Panics : FileOperation → FileContents → Nat → Panic → Prop
  | .read _ _, _, _, _ => False
  | .write handle buf, contents, modified, panic =>
      (panic = .arithmeticOverflow ∧ usizeMax < contents.offsets handle + buf.toList.length) ∨
        (panic = .capacityOverflow ∧ isizeMax < contents.offsets handle + buf.toList.length ∧
          contents.offsets handle + buf.toList.length ≤ usizeMax) ∨
        (panic = .arithmeticOverflow ∧ contents.offsets handle + buf.toList.length ≤ isizeMax ∧
          u64Max ≤ modified)
  | .seek handle pos, contents, _, panic =>
      panic = .arithmeticOverflow ∧ SeekOverflows (contents.offsets handle) contents.data.length pos
  | .truncate size, _, modified, panic =>
      (panic = .capacityOverflow ∧ isizeMax < size) ∨
        (panic = .arithmeticOverflow ∧ size ≤ isizeMax ∧ u64Max ≤ modified)

/-! ## The panicking branches -/

section Regular

variable {inode : RamInode} {offset : Nat} {buf : Bytes}

theorem writeAt_of_usizeMax_lt (regular : inode.fileType = .regularFile)
    (overflow : usizeMax < offset + buf.toList.length) :
    inode.writeAt offset buf = .error .arithmeticOverflow := by
  unfold writeAt Bytes.length
  rw [if_neg (not_not.mpr regular), usizeAdd_of_lt overflow]
  rfl

theorem writeAt_of_isizeMax_lt (regular : inode.fileType = .regularFile)
    (wide : isizeMax < offset + buf.toList.length)
    (bounded : offset + buf.toList.length ≤ usizeMax) :
    inode.writeAt offset buf = .error .capacityOverflow := by
  have short := inode.data.length_le
  unfold writeAt Bytes.length
  rw [if_neg (not_not.mpr regular), usizeAdd_of_le bounded]
  simp only [bind, Except.bind]
  rw [if_pos (by omega), Bytes.resize_of_lt wide]

theorem truncate_of_isizeMax_lt (regular : inode.fileType = .regularFile) {size : Nat}
    (wide : isizeMax < size) : inode.truncate size = .error .capacityOverflow := by
  unfold RamInode.truncate
  rw [if_neg (not_not.mpr regular)]
  simp only [bind, Except.bind]
  rw [Bytes.resize_of_lt wide]

theorem writeAt_of_modified_max (regular : inode.fileType = .regularFile)
    (bounded : offset + buf.toList.length ≤ isizeMax) (full : u64Max ≤ inode.modified) :
    inode.writeAt offset buf = .error .arithmeticOverflow := by
  obtain ⟨data, written, -⟩ := writeAt_eq_of_le regular bounded
  rw [written, u64Add_one_of_le full]
  rfl

theorem truncate_of_modified_max (regular : inode.fileType = .regularFile) {size : Nat}
    (bounded : size ≤ isizeMax) (full : u64Max ≤ inode.modified) :
    inode.truncate size = .error .arithmeticOverflow := by
  obtain ⟨data, truncateEq, -⟩ := truncate_eq_of_le regular bounded
  rw [truncateEq, u64Add_one_of_le full]
  rfl

end Regular

theorem seekFrom_of_overflows {base : Nat} {delta : Isize}
    (overflows : DeltaOverflows base delta) : seekFrom base delta = .error .arithmeticOverflow := by
  unfold seekFrom
  rcases overflows with minimal | ⟨nonneg, overflow⟩
  · rw [if_neg (by rw [minimal]; decide), minimal, isizeNeg_isizeMin]
    rfl
  · rw [if_pos nonneg, usizeAdd_of_lt overflow]

theorem RamFile.seek_of_overflows {file : RamFile} {inode : RamInode} {pos : SeekFrom}
    (overflows : SeekOverflows file.offset inode.size pos) :
    file.seek inode pos = .error .arithmeticOverflow := by
  cases pos with
  | start target => exact overflows.elim
  | current delta | «end» delta =>
      simp only [RamFile.seek, bind, Except.bind, seekFrom_of_overflows overflows]

/-! ## Exactly the listed panics -/

theorem FileOperation.run_of_panics {shared : SharedFile} (valid : shared.Valid)
    {operation : FileOperation} {panic : Panic}
    (panics : operation.Panics shared.contents shared.inode.modified panic) :
    operation.run shared = .error panic := by
  cases operation with
  | read handle buf => exact panics.elim
  | write handle buf =>
      rcases panics with ⟨rfl, overflow⟩ | ⟨rfl, wide, bounded⟩ | ⟨rfl, bounded, full⟩
      · have failed := writeAt_of_usizeMax_lt valid.regular
          (show usizeMax < (shared.files handle).offset + buf.toList.length from overflow)
        simp only [run, RamFile.write, bind, Except.bind, failed]
      · have failed := writeAt_of_isizeMax_lt valid.regular
          (show isizeMax < (shared.files handle).offset + buf.toList.length from wide) bounded
        simp only [run, RamFile.write, bind, Except.bind, failed]
      · have failed := writeAt_of_modified_max valid.regular
          (show (shared.files handle).offset + buf.toList.length ≤ isizeMax from bounded) full
        simp only [run, RamFile.write, bind, Except.bind, failed]
  | seek handle pos =>
      obtain ⟨rfl, overflows⟩ := panics
      have failed := RamFile.seek_of_overflows
        (show SeekOverflows (shared.files handle).offset shared.inode.size pos by
          rw [valid.size_eq]
          exact overflows)
      simp only [run, bind, Except.bind, failed]
  | truncate size =>
      rcases panics with ⟨rfl, wide⟩ | ⟨rfl, bounded, full⟩
      · simp only [run, bind, Except.bind, truncate_of_isizeMax_lt valid.regular wide]
      · simp only [run, bind, Except.bind, truncate_of_modified_max valid.regular bounded full]

theorem FileOperation.admissible_or_panics (operation : FileOperation) (contents : FileContents)
    (modified : Nat) :
    (operation.Admissible contents ∧ (operation.modifies → modified < u64Max)) ∨
      ∃ panic, operation.Panics contents modified panic := by
  cases operation with
  | read handle buf => exact Or.inl ⟨trivial, nofun⟩
  | write handle buf =>
      by_cases fits : contents.offsets handle + buf.toList.length ≤ isizeMax
      · by_cases full : u64Max ≤ modified
        · exact Or.inr ⟨_, Or.inr (Or.inr ⟨rfl, fits, full⟩)⟩
        · exact Or.inl ⟨fits, fun _ => Nat.lt_of_not_le full⟩
      by_cases bounded : contents.offsets handle + buf.toList.length ≤ usizeMax
      · exact Or.inr ⟨_, Or.inr (Or.inl ⟨rfl, Nat.lt_of_not_le fits, bounded⟩)⟩
      · exact Or.inr ⟨_, Or.inl ⟨rfl, Nat.lt_of_not_le bounded⟩⟩
  | seek handle pos =>
      by_cases overflows : SeekOverflows (contents.offsets handle) contents.data.length pos
      · exact Or.inr ⟨_, rfl, overflows⟩
      · exact Or.inl ⟨overflows, nofun⟩
  | truncate size =>
      by_cases fits : size ≤ isizeMax
      · by_cases full : u64Max ≤ modified
        · exact Or.inr ⟨_, Or.inr ⟨rfl, fits, full⟩⟩
        · exact Or.inl ⟨fits, fun _ => Nat.lt_of_not_le full⟩
      · exact Or.inr ⟨_, Or.inl ⟨rfl, Nat.lt_of_not_le fits⟩⟩

/-- From a valid state, a call of `read`, `write`, `seek` or `truncate`
panics exactly as `Panics` lists: never at a slice index, never in `read`,
and otherwise only where `usize` arithmetic overflows, the data would pass
`isize::MAX` bytes, or `modified` would pass `u64::MAX`. -/
theorem file_calls_panic_only_on_overflow {shared : SharedFile} (valid : shared.Valid)
    (operation : FileOperation) (panic : Panic) :
    operation.run shared = .error panic ↔
      operation.Panics shared.contents shared.inode.modified panic := by
  refine ⟨fun failed => ?_, FileOperation.run_of_panics valid⟩
  rcases operation.admissible_or_panics shared.contents shared.inode.modified with
    ⟨admissible, counted⟩ | ⟨listed, panics⟩
  · obtain ⟨_, succeeded, -⟩ := operation.run_refines valid admissible counted
    rw [succeeded] at failed
    cases failed
  · rw [FileOperation.run_of_panics valid panics] at failed
    cases failed
    exact panics

theorem file_calls_panic_only_on_overflow_seek :
    (FileOperation.seek 0 (.current ⟨isizeMin, Int.le_refl _, by decide⟩)).run (opened 0) =
        .error .arithmeticOverflow ↔
      (FileOperation.seek 0 (.current ⟨isizeMin, Int.le_refl _, by decide⟩)).Panics
        (opened 0).contents (opened 0).inode.modified .arithmeticOverflow :=
  file_calls_panic_only_on_overflow (opened_valid 0) _ _

/-! ## Runs from `open_file` -/

/-- The states reachable from a freshly opened file by calls that return. -/
inductive SharedRun : SharedFile → Prop where
  | opened (ino : Nat) : SharedRun (opened ino)
  | step {shared next : SharedFile} {reply : Except FileError Reply}
      (operation : FileOperation) :
      SharedRun shared → operation.run shared = .ok (reply, next) → SharedRun next

/-- Every reachable state is valid: a call that returns was admissible. -/
theorem SharedRun.valid {shared : SharedFile} (run : SharedRun shared) : shared.Valid := by
  induction run with
  | opened ino => exact opened_valid ino
  | step operation _ returned valid =>
      rcases operation.admissible_or_panics _ _ with ⟨admissible, counted⟩ | ⟨panic, panics⟩
      · obtain ⟨next, succeeded, nextValid, -⟩ := operation.run_refines valid admissible counted
        rw [succeeded] at returned
        obtain ⟨-, rfl⟩ := Prod.mk.inj (Except.ok.inj returned)
        exact nextValid
      · rw [FileOperation.run_of_panics valid panics] at returned
        cases returned

/-- After `seek(Start(isize::MAX))`, a one-byte write stays far below
`usize::MAX` but panics in `Vec::resize` instead of returning `Ok(1)`. -/
theorem write_past_isizeMax_panics :
    ¬ ∀ shared, SharedRun shared → ∀ (handle : Nat) (buf : Bytes),
      (shared.files handle).offset + buf.toList.length ≤ usizeMax →
      ∃ next, (FileOperation.write handle buf).run shared =
        .ok (.ok (.written buf.toList.length), next) := by
  intro returns
  have sought : SharedRun ⟨newFile 0, Function.update (fun _ => RamFile.new) 0 ⟨isizeMax⟩⟩ :=
    .step (.seek 0 (.start ⟨isizeMax, by decide⟩)) (.opened 0) rfl
  obtain ⟨next, written⟩ := returns _ sought 0 ⟨[0], by decide⟩ (by decide)
  have failed : (FileOperation.write 0 ⟨[0], by decide⟩).run
      ⟨newFile 0, Function.update (fun _ => RamFile.new) 0 ⟨isizeMax⟩⟩ =
        .error .capacityOverflow := rfl
  rw [failed] at written
  cases written

/-- `seek(Current(isize::MIN))` on a freshly opened file negates `isize::MIN`
and panics. -/
theorem seek_isizeMin_panics :
    ¬ ∀ shared, SharedRun shared → ∀ (handle : Nat) (pos : SeekFrom),
      ∃ result, (FileOperation.seek handle pos).run shared = .ok result := by
  intro returns
  obtain ⟨result, sought⟩ :=
    returns _ (.opened 0) 0 (.current ⟨isizeMin, Int.le_refl _, by decide⟩)
  have failed : (FileOperation.seek 0 (.current ⟨isizeMin, Int.le_refl _, by decide⟩)).run
      (opened 0) = .error .arithmeticOverflow := rfl
  rw [failed] at sought
  cases sought

end ErrorOS.Fs
