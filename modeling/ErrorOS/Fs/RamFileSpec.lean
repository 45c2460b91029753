import ErrorOS.Fs.RamFs
import Mathlib.Logic.Function.Basic

/-!
# Regular files against a byte-list model

On a regular inode whose `size` field is its data's length, every call of
`read_at`, `write_at` and `truncate` is a list operation on the bytes, and
`seek` is offset arithmetic that saturates at 0.  `FileOperation.reference`
states these operations on a byte list and one offset per handle;
`FileOperation.run_refines` shows that one call of the code, by any of the
handles sharing the inode, does what the reference does, and
`runOperations_refines` extends this to every sequence of calls.  A call is
admissible when it keeps within what Rust can represent: a write ends at most
`isize::MAX` bytes into the file, where `Vec::resize` stops, a truncation
asks for at most that many, and a seek's `usize` arithmetic does not
overflow.
-/

namespace ErrorOS.Fs

open RamInode

/-! ## The reference operations on a byte list -/

/-- How many bytes a read into `length` bytes at `offset` gets:
`min(length, |data| - offset)`, and none at or past the end. -/
def readCount (data : List UInt8) (offset length : Nat) : Nat :=
  min length (data.length - offset)

/-- The buffer after a read: `data[offset .. offset + k]` in front, the rest
of the buffer untouched. -/
def readInto (data : List UInt8) (offset : Nat) (buf : List UInt8) : List UInt8 :=
  (data.drop offset).take (readCount data offset buf.length) ++
    buf.drop (readCount data offset buf.length)

/-- The data after a write of `buf` at `offset`: the bytes before it, zeros
up to it, `buf`, and the bytes after it. -/
def overwrite (data : List UInt8) (offset : Nat) (buf : List UInt8) : List UInt8 :=
  data.take offset ++ List.replicate (offset - data.length) 0 ++ buf ++
    data.drop (offset + buf.length)

/-- The data after a truncation to `size`: cut, or padded with zeros. -/
def truncated (data : List UInt8) (size : Nat) : List UInt8 :=
  data.take size ++ List.replicate (size - data.length) 0

/-- `base + delta`, saturating at 0. -/
def shift (base : Nat) (delta : Int) : Nat :=
  if 0 ≤ delta then base + delta.toNat else base - (-delta).toNat

/-- The offset a seek moves a handle at `offset` to, on `length` bytes. -/
def seekTarget (offset length : Nat) : SeekFrom → Nat
  | .start target => target.val
  | .current delta => shift offset delta.val
  | .«end» delta => shift length delta.val

/-- The deltas whose `usize` arithmetic overflows from `base`: negating
`isize::MIN`, or adding past `usize::MAX`. -/
def DeltaOverflows (base : Nat) (delta : Isize) : Prop :=
  delta.val = isizeMin ∨ (0 ≤ delta.val ∧ usizeMax < base + delta.val.toNat)

/-- The seeks that overflow, from a handle at `offset` on `length` bytes. -/
def SeekOverflows (offset length : Nat) : SeekFrom → Prop
  | .start _ => False
  | .current delta => DeltaOverflows offset delta
  | .«end» delta => DeltaOverflows length delta

theorem overwrite_of_le {data buf : List UInt8} {offset : Nat}
    (fits : offset + buf.length ≤ data.length) :
    data.take offset ++ buf ++ data.drop (offset + buf.length) = overwrite data offset buf := by
  simp [overwrite, Nat.sub_eq_zero_of_le (Nat.le_trans (Nat.le_add_right _ _) fits)]

theorem overwrite_of_lt {data buf : List UInt8} {offset : Nat}
    (grows : data.length < offset + buf.length) :
    (truncated data (offset + buf.length)).take offset ++ buf ++
        (truncated data (offset + buf.length)).drop (offset + buf.length) =
      overwrite data offset buf := by
  have padded : (truncated data (offset + buf.length)).length = offset + buf.length := by
    simp [truncated]
    omega
  rw [List.drop_of_length_le (Nat.le_of_eq padded), truncated,
    List.take_of_length_le (Nat.le_of_lt grows), List.take_append_eq_append_take,
    List.take_replicate, Nat.min_eq_left (by omega), overwrite,
    List.drop_of_length_le (Nat.le_of_lt grows)]

/-! ## One lemma for each function of `ramfs.rs` -/

section Regular

variable {inode : RamInode}

/-- `read_at` copies `readCount` bytes from `offset` on to the front of `buf`
and never panics. -/
theorem readAt_of_regular (regular : inode.fileType = .regularFile) (offset : Nat)
    (buf : Bytes) :
    ∃ filled, inode.readAt offset buf =
        .ok (.ok (readCount inode.data.toList offset buf.toList.length, filled)) ∧
      filled.toList = readInto inode.data.toList offset buf.toList := by
  unfold readAt readInto readCount
  rw [if_neg (not_not.mpr regular)]
  unfold Bytes.length
  by_cases past : offset ≥ inode.data.toList.length
  · rw [if_pos past, Nat.sub_eq_zero_of_le past, Nat.min_zero]
    exact ⟨buf, rfl, by simp⟩
  rw [if_neg past]
  have dataBound := inode.data.length_le
  have bufBound := buf.length_le
  rw [usizeAdd_of_le (by unfold usizeMax isizeMax at *; omega)]
  simp only [bind, Except.bind]
  rw [usizeSub_of_le (by omega)]
  dsimp only
  rw [Bytes.slice_of_le (by omega) (by unfold Bytes.length; omega)]
  dsimp only
  have count : min (offset + buf.toList.length) inode.data.toList.length - offset =
      min buf.toList.length (inode.data.toList.length - offset) := by omega
  have inside : 0 + ((inode.data.toList.drop offset).take
      (min (offset + buf.toList.length) inode.data.toList.length - offset)).length ≤
      buf.length := by
    simp only [List.length_take, List.length_drop, Bytes.length]
    omega
  obtain ⟨filled, copied, contents⟩ := Bytes.copyFromSlice_of_le inside
  rw [copied]
  refine ⟨filled, by rw [count]; rfl, ?_⟩
  rw [contents, count]
  simp only [List.take_zero, List.nil_append, List.length_take, List.length_drop]
  congr 2
  omega

/-- `write_at` within `isize::MAX` bytes leaves `overwrite` of the data, with
`size` following it, unless counting the write in `modified` overflows. -/
theorem writeAt_eq_of_le (regular : inode.fileType = .regularFile) {offset : Nat}
    {buf : Bytes} (bounded : offset + buf.toList.length ≤ isizeMax) :
    ∃ data : Bytes, inode.writeAt offset buf =
        (u64Add inode.modified 1).map (fun modified =>
          (.ok buf.toList.length, { inode with data, size := data.toList.length, modified })) ∧
      data.toList = overwrite inode.data.toList offset buf.toList := by
  unfold writeAt Bytes.length
  rw [if_neg (not_not.mpr regular), usizeAdd_of_le (by unfold usizeMax isizeMax at *; omega)]
  simp only [bind, Except.bind]
  by_cases grows : offset + buf.toList.length > inode.data.toList.length
  · obtain ⟨grown, resized, grownList⟩ : ∃ grown,
        inode.data.resize (offset + buf.toList.length) 0 = .ok grown ∧
          grown.toList = truncated inode.data.toList (offset + buf.toList.length) :=
      Bytes.resize_of_le bounded
    have inside : offset + buf.toList.length ≤ grown.length := by
      simp only [Bytes.length, grownList, truncated, List.length_append, List.length_take,
        List.length_replicate]
      omega
    obtain ⟨data, copied, dataList⟩ := Bytes.copyFromSlice_of_le inside
    rw [if_pos grows, resized]
    dsimp only
    rw [copied]
    exact ⟨data, rfl, by rw [dataList, grownList, overwrite_of_lt grows]⟩
  · have inside : offset + buf.toList.length ≤ inode.data.length := Nat.le_of_not_lt grows
    obtain ⟨data, copied, dataList⟩ := Bytes.copyFromSlice_of_le inside
    rw [if_neg grows]
    simp only [pure, Except.pure]
    rw [copied]
    exact ⟨data, rfl, by rw [dataList, overwrite_of_le inside]⟩

theorem writeAt_of_regular (regular : inode.fileType = .regularFile) {offset : Nat}
    {buf : Bytes} (bounded : offset + buf.toList.length ≤ isizeMax)
    (counted : inode.modified < u64Max) :
    ∃ data : Bytes, inode.writeAt offset buf =
        .ok (.ok buf.toList.length,
          { inode with data, size := data.toList.length, modified := inode.modified + 1 }) ∧
      data.toList = overwrite inode.data.toList offset buf.toList := by
  obtain ⟨data, written, dataList⟩ := writeAt_eq_of_le regular bounded
  exact ⟨data, by rw [written, u64Add_one counted]; rfl, dataList⟩

/-- `truncate` to at most `isize::MAX` bytes leaves `truncated` data, with
`size` following it, unless counting the change in `modified` overflows. -/
theorem truncate_eq_of_le (regular : inode.fileType = .regularFile) {size : Nat}
    (bounded : size ≤ isizeMax) :
    ∃ data : Bytes, inode.truncate size =
        (u64Add inode.modified 1).map (fun modified => (.ok (), { inode with data, size, modified })) ∧
      data.toList = truncated inode.data.toList size := by
  obtain ⟨data, resized, dataList⟩ : ∃ data, inode.data.resize size 0 = .ok data ∧
      data.toList = truncated inode.data.toList size := Bytes.resize_of_le bounded
  unfold RamInode.truncate
  rw [if_neg (not_not.mpr regular)]
  simp only [bind, Except.bind]
  rw [resized]
  exact ⟨data, rfl, dataList⟩

theorem truncate_of_regular (regular : inode.fileType = .regularFile) {size : Nat}
    (bounded : size ≤ isizeMax) (counted : inode.modified < u64Max) :
    ∃ data : Bytes, inode.truncate size =
        .ok (.ok (), { inode with data, size, modified := inode.modified + 1 }) ∧
      data.toList = truncated inode.data.toList size := by
  obtain ⟨data, truncateEq, dataList⟩ := truncate_eq_of_le regular bounded
  exact ⟨data, by rw [truncateEq, u64Add_one counted]; rfl, dataList⟩

end Regular

theorem seekFrom_of_not_overflows {base : Nat} {delta : Isize}
    (fine : ¬ DeltaOverflows base delta) : seekFrom base delta = .ok (shift base delta.val) := by
  unfold DeltaOverflows at fine
  unfold seekFrom shift
  by_cases nonneg : 0 ≤ delta.val
  · rw [if_pos nonneg, if_pos nonneg]
    exact usizeAdd_of_le (by omega)
  · rw [if_neg nonneg, if_neg nonneg, isizeNeg_of_ne (fun minimal => fine (Or.inl minimal))]
    rfl

namespace RamFile

variable {file : RamFile} {inode : RamInode}

theorem read_of_regular (regular : inode.fileType = .regularFile)
    (bounded : file.offset ≤ usizeMax) (buf : Bytes) :
    ∃ filled : Bytes, file.read inode buf =
        .ok (.ok (readCount inode.data.toList file.offset buf.toList.length, filled),
          ⟨file.offset + readCount inode.data.toList file.offset buf.toList.length⟩) ∧
      filled.toList = readInto inode.data.toList file.offset buf.toList := by
  obtain ⟨filled, readEq, filledList⟩ := readAt_of_regular regular file.offset buf
  have dataBound := inode.data.length_le
  have sum : file.offset + readCount inode.data.toList file.offset buf.toList.length ≤ usizeMax := by
    unfold readCount usizeMax isizeMax at *
    omega
  refine ⟨filled, ?_, filledList⟩
  simp only [read, bind, Except.bind, readEq, usizeAdd_of_le sum]
  rfl

theorem write_of_regular (regular : inode.fileType = .regularFile) {buf : Bytes}
    (bounded : file.offset + buf.toList.length ≤ isizeMax) (counted : inode.modified < u64Max) :
    ∃ data : Bytes, file.write inode buf =
        .ok (.ok buf.toList.length, ⟨file.offset + buf.toList.length⟩,
          { inode with data, size := data.toList.length, modified := inode.modified + 1 }) ∧
      data.toList = overwrite inode.data.toList file.offset buf.toList := by
  obtain ⟨data, writeEq, dataList⟩ := writeAt_of_regular regular bounded counted
  refine ⟨data, ?_, dataList⟩
  simp only [write, bind, Except.bind, writeEq,
    usizeAdd_of_le (Nat.le_trans bounded (by decide : isizeMax ≤ usizeMax))]
  rfl

theorem seek_of_not_overflows {pos : SeekFrom}
    (fine : ¬ SeekOverflows file.offset inode.size pos) :
    file.seek inode pos =
      .ok (.ok (seekTarget file.offset inode.size pos), ⟨seekTarget file.offset inode.size pos⟩) := by
  cases pos with
  | start target => rfl
  | current delta | «end» delta =>
      simp only [seek, bind, Except.bind, seekFrom_of_not_overflows fine]
      rfl

end RamFile

/-! ## Handles sharing one inode -/

/-- One inode and the handles open on it, by handle number. -/
structure SharedFile where
  inode : RamInode
  files : Nat → RamFile

/-- The calls the handles make on the shared inode. -/
inductive FileOperation where
  | read (handle : Nat) (buf : Bytes)
  | write (handle : Nat) (buf : Bytes)
  | seek (handle : Nat) (pos : SeekFrom)
  | truncate (size : Nat)

/-- The calls that count a modification of the inode. -/
def FileOperation.modifies : FileOperation → Bool
  | .write _ _ | .truncate _ => true
  | .read _ _ | .seek _ _ => false

/-- What a call returns: the count read with the buffer after it, the count
written, the new offset, or nothing. -/
inductive Reply where
  | read (n : Nat) (buf : List UInt8)
  | written (n : Nat)
  | seeked (offset : Nat)
  | truncated
deriving DecidableEq, Repr

/-- One call of the code: the handle's operation on the shared inode. -/
def FileOperation.run : FileOperation → SharedFile →
    Except Panic (Except FileError Reply × SharedFile)
  | .read handle buf, shared => do
      let (result, file) ← (shared.files handle).read shared.inode buf
      pure (result.map fun (n, filled) => .read n filled.toList,
        { shared with files := Function.update shared.files handle file })
  | .write handle buf, shared => do
      let (result, file, inode) ← (shared.files handle).write shared.inode buf
      pure (result.map .written, ⟨inode, Function.update shared.files handle file⟩)
  | .seek handle pos, shared => do
      let (result, file) ← (shared.files handle).seek shared.inode pos
      pure (result.map .seeked, { shared with files := Function.update shared.files handle file })
  | .truncate size, shared => do
      let (result, inode) ← shared.inode.truncate size
      pure (result.map fun _ => .truncated, { shared with inode := inode })

/-- The reference state: the file's bytes and each handle's offset. -/
structure FileContents where
  data : List UInt8
  offsets : Nat → Nat

/-- The reference call on a byte list. -/
def FileOperation.reference : FileOperation → FileContents → Reply × FileContents
  | .read handle buf, ⟨data, offsets⟩ =>
      let count := readCount data (offsets handle) buf.toList.length
      (.read count (readInto data (offsets handle) buf.toList),
        ⟨data, Function.update offsets handle (offsets handle + count)⟩)
  | .write handle buf, ⟨data, offsets⟩ =>
      (.written buf.toList.length, ⟨overwrite data (offsets handle) buf.toList,
        Function.update offsets handle (offsets handle + buf.toList.length)⟩)
  | .seek handle pos, ⟨data, offsets⟩ =>
      let target := seekTarget (offsets handle) data.length pos
      (.seeked target, ⟨data, Function.update offsets handle target⟩)
  | .truncate size, ⟨data, offsets⟩ => (.truncated, ⟨truncated data size, offsets⟩)

/-- The calls the reference describes: writes and truncations within
`isize::MAX` bytes, and seeks without overflow. -/
def FileOperation.Admissible : FileOperation → FileContents → Prop
  | .read _ _, _ => True
  | .write handle buf, contents => contents.offsets handle + buf.toList.length ≤ isizeMax
  | .seek handle pos, contents =>
      ¬ SeekOverflows (contents.offsets handle) contents.data.length pos
  | .truncate size, _ => size ≤ isizeMax

namespace SharedFile

/-- The reference state a shared file stands for. -/
def contents (shared : SharedFile) : FileContents :=
  ⟨shared.inode.data.toList, fun handle => (shared.files handle).offset⟩

/-- A regular file whose `size` is its data's length, and offsets that are
`usize` values. -/
structure Valid (shared : SharedFile) : Prop where
  regular : shared.inode.fileType = .regularFile
  size_eq : shared.inode.size = shared.inode.data.toList.length
  offset_le : ∀ handle, (shared.files handle).offset ≤ usizeMax

/-- The file `RamFS::open_file` opens on a fresh `new_file`: every handle at
offset 0. -/
def opened (ino : Nat) : SharedFile := ⟨newFile ino, fun _ => RamFile.new⟩

theorem opened_valid (ino : Nat) : (opened ino).Valid :=
  ⟨rfl, rfl, fun _ => Nat.zero_le _⟩

theorem offsets_update (files : Nat → RamFile) (handle : Nat) (file : RamFile) :
    (fun other => (Function.update files handle file other).offset) =
      Function.update (fun other => (files other).offset) handle file.offset := by
  funext other
  by_cases same : other = handle
  · subst same
    simp
  · simp [Function.update_noteq same]

end SharedFile

open SharedFile

theorem readCount_add_le {data : List UInt8} {offset length : Nat}
    (bounded : offset ≤ usizeMax) (short : data.length ≤ isizeMax) :
    offset + readCount data offset length ≤ usizeMax := by
  unfold readCount usizeMax isizeMax at *
  omega

theorem shift_le {base : Nat} {delta : Isize} (bounded : base ≤ usizeMax)
    (fine : ¬ DeltaOverflows base delta) : shift base delta.val ≤ usizeMax := by
  unfold DeltaOverflows at fine
  unfold shift
  split <;> omega

theorem seekTarget_le {offset length : Nat} {pos : SeekFrom} (bounded : offset ≤ usizeMax)
    (short : length ≤ usizeMax) (fine : ¬ SeekOverflows offset length pos) :
    seekTarget offset length pos ≤ usizeMax := by
  cases pos with
  | start target => exact target.le_max
  | current delta => exact shift_le bounded fine
  | «end» delta => exact shift_le short fine

theorem update_le {offsets : Nat → Nat} {bound moved value : Nat}
    (bounded : ∀ handle, offsets handle ≤ bound) (valueLe : value ≤ bound) (handle : Nat) :
    Function.update offsets moved value handle ≤ bound := by
  rw [Function.update_apply]
  split
  exacts [valueLe, bounded handle]

theorem FileOperation.reference_offset_le {contents : FileContents}
    (operation : FileOperation) (bounded : ∀ handle, contents.offsets handle ≤ usizeMax)
    (short : contents.data.length ≤ isizeMax) (admissible : operation.Admissible contents)
    (handle : Nat) : (operation.reference contents).2.offsets handle ≤ usizeMax := by
  have small : isizeMax ≤ usizeMax := by decide
  obtain ⟨data, offsets⟩ := contents
  cases operation with
  | read moved buf => exact update_le bounded (readCount_add_le (bounded moved) short) handle
  | write moved buf => exact update_le bounded (Nat.le_trans admissible small) handle
  | seek moved pos =>
      exact update_le bounded
        (seekTarget_le (bounded moved) (Nat.le_trans short small) admissible) handle
  | truncate size => exact bounded handle

/-- One admissible call of the code, with `modified` short of `u64::MAX`
when the call counts a modification, returns the reference reply and leaves
the state the reference leaves. -/
theorem FileOperation.run_refines {shared : SharedFile} (valid : shared.Valid)
    (operation : FileOperation) (admissible : operation.Admissible shared.contents)
    (counted : operation.modifies → shared.inode.modified < u64Max) :
    ∃ next : SharedFile, operation.run shared =
        .ok (.ok (operation.reference shared.contents).1, next) ∧
      next.Valid ∧ next.contents = (operation.reference shared.contents).2 ∧
      next.inode.modified = shared.inode.modified + if operation.modifies then 1 else 0 := by
  obtain ⟨next, runEq, regular, sizeEq, contentsEq, modifiedEq⟩ : ∃ next : SharedFile,
      operation.run shared = .ok (.ok (operation.reference shared.contents).1, next) ∧
        next.inode.fileType = .regularFile ∧ next.inode.size = next.inode.data.toList.length ∧
        next.contents = (operation.reference shared.contents).2 ∧
        next.inode.modified = shared.inode.modified + if operation.modifies then 1 else 0 := by
    cases operation with
    | read handle buf =>
        obtain ⟨filled, readEq, filledList⟩ :=
          RamFile.read_of_regular valid.regular (valid.offset_le handle) buf
        exact ⟨_, by simp only [run, bind, Except.bind, readEq, pure, Except.pure, Except.map,
            filledList]; rfl,
          by exact valid.regular, by exact valid.size_eq,
          by simp only [contents, reference, offsets_update], by rfl⟩
    | write handle buf =>
        have bounded : (shared.files handle).offset + buf.toList.length ≤ isizeMax := admissible
        obtain ⟨data, writeEq, dataList⟩ :=
          RamFile.write_of_regular valid.regular bounded (counted rfl)
        exact ⟨_, by simp only [run, bind, Except.bind, writeEq]; rfl,
          by exact valid.regular, rfl, by simp only [contents, reference, dataList, offsets_update],
          by rfl⟩
    | seek handle pos =>
        have fine : ¬ SeekOverflows (shared.files handle).offset shared.inode.size pos := by
          rw [valid.size_eq]
          exact admissible
        exact ⟨_, by simp only [run, bind, Except.bind, RamFile.seek_of_not_overflows fine,
            contents, reference, valid.size_eq]; rfl,
          by exact valid.regular, by exact valid.size_eq,
          by simp only [contents, reference, offsets_update, valid.size_eq], by rfl⟩
    | truncate size =>
        obtain ⟨data, truncateEq, dataList⟩ :=
          truncate_of_regular valid.regular admissible (counted rfl)
        exact ⟨_, by simp only [run, bind, Except.bind, truncateEq]; rfl, by exact valid.regular,
          by simp only [dataList, truncated, List.length_append, List.length_take,
            List.length_replicate]; omega,
          by simp only [contents, reference, dataList], by rfl⟩
  refine ⟨next, runEq, ⟨regular, sizeEq, fun handle => ?_⟩, contentsEq, modifiedEq⟩
  have offsetEq := congrFun (congrArg FileContents.offsets contentsEq) handle
  simp only [contents] at offsetEq
  rw [offsetEq]
  exact operation.reference_offset_le valid.offset_le shared.inode.data.length_le admissible handle

/-! ## Sequences of calls -/

/-- A sequence of calls of the code, with the result of each. -/
def runOperations : List FileOperation → SharedFile →
    Except Panic (List (Except FileError Reply) × SharedFile)
  | [], shared => pure ([], shared)
  | operation :: rest, shared => do
      let (reply, next) ← operation.run shared
      let (replies, final) ← runOperations rest next
      pure (reply :: replies, final)

/-- The same calls on the reference. -/
def referenceRun : List FileOperation → FileContents → List Reply × FileContents
  | [], contents => ([], contents)
  | operation :: rest, contents =>
      ((operation.reference contents).1 :: (referenceRun rest (operation.reference contents).2).1,
        (referenceRun rest (operation.reference contents).2).2)

/-- Every call admissible in the reference state it meets. -/
def AdmissibleRun : List FileOperation → FileContents → Prop
  | [], _ => True
  | operation :: rest, contents =>
      operation.Admissible contents ∧ AdmissibleRun rest (operation.reference contents).2

theorem runOperations_refines (operations : List FileOperation) {shared : SharedFile}
    (valid : shared.Valid) (admissible : AdmissibleRun operations shared.contents)
    (room : shared.inode.modified + operations.countP FileOperation.modifies ≤ u64Max) :
    ∃ final : SharedFile, runOperations operations shared =
        .ok ((referenceRun operations shared.contents).1.map .ok, final) ∧
      final.Valid ∧ final.contents = (referenceRun operations shared.contents).2 := by
  induction operations generalizing shared with
  | nil => exact ⟨shared, rfl, valid, rfl⟩
  | cons operation rest induction =>
      obtain ⟨now, later⟩ := admissible
      rw [List.countP_cons] at room
      obtain ⟨next, runEq, nextValid, nextContents, counter⟩ :=
        operation.run_refines valid now fun modifies => by rw [if_pos modifies] at room; omega
      obtain ⟨final, restEq, finalValid, finalContents⟩ :=
        induction nextValid (nextContents ▸ later) (by rw [counter]; omega)
      refine ⟨final, ?_, finalValid, by rw [referenceRun, ← nextContents, finalContents]⟩
      simp only [runOperations, bind, Except.bind, runEq, restEq, referenceRun, nextContents,
        List.map_cons]
      rfl

/-- Handles sharing a regular inode behave as the byte-list reference, call
after call, for every sequence of calls that keeps within `isize::MAX` bytes
and `usize` seeks, and whose writes and truncations leave `modified` within
`u64::MAX`; `size()` reports the reference data's length throughout. -/
theorem shared_file_refines_reference {shared : SharedFile} (valid : shared.Valid)
    (operations : List FileOperation) (admissible : AdmissibleRun operations shared.contents)
    (room : shared.inode.modified + operations.countP FileOperation.modifies ≤ u64Max) :
    ∃ final : SharedFile, runOperations operations shared =
        .ok ((referenceRun operations shared.contents).1.map .ok, final) ∧
      final.contents = (referenceRun operations shared.contents).2 ∧
      RamFile.size final.inode = .ok final.contents.data.length := by
  obtain ⟨final, runEq, finalValid, finalContents⟩ :=
    runOperations_refines operations valid admissible room
  exact ⟨final, runEq, finalContents, congrArg Except.ok finalValid.size_eq⟩

theorem shared_file_refines_reference_write :
    ∃ final : SharedFile, runOperations [.write 0 ⟨[7], by decide⟩] (opened 0) =
        .ok ((referenceRun [.write 0 ⟨[7], by decide⟩] (opened 0).contents).1.map .ok, final) ∧
      final.contents = (referenceRun [.write 0 ⟨[7], by decide⟩] (opened 0).contents).2 ∧
      RamFile.size final.inode = .ok final.contents.data.length :=
  shared_file_refines_reference (opened_valid 0) _ ⟨show 0 + 1 ≤ isizeMax by decide, trivial⟩
    (by decide)

end ErrorOS.Fs
