import Mathlib.Data.List.Basic

/-!
# Machine words, panics and byte vectors of the kernel's Rust

The kernel targets 64-bit RISC-V, so `usize` and `isize` are 64 bits wide.
Word values are kept as `Nat` and `Int`.  Every arithmetic step that the
source performs without a check is modelled by a checked operation whose
failure is the panic of a debug build; a release build would wrap there
instead, which is equally outside what the source intends.
-/

namespace ErrorOS

/-- `usize::MAX` on the 64-bit target, `2^64 - 1`. -/
def usizeMax : Nat := 18446744073709551615

/-- `isize::MAX`, `2^63 - 1`; it also bounds the length of every slice and
`Vec`. -/
def isizeMax : Nat := 9223372036854775807

/-- `isize::MIN`, `-2^63`. -/
def isizeMin : Int := -9223372036854775808

/-- The ways the modelled code can stop: the panics of `unwrap`, `expect`,
`assert!`, overflowing arithmetic, slice indexing and `Vec` growth. -/
inductive Panic where
  | unwrapNone
  | expect (message : String)
  | assertion (condition : String)
  | arithmeticOverflow
  | indexOutOfRange
  | capacityOverflow
deriving DecidableEq, Repr

/-- A `usize` value. -/
structure Usize where
  val : Nat
  le_max : val ≤ usizeMax

/-- An `isize` value. -/
structure Isize where
  val : Int
  min_le : isizeMin ≤ val
  le_max : val ≤ isizeMax

/-- The bytes of a `&[u8]` or a `Vec<u8>`: Rust bounds both by `isize::MAX`. -/
structure Bytes where
  toList : List UInt8
  length_le : toList.length ≤ isizeMax

/-- `AtomicUsize::fetch_add(value)`: the old value, and in its place the sum
wrapped to 64 bits, as atomic additions wrap in every build. -/
def Usize.fetchAdd (atomic : Usize) (value : Nat) : Usize × Usize :=
  (atomic, ⟨(atomic.val + value) % (usizeMax + 1), Nat.le_of_lt_succ (Nat.mod_lt _ (Nat.succ_pos _))⟩)

/-- `a.checked_add(b)` on `usize`. -/
def checkedAdd (left right : Nat) : Option Nat :=
  if left + right ≤ usizeMax then some (left + right) else none

/-- `a + b` on `usize`, with the overflow check of a debug build. -/
def usizeAdd (left right : Nat) : Except Panic Nat :=
  if left + right ≤ usizeMax then pure (left + right) else throw .arithmeticOverflow

/-- `u64::MAX`, which is `usize::MAX` on the 64-bit target. -/
def u64Max : Nat := usizeMax

/-- `a + b` on `u64`: on the 64-bit target the same check as on `usize`. -/
def u64Add (left right : Nat) : Except Panic Nat := usizeAdd left right

/-- `a - b` on `usize`, with the underflow check of a debug build. -/
def usizeSub (left right : Nat) : Except Panic Nat :=
  if right ≤ left then pure (left - right) else throw .arithmeticOverflow

/-- `-a` on `isize`: only `isize::MIN` overflows. -/
def isizeNeg (value : Int) : Except Panic Int :=
  if value = isizeMin then throw .arithmeticOverflow else pure (-value)

/-- `value` rounded up to a multiple of `align`, as `Layout::pad_to_align`
computes it. -/
def roundUp (value align : Nat) : Nat := (value + align - 1) / align * align

theorem le_roundUp (value : Nat) {align : Nat} (positive : 0 < align) :
    value ≤ roundUp value align := by
  unfold roundUp
  have := Nat.lt_div_mul_add (a := value + align - 1) positive
  omega

theorem dvd_roundUp (value align : Nat) : align ∣ roundUp value align :=
  Nat.dvd_mul_left _ _

theorem roundUp_of_dvd {value align : Nat} (positive : 0 < align) (divides : align ∣ value) :
    roundUp value align = value := by
  obtain ⟨factor, rfl⟩ := divides
  unfold roundUp
  rw [show align * factor + align - 1 = (align - 1) + factor * align by
      rw [Nat.mul_comm]; omega,
    Nat.add_mul_div_right _ _ positive, Nat.div_eq_of_lt (by omega), Nat.zero_add,
    Nat.mul_comm]

@[simp] theorem checkedAdd_eq_some {left right sum : Nat} :
    checkedAdd left right = some sum ↔ left + right ≤ usizeMax ∧ left + right = sum := by
  unfold checkedAdd
  split <;> simp_all

@[simp] theorem usizeAdd_eq_ok {left right sum : Nat} :
    usizeAdd left right = .ok sum ↔ left + right ≤ usizeMax ∧ left + right = sum := by
  unfold usizeAdd
  split <;> simp_all [pure, Except.pure, throw, throwThe, MonadExceptOf.throw, Except.error.injEq]

theorem usizeAdd_of_le {left right : Nat} (bounded : left + right ≤ usizeMax) :
    usizeAdd left right = .ok (left + right) := by
  simp [bounded]

theorem usizeAdd_of_lt {left right : Nat} (overflow : usizeMax < left + right) :
    usizeAdd left right = .error .arithmeticOverflow := by
  simp [usizeAdd, Nat.not_le.mpr overflow, throw, throwThe, MonadExceptOf.throw]

theorem u64Add_one {count : Nat} (room : count < u64Max) : u64Add count 1 = .ok (count + 1) :=
  usizeAdd_of_le room

theorem u64Add_one_of_le {count : Nat} (full : u64Max ≤ count) :
    u64Add count 1 = .error .arithmeticOverflow :=
  usizeAdd_of_lt (Nat.lt_succ_of_le full)

theorem usizeSub_of_le {left right : Nat} (smaller : right ≤ left) :
    usizeSub left right = .ok (left - right) := by
  simp [usizeSub, smaller, pure, Except.pure]

theorem isizeNeg_of_ne {value : Int} (different : value ≠ isizeMin) :
    isizeNeg value = .ok (-value) := by
  simp [isizeNeg, different, pure, Except.pure]

theorem isizeNeg_isizeMin : isizeNeg isizeMin = .error .arithmeticOverflow := rfl

namespace Bytes

/-- The number of bytes. -/
def length (bytes : Bytes) : Nat := bytes.toList.length

/-- `Vec::resize(new_len, value)`: truncation, or growth by copies of
`value`, which panics once the vector would exceed `isize::MAX` bytes. -/
def resize (bytes : Bytes) (newLen : Nat) (value : UInt8) : Except Panic Bytes :=
  if bounded : newLen ≤ isizeMax then
    pure ⟨bytes.toList.take newLen ++ List.replicate (newLen - bytes.toList.length) value,
      by simp only [List.length_append, List.length_take, List.length_replicate]; omega⟩
  else throw .capacityOverflow

theorem resize_of_le {bytes : Bytes} {newLen : Nat} {value : UInt8}
    (bounded : newLen ≤ isizeMax) :
    ∃ resized, bytes.resize newLen value = .ok resized ∧
      resized.toList = bytes.toList.take newLen ++
        List.replicate (newLen - bytes.toList.length) value :=
  ⟨_, by unfold resize; rw [dif_pos bounded]; rfl, rfl⟩

theorem resize_of_lt {bytes : Bytes} {newLen : Nat} {value : UInt8}
    (wide : isizeMax < newLen) : bytes.resize newLen value = .error .capacityOverflow := by
  unfold resize
  rw [dif_neg (Nat.not_le.mpr wide)]
  rfl

/-- `&bytes[start..stop]`: both bounds of the range are checked. -/
def slice (bytes : Bytes) (start stop : Nat) : Except Panic (List UInt8) :=
  if start ≤ stop ∧ stop ≤ bytes.length then pure ((bytes.toList.drop start).take (stop - start))
  else throw .indexOutOfRange

/-- `bytes[start..start + src.len()].copy_from_slice(src)`: the range is
checked against the length, which the copy keeps. -/
def copyFromSlice (bytes : Bytes) (start : Nat) (src : List UInt8) : Except Panic Bytes :=
  if inside : start + src.length ≤ bytes.length then
    pure ⟨bytes.toList.take start ++ src ++ bytes.toList.drop (start + src.length), by
      have bounded := bytes.length_le
      unfold length at inside
      simp only [List.length_append, List.length_take, List.length_drop]
      omega⟩
  else throw .indexOutOfRange

/-- `Vec::extend_from_slice(src)`: the bytes of `src` appended, which panics
once the vector would exceed `isize::MAX` bytes. -/
def extendFromSlice (bytes : Bytes) (src : List UInt8) : Except Panic Bytes :=
  if bounded : bytes.toList.length + src.length ≤ isizeMax then
    pure ⟨bytes.toList ++ src, by rw [List.length_append]; exact bounded⟩
  else throw .capacityOverflow

theorem extendFromSlice_of_le {bytes : Bytes} {src : List UInt8}
    (bounded : bytes.toList.length + src.length ≤ isizeMax) :
    ∃ extended, bytes.extendFromSlice src = .ok extended ∧
      extended.toList = bytes.toList ++ src :=
  ⟨_, by unfold extendFromSlice; rw [dif_pos bounded]; rfl, rfl⟩

theorem slice_of_le {bytes : Bytes} {start stop : Nat} (ordered : start ≤ stop)
    (inside : stop ≤ bytes.length) :
    bytes.slice start stop = .ok ((bytes.toList.drop start).take (stop - start)) := by
  simp [slice, ordered, inside, pure, Except.pure]

theorem copyFromSlice_of_le {bytes : Bytes} {start : Nat} {src : List UInt8}
    (inside : start + src.length ≤ bytes.length) :
    ∃ copied, bytes.copyFromSlice start src = .ok copied ∧
      copied.toList = bytes.toList.take start ++ src ++ bytes.toList.drop (start + src.length) :=
  ⟨_, by unfold copyFromSlice; rw [dif_pos inside]; rfl, rfl⟩

end Bytes

end ErrorOS
