import Mathlib.Data.List.Basic
import Mathlib.Algebra.Group.Nat.Basic

/-!
# UTF-8 validation

`core::str::from_utf8` accepts exactly the well-formed UTF-8 byte sequences
of the Unicode standard (its table of well-formed byte sequences) and returns
a `&str` over the same bytes.  The kernel uses it twice: `sys_open` and
`sys_mkdir` turn a path into the name a directory entry is kept under, and
the standard output streams refuse bytes that are not text.  The model
decodes each scalar value from the ranges of its leading byte, so a path's
name is the `String` of the characters the bytes encode.

The model is checked against Lean's own encoder, `String.utf8EncodeChar`:
`fromUtf8` accepts a byte sequence exactly when it is `String.toUTF8` of
some string, and then returns that string.  Each direction goes one
character at a time, with one lemma per branch of the decoder and per length
of an encoding, and every byte turned into its number.
-/

namespace ErrorOS

/-- A byte between `low` and `high`. -/
def inRange (low high byte : UInt8) : Bool := low ≤ byte && byte ≤ high

/-- The first scalar value of `bytes` and the bytes after it, when `bytes`
starts with a well-formed sequence: one byte up to `0x7f`; a lead byte
`0xc2..=0xdf`, `0xe0..=0xef` or `0xf0..=0xf4` followed by one, two or three
continuation bytes, the second byte's range narrowed after `0xe0`, `0xed`,
`0xf0` and `0xf4` so that no overlong form, surrogate or value past
`U+10FFFF` is accepted. -/
def decodeChar : List UInt8 → Option (Char × List UInt8)
  | [] => none
  | first :: rest =>
      if first ≤ 0x7F then some (Char.ofNat first.toNat, rest)
      else if inRange 0xC2 0xDF first then
        match rest with
        | second :: rest =>
            if inRange 0x80 0xBF second then
              some (Char.ofNat ((first.toNat - 0xC0) * 0x40 + (second.toNat - 0x80)), rest)
            else none
        | [] => none
      else if inRange 0xE0 0xEF first then
        match rest with
        | second :: third :: rest =>
            if inRange (if first = 0xE0 then 0xA0 else 0x80) (if first = 0xED then 0x9F else 0xBF)
                second && inRange 0x80 0xBF third then
              some (Char.ofNat ((first.toNat - 0xE0) * 0x1000 + (second.toNat - 0x80) * 0x40 +
                (third.toNat - 0x80)), rest)
            else none
        | _ => none
      else if inRange 0xF0 0xF4 first then
        match rest with
        | second :: third :: fourth :: rest =>
            if inRange (if first = 0xF0 then 0x90 else 0x80) (if first = 0xF4 then 0x8F else 0xBF)
                second && inRange 0x80 0xBF third && inRange 0x80 0xBF fourth then
              some (Char.ofNat ((first.toNat - 0xF0) * 0x40000 + (second.toNat - 0x80) * 0x1000 +
                (third.toNat - 0x80) * 0x40 + (fourth.toNat - 0x80)), rest)
            else none
        | _ => none
      else none

/-- The characters of `bytes`, one `decodeChar` at a time; `fuel` bounds the
characters, and each takes at least one byte. -/
def decodeChars : Nat → List UInt8 → Option (List Char)
  | _, [] => some []
  | 0, _ :: _ => none
  | fuel + 1, bytes@(_ :: _) => do
      let (char, rest) ← decodeChar bytes
      let chars ← decodeChars fuel rest
      pure (char :: chars)

/-- `core::str::from_utf8`, with the string the bytes spell. -/
def fromUtf8 (bytes : List UInt8) : Option String :=
  (decodeChars bytes.length bytes).map String.mk

example : fromUtf8 [0x61, 0xC3, 0xA9] = some "aé" := by decide

/-- An overlong encoding of `/` and a lone surrogate are refused. -/
example : fromUtf8 [0xC0, 0xAF] = none ∧ fromUtf8 [0xED, 0xA0, 0x80] = none := by decide

section Encoder

theorem byte_le_iff {a b : UInt8} : a ≤ b ↔ a.toNat ≤ b.toNat := Iff.rfl

theorem byte_eq_iff {a b : UInt8} : a = b ↔ a.toNat = b.toNat :=
  ⟨congrArg _, fun h => UInt8.eq_of_toBitVec_eq (BitVec.eq_of_toNat_eq h)⟩

theorem toNat_and_or {x mask tag : UInt8} {k : Nat} (masked : mask.toNat = 2 ^ k - 1)
    (tagged : ∀ y, y < 2 ^ k → (y ||| tag.toNat) = y + tag.toNat) :
    (x &&& mask ||| tag).toNat = x.toNat % 2 ^ k + tag.toNat := by
  show (x.toBitVec &&& mask.toBitVec ||| tag.toBitVec).toNat = _
  rw [BitVec.toNat_or, BitVec.toNat_and]
  show (x.toNat &&& mask.toNat) ||| tag.toNat = _
  rw [masked, Nat.and_pow_two_sub_one_eq_mod, tagged _ (Nat.mod_lt _ (Nat.two_pow_pos k))]

theorem tail_toNat (x : UInt8) : (x &&& 0x3f ||| 0x80).toNat = x.toNat % 64 + 128 :=
  @toNat_and_or x 0x3f 0x80 6 rfl (by decide)

theorem lead₂_toNat (x : UInt8) : (x &&& 0x1f ||| 0xc0).toNat = x.toNat % 32 + 192 :=
  @toNat_and_or x 0x1f 0xc0 5 rfl (by decide)

theorem lead₃_toNat (x : UInt8) : (x &&& 0x0f ||| 0xe0).toNat = x.toNat % 16 + 224 :=
  @toNat_and_or x 0x0f 0xe0 4 rfl (by decide)

theorem lead₄_toNat (x : UInt8) : (x &&& 0x07 ||| 0xf0).toNat = x.toNat % 8 + 240 :=
  @toNat_and_or x 0x07 0xf0 3 rfl (by decide)

theorem toUInt8_shiftRight_toNat (v : UInt32) {shift : UInt32} {divisor : Nat}
    (small : shift.toNat < 32) (power : 2 ^ shift.toNat = divisor) :
    (v >>> shift).toUInt8.toNat = v.toNat / divisor % 256 := by
  show (BitVec.ofNat 8 (v.toBitVec >>> (shift % 32).toBitVec).toNat).toNat = _
  rw [BitVec.toNat_ofNat]
  show (v.toBitVec >>> (shift.toNat % 32)).toNat % 2 ^ 8 = _
  rw [BitVec.toNat_ushiftRight, Nat.shiftRight_eq_div_pow, Nat.mod_eq_of_lt small, power]
  rfl

theorem toUInt8_toNat (v : UInt32) : v.toUInt8.toNat = v.toNat % 256 := BitVec.toNat_ofNat _ _

/-- What `String.utf8EncodeChar` gives a character, one lemma per length of
its encoding: a lead byte and continuation bytes whose low bits, read as
digits, spell the character's value. -/
theorem utf8EncodeChar_ascii (c : Char) (small : c.toNat ≤ 0x7F) :
    ∃ first, String.utf8EncodeChar c = [first] ∧ c.toNat = first.toNat := by
  have code : c.val.toNat = c.toNat := rfl
  dsimp only [String.utf8EncodeChar]
  rw [if_pos (show c.val ≤ 0x7F from small)]
  exact ⟨_, rfl, by rw [toUInt8_toNat, code]; omega⟩

theorem utf8EncodeChar_two_bytes (c : Char) (big : 0x7F < c.toNat) (small : c.toNat ≤ 0x7FF) :
    ∃ first second, String.utf8EncodeChar c = [first, second] ∧
      (0xC0 ≤ first.toNat ∧ 0x80 ≤ second.toNat ∧ second.toNat ≤ 0xBF) ∧
      c.toNat = (first.toNat - 0xC0) * 0x40 + (second.toNat - 0x80) := by
  have code : c.val.toNat = c.toNat := rfl
  dsimp only [String.utf8EncodeChar]
  rw [if_neg (show ¬c.val ≤ 0x7F from Nat.not_le.2 big), if_pos (show c.val ≤ 0x7FF from small)]
  refine ⟨_, _, rfl, ?_⟩
  simp only [lead₂_toNat, tail_toNat, toUInt8_toNat, code,
    toUInt8_shiftRight_toNat c.val (show (6 : UInt32).toNat < 32 by decide) (show _ = 64 from rfl)]
  omega

theorem utf8EncodeChar_three_bytes (c : Char) (big : 0x7FF < c.toNat) (small : c.toNat ≤ 0xFFFF) :
    ∃ first second third, String.utf8EncodeChar c = [first, second, third] ∧
      (0xE0 ≤ first.toNat ∧ 0x80 ≤ second.toNat ∧ second.toNat ≤ 0xBF ∧
        0x80 ≤ third.toNat ∧ third.toNat ≤ 0xBF) ∧
      c.toNat = (first.toNat - 0xE0) * 0x1000 + (second.toNat - 0x80) * 0x40 + (third.toNat - 0x80) := by
  have code : c.val.toNat = c.toNat := rfl
  dsimp only [String.utf8EncodeChar]
  rw [if_neg (show ¬c.val ≤ 0x7F from Nat.not_le.2 (show 0x7F < c.toNat by omega)),
    if_neg (show ¬c.val ≤ 0x7FF from Nat.not_le.2 big), if_pos (show c.val ≤ 0xFFFF from small)]
  refine ⟨_, _, _, rfl, ?_⟩
  simp only [lead₃_toNat, tail_toNat, toUInt8_toNat, code,
    toUInt8_shiftRight_toNat c.val (show (6 : UInt32).toNat < 32 by decide) (show _ = 64 from rfl),
    toUInt8_shiftRight_toNat c.val (show (12 : UInt32).toNat < 32 by decide) (show _ = 4096 from rfl)]
  omega

theorem utf8EncodeChar_four_bytes (c : Char) (big : 0xFFFF < c.toNat) :
    ∃ first second third fourth, String.utf8EncodeChar c = [first, second, third, fourth] ∧
      (0xF0 ≤ first.toNat ∧ 0x80 ≤ second.toNat ∧ second.toNat ≤ 0xBF ∧
        0x80 ≤ third.toNat ∧ third.toNat ≤ 0xBF ∧ 0x80 ≤ fourth.toNat ∧ fourth.toNat ≤ 0xBF) ∧
      c.toNat = (first.toNat - 0xF0) * 0x40000 + (second.toNat - 0x80) * 0x1000 +
        (third.toNat - 0x80) * 0x40 + (fourth.toNat - 0x80) := by
  have code : c.val.toNat = c.toNat := rfl
  have valid : c.toNat < 0xD800 ∨ 0xDFFF < c.toNat ∧ c.toNat < 0x110000 := c.valid
  dsimp only [String.utf8EncodeChar]
  rw [if_neg (show ¬c.val ≤ 0x7F from Nat.not_le.2 (show 0x7F < c.toNat by omega)),
    if_neg (show ¬c.val ≤ 0x7FF from Nat.not_le.2 (show 0x7FF < c.toNat by omega)),
    if_neg (show ¬c.val ≤ 0xFFFF from Nat.not_le.2 big)]
  refine ⟨_, _, _, _, rfl, ?_⟩
  simp only [lead₄_toNat, tail_toNat, toUInt8_toNat, code,
    toUInt8_shiftRight_toNat c.val (show (6 : UInt32).toNat < 32 by decide) (show _ = 64 from rfl),
    toUInt8_shiftRight_toNat c.val (show (12 : UInt32).toNat < 32 by decide) (show _ = 4096 from rfl),
    toUInt8_shiftRight_toNat c.val (show (18 : UInt32).toNat < 32 by decide) (show _ = 262144 from rfl)]
  omega

end Encoder

section Decoder

theorem inRange_iff {low high byte : UInt8} :
    inRange low high byte = true ↔ low.toNat ≤ byte.toNat ∧ byte.toNat ≤ high.toNat := by
  simp [inRange, byte_le_iff]

theorem ite_le_iff {p : Prop} [Decidable p] {low low' n : Nat} :
    (if p then low else low') ≤ n ↔ (p → low ≤ n) ∧ (¬p → low' ≤ n) := by
  split <;> simp_all

theorem le_ite_iff {p : Prop} [Decidable p] {high high' n : Nat} :
    n ≤ (if p then high else high') ↔ (p → n ≤ high) ∧ (¬p → n ≤ high') := by
  split <;> simp_all

/-- What `decodeChar` returns on a well-formed sequence, one lemma per lead
byte range. -/
theorem decodeChar_one {first : UInt8} (rest : List UInt8) (ascii : first.toNat ≤ 0x7F) :
    decodeChar (first :: rest) = some (Char.ofNat first.toNat, rest) := by
  simp (disch := omega) only [decodeChar, byte_le_iff, UInt8.reduceToNat, if_pos]

theorem decodeChar_two {first second : UInt8} (rest : List UInt8)
    (lead : 0xC2 ≤ first.toNat ∧ first.toNat ≤ 0xDF) (tail : 0x80 ≤ second.toNat ∧ second.toNat ≤ 0xBF) :
    decodeChar (first :: second :: rest) =
      some (Char.ofNat ((first.toNat - 0xC0) * 0x40 + (second.toNat - 0x80)), rest) := by
  simp (disch := omega) only [decodeChar, byte_le_iff, inRange_iff, UInt8.reduceToNat, if_pos, if_neg]

theorem decodeChar_three {first second third : UInt8} (rest : List UInt8)
    (lead : 0xE0 ≤ first.toNat ∧ first.toNat ≤ 0xEF)
    (tail₂ : 0x80 ≤ second.toNat ∧ second.toNat ≤ 0xBF)
    (notOverlong : first.toNat = 0xE0 → 0xA0 ≤ second.toNat)
    (notSurrogate : first.toNat = 0xED → second.toNat ≤ 0x9F)
    (tail₃ : 0x80 ≤ third.toNat ∧ third.toNat ≤ 0xBF) :
    decodeChar (first :: second :: third :: rest) =
      some (Char.ofNat ((first.toNat - 0xE0) * 0x1000 + (second.toNat - 0x80) * 0x40 +
        (third.toNat - 0x80)), rest) := by
  simp (disch := omega) only [decodeChar, byte_le_iff, inRange_iff, byte_eq_iff, Bool.and_eq_true,
    apply_ite UInt8.toNat, UInt8.reduceToNat, ite_le_iff, le_ite_iff, if_pos, if_neg]

theorem decodeChar_four {first second third fourth : UInt8} (rest : List UInt8)
    (lead : 0xF0 ≤ first.toNat ∧ first.toNat ≤ 0xF4)
    (tail₂ : 0x80 ≤ second.toNat ∧ second.toNat ≤ 0xBF)
    (notOverlong : first.toNat = 0xF0 → 0x90 ≤ second.toNat)
    (notTooLarge : first.toNat = 0xF4 → second.toNat ≤ 0x8F)
    (tail₃ : 0x80 ≤ third.toNat ∧ third.toNat ≤ 0xBF) (tail₄ : 0x80 ≤ fourth.toNat ∧ fourth.toNat ≤ 0xBF) :
    decodeChar (first :: second :: third :: fourth :: rest) =
      some (Char.ofNat ((first.toNat - 0xF0) * 0x40000 + (second.toNat - 0x80) * 0x1000 +
        (third.toNat - 0x80) * 0x40 + (fourth.toNat - 0x80)), rest) := by
  simp (disch := omega) only [decodeChar, byte_le_iff, inRange_iff, byte_eq_iff, Bool.and_eq_true,
    apply_ite UInt8.toNat, UInt8.reduceToNat, ite_le_iff, le_ite_iff, if_pos, if_neg]

theorem toNat_eq_of_ofNat {c : Char} {value : Nat} (decoded : Char.ofNat value = c)
    (valid : value < 0xD800 ∨ 0xDFFF < value ∧ value < 0x110000) : c.toNat = value := by
  rw [← decoded, Char.ofNat, dif_pos valid]
  rfl

end Decoder

section RoundTrip

/-- The decoder reads back one encoded character and leaves the rest. -/
theorem decodeChar_utf8EncodeChar (c : Char) (rest : List UInt8) :
    decodeChar (String.utf8EncodeChar c ++ rest) = some (c, rest) := by
  have valid : c.toNat < 0xD800 ∨ 0xDFFF < c.toNat ∧ c.toNat < 0x110000 := c.valid
  by_cases one : c.toNat ≤ 0x7F
  · obtain ⟨first, encoded, value⟩ := utf8EncodeChar_ascii c one
    rw [encoded, List.singleton_append, decodeChar_one rest (by omega), ← value, Char.ofNat_toNat]
  by_cases two : c.toNat ≤ 0x7FF
  · obtain ⟨first, second, encoded, bytes, value⟩ := utf8EncodeChar_two_bytes c (by omega) two
    simp only [encoded, List.cons_append, List.nil_append]
    rw [decodeChar_two rest (by omega) (by omega), ← value, Char.ofNat_toNat]
  by_cases three : c.toNat ≤ 0xFFFF
  · obtain ⟨first, second, third, encoded, bytes, value⟩ :=
      utf8EncodeChar_three_bytes c (by omega) three
    simp only [encoded, List.cons_append, List.nil_append]
    rw [decodeChar_three rest (by omega) (by omega) (by omega) (by omega) (by omega), ← value,
      Char.ofNat_toNat]
  · obtain ⟨first, second, third, fourth, encoded, bytes, value⟩ :=
      utf8EncodeChar_four_bytes c (by omega)
    simp only [encoded, List.cons_append, List.nil_append]
    rw [decodeChar_four rest (by omega) (by omega) (by omega) (by omega) (by omega) (by omega),
      ← value, Char.ofNat_toNat]

/-- The inverses of `decodeChar_one` to `decodeChar_four`: the bytes a
branch reads are the encoding of the character it returns. -/
theorem utf8EncodeChar_of_one {first : UInt8} {c : Char} (ascii : first.toNat ≤ 0x7F)
    (decoded : Char.ofNat first.toNat = c) : String.utf8EncodeChar c = [first] := by
  have value := toNat_eq_of_ofNat decoded (by omega)
  obtain ⟨b₁, encoded, encodedValue⟩ := utf8EncodeChar_ascii c (by omega)
  simp only [encoded, List.cons.injEq, byte_eq_iff, and_true]
  omega

theorem utf8EncodeChar_of_two {first second : UInt8} {c : Char}
    (lead : 0xC2 ≤ first.toNat ∧ first.toNat ≤ 0xDF) (tail : 0x80 ≤ second.toNat ∧ second.toNat ≤ 0xBF)
    (decoded : Char.ofNat ((first.toNat - 0xC0) * 0x40 + (second.toNat - 0x80)) = c) :
    String.utf8EncodeChar c = [first, second] := by
  have value := toNat_eq_of_ofNat decoded (by omega)
  obtain ⟨b₁, b₂, encoded, bytes, encodedValue⟩ := utf8EncodeChar_two_bytes c (by omega) (by omega)
  simp only [encoded, List.cons.injEq, byte_eq_iff, and_true]
  omega

theorem utf8EncodeChar_of_three {first second third : UInt8} {c : Char}
    (lead : 0xE0 ≤ first.toNat ∧ first.toNat ≤ 0xEF)
    (tail₂ : 0x80 ≤ second.toNat ∧ second.toNat ≤ 0xBF)
    (notOverlong : first.toNat = 0xE0 → 0xA0 ≤ second.toNat)
    (notSurrogate : first.toNat = 0xED → second.toNat ≤ 0x9F)
    (tail₃ : 0x80 ≤ third.toNat ∧ third.toNat ≤ 0xBF)
    (decoded : Char.ofNat ((first.toNat - 0xE0) * 0x1000 + (second.toNat - 0x80) * 0x40 +
        (third.toNat - 0x80)) = c) :
    String.utf8EncodeChar c = [first, second, third] := by
  have value := toNat_eq_of_ofNat decoded (by omega)
  obtain ⟨b₁, b₂, b₃, encoded, bytes, encodedValue⟩ :=
    utf8EncodeChar_three_bytes c (by omega) (by omega)
  simp only [encoded, List.cons.injEq, byte_eq_iff, and_true]
  clear notOverlong notSurrogate
  omega

theorem utf8EncodeChar_of_four {first second third fourth : UInt8} {c : Char}
    (lead : 0xF0 ≤ first.toNat ∧ first.toNat ≤ 0xF4)
    (tail₂ : 0x80 ≤ second.toNat ∧ second.toNat ≤ 0xBF)
    (notOverlong : first.toNat = 0xF0 → 0x90 ≤ second.toNat)
    (notTooLarge : first.toNat = 0xF4 → second.toNat ≤ 0x8F)
    (tail₃ : 0x80 ≤ third.toNat ∧ third.toNat ≤ 0xBF) (tail₄ : 0x80 ≤ fourth.toNat ∧ fourth.toNat ≤ 0xBF)
    (decoded : Char.ofNat ((first.toNat - 0xF0) * 0x40000 + (second.toNat - 0x80) * 0x1000 +
        (third.toNat - 0x80) * 0x40 + (fourth.toNat - 0x80)) = c) :
    String.utf8EncodeChar c = [first, second, third, fourth] := by
  have value := toNat_eq_of_ofNat decoded (by omega)
  obtain ⟨b₁, b₂, b₃, b₄, encoded, bytes, encodedValue⟩ := utf8EncodeChar_four_bytes c (by omega)
  simp only [encoded, List.cons.injEq, byte_eq_iff, and_true]
  clear notOverlong notTooLarge
  omega

/-- Whatever the decoder accepts is the encoding of the character it returns:
the proof follows the decoder's tests on the lead byte, and in each branch the
encoding of that length has the same digits. -/
theorem utf8EncodeChar_of_decodeChar {bytes rest : List UInt8} {c : Char}
    (decoded : decodeChar bytes = some (c, rest)) : bytes = String.utf8EncodeChar c ++ rest := by
  rcases bytes with _ | ⟨first, tail⟩
  · cases decoded
  simp only [decodeChar, byte_le_iff, inRange_iff, byte_eq_iff, Bool.and_eq_true,
    apply_ite UInt8.toNat, UInt8.reduceToNat, ite_le_iff, le_ite_iff] at decoded
  split at decoded
  · next one =>
    obtain ⟨decodedChar, rfl⟩ := Prod.mk.inj_iff.1 (Option.some.inj decoded)
    rw [utf8EncodeChar_of_one one decodedChar]
    rfl
  split at decoded
  · next notOne two =>
    rcases tail with _ | ⟨second, tail⟩ <;>
      simp only [reduceCtorEq, Option.ite_none_right_eq_some, Option.some.injEq, Prod.mk.injEq] at decoded
    obtain ⟨tail₂, decodedChar, rfl⟩ := decoded
    rw [utf8EncodeChar_of_two two tail₂ decodedChar]
    rfl
  split at decoded
  · next notOne notTwo three =>
    rcases tail with _ | ⟨second, _ | ⟨third, tail⟩⟩ <;>
      simp only [reduceCtorEq, Option.ite_none_right_eq_some, Option.some.injEq, Prod.mk.injEq] at decoded
    obtain ⟨⟨⟨⟨notOverlong, low⟩, notSurrogate, high⟩, tail₃⟩, decodedChar, rfl⟩ := decoded
    rw [utf8EncodeChar_of_three three (by clear notOne notTwo; omega) notOverlong notSurrogate tail₃
      decodedChar]
    rfl
  split at decoded
  · next notOne notTwo notThree four =>
    rcases tail with _ | ⟨second, _ | ⟨third, _ | ⟨fourth, tail⟩⟩⟩ <;>
      simp only [reduceCtorEq, Option.ite_none_right_eq_some, Option.some.injEq, Prod.mk.injEq] at decoded
    obtain ⟨⟨⟨⟨⟨notOverlong, low⟩, notTooLarge, high⟩, tail₃⟩, tail₄⟩, decodedChar, rfl⟩ := decoded
    rw [utf8EncodeChar_of_four four (by clear notOne notTwo notThree; omega) notOverlong notTooLarge
      tail₃ tail₄ decodedChar]
    rfl
  · cases decoded

theorem decodeChars_succ {bytes : List UInt8} (nonempty : bytes ≠ []) (fuel : Nat) :
    decodeChars (fuel + 1) bytes =
      (decodeChar bytes).bind fun decoded =>
        (decodeChars fuel decoded.2).bind fun chars => some (decoded.1 :: chars) := by
  rcases bytes with _ | ⟨first, rest⟩
  · exact absurd rfl nonempty
  · rfl

theorem decodeChars_flatMap (chars : List Char) {fuel : Nat}
    (enough : (chars.flatMap String.utf8EncodeChar).length ≤ fuel) :
    decodeChars fuel (chars.flatMap String.utf8EncodeChar) = some chars := by
  induction chars generalizing fuel with
  | nil => cases fuel <;> rfl
  | cons char chars ih =>
    have encoded : 0 < (String.utf8EncodeChar char).length := by
      rw [String.length_utf8EncodeChar]
      exact Char.utf8Size_pos char
    rw [List.flatMap_cons, List.length_append] at enough
    obtain ⟨fuel, rfl⟩ : ∃ rest, fuel = rest + 1 := ⟨fuel - 1, by omega⟩
    rw [List.flatMap_cons,
      decodeChars_succ (List.append_ne_nil_of_left_ne_nil (List.ne_nil_of_length_pos encoded) _),
      decodeChar_utf8EncodeChar, Option.some_bind, ih (by omega), Option.some_bind]

theorem flatMap_of_decodeChars {bytes : List UInt8} {chars : List Char} {fuel : Nat}
    (decoded : decodeChars fuel bytes = some chars) :
    bytes = chars.flatMap String.utf8EncodeChar := by
  induction fuel generalizing bytes chars with
  | zero =>
    cases bytes <;> cases decoded
    rfl
  | succ fuel ih =>
    rcases bytes with _ | ⟨first, rest⟩
    · cases decoded; rfl
    rw [decodeChars_succ (List.cons_ne_nil first rest)] at decoded
    obtain ⟨⟨char, tail⟩, decodedChar, decodedRest⟩ := Option.bind_eq_some.1 decoded
    obtain ⟨others, decodedOthers, ⟨⟩⟩ := Option.bind_eq_some.1 decodedRest
    rw [List.flatMap_cons, ← ih decodedOthers, ← utf8EncodeChar_of_decodeChar decodedChar]

/-- `from_utf8` accepts exactly the UTF-8 encodings of strings, and returns
the string a sequence encodes. -/
theorem fromUtf8_eq_some_iff (bytes : List UInt8) (text : String) :
    fromUtf8 bytes = some text ↔ text.toUTF8.data.toList = bytes := by
  show (decodeChars bytes.length bytes).map String.mk = some text ↔
    text.data.flatMap String.utf8EncodeChar = bytes
  constructor
  · intro decoded
    obtain ⟨chars, decodedChars, rfl⟩ := Option.map_eq_some'.1 decoded
    exact (flatMap_of_decodeChars decodedChars).symm
  · rintro rfl
    rw [decodeChars_flatMap text.data le_rfl]
    rfl

end RoundTrip

end ErrorOS
