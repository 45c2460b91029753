import ErrorOS.Rust

/-!
# The console

`print!` and `println!` format into `Writer::write_str`, which hands the
string's bytes to `write_string`: printable ASCII bytes and newlines go to
`write_byte` as they are, every other byte as `0xfe`.  `write_byte` passes a
byte to `write_to_serial`, which sends it with `SerialPort::write_char` as
the `char` of that code point, so as its UTF-8 encoding: the replacement
`0xfe` reaches the line as `þ`, the two bytes `0xc3 0xbe`.  No other byte
does, so nothing printed through the console puts a control character on the
terminal.  `serial_print!` sends its bytes to the same port as they are.

The serial line is the list of bytes sent so far.  The writer's
`column_position` counts the bytes since the last newline, and its `+= 1` is
checked as in a debug build; a `println!` ends with a newline and leaves it
at 0.
-/

namespace ErrorOS.Console

/-- The bytes `SerialPort::write_char` sends for `byte as char`: the UTF-8
encoding of a code point below 256, one byte below `0x80` and two from
there. -/
def charBytes (byte : UInt8) : List UInt8 :=
  if byte < 0x80 then [byte] else [(0xC0 : UInt8) ||| byte >>> 6, (0x80 : UInt8) ||| byte &&& 0x3F]

/-- `Writer`. -/
structure Writer where
  columnPosition : Nat
deriving DecidableEq, Repr

/-- The bytes `write_string` passes on as they are: `0x20..=0x7e` and the
newline. -/
def isShown (byte : UInt8) : Bool := (0x20 ≤ byte && byte ≤ 0x7E) || byte == 0x0A

/-- What the line shows for a byte of a printed string: the byte when
`write_string` passes it on, `þ` otherwise. -/
def glyph (byte : UInt8) : List UInt8 := if isShown byte then [byte] else [0xC3, 0xBE]

namespace Writer

/-- `Writer::new`. -/
def new : Writer := ⟨0⟩

/-- `Writer::write_byte`: a newline goes out and returns to column 0
(`new_line`); any other byte goes out and moves the column on. -/
def writeByte (writer : Writer) (serial : List UInt8) (byte : UInt8) :
    Except Panic (Writer × List UInt8) :=
  if byte = 0x0A then pure (⟨0⟩, serial ++ charBytes 0x0A)
  else do
    let column ← usizeAdd writer.columnPosition 1
    pure (⟨column⟩, serial ++ charBytes byte)

/-- `Writer::write_string`. -/
def writeString (writer : Writer) (serial : List UInt8) :
    List UInt8 → Except Panic (Writer × List UInt8)
  | [] => pure (writer, serial)
  | byte :: rest => do
      let (writer, serial) ← writer.writeByte serial (if isShown byte then byte else 0xFE)
      writeString writer serial rest

end Writer

/-- `println!("{}", text)` through `_print`: the text, then the newline of
the format string, with `unwrap` on a `write_str` that never fails. -/
def println (writer : Writer) (serial text : List UInt8) :
    Except Panic (Writer × List UInt8) :=
  writer.writeString serial (text ++ [0x0A])

/-- `serial_println!` through `serial::_print`: the bytes of the text and a
newline, as they are. -/
def serialPrintln (serial : List UInt8) (text : String) : List UInt8 :=
  serial ++ text.data.flatMap String.utf8EncodeChar ++ [0x0A]

/-! ## What reaches the line -/

theorem charBytes_of_isShown {byte : UInt8} (shown : isShown byte) : charBytes byte = [byte] := by
  unfold isShown at shown
  unfold charBytes
  rw [if_pos]
  simp only [Bool.or_eq_true, Bool.and_eq_true, decide_eq_true_eq, beq_iff_eq] at shown
  rcases shown with ⟨-, printable⟩ | rfl
  · simp only [UInt8.le_def, UInt8.lt_def, BitVec.le_def, BitVec.lt_def] at printable ⊢
    simp only [UInt8.toBitVec_ofNat, BitVec.toNat_ofNat] at printable ⊢
    omega
  · decide

theorem charBytes_sanitized (byte : UInt8) :
    charBytes (if isShown byte then byte else 0xFE) = glyph byte := by
  unfold glyph
  split
  · exact charBytes_of_isShown ‹_›
  · decide

theorem Writer.writeByte_of_lt (writer : Writer) (serial : List UInt8) (byte : UInt8)
    (room : writer.columnPosition < usizeMax) :
    ∃ column, column ≤ writer.columnPosition + 1 ∧
      writer.writeByte serial byte = .ok (⟨column⟩, serial ++ charBytes byte) := by
  unfold Writer.writeByte
  split
  · rename_i newline
    exact ⟨0, Nat.zero_le _, by rw [newline]; rfl⟩
  · have moved := usizeAdd_of_le (show writer.columnPosition + 1 ≤ usizeMax from room)
    exact ⟨writer.columnPosition + 1, Nat.le_refl _, by simp only [bind, Except.bind, moved]; rfl⟩

theorem writeString_append (writer : Writer) (serial text more : List UInt8) :
    writer.writeString serial (text ++ more) =
      writer.writeString serial text >>= fun (writer, serial) => writer.writeString serial more := by
  induction text generalizing writer serial with
  | nil => rfl
  | cons byte rest induction =>
      simp only [List.cons_append, Writer.writeString, bind, Except.bind]
      cases writer.writeByte serial (if isShown byte then byte else 0xFE) with
      | error panic => rfl
      | ok written => exact induction written.1 written.2

/-- A string that fits on the writer's line, however many newlines it holds,
is sent as its glyphs, and the column stays within the string's length of
where it was. -/
theorem writeString_of_le (writer : Writer) (serial text : List UInt8)
    (fits : writer.columnPosition + text.length ≤ usizeMax) :
    ∃ column, column ≤ writer.columnPosition + text.length ∧
      writer.writeString serial text = .ok (⟨column⟩, serial ++ text.flatMap glyph) := by
  induction text generalizing writer serial with
  | nil => exact ⟨writer.columnPosition, Nat.le_refl _, by simp [Writer.writeString, pure, Except.pure]⟩
  | cons byte rest induction =>
      simp only [List.length_cons] at fits
      obtain ⟨middle, moved, written⟩ := writer.writeByte_of_lt serial
        (if isShown byte then byte else 0xFE) (by omega)
      rw [charBytes_sanitized] at written
      obtain ⟨column, bounded, rested⟩ := induction ⟨middle⟩ (serial ++ glyph byte)
        (by dsimp only; omega)
      refine ⟨column, by simp only [List.length_cons]; dsimp only at bounded; omega, ?_⟩
      simp only [Writer.writeString, bind, Except.bind, written, rested, List.flatMap_cons,
        List.append_assoc]

/-- `println!` of a text that fits on the line sends its glyphs and a
newline, and leaves the column at 0. -/
theorem println_of_le (writer : Writer) (serial text : List UInt8)
    (fits : writer.columnPosition + text.length ≤ usizeMax) :
    println writer serial text = .ok (⟨0⟩, serial ++ text.flatMap glyph ++ [0x0A]) := by
  obtain ⟨column, -, written⟩ := writeString_of_le writer serial text fits
  simp only [println, writeString_append, written, bind, Except.bind]
  rfl

theorem Writer.writeByte_cases (writer : Writer) (serial : List UInt8) (byte : UInt8) :
    (∃ next, writer.writeByte serial byte = .ok (next, serial ++ charBytes byte)) ∨
      writer.writeByte serial byte = .error .arithmeticOverflow := by
  unfold Writer.writeByte
  split
  · rename_i newline
    exact .inl ⟨⟨0⟩, by rw [newline]; rfl⟩
  · by_cases room : writer.columnPosition + 1 ≤ usizeMax
    · exact .inl ⟨_, by simp only [bind, Except.bind, usizeAdd_of_le room]; rfl⟩
    · exact .inr (by simp only [bind, Except.bind, usizeAdd_of_lt (Nat.lt_of_not_le room)])

/-- Whatever the column, a string that goes out goes out as its glyphs, and
one that does not stopped at an overflowing column. -/
theorem writeString_cases (writer : Writer) (serial text : List UInt8) :
    (∃ next, writer.writeString serial text = .ok (next, serial ++ text.flatMap glyph)) ∨
      writer.writeString serial text = .error .arithmeticOverflow := by
  induction text generalizing writer serial with
  | nil => exact .inl ⟨writer, by simp [Writer.writeString, pure, Except.pure]⟩
  | cons byte rest induction =>
      rcases Writer.writeByte_cases writer serial (if isShown byte then byte else 0xFE) with
        ⟨middle, written⟩ | overflow
      · rw [charBytes_sanitized] at written
        rcases induction middle (serial ++ glyph byte) with ⟨next, rested⟩ | overflow
        · exact .inl ⟨next, by simp only [Writer.writeString, bind, Except.bind, written, rested,
            List.flatMap_cons, List.append_assoc]⟩
        · exact .inr (by simp only [Writer.writeString, bind, Except.bind, written, overflow])
      · exact .inr (by simp only [Writer.writeString, bind, Except.bind, overflow])

theorem writeString_eq_ok {writer next : Writer} {serial sent text : List UInt8}
    (written : writer.writeString serial text = .ok (next, sent)) :
    sent = serial ++ text.flatMap glyph := by
  rcases writeString_cases writer serial text with ⟨_, went⟩ | overflow
  · rw [went] at written
    cases written
    rfl
  · rw [overflow] at written
    cases written

theorem mem_flatMap_glyph {text : List UInt8} {byte : UInt8} (sent : byte ∈ text.flatMap glyph) :
    isShown byte ∨ byte = 0xC3 ∨ byte = 0xBE := by
  obtain ⟨original, -, shown⟩ := List.mem_flatMap.mp sent
  unfold glyph at shown
  split at shown
  · rw [List.mem_singleton.mp shown]
    exact Or.inl ‹_›
  · simp only [List.mem_cons, List.mem_singleton, List.not_mem_nil, or_false] at shown
    exact Or.inr shown

/-- Whatever is printed through the console, the line receives only printable
ASCII, newlines and the two bytes of `þ`: no other control byte, such as an
escape or a backspace, reaches the terminal. -/
theorem console_sends_only_shown {writer next : Writer} {serial sent text : List UInt8}
    (written : writer.writeString serial text = .ok (next, sent)) :
    ∃ shown, sent = serial ++ shown ∧ ∀ byte ∈ shown, isShown byte ∨ byte = 0xC3 ∨ byte = 0xBE :=
  ⟨text.flatMap glyph, writeString_eq_ok written, fun _ sent => mem_flatMap_glyph sent⟩

/-- An escape sequence's `ESC` reaches the line as `þ`. -/
theorem console_sends_only_shown_escape :
    Writer.new.writeString [] [0x1B, 0x5B, 0x32, 0x4A] = .ok (⟨4⟩, [0xC3, 0xBE, 0x5B, 0x32, 0x4A]) ∧
      ∃ shown, [0xC3, 0xBE, 0x5B, 0x32, 0x4A] = [] ++ shown ∧
        ∀ byte ∈ shown, isShown byte ∨ byte = 0xC3 ∨ byte = 0xBE :=
  have written : Writer.new.writeString [] [0x1B, 0x5B, 0x32, 0x4A] =
      .ok (⟨4⟩, [0xC3, 0xBE, 0x5B, 0x32, 0x4A]) := rfl
  ⟨written, console_sends_only_shown written⟩

end ErrorOS.Console
