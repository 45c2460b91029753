import ErrorOS.Fs.RamFs
import ErrorOS.Console
import ErrorOS.Utf8

/-!
# The standard streams

`stdio.rs` gives the kernel three files for the standard streams.  No stream
can be read, and standard input cannot be written either; standard output and
standard error print a buffer that is UTF-8 text with `println!` and refuse
any other with `IoError`.  A descriptor's `Arc<Mutex<dyn File>>` holds one of
them or a `RamFile`; `OpenFile` names the four kinds, and a RAM file handle
keeps the number of the inode its own `Arc` points to.
-/

namespace ErrorOS.Fs

open Console

/-- The `dyn File` behind a descriptor. -/
inductive OpenFile where
  | stdin
  | stdout
  | stderr
  | ramFile (file : RamFile) (ino : Nat)

/-- Every read of a standard stream, and a write to standard input. -/
def refuse : FileError := .invalidOperation

/-- `Stdin::read`. -/
def Stdin.read : FileError := refuse

/-- `Stdin::write`. -/
def Stdin.write : FileError := refuse

/-- `Stdout::read`. -/
def Stdout.read : FileError := refuse

/-- `Stderr::read`. -/
def Stderr.read : FileError := refuse

/-- The write of both output streams: `from_utf8` on the buffer, then
`println!` of the text, which gives the buffer's length; `IoError` for bytes
that are not UTF-8. -/
def printText (writer : Writer) (serial : List UInt8) (buf : Bytes) :
    Except Panic (Except FileError Nat × Writer × List UInt8) :=
  if (fromUtf8 buf.toList).isSome then do
    let (writer, serial) ← println writer serial buf.toList
    pure (.ok buf.toList.length, writer, serial)
  else pure (.error .ioError, writer, serial)

/-- `Stdout::write`. -/
def Stdout.write (writer : Writer) (serial : List UInt8) (buf : Bytes) :
    Except Panic (Except FileError Nat × Writer × List UInt8) :=
  printText writer serial buf

/-- `Stderr::write`. -/
def Stderr.write (writer : Writer) (serial : List UInt8) (buf : Bytes) :
    Except Panic (Except FileError Nat × Writer × List UInt8) :=
  printText writer serial buf

/-- From column 0 an output stream prints text whole, as its glyphs and a
newline, and the column is back at 0; it refuses other bytes and prints
nothing. -/
theorem printText_of_column_zero (serial : List UInt8) (buf : Bytes) :
    printText ⟨0⟩ serial buf =
      if (fromUtf8 buf.toList).isSome then
        .ok (.ok buf.toList.length, ⟨0⟩, serial ++ buf.toList.flatMap glyph ++ [0x0A])
      else .ok (.error .ioError, ⟨0⟩, serial) := by
  unfold printText
  split
  · have fits : (⟨0⟩ : Writer).columnPosition + buf.toList.length ≤ usizeMax :=
      (Nat.zero_add _).symm ▸ Nat.le_trans buf.length_le (by decide)
    simp only [bind, Except.bind, println_of_le _ serial buf.toList fits]
    rfl
  · rfl

end ErrorOS.Fs
