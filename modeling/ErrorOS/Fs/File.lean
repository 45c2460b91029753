import ErrorOS.Rust

/-!
# The file abstraction

The types of `file.rs` that the RAM file system's handles use: the errors a
file operation returns, the kinds of inode, and the three origins of a seek;
and the trait's default `read_all`, for any file with a `read`.
-/

namespace ErrorOS.Fs

/-- `FileError`. -/
inductive FileError where
  | notFound
  | permissionDenied
  | endOfFile
  | invalidOperation
  | ioError
  | alreadyExists
  | notDirectory
  | isDirectory
deriving DecidableEq, Repr

/-- `FileType`. -/
inductive FileType where
  | regularFile
  | directory
  | charDevice
  | blockDevice
  | pipe
  | symbolicLink
deriving DecidableEq, Repr

/-- `SeekFrom`: an absolute `usize` offset, or an `isize` delta from the
current offset or from the end. -/
inductive SeekFrom where
  | start (offset : Usize)
  | current (delta : Isize)
  | «end» (delta : Isize)

/-- The loop of the default `File::read_all`, for a file whose `read` into a
buffer gives the count read with the buffer after it: each count goes from
`chunk` to the end of `buffer` until a read returns 0 or `EndOfFile`.  `fuel`
bounds the rounds, and `none` is a loop still running when it runs out. -/
def readAllLoop {σ : Type}
    (read : σ → Bytes → Except Panic (Except FileError (Nat × Bytes) × σ)) :
    Nat → σ → Bytes → Bytes → Option (Except Panic (Except FileError Bytes × σ))
  | 0, _, _, _ => none
  | fuel + 1, file, buffer, chunk =>
      match read file chunk with
      | .error panic => some (.error panic)
      | .ok (.ok (n, chunk), file) =>
          if n = 0 then some (.ok (.ok buffer, file))
          else
            match chunk.slice 0 n >>= buffer.extendFromSlice with
            | .error panic => some (.error panic)
            | .ok buffer => readAllLoop read fuel file buffer chunk
      | .ok (.error .endOfFile, file) => some (.ok (.ok buffer, file))
      | .ok (.error error, file) => some (.ok (.error error, file))

/-- `File::read_all`: the loop from an empty buffer with a zeroed 512-byte
chunk. -/
def readAll {σ : Type} (read : σ → Bytes → Except Panic (Except FileError (Nat × Bytes) × σ))
    (fuel : Nat) (file : σ) : Option (Except Panic (Except FileError Bytes × σ)) :=
  readAllLoop read fuel file ⟨[], Nat.zero_le _⟩
    ⟨List.replicate 512 0, by rw [List.length_replicate]; decide⟩

end ErrorOS.Fs
