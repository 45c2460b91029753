import ErrorOS.Fs.RamFileSpec

/-!
# `read_all` on a RAM file

The default `File::read_all` reads into a 512-byte chunk until a read returns
0.  On a regular `RamFile` at offset `o` over bytes `d`, each read takes
`min(512, |d| - o)` bytes and moves the offset past them, so the loop makes
one round for each 512-byte chunk of `d[o..]`, the last one possibly short,
and one more whose read returns 0.  It ends after
`⌈(|d| - o) / 512⌉ + 1` rounds with the bytes `d[min(o, |d|)..]`, and leaves
the offset at `max(o, |d|)`.
-/

namespace ErrorOS.Fs

theorem readInto_length (data buf : List UInt8) (offset : Nat) :
    (readInto data offset buf).length = buf.length := by
  simp only [readInto, readCount, List.length_append, List.length_take, List.length_drop]
  omega

theorem take_readInto (data buf : List UInt8) (offset : Nat) :
    (readInto data offset buf).take (readCount data offset buf.length) =
      (data.drop offset).take (readCount data offset buf.length) := by
  unfold readInto
  rw [List.take_left' (by simp only [readCount, List.length_take, List.length_drop]; omega)]

theorem rounds_after_chunk {length offset : Nat} (inside : offset < length) :
    (length - (offset + min 512 (length - offset)) + 511) / 512 + 1 + 1 =
      (length - offset + 511) / 512 + 1 := by
  omega

section Regular

variable {inode : RamInode} (regular : inode.fileType = .regularFile)

include regular

theorem readAllLoop_of_le {fuel : Nat} {file : RamFile} {buffer chunk : Bytes}
    (bounded : file.offset ≤ usizeMax) (past : inode.data.toList.length ≤ file.offset) :
    readAllLoop (fun file buf => file.read inode buf) (fuel + 1) file buffer chunk =
      some (.ok (.ok buffer, file)) := by
  obtain ⟨filled, readEq, -⟩ := RamFile.read_of_regular regular bounded chunk
  have nothing : readCount inode.data.toList file.offset chunk.toList.length = 0 := by
    simp only [readCount]
    omega
  simp only [readAllLoop, readEq, nothing, Nat.add_zero, if_true]

theorem readAllLoop_of_lt {fuel : Nat} {file : RamFile} {buffer chunk : Bytes}
    (bounded : file.offset ≤ usizeMax) (full : chunk.toList.length = 512)
    (room : buffer.toList.length + (inode.data.toList.length - file.offset) ≤ isizeMax)
    (inside : file.offset < inode.data.toList.length) :
    ∃ grown filled : Bytes, grown.toList = buffer.toList ++
        (inode.data.toList.drop file.offset).take (min 512 (inode.data.toList.length - file.offset)) ∧
      filled.toList.length = 512 ∧
      readAllLoop (fun file buf => file.read inode buf) (fuel + 1) file buffer chunk =
        readAllLoop (fun file buf => file.read inode buf) fuel
          ⟨file.offset + min 512 (inode.data.toList.length - file.offset)⟩ grown filled := by
  obtain ⟨filled, readEq, filledList⟩ := RamFile.read_of_regular regular bounded chunk
  have filledLength : filled.toList.length = 512 := by rw [filledList, readInto_length, full]
  have count : readCount inode.data.toList file.offset chunk.toList.length =
      min 512 (inode.data.toList.length - file.offset) := by
    rw [readCount, full]
  have sliced : filled.slice 0 (min 512 (inode.data.toList.length - file.offset)) =
      .ok ((inode.data.toList.drop file.offset).take
        (min 512 (inode.data.toList.length - file.offset))) := by
    rw [Bytes.slice_of_le (Nat.zero_le _) (by rw [Bytes.length, filledLength]; omega),
      List.drop_zero, Nat.sub_zero, ← count, filledList, take_readInto]
  obtain ⟨grown, extended, grownList⟩ := Bytes.extendFromSlice_of_le
    (show buffer.toList.length + ((inode.data.toList.drop file.offset).take
      (min 512 (inode.data.toList.length - file.offset))).length ≤ isizeMax by
        simp only [List.length_take, List.length_drop]
        omega)
  refine ⟨grown, filled, grownList, filledLength, ?_⟩
  simp only [readAllLoop, readEq, count, bind, Except.bind, sliced, extended]
  rw [if_neg (by omega)]

/-- The loop from a handle at offset `o`, with `buffer` read so far and room
left for the rest: it is still running after fewer than
`⌈(|d| - o) / 512⌉ + 1` rounds, and from then on it has ended with
`buffer ++ d[o..]` at offset `max(o, |d|)`. -/
theorem readAllLoop_ramFile (fuel : Nat) (file : RamFile) (buffer chunk : Bytes)
    (bounded : file.offset ≤ usizeMax) (full : chunk.toList.length = 512)
    (room : buffer.toList.length + (inode.data.toList.length - file.offset) ≤ isizeMax) :
    (fuel < (inode.data.toList.length - file.offset + 511) / 512 + 1 →
      readAllLoop (fun file buf => file.read inode buf) fuel file buffer chunk = none) ∧
    ((inode.data.toList.length - file.offset + 511) / 512 + 1 ≤ fuel →
      ∃ result : Bytes, result.toList = buffer.toList ++ inode.data.toList.drop file.offset ∧
        readAllLoop (fun file buf => file.read inode buf) fuel file buffer chunk =
          some (.ok (.ok result, ⟨max file.offset inode.data.toList.length⟩))) := by
  induction fuel generalizing file buffer chunk with
  | zero => exact ⟨fun _ => rfl, fun more => absurd more (by omega)⟩
  | succ fuel induction =>
      by_cases past : inode.data.toList.length ≤ file.offset
      · refine ⟨fun less => absurd less (by omega), fun _ => ⟨buffer, ?_, ?_⟩⟩
        · rw [List.drop_of_length_le past, List.append_nil]
        · rw [readAllLoop_of_le regular bounded past, Nat.max_eq_left past]
      · have inside := Nat.lt_of_not_le past
        have fits : file.offset + min 512 (inode.data.toList.length - file.offset) ≤
            inode.data.toList.length := by
          omega
        have rounds := rounds_after_chunk inside
        obtain ⟨grown, filled, grownList, filledLength, step⟩ :=
          @readAllLoop_of_lt inode regular fuel _ _ _ bounded full room inside
        have next := induction ⟨file.offset + min 512 (inode.data.toList.length - file.offset)⟩
          grown filled (Nat.le_trans fits (Nat.le_trans inode.data.length_le (by decide)))
          filledLength
          (by
            dsimp only
            rw [grownList, List.length_append, List.length_take, List.length_drop]
            omega)
        dsimp only at next
        rw [step]
        rw [← rounds]
        refine ⟨fun less => next.1 (Nat.lt_of_succ_lt_succ less), fun more => ?_⟩
        obtain ⟨result, resultList, finished⟩ := next.2 (Nat.le_of_succ_le_succ more)
        refine ⟨result, ?_, ?_⟩
        · rw [resultList, grownList, List.append_assoc, ← List.drop_drop, List.take_append_drop]
        · rw [finished, Nat.max_eq_right fits, Nat.max_eq_right (Nat.le_of_lt inside)]

/-- `read_all` on a regular `RamFile` at any offset ends after
`⌈(|d| - o) / 512⌉ + 1` reads, one per 512-byte chunk of what is left and one
that returns 0, with `Ok(d[min(o, |d|)..])`, leaving the offset at
`max(o, |d|)`. -/
theorem readAll_ramFile {file : RamFile} (bounded : file.offset ≤ usizeMax) :
    (∀ fuel < (inode.data.toList.length - file.offset + 511) / 512 + 1,
      readAll (fun file buf => file.read inode buf) fuel file = none) ∧
    ∀ fuel ≥ (inode.data.toList.length - file.offset + 511) / 512 + 1,
      ∃ result : Bytes,
        result.toList = inode.data.toList.drop (min file.offset inode.data.toList.length) ∧
        readAll (fun file buf => file.read inode buf) fuel file =
          some (.ok (.ok result, ⟨max file.offset inode.data.toList.length⟩)) := by
  have room : ([] : List UInt8).length + (inode.data.toList.length - file.offset) ≤ isizeMax := by
    have := inode.data.length_le
    simp only [List.length_nil]
    omega
  have loop := fun fuel => readAllLoop_ramFile regular fuel file ⟨[], Nat.zero_le _⟩
    ⟨List.replicate 512 0, by rw [List.length_replicate]; decide⟩ bounded
    (List.length_replicate _ _) room
  refine ⟨fun fuel less => (loop fuel).1 less, fun fuel more => ?_⟩
  obtain ⟨result, resultList, finished⟩ := (loop fuel).2 more
  refine ⟨result, ?_, finished⟩
  rw [resultList, List.nil_append]
  rcases Nat.le_total file.offset inode.data.toList.length with inside | past
  · rw [Nat.min_eq_left inside]
  · rw [Nat.min_eq_right past, List.drop_of_length_le past, List.drop_length]

end Regular

/-- Bytes `[1, 2, 3]` read from offset 1: two rounds, the second returning 0. -/
theorem readAll_ramFile_three :
    ∃ result : Bytes, result.toList = [2, 3] ∧
      readAll (fun (file : RamFile) buf => file.read
          { RamInode.newFile 0 with data := ⟨[1, 2, 3], by decide⟩, size := 3 } buf) 2
          (⟨1⟩ : RamFile) =
        some (.ok (.ok result, ⟨3⟩)) :=
  (@readAll_ramFile { RamInode.newFile 0 with data := ⟨[1, 2, 3], by decide⟩, size := 3 } rfl
    ⟨1⟩ (by decide)).2 2 (by decide)

end ErrorOS.Fs
