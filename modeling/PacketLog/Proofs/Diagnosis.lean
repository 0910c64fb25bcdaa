/-
What is said of a file name that is no text.

The index counts from the beginning of the name, not of the log, and stands behind the longest
initial segment that is a text.  If the zero byte cuts off a character there, the bytes are called
incomplete; else so many bytes are called invalid as a character can begin with.

* `Utf8.diagnosed_of_decode` has this for the bytes of a name;
* `Cursor.diagnosis_of_read` — for the name of a record at an offset, with the words of the error.
-/
import PacketLog.Proofs.Grammar

namespace PacketLog

theorem Utf8.Fault.message_invalid_ne (length start index : Nat) :
    (invalid length start).message ≠ (incomplete index).message := by
  -- The texts differ in their third character.
  have hinvalid : "invalid utf-8 sequence of ".toList =
      'i' :: 'n' :: 'v' :: "alid utf-8 sequence of ".toList := rfl
  have hincomplete : "incomplete utf-8 byte sequence from index ".toList =
      'i' :: 'n' :: 'c' :: "omplete utf-8 byte sequence from index ".toList := rfl
  intro h
  have hchars := congrArg String.toList h
  unfold message at hchars
  simp only [String.toList_append, hinvalid, hincomplete, List.cons_append] at hchars
  simp at hchars

/-- The bytes that are found to be no text are those from behind the header up to the zero byte. -/
theorem Record.decode_of_read {bs : Bytes} {fault : Utf8.Fault}
    (h : read bs = .error (.badName fault)) :
    0 ∈ bs.drop headerLength ∧
      Utf8.decode ((bs.drop headerLength).takeWhile (· != 0)) = .error fault := by
  cases read_eq_iff.mp h with
  | badName hheader hname hfault =>
    rw [List.drop_left' hheader, takeWhile_ne_zero hname]
    exact ⟨by simp, hfault⟩

/-- **What is said of a file name that is no text.**  The index is the length of the longest initial
segment that is well formed.  The bytes behind it are incomplete exactly if they are a proper
initial segment of a character; else the invalid bytes are the longest initial segment of them that
a character begins with, or one byte if there is none. -/
theorem Cursor.diagnosis_of_read {bs : Bytes} {offset : Nat} {e : ReadError} {fault : Utf8.Fault}
    (h : (ofOffset bs offset).read.1 = .error e) (hfault : e.defect = .badName fault) :
    let name := (bs.drop (offset + 24)).takeWhile (· != 0)
    0 ∈ bs.drop (offset + 24) ∧ e.offset = offset ∧
    e.message =
      "invalid text encoding in filename at offset " ++ Decimal.ofNat offset ++ ": " ++
        fault.message ∧
    (Failure.corrupt e).cause? = some fault.message ∧
    ∃ i, IsGreatest {n | n ≤ name.length ∧ Utf8.WellFormed (name.take n)} i ∧
      (fault.message = "incomplete utf-8 byte sequence from index " ++ Decimal.ofNat i ↔
        Utf8.CutsChar (name.drop i)) ∧
      (Utf8.CutsChar (name.drop i) → fault = .incomplete i) ∧
      (¬ Utf8.CutsChar (name.drop i) → ∃ n, fault = .invalid n i ∧
        fault.message = "invalid utf-8 sequence of " ++ Decimal.ofNat n ++
          " bytes from index " ++ Decimal.ofNat i ∧
        1 ≤ n ∧ n ≤ 3 ∧
        (IsGreatest (Utf8.beginnings (name.drop i)) n ∨
          Utf8.beginnings (name.drop i) = ∅ ∧ n = 1)) := by
  obtain ⟨defect, hread, rfl⟩ := exists_read_of_error h
  obtain rfl : defect = .badName fault := hfault
  obtain ⟨hzero, hdecode⟩ := Record.decode_of_read hread
  rw [ofOffset, List.drop_drop, Record.headerLength] at hzero hdecode
  intro name
  refine ⟨hzero, rfl, ?_, rfl, ?_⟩
  · -- The texts are the same but for how they are put together.
    rw [ReadError.message]
    simp only [String.append_assoc]
    rfl
  · obtain ⟨i, hi, ⟨rfl, hcut⟩ | ⟨n, rfl, hwhole, hn⟩⟩ := Utf8.diagnosed_of_decode hdecode
    · exact ⟨i, hi, ⟨fun _ => hcut, fun _ => rfl⟩, fun _ => rfl, fun hwhole => absurd hcut hwhole⟩
    · have hsaid := Utf8.Fault.message_invalid_ne n i i
      exact ⟨i, hi, ⟨fun h => absurd h hsaid, fun hcut => absurd hcut hwhole⟩,
        fun hcut => absurd hcut hwhole, fun _ => ⟨n, rfl, rfl, hn⟩⟩

/-- A file name with the first three of four bytes, and a letter behind them. -/
theorem Cursor.diagnosis_of_brokenChar :
    let name : Bytes := [0x61, 0xF0, 0x9F, 0x98, 0x78]
    let bs : Bytes := 0 :: (List.replicate 24 1 ++ (name ++ [0]))
    (ofOffset bs 1).read.1 = .error ⟨1, .badName (.invalid 3 1)⟩ ∧
      IsGreatest {n | n ≤ name.length ∧ Utf8.WellFormed (name.take n)} 1 ∧
      IsGreatest (Utf8.beginnings (name.drop 1)) 3 := by
  intro name bs
  have hdecode : Utf8.decode name = .error (.invalid 3 1) := by decide +kernel
  have hstuck : Record.read (List.replicate 24 1 ++ (name ++ [0])) =
      .error (.badName (.invalid 3 1)) :=
    Record.read_eq_iff.mpr (.badName rfl (by decide) hdecode)
  have hread : (ofOffset bs 1).read.1 = .error ⟨1, .badName (.invalid 3 1)⟩ :=
    congrArg Prod.fst (read_of_error hstuck)
  obtain ⟨-, -, -, -, i, hi, -, hcut, hwhole⟩ := diagnosis_of_read hread rfl
  have hnot : ¬ Utf8.CutsChar _ := fun h => absurd (hcut h) (by simp)
  obtain ⟨n, heq, -, -, -, hn⟩ := hwhole hnot
  obtain ⟨rfl, rfl⟩ := Utf8.Fault.invalid.inj heq
  have hname : (bs.drop 25).takeWhile (· != 0) = name := by decide
  rw [hname] at hi hn
  refine ⟨hread, hi, hn.resolve_right ?_⟩
  rintro ⟨-, h⟩
  exact absurd h (by decide)

end PacketLog
