/-
The reserved bits of a record do not show in lines of text.

Three bits of the sequence byte and six of the error byte mean nothing.  They are none of the bytes
that frame a record, no column of a line of text shows them, and nothing is counted by them.  So two
logs that differ in these bits only are shown alike, turn by turn, whatever comes behind them.

* `Record.cleared` — a record without its reserved bits;
* `Record.textLine_cleared`, `Tally.add_cleared` — neither a line nor the statistics tell them;
* `Transcript.ofCursor_text_of_cleared` — showing records that differ in these bits only;
* `Transcript.ofBytes_text_of_cleared` — showing logs that do.
-/
import PacketLog.Proofs.Showing

namespace PacketLog

namespace Record

/-- The record with its reserved bits cleared: bits 0, 1 and 3 of the sequence byte and the lower
six bits of the error byte. -/
@[simps]
def cleared (r : Record) : Record :=
  { r with
    sequenceByte := r.sequenceByte &&& 0b11110100
    errorByte := r.errorByte &&& 0b11000000 }

theorem length_cleared (r : Record) : r.cleared.length = r.length := by
  rw [length, length, cleared_file]

theorem direction_cleared (r : Record) : r.cleared.direction = r.direction := by
  rw [direction, direction, cleared_traceId]

theorem sequenceNumber_cleared (r : Record) : r.cleared.sequenceNumber = r.sequenceNumber := by
  -- The mask spares the bits that are left by the shift.
  have hupper : ∀ b : UInt8, (b &&& 0b11110100) >>> 4 = b >>> 4 := by decide +kernel
  rw [sequenceNumber, cleared_sequenceByte, hupper, sequenceNumber]

theorem optionBit_cleared (r : Record) : r.cleared.optionBit = r.optionBit := by
  have hbit : ∀ b : UInt8, ((b &&& 0b11110100) >>> 2) &&& (1 : UInt8) = (b >>> 2) &&& 1 := by
    decide +kernel
  rw [optionBit, cleared_sequenceByte, hbit, optionBit]

theorem errorCode_cleared (r : Record) : r.cleared.errorCode = r.errorCode := by
  have hupper : ∀ b : UInt8, (b &&& 0b11000000) >>> 6 = b >>> 6 := by decide +kernel
  rw [errorCode, cleared_errorByte, hupper, errorCode]

/-- **No column of a line of text shows a reserved bit.** -/
theorem textLine_cleared (r : Record) (previous : Option UInt64) :
    r.cleared.textLine previous = r.textLine previous := by
  unfold textLine
  rw [sequenceNumber_cleared, optionBit_cleared, errorCode_cleared]
  simp only [cleared_traceId, cleared_timestamp, cleared_uid, cleared_packetLength,
    cleared_functionId, cleared_file, cleared_line]

end Record

/-- **Nothing is counted by a reserved bit.** -/
theorem Tally.add_cleared (t : Tally) (r : Record) : t.add r.cleared = t.add r := by
  rw [add, add, Record.length_cleared, Record.direction_cleared, Record.errorCode_cleared,
    Record.cleared_timestamp]

/-! ### Records that differ in reserved bits only -/

namespace Record

variable {r s : Record}

/-- What does not tell a record from the cleared one does not tell records that differ in reserved
bits only. -/
theorem eq_of_cleared {α : Type} (f : Record → α) (hf : ∀ r : Record, f r.cleared = f r)
    (h : r.cleared = s.cleared) : f r = f s := by
  rw [← hf r, h, hf s]

/-- Every record of the second list has its partner in the first. -/
theorem exists_of_cleared {rs ss : List Record}
    (h : List.Forall₂ (fun r s => r.cleared = s.cleared) rs ss) (hs : s ∈ ss) :
    ∃ r ∈ rs, r.cleared = s.cleared := by
  have hmap : rs.map cleared = ss.map cleared := by
    rw [← List.forall₂_eq_eq_eq, List.forall₂_map_left_iff, List.forall₂_map_right_iff]
    exact h
  have hmem : s.cleared ∈ rs.map cleared := by
    rw [hmap]
    exact List.mem_map_of_mem hs
  exact List.mem_map.mp hmem

end Record

namespace Transcript

variable {W : Type} [Writer W]

/-- **Showing records that differ in reserved bits only**, whatever comes behind them: each turn of
the loop writes the same line, counts the same, and moves the cursor on by the same bytes. -/
theorem ofCursor_text_of_cleared {rs ss : List Record}
    (h : List.Forall₂ (fun r s => r.cleared = s.cleared) rs ss)
    (hr : ∀ r ∈ rs, r.isWritable = true) (hs : ∀ s ∈ ss, s.isWritable = true) (w : W)
    (tally : Tally) (offset : Nat) (rest : Bytes) :
    ofCursor .text w tally ⟨offset, Record.wires rs ++ rest, false⟩ =
      ofCursor .text w tally ⟨offset, Record.wires ss ++ rest, false⟩ := by
  induction h generalizing w tally offset with
  | nil => rfl
  | @cons r s rs ss hhead htail ih =>
    have hreadr := Cursor.read_wire (hr r (by simp)) offset (Record.wires rs ++ rest) false
    have hreads := Cursor.read_wire (hs s (by simp)) offset (Record.wires ss ++ rest) false
    have hopenr := Cursor.wire_append_ne_nil r (Record.wires rs ++ rest)
    have hopens := Cursor.wire_append_ne_nil s (Record.wires ss ++ rest)
    have hline : r.render tally.lastTimestamp .text = s.render tally.lastTimestamp .text :=
      Record.eq_of_cleared (fun x => x.render tally.lastTimestamp .text)
        (fun x => x.textLine_cleared tally.lastTimestamp) hhead
    have hid := Record.eq_of_cleared Record.traceId Record.cleared_traceId hhead
    have hlen := Record.eq_of_cleared Record.length Record.length_cleared hhead
    have hcount := Record.eq_of_cleared tally.add tally.add_cleared hhead
    rw [Record.wires_cons, Record.wires_cons, List.append_assoc, List.append_assoc,
      ofCursor_of_entry hopenr hreadr, ofCursor_of_entry hopens hreads]
    dsimp only
    rw [hline, hid, hlen, hcount]
    -- Both go on with the same writer, statistics and offset, or fail in the same way.
    rcases writeLine w (s.render tally.lastTimestamp .text) with ⟨w', _ | e⟩
    · dsimp only
      rw [ih (fun x hx => hr x (by simp [hx])) (fun x hx => hs x (by simp [hx]))]
    · rfl

/-- **Reserved bits do not show in text.**  Two lists of records that have no NUL in their file
names and differ in reserved bits only are both written; and with the same bytes behind them they
are shown alike on any writer: the writer ends up in the same state, the same is logged, and the
statistics or the failure are the same. -/
theorem ofBytes_text_of_cleared {rs ss : List Record}
    (h : List.Forall₂ (fun r s => r.cleared = s.cleared) rs ss)
    (hnul : ∀ r ∈ rs, '\x00' ∉ r.file.toList) :
    ∃ bs cs, Record.encodeAll rs = .ok bs ∧ Record.encodeAll ss = .ok cs ∧
      ∀ (w : W) (tail : Bytes), ofBytes .text w (bs ++ tail) = ofBytes .text w (cs ++ tail) := by
  have hr : ∀ r ∈ rs, r.isWritable = true := fun r hmem =>
    Record.isWritable_iff_nul.mpr (hnul r hmem)
  have hs : ∀ s ∈ ss, s.isWritable = true := by
    intro s hmem
    obtain ⟨r, hpartner, hcleared⟩ := Record.exists_of_cleared h hmem
    rw [Record.isWritable_iff_nul, ← Record.eq_of_cleared Record.file Record.cleared_file hcleared]
    exact hnul r hpartner
  refine ⟨Record.wires rs, Record.wires ss, Record.encodeAll_eq_ok_iff.mpr ⟨hr, rfl⟩,
    Record.encodeAll_eq_ok_iff.mpr ⟨hs, rfl⟩, fun w tail => ?_⟩
  exact ofCursor_text_of_cleared h hr hs w .empty 0 tail

/-- Two records, one with no reserved bit set and one with all of them, and behind each the first
byte of a record that was cut off. -/
theorem ofBytes_text_of_cleared_corrupt :
    let r : Record := ⟨2, 100, 7, 4, 1, 0b00110100, 0b01000000, "a.c", 12⟩
    let s : Record := ⟨2, 100, 7, 4, 1, 0b00111111, 0b01111111, "a.c", 12⟩
    List.Forall₂ (fun r s => r.cleared = s.cleared) [r] [s] ∧
    (∀ x ∈ [r], '\x00' ∉ x.file.toList) ∧
    ∃ bs cs, Record.encodeAll [r] = .ok bs ∧ Record.encodeAll [s] = .ok cs ∧ bs ≠ cs ∧
      ofBytes .text Sink.unlimited (bs ++ [0x2A]) =
        ofBytes .text Sink.unlimited (cs ++ [0x2A]) := by
  intro r s
  have hcleared : List.Forall₂ (fun r s => r.cleared = s.cleared) [r] [s] :=
    .cons (by decide) .nil
  have hnul : ∀ x ∈ [r], '\x00' ∉ x.file.toList := by decide
  obtain ⟨bs, cs, hbs, hcs, hshown⟩ := ofBytes_text_of_cleared (W := Sink) hcleared hnul
  refine ⟨hcleared, hnul, bs, cs, hbs, hcs, ?_, hshown Sink.unlimited [0x2A]⟩
  have hdiffer : Record.wires [r] ≠ Record.wires [s] := by decide +kernel
  rw [← (Record.encodeAll_eq_ok_iff.mp hbs).2, ← (Record.encodeAll_eq_ok_iff.mp hcs).2]
  exact hdiffer

end Transcript

end PacketLog
