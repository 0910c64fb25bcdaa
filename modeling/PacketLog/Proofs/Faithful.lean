/-
What a line of JSON says of a record.

The line is JSON text without controls, whatever the file name holds, and whoever reads it as such
finds the same object in it: the fields of the record and what is read off them, under their keys
and in their order.  Only the distance in time may be off, if it is beyond the range of a signed
word of 64 bits; then it is the end of the range on its side.

* `clampInt64_of_mem`, `clampInt64_of_lt`, `clampInt64_of_gt` — what clamping does to a number;
* `Direction.name_injective`, `Outcome.name_injective` — a name belongs to one only;
* `Record.text_jsonLine_iff` — the object that is read in a line, and the line is JSON text.
-/
import PacketLog.Json.Spelling
import PacketLog.Proofs.Decoding
import PacketLog.Proofs.Lines
import PacketLog.Record.Packed

namespace PacketLog

theorem clampInt64_of_mem {n : Int} (hmin : Int64.minValue.toInt ≤ n)
    (hmax : n ≤ Int64.maxValue.toInt) : clampInt64 n = n := by
  rw [clampInt64, min_eq_left hmax, max_eq_right hmin]

theorem clampInt64_of_lt {n : Int} (h : n < Int64.minValue.toInt) :
    clampInt64 n = Int64.minValue.toInt := by
  have hrange : Int64.minValue.toInt ≤ Int64.maxValue.toInt := by decide
  rw [clampInt64, min_eq_left (h.le.trans hrange), max_eq_left h.le]

theorem clampInt64_of_gt {n : Int} (h : Int64.maxValue.toInt < n) :
    clampInt64 n = Int64.maxValue.toInt := by
  have hrange : Int64.minValue.toInt ≤ Int64.maxValue.toInt := by decide
  rw [clampInt64, min_eq_right h.le, max_eq_right hrange]

theorem Direction.name_injective : Function.Injective Direction.name := by
  intro d e h
  cases d <;> cases e <;> simp_all [Direction.name]

theorem Outcome.name_injective : Function.Injective Outcome.name := by
  intro o p h
  cases o <;> cases p <;> simp_all [Outcome.name]

namespace Record

/-- **A line of JSON is faithful.**  It holds no control and is JSON text, in which one object is
read and nothing else, with fifteen members in their order.  The numbers and the file name are
those of the record, the parts of its packed bytes included, the names are those of its direction
and of its outcome and of no other, and the text of the uid is read as the uid.  The distance in
time, from the point before or zero if there is none, is exact if a signed word of 64 bits can hold
it; else it is the largest or the least such word, with the sign of the distance. -/
theorem text_jsonLine_iff (r : Record) (previous : Option UInt64) :
    let line := (r.render previous .json).toList
    let kind := if r.traceId = 0 then "invalid" else
      if r.traceId.toNat % 2 = 0 then "request" else "response"
    let outcome := match r.errorByte.toNat / 64 with
      | 0 => "success"
      | 1 => "invalid_parameter"
      | 2 => "function_not_supported"
      | _ => "unknown_error"
    let distance : Int := match previous with
      | some p => (r.timestamp.toNat : Int) - (p.toNat : Int)
      | none => 0
    ∃ uid delta,
      NoControl line ∧
      (∀ value, Json.Text line value ↔ value = .object [
        ("trace_id", .number r.traceId.toNat),
        ("kind", .string kind),
        ("timestamp", .number r.timestamp.toNat),
        ("delta", .number (delta : Int)),
        ("uid", .string uid),
        ("length", .number r.packetLength.toNat),
        ("function_id", .number r.functionId.toNat),
        ("sequence_number", .number (r.sequenceByte.toNat / 16 : Nat)),
        ("option", .number (r.sequenceByte.toNat / 4 % 2 : Nat)),
        ("error_code", .number (r.errorByte.toNat / 64 : Nat)),
        ("error_name", .string outcome),
        ("seq_and_options", .number r.sequenceByte.toNat),
        ("error_and_reserved", .number r.errorByte.toNat),
        ("file", .string r.file),
        ("line", .number r.line.toInt)]) ∧
      (∀ d : Direction, d.name = kind ↔ d = r.direction) ∧
      (∀ o : Outcome, o.name = outcome ↔ o = r.outcome) ∧
      r.sequenceNumber.toNat = r.sequenceByte.toNat / 16 ∧
      r.optionBit.toNat = r.sequenceByte.toNat / 4 % 2 ∧
      r.errorCode.toNat = r.errorByte.toNat / 64 ∧
      Base58.decode uid = .ok r.uid.toUInt64 ∧
      timeSince r.timestamp previous = distance ∧
      (-2 ^ 63 ≤ distance → distance < 2 ^ 63 → delta = distance) ∧
      (distance < -2 ^ 63 → delta = -2 ^ 63) ∧
      (2 ^ 63 ≤ distance → delta = 2 ^ 63 - 1) := by
  intro line kind outcome distance
  have hline : line = (r.toJson previous).chars := String.toList_ofList
  have hdistance : timeSince r.timestamp previous = distance := by
    cases previous with
    | none => rfl
    | some p => rfl
  have hmin : Int64.minValue.toInt = -2 ^ 63 := by decide
  have hmax : Int64.maxValue.toInt = 2 ^ 63 - 1 := by decide
  have hkind : r.direction.name = kind := r.name_direction
  have houtcome : r.outcome.name = outcome := r.name_outcome
  refine ⟨Base58.encode r.uid.toUInt64, clampInt64 distance, ?_, fun value => ?_, fun d => ?_,
    fun o => ?_, r.toNat_sequenceNumber, r.toNat_optionBit, r.toNat_errorCode,
    Base58.decode_encode _, hdistance, fun hle hlt => ?_, fun hlt => ?_, fun hle => ?_⟩
  · rw [hline]
    exact Json.noControl_chars _
  · -- JSON text is read as the value that it shows, so the members are compared one by one.
    rw [hline, Json.text_chars_iff]
    simp only [toJson, jsonByte, Json.toValue, Json.memberValues, Int.cast_natCast,
      toNat_sequenceNumber, toNat_optionBit, toNat_errorCode, hkind, houtcome, hdistance]
  · rw [← hkind]
    exact Direction.name_injective.eq_iff
  · rw [← houtcome]
    exact Outcome.name_injective.eq_iff
  · -- The distance is in the range, below it or above it.
    exact clampInt64_of_mem (hmin ▸ hle) (by omega)
  · rw [clampInt64_of_lt (hmin ▸ hlt), hmin]
  · rw [clampInt64_of_gt (by omega), hmax]

end Record

end PacketLog
