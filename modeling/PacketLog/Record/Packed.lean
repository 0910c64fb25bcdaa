/-
The packed bytes of a record, in numbers.

What a record tells of its packet is read off three places: whether the id is even, the halves and
bits of the sequence byte, and the top two bits of the error byte.  Here each is said by division
alone, and so are the names that go with it.

* `Direction.ofTraceId_eq_request_iff`, `Direction.ofTraceId_eq_response_iff`,
  `Direction.ofTraceId_eq_untraced_iff` — the direction that an id tells;
* `Record.toNat_sequenceNumber`, `Record.toNat_optionBit`, `Record.toNat_errorCode` — the numbers
  in the packed bytes;
* `Record.name_direction`, `Record.name_outcome` — the names that are shown.
-/
import Mathlib
import PacketLog.Record.Basic

namespace PacketLog

namespace Direction

variable {id : UInt64}

theorem even_iff : id % 2 = 0 ↔ id.toNat % 2 = 0 := by
  rw [← UInt64.toNat_inj, UInt64.toNat_mod]
  rfl

theorem ofTraceId_eq_untraced_iff : ofTraceId id = .untraced ↔ id = 0 := by
  rw [ofTraceId]
  split_ifs with hzero heven
  · simp [hzero]
  · simp [hzero]
  · simp [hzero]

theorem ofTraceId_eq_request_iff : ofTraceId id = .request ↔ id ≠ 0 ∧ id.toNat % 2 = 0 := by
  rw [← even_iff, ofTraceId]
  split_ifs with hzero heven
  · simp [hzero]
  · simp [hzero, heven]
  · simp [heven]

theorem ofTraceId_eq_response_iff : ofTraceId id = .response ↔ id.toNat % 2 = 1 := by
  have hodd : id.toNat % 2 = 1 ↔ ¬ id % 2 = 0 := by
    rw [even_iff]
    omega
  rw [hodd, ofTraceId]
  split_ifs with hzero heven
  · simp [hzero]
  · simp [heven]
  · simp [heven]

end Direction

namespace Record

theorem toNat_sequenceNumber (r : Record) : r.sequenceNumber.toNat = r.sequenceByte.toNat / 16 := by
  rw [sequenceNumber, UInt8.toNat_shiftRight, Nat.shiftRight_eq_div_pow]
  rfl

theorem toNat_optionBit (r : Record) : r.optionBit.toNat = r.sequenceByte.toNat / 4 % 2 := by
  rw [optionBit, UInt8.toNat_and, UInt8.toNat_shiftRight, Nat.shiftRight_eq_div_pow]
  exact Nat.and_one_is_mod _

theorem toNat_errorCode (r : Record) : r.errorCode.toNat = r.errorByte.toNat / 64 := by
  rw [errorCode, UInt8.toNat_shiftRight, Nat.shiftRight_eq_div_pow]
  rfl

/-- The top two bits of the error byte are not both zero. -/
theorem errorCode_ne_zero_iff {r : Record} : r.errorCode ≠ 0 ↔ 64 ≤ r.errorByte.toNat := by
  rw [Ne, ← UInt8.toNat_inj, toNat_errorCode]
  show ¬ r.errorByte.toNat / 64 = 0 ↔ _
  omega

theorem name_direction (r : Record) :
    r.direction.name = if r.traceId = 0 then "invalid" else
      if r.traceId.toNat % 2 = 0 then "request" else "response" := by
  rw [direction, Direction.ofTraceId]
  simp only [Direction.even_iff]
  split_ifs
  · rfl
  · rfl
  · rfl

theorem name_outcome (r : Record) :
    r.outcome.name = match r.errorByte.toNat / 64 with
      | 0 => "success"
      | 1 => "invalid_parameter"
      | 2 => "function_not_supported"
      | _ => "unknown_error" := by
  -- The two bits make four codes, so the remainder by four changes nothing.
  have hbyte := r.errorByte.toNat_lt
  have hcode : r.errorByte.toNat / 64 % 4 = r.errorByte.toNat / 64 := by omega
  have hcases : r.errorByte.toNat / 64 = 0 ∨ r.errorByte.toNat / 64 = 1 ∨
      r.errorByte.toNat / 64 = 2 ∨ r.errorByte.toNat / 64 = 3 := by omega
  rw [outcome, Outcome.ofCode, toNat_errorCode, hcode]
  rcases hcases with h | h | h | h
  all_goals
    rw [h]
    rfl

end Record

end PacketLog
