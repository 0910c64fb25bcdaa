/-
What a sink takes of the bytes that are written to it.

* `write_eq` : a write takes what there is room for, and fails if that is not all,
* `write_append` : writing one byte string after another is writing both at once,
* `writeEach_eq` : writing byte strings one after the other is writing them at once.
-/
import PacketLog.Sink

namespace PacketLog.Sink

/-- The error of a sink that refuses. -/
def refusal (s : Sink) : IoError := s.fault.getD .writeZero

@[simp] theorem bytes_push (s : Sink) (bs : Bytes) : (s.push bs).bytes = s.bytes ++ bs := by
  simp [push, bytes]

@[simp] theorem push_nil (s : Sink) : s.push [] = s := by
  obtain ⟨limit, fault, flushFault, taken, flushes⟩ := s
  have : taken ++ ([] : Bytes) = taken := Array.toList_inj.1 (by simp)
  rw [push, this]

@[simp] theorem push_push (s : Sink) (as bs : Bytes) : (s.push as).push bs = s.push (as ++ bs) := by
  have : s.taken ++ as ++ bs = s.taken ++ (as ++ bs) := Array.toList_inj.1 (by simp)
  simp only [push, this]

@[simp] theorem size_push (s : Sink) (bs : Bytes) :
    (s.push bs).taken.size = s.taken.size + bs.length := by
  rw [push, ← Array.length_toList]
  simp

theorem accepts_fresh (limit : Option Nat) (fault flushFault : Option IoError) (n : Nat) :
    (fresh limit fault flushFault).accepts n = min n (limit.getD n) := by
  cases limit with
  | none => exact (Nat.min_self n).symm
  | some limit => rfl

theorem accepts_le (s : Sink) (n : Nat) : s.accepts n ≤ n := by
  unfold accepts
  split
  · exact Nat.le_refl n
  · exact Nat.min_le_left ..

/-- After taking what there is room for, there is no room for the others. -/
theorem accepts_push_take (s : Sink) (bs : Bytes) :
    (s.push (bs.take (s.accepts bs.length))).accepts (bs.length - s.accepts bs.length) = 0 := by
  have hle := s.accepts_le bs.length
  have hsize : (s.push (bs.take (s.accepts bs.length))).taken.size =
      s.taken.size + s.accepts bs.length := by
    rw [size_push, List.length_take, Nat.min_eq_left hle]
  unfold accepts at *
  rw [hsize]
  simp only [push]
  cases s.limit with
  | none => exact Nat.sub_self _
  | some limit => dsimp only; omega

theorem offer_of_accepts_eq_zero {s : Sink} {bs : Bytes} (h : s.accepts bs.length = 0) :
    s.offer bs = (s, match s.fault with | some fault => .error fault | none => .ok 0) := by
  rw [offer]
  simp only [h, if_true]
  cases s.fault <;> rfl

theorem offer_of_accepts_ne_zero {s : Sink} {bs : Bytes} (h : s.accepts bs.length ≠ 0) :
    s.offer bs = (s.push (bs.take (s.accepts bs.length)), .ok (s.accepts bs.length)) := by
  rw [offer]
  simp only [h, if_false]

theorem write_of_accepts_eq_zero {s : Sink} {bs : Bytes} (hbs : bs ≠ [])
    (h : s.accepts bs.length = 0) : s.write bs = (s, some s.refusal) := by
  cases bs with
  | nil => exact absurd rfl hbs
  | cons b rest =>
    rw [write, offer_of_accepts_eq_zero h, refusal]
    cases s.fault <;> rfl

theorem write_nil (s : Sink) : s.write [] = (s, none) := by rw [write]

theorem write_of_accepts_ne_zero {s : Sink} {bs : Bytes} (h : s.accepts bs.length ≠ 0) :
    s.write bs =
      (s.push (bs.take (s.accepts bs.length))).write (bs.drop (s.accepts bs.length)) := by
  cases bs with
  | nil => exact absurd (Nat.le_zero.1 (s.accepts_le _)) h
  | cons b rest =>
    rw [write, offer_of_accepts_ne_zero h]
    cases hn : s.accepts (b :: rest).length with
    | zero => exact absurd hn h
    | succ n => rfl

/-- A write takes what there is room for, and fails if that is not all of the bytes. -/
theorem write_eq (s : Sink) (bs : Bytes) :
    s.write bs = (s.push (bs.take (s.accepts bs.length)),
      if s.accepts bs.length = bs.length then none else some s.refusal) := by
  by_cases hbs : bs = []
  · subst hbs
    have h : s.accepts 0 = 0 := Nat.le_zero.1 (s.accepts_le 0)
    rw [write_nil, List.length_nil, h, if_pos rfl, List.take_nil, push_nil]
  · -- An offer is taken not at all, in full, or in part; in the last case the next one is refused.
    by_cases h : s.accepts bs.length = 0
    · have hlen : s.accepts bs.length ≠ bs.length := by
        rw [h]
        intro hz
        exact hbs (List.eq_nil_of_length_eq_zero hz.symm)
      rw [write_of_accepts_eq_zero hbs h, h, List.take_zero, push_nil, ← h, if_neg hlen]
    · rw [write_of_accepts_ne_zero h]
      by_cases hall : s.accepts bs.length = bs.length
      · rw [hall, List.drop_length, write_nil, if_pos rfl]
      · have hne : bs.drop (s.accepts bs.length) ≠ [] := by
          rw [Ne, List.drop_eq_nil_iff]
          have := s.accepts_le bs.length
          omega
        rw [if_neg hall, write_of_accepts_eq_zero hne]
        · rfl
        · rw [List.length_drop]
          exact s.accepts_push_take bs

theorem accepts_add_of_eq {s : Sink} {bs : Bytes} (h : s.accepts bs.length = bs.length) (n : Nat) :
    s.accepts (bs.length + n) = bs.length + (s.push bs).accepts n := by
  unfold accepts at *
  rw [size_push]
  simp only [push]
  cases hl : s.limit with
  | none => rfl
  | some limit =>
    rw [hl] at h
    dsimp only at h ⊢
    omega

theorem accepts_add_of_ne {s : Sink} {m : Nat} (h : s.accepts m ≠ m) (n : Nat) :
    s.accepts (m + n) = s.accepts m := by
  unfold accepts at *
  cases hl : s.limit with
  | none => rw [hl] at h; exact absurd rfl h
  | some limit =>
    rw [hl] at h
    dsimp only at h ⊢
    omega

@[simp] theorem refusal_push (s : Sink) (bs : Bytes) : (s.push bs).refusal = s.refusal := rfl

/-- Writing one byte string after another is writing both at once. -/
theorem write_append (s : Sink) (as bs : Bytes) :
    s.write (as ++ bs) =
      match s.write as with
      | (s, none) => s.write bs
      | (s, some e) => (s, some e) := by
  rw [write_eq s as, write_eq s (as ++ bs), List.length_append]
  by_cases h : s.accepts as.length = as.length
  · rw [if_pos h, accepts_add_of_eq h, h, List.take_length, List.take_length_add_append]
    dsimp only
    rw [write_eq, push_push, refusal_push]
    simp only [Nat.add_left_cancel_iff]
  · -- The limit lies inside `as`, where both writes end.
    have hle := s.accepts_le as.length
    have hne : s.accepts as.length ≠ as.length + bs.length := by omega
    rw [if_neg h, accepts_add_of_ne h, if_neg hne, List.take_append_of_le_length hle]

/-- Writing byte strings one after the other is writing them at once. -/
theorem writeEach_eq (s : Sink) (pieces : List Bytes) :
    Writer.writeEach s pieces = s.write pieces.flatten := by
  induction pieces generalizing s with
  | nil => rw [Writer.writeEach, List.flatten_nil, write_nil]
  | cons piece pieces ih =>
    rw [Writer.writeEach, List.flatten_cons, write_append]
    rw [show Writer.write s piece = s.write piece from rfl]
    rcases s.write piece with ⟨t, _ | e⟩
    · exact ih t
    · rfl

end PacketLog.Sink
