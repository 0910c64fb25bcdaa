/-
What statistics come to when records are added one after the other.

The counters are words, and as long as the numbers fit into them they are exact.  The first point in
time stays and the last one is replaced.

* `toNat_foldl_add` — a counter that each record moves on by a number ends at the sum of these;
* `records_foldl_add` — the number of records, as a word;
* `counts_foldl_add` — with room for the numbers, statistics count records exactly;
* `HasRoom.foldl_add` — what there is room for behind some records;
* `sum_countDirection`, `countErrors_le` — how these numbers are related;
* `firstTimestamp_foldl_add`, `lastTimestamp_foldl_add` — the points in time.
-/
import Mathlib
import PacketLog.Tally

namespace PacketLog.Tally

/-- How many of some records go in a direction. -/
def countDirection (d : Direction) (rs : List Record) : Nat := rs.countP fun r => r.direction = d

/-- How many of some records tell of an error. -/
def countErrors (rs : List Record) : Nat := rs.countP fun r => r.errorCode ≠ 0

/-- There is room in the counters of `t` for the records `rs`. -/
structure HasRoom (t : Tally) (rs : List Record) : Prop where
  records : t.records.toNat + rs.length < 2 ^ 64
  bytes : t.bytes.toNat + (rs.map Record.length).sum < 2 ^ 64
  requests : t.requests.toNat + countDirection .request rs < 2 ^ 64
  responses : t.responses.toNat + countDirection .response rs < 2 ^ 64
  untraced : t.untraced.toNat + countDirection .untraced rs < 2 ^ 64
  errors : t.errors.toNat + countErrors rs < 2 ^ 64

/-- The counters of `u` are those of `t` with the records `rs` counted on. -/
structure Counts (t : Tally) (rs : List Record) (u : Tally) : Prop where
  records : u.records.toNat = t.records.toNat + rs.length
  bytes : u.bytes.toNat = t.bytes.toNat + (rs.map Record.length).sum
  requests : u.requests.toNat = t.requests.toNat + countDirection .request rs
  responses : u.responses.toNat = t.responses.toNat + countDirection .response rs
  untraced : u.untraced.toNat = t.untraced.toNat + countDirection .untraced rs
  errors : u.errors.toNat = t.errors.toNat + countErrors rs

/-! ### The counters -/

/-- **A counter that every record moves on by a number** ends at the sum of these, as long as that
fits into a word. -/
theorem toNat_foldl_add (counter : Tally → UInt64) {amount : Record → Nat}
    (hadd : ∀ t r, counter (t.add r) = counter t + UInt64.ofNat (amount r)) {t : Tally}
    {rs : List Record} (hfits : (counter t).toNat + (rs.map amount).sum < 2 ^ 64) :
    (counter (rs.foldl add t)).toNat = (counter t).toNat + (rs.map amount).sum := by
  induction rs generalizing t with
  | nil => rfl
  | cons r rs ih =>
    rw [List.map_cons, List.sum_cons] at hfits ⊢
    have hstep : (counter (t.add r)).toNat = (counter t).toNat + amount r := by
      rw [hadd, UInt64.toNat_add, UInt64.toNat_ofNat', Nat.add_mod_mod, Nat.mod_eq_of_lt (by omega)]
    rw [List.foldl_cons, ih (by omega), hstep, Nat.add_assoc]

/-- A counter of the records with a property ends at their number. -/
theorem toNat_foldl_countIf (counter : Tally → UInt64) {holds : Record → Bool}
    (hadd : ∀ t r, counter (t.add r) = countIf (holds r) (counter t)) {t : Tally}
    {rs : List Record} (hfits : (counter t).toNat + rs.countP holds < 2 ^ 64) :
    (counter (rs.foldl add t)).toNat = (counter t).toNat + rs.countP holds := by
  -- A record with the property moves the counter on by one, any other by nothing.
  have hamount (t : Tally) (r : Record) :
      counter (t.add r) = counter t + UInt64.ofNat (if holds r then 1 else 0) := by
    rw [hadd, countIf]
    split
    · rfl
    · exact (UInt64.add_zero _).symm
  have hsum : (rs.map fun r => if holds r then 1 else 0).sum = rs.countP holds := by
    clear hfits
    induction rs with
    | nil => rfl
    | cons r rs ih => rw [List.map_cons, List.sum_cons, ih, List.countP_cons, Nat.add_comm]
  rw [← hsum] at hfits ⊢
  exact toNat_foldl_add counter hamount hfits

/-- The number of the records, as a word that wraps around. -/
theorem records_foldl_add (t : Tally) (rs : List Record) :
    (rs.foldl add t).records = t.records + UInt64.ofNat rs.length := by
  induction rs generalizing t with
  | nil => exact (UInt64.add_zero _).symm
  | cons r rs ih =>
    rw [List.foldl_cons, ih, List.length_cons, Nat.add_comm, UInt64.ofNat_add, ← UInt64.add_assoc]
    rfl

/-- **With room for their numbers, statistics count records exactly.** -/
theorem counts_foldl_add {t : Tally} {rs : List Record} (h : HasRoom t rs) :
    Counts t rs (rs.foldl add t) where
  records := by
    have hsum : (rs.map fun _ => 1).sum = rs.length := by simp
    have hfits := h.records
    rw [← hsum] at hfits ⊢
    exact toNat_foldl_add Tally.records (fun _ _ => rfl) hfits
  bytes := toNat_foldl_add Tally.bytes (fun _ _ => rfl) h.bytes
  requests := toNat_foldl_countIf Tally.requests (fun _ _ => rfl) h.requests
  responses := toNat_foldl_countIf Tally.responses (fun _ _ => rfl) h.responses
  untraced := toNat_foldl_countIf Tally.untraced (fun _ _ => rfl) h.untraced
  errors := toNat_foldl_countIf Tally.errors (fun _ _ => rfl) h.errors

/-- Every record goes in one direction. -/
theorem sum_countDirection (rs : List Record) :
    countDirection .request rs + countDirection .response rs + countDirection .untraced rs =
      rs.length := by
  induction rs with
  | nil => rfl
  | cons r rs ih =>
    simp only [countDirection, List.countP_cons, List.length_cons] at ih ⊢
    rcases hd : r.direction <;> simp <;> omega

theorem countErrors_le (rs : List Record) : countErrors rs ≤ rs.length := List.countP_le_length

theorem countDirection_append (d : Direction) (rs ss : List Record) :
    countDirection d (rs ++ ss) = countDirection d rs + countDirection d ss :=
  List.countP_append

theorem countErrors_append (rs ss : List Record) :
    countErrors (rs ++ ss) = countErrors rs + countErrors ss :=
  List.countP_append

/-- Behind some of the records that there is room for, there is room for the others. -/
theorem HasRoom.foldl_add {t : Tally} {rs ss : List Record} (h : HasRoom t (rs ++ ss)) :
    HasRoom (rs.foldl add t) ss := by
  obtain ⟨records, bytes, requests, responses, untraced, errors⟩ := h
  rw [List.length_append] at records
  rw [List.map_append, List.sum_append] at bytes
  rw [countDirection_append] at requests responses untraced
  rw [countErrors_append] at errors
  -- There is room for the first of the records alone, so that they are counted exactly.
  have hcounts : Counts t rs (rs.foldl add t) := counts_foldl_add
    ⟨by omega, by omega, by omega, by omega, by omega, by omega⟩
  refine ⟨?_, ?_, ?_, ?_, ?_, ?_⟩
  · rwa [hcounts.records, Nat.add_assoc]
  · rwa [hcounts.bytes, Nat.add_assoc]
  · rwa [hcounts.requests, Nat.add_assoc]
  · rwa [hcounts.responses, Nat.add_assoc]
  · rwa [hcounts.untraced, Nat.add_assoc]
  · rwa [hcounts.errors, Nat.add_assoc]

/-! ### The points in time -/

theorem firstTimestamp_foldl_add (t : Tally) (rs : List Record) :
    (rs.foldl add t).firstTimestamp = t.firstTimestamp.or (rs.head?.map Record.timestamp) := by
  induction rs generalizing t with
  | nil => exact Option.or_none.symm
  | cons r rs ih =>
    rw [List.foldl_cons, ih, List.head?_cons]
    rcases h : t.firstTimestamp with _ | first <;> simp [add, h]

theorem lastTimestamp_foldl_add (t : Tally) (rs : List Record) :
    (rs.foldl add t).lastTimestamp = (rs.getLast?.map Record.timestamp).or t.lastTimestamp := by
  induction rs generalizing t with
  | nil => rfl
  | cons r rs ih =>
    rw [List.foldl_cons, ih, List.getLast?_cons]
    rcases rs.getLast? with _ | s <;> rfl

end PacketLog.Tally
