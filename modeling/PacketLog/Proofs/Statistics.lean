/-
What the statistics of records tell.

Each counter is moved on by every record of its kind, and the kind can be told from the id or from
the error byte alone.  So the counters do not depend on the order of the records; the points in time
do, the first one being kept and the last one replaced.

* `Tally.countDirection_request`, `Tally.countErrors_eq` — which records a counter counts;
* `Tally.untimed_foldl_perm` — the counters do not depend on the order;
* `Tally.foldl_add_exact` — what the statistics are behind any records, whatever they were before.
-/
import PacketLog.Record.Packed
import PacketLog.Tally.Counting

namespace PacketLog

namespace Tally

theorem countDirection_request (rs : List Record) :
    countDirection .request rs =
      rs.countP fun r => r.traceId ≠ 0 ∧ r.traceId.toNat % 2 = 0 := by
  simp only [countDirection, Record.direction, Direction.ofTraceId_eq_request_iff]

theorem countDirection_response (rs : List Record) :
    countDirection .response rs = rs.countP fun r => r.traceId.toNat % 2 = 1 := by
  simp only [countDirection, Record.direction, Direction.ofTraceId_eq_response_iff]

theorem countDirection_untraced (rs : List Record) :
    countDirection .untraced rs = rs.countP fun r => r.traceId = 0 := by
  simp only [countDirection, Record.direction, Direction.ofTraceId_eq_untraced_iff]

theorem countErrors_eq (rs : List Record) :
    countErrors rs = rs.countP fun r => 64 ≤ r.errorByte.toNat := by
  simp only [countErrors, Record.errorCode_ne_zero_iff]

/-! ### The order of the records -/

/-- The statistics without their points in time: the six counters. -/
def untimed (t : Tally) : Tally := { t with firstTimestamp := none, lastTimestamp := none }

theorem untimed_foldl_add (t : Tally) (rs : List Record) :
    (rs.foldl add t).untimed = rs.foldl (fun t r => (t.add r).untimed) t.untimed :=
  (List.foldl_hom untimed fun _ _ => rfl).symm

theorem countIf_comm (p q : Bool) (counter : UInt64) :
    countIf p (countIf q counter) = countIf q (countIf p counter) := by
  cases p <;> cases q <;> rfl

/-- Two records count the same in either order. -/
theorem untimed_add_comm (t : Tally) (r s : Record) :
    ((t.add r).add s).untimed = ((t.add s).add r).untimed := by
  simp only [untimed, add, mk.injEq, true_and]
  -- The lengths are added in either order, and every other counter counts a record or does not.
  exact ⟨add_right_comm _ _ _, countIf_comm _ _ _, countIf_comm _ _ _, countIf_comm _ _ _,
    countIf_comm _ _ _⟩

/-- **The counters do not depend on the order of the records**, whether they wrap around or not. -/
theorem untimed_foldl_perm {rs ss : List Record} (h : rs.Perm ss) (t : Tally) :
    (rs.foldl add t).untimed = (ss.foldl add t).untimed := by
  rw [untimed_foldl_add, untimed_foldl_add]
  -- The points in time depend on the order, so they are put aside before two records are swapped.
  exact h.foldl_eq' (fun r _ s _ t => untimed_add_comm t r s) t.untimed

/-! ### The points in time -/

/-- The distance in time is that of the last record from the first. -/
theorem duration_foldl_add (rs : List Record) :
    (rs.foldl add .empty).duration =
      match rs.head?, rs.getLast? with
      | some first, some last => (last.timestamp.toNat : Int) - (first.timestamp.toNat : Int)
      | _, _ => 0 := by
  rw [duration, firstTimestamp_foldl_add, lastTimestamp_foldl_add, empty]
  rcases rs.head? with _ | first <;> rcases rs.getLast? with _ | last <;> rfl

/-- **What statistics are behind any records**, whatever they were before.  With room in them, each
counter has moved on by the number or the length of the records of its kind; the kinds are those of
the ids and of the error bytes, and the order does not matter to them.  The first point in time is
kept if there is one, and the last one is that of the last record.  In statistics that began empty
their distance is exact.  More records can be added later. -/
theorem foldl_add_exact (t : Tally) (rs : List Record) :
    let u := rs.foldl add t
    (HasRoom t rs →
      u.records.toNat = t.records.toNat + rs.length ∧
      u.bytes.toNat = t.bytes.toNat + (rs.map Record.length).sum ∧
      u.requests.toNat =
        t.requests.toNat + rs.countP (fun r => r.traceId ≠ 0 ∧ r.traceId.toNat % 2 = 0) ∧
      u.responses.toNat = t.responses.toNat + rs.countP (fun r => r.traceId.toNat % 2 = 1) ∧
      u.untraced.toNat = t.untraced.toNat + rs.countP (fun r => r.traceId = 0) ∧
      u.errors.toNat = t.errors.toNat + rs.countP (fun r => 64 ≤ r.errorByte.toNat)) ∧
    (∀ ss : List Record, ss.Perm rs → (ss.foldl add t).untimed = u.untimed) ∧
    u.firstTimestamp = t.firstTimestamp.or (rs.head?.map Record.timestamp) ∧
    u.lastTimestamp = (rs.getLast?.map Record.timestamp).or t.lastTimestamp ∧
    (rs.foldl add .empty).duration =
      (match rs.head?, rs.getLast? with
      | some first, some last => (last.timestamp.toNat : Int) - (first.timestamp.toNat : Int)
      | _, _ => 0) ∧
    ∀ more : List Record, (rs ++ more).foldl add t = more.foldl add u := by
  intro u
  refine ⟨fun hroom => ?_, fun ss hperm => untimed_foldl_perm hperm t,
    firstTimestamp_foldl_add t rs, lastTimestamp_foldl_add t rs, duration_foldl_add rs,
    fun more => List.foldl_append⟩
  -- With room for the records no counter wraps around; the kinds are those of ids and error bytes.
  obtain ⟨hrecords, hbytes, hrequests, hresponses, huntraced, herrors⟩ := counts_foldl_add hroom
  rw [countDirection_request] at hrequests
  rw [countDirection_response] at hresponses
  rw [countDirection_untraced] at huntraced
  rw [countErrors_eq] at herrors
  exact ⟨hrecords, hbytes, hrequests, hresponses, huntraced, herrors⟩

/-- Statistics with a last point in time and no first one, filled up by a request, a response and a
packet that was not traced. -/
theorem foldl_add_exact_full :
    let t : Tally := ⟨0xFFFFFFFFFFFFFFFC, 0xFFFFFFFFFFFFFFA3, none, some 9, 5, 6, 7, 8⟩
    let rs : List Record :=
      [⟨2, 100, 1, 8, 1, 0x10, 0x3F, "", 1⟩,
        ⟨0xFFFFFFFFFFFFFFFF, 150, 1, 8, 1, 0x10, 0x40, "a.c", 2⟩,
        ⟨0, 90, 1, 8, 1, 0x10, 0xC0, "é", 3⟩]
    HasRoom t rs ∧
    let u := rs.foldl add t
    u.records.toNat = 2 ^ 64 - 1 ∧ u.bytes.toNat = 2 ^ 64 - 1 ∧ u.requests.toNat = 6 ∧
      u.responses.toNat = 7 ∧ u.untraced.toNat = 8 ∧ u.errors.toNat = 10 ∧
      (rs.reverse.foldl add t).untimed = u.untimed ∧
      u.firstTimestamp = some 100 ∧ u.lastTimestamp = some 90 ∧
      (rs.foldl add .empty).duration = -10 := by
  intro t rs
  have hroom : HasRoom t rs := by
    refine ⟨?_, ?_, ?_, ?_, ?_, ?_⟩ <;> decide +kernel
  obtain ⟨hcounters, hperm, hfirst, hlast, hduration, -⟩ := foldl_add_exact t rs
  obtain ⟨hrecords, hbytes, hrequests, hresponses, huntraced, herrors⟩ := hcounters hroom
  exact ⟨hroom, hrecords, hbytes, hrequests, hresponses, huntraced, herrors,
    hperm _ rs.reverse_perm, hfirst, hlast, hduration⟩

end Tally

end PacketLog
