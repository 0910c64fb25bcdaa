/-
What showing a log keeps account of.

The loop that shows a log has a cursor, which reading a record moves on, and statistics, to which
the record is then added.  The two never meet, and yet they agree whenever a turn of the loop
begins: both are a matter of the records so far.

* `Turn.Step` is a turn that another one follows; `Turn.outcome_cases` tells all a turn can do;
* `Turn.Behind` is what every turn keeps: the statistics count the records behind the cursor;
* `Turn.Behind.step`, `Turn.Behind.reached` — one turn and any number of turns keep it;
* `Turn.outcome_of_reached` — each turn comes to what showing the log comes to;
* `Transcript.sum_deltas` — the distances in time of all lines add up to that of the statistics;
* `Transcript.account_ofBytes` — what follows for the counters, the offsets and the result.
-/
import PacketLog.Proofs.Exactness
import PacketLog.Proofs.Showing
import PacketLog.Tally.Counting

namespace PacketLog

theorem Cursor.offset_of_read {c c' : Cursor} {entry : Entry} (h : c.read = (.ok entry, c')) :
    c'.offset = entry.stop := by
  rw [read] at h
  split at h
  · exact absurd h (by simp)
  · obtain ⟨hentry, rfl⟩ := Prod.mk.inj h
    rw [← Except.ok.inj hentry]

/-- A record that is read is the next one ahead, and reading passes over it. -/
theorem Between.of_read {bs rest : Bytes} {past ahead : List Record} {defect : Record.Defect}
    {c c' : Cursor} {entry : Entry} (hcut : IsCut bs (past ++ ahead) rest defect)
    (h : Between past ahead rest c) (hread : c.read = (.ok entry, c')) :
    ∃ ahead', ahead = entry.record :: ahead' ∧ Between (past ++ [entry.record]) ahead' rest c' := by
  have hcall : c.call .read = (some (.ok entry.record), c') := by
    rw [Cursor.call, hread]
    rfl
  -- Of all that a call can do, only handing out a record answers it with one.
  rcases h.call_cases hcut .read with ⟨r, ahead', c'', rfl, hr, h'⟩ | ⟨_, _, he⟩ | ⟨_, hnext, _⟩ |
    ⟨_, hnext, _⟩
  · rw [hcall] at hr
    obtain ⟨hreply, rfl⟩ := Prod.mk.inj hr
    obtain rfl := Except.ok.inj (Option.some.inj hreply)
    exact ⟨ahead', rfl, h'⟩
  · rw [hcall] at he
    exact absurd (Option.some.inj (Prod.mk.inj he).1) (by simp)
  · exact absurd hnext (by simp)
  · exact absurd hnext (by simp)

/-- There is room in fresh statistics for the records of a log whose length fits into a word. -/
theorem Tally.hasRoom_empty {rs : List Record} (h : (Record.wires rs).length < 2 ^ 64) :
    HasRoom .empty rs := by
  have hmin := Record.minLength_mul_le rs
  rw [Record.minLength, Record.headerLength, Record.lineLength] at hmin
  have hdirections := sum_countDirection rs
  have herrors := countErrors_le rs
  rw [Record.length_wires] at h hmin
  have hzero : (0 : UInt64).toNat = 0 := rfl
  -- No counter exceeds the number of bytes, as every record has some.
  refine ⟨?_, ?_, ?_, ?_, ?_, ?_⟩
  all_goals
    rw [empty]
    dsimp only
    omega

/-! ### What a turn keeps -/

/-- What showing a log has when a turn of its loop begins. -/
structure Turn (W : Type) where
  writer : W
  tally : Tally
  cursor : Cursor

namespace Turn

variable {W : Type}

/-- The first turn. -/
def first (w : W) (bs : Bytes) : Turn W := ⟨w, .empty, .ofBytes bs⟩

/-- The cursor stands behind the records `past` and before the records `ahead`, and it is the former
that the statistics count. -/
structure Behind (past ahead : List Record) (rest : Bytes) (t : Turn W) : Prop where
  between : Between past ahead rest t.cursor
  tally : t.tally = past.foldl Tally.add .empty

namespace Behind

variable {bs rest : Bytes} {past ahead : List Record} {defect : Record.Defect} {t : Turn W}

theorem first (w : W) (hcut : IsCut bs ahead rest defect) :
    Behind [] ahead rest (Turn.first w bs) :=
  ⟨Between.ofBytes hcut, rfl⟩

/-- The statistics of a turn, with their counters exact and room in them for a record that is read,
and the record inside the log. -/
theorem account (hcut : IsCut bs (past ++ ahead) rest defect) (h : Behind past ahead rest t)
    (hlen : bs.length < 2 ^ 64) :
    Tally.Counts .empty past t.tally ∧ t.cursor.offset ≤ bs.length ∧
      ∀ entry c', t.cursor.read = (.ok entry, c') →
        entry.stop ≤ bs.length ∧ t.tally.HasRoom [entry.record] := by
  have hle {rs ss : List Record} (hsplit : past ++ ahead = rs ++ ss) :
      (Record.wires rs).length ≤ bs.length := by
    rw [← hcut.length_eq, hsplit, Record.wires_append, List.length_append]
    omega
  refine ⟨?_, ?_, ?_⟩
  · rw [h.tally]
    exact Tally.counts_foldl_add (Tally.hasRoom_empty ((hle rfl).trans_lt hlen))
  · rw [h.between.offset]
    exact hle rfl
  · intro entry c' hread
    obtain ⟨ahead', rfl, hbetween⟩ := h.between.of_read hcut hread
    have hpassed : (Record.wires (past ++ [entry.record])).length ≤ bs.length :=
      hle (List.append_cons past entry.record ahead')
    refine ⟨?_, ?_⟩
    · rw [← Cursor.offset_of_read hread, hbetween.offset]
      exact hpassed
    · rw [h.tally]
      exact (Tally.hasRoom_empty (hpassed.trans_lt hlen)).foldl_add

end Behind

/-! ### The turns of the loop -/

variable [Writer W]

/-- A turn that another one follows: a record is read, its line is written, and it is counted. -/
inductive Step (style : Style) : Turn W → Turn W → Prop
  | shown {w w' : W} {tally : Tally} {c c' : Cursor} {entry : Entry} (hopen : c.rest ≠ [])
      (hread : c.read = (.ok entry, c'))
      (hwrite : Transcript.writeLine w (entry.record.render tally.lastTimestamp style) =
        (w', none)) :
      Step style ⟨w, tally, c⟩ ⟨w', tally.add entry.record, c'⟩

/-- A turn that showing a byte string on a writer comes to. -/
def Reached (style : Style) (w : W) (bs : Bytes) : Turn W → Prop :=
  Relation.ReflTransGen (Step style) (first w bs)

/-- What showing a log comes to from a turn on. -/
def outcome (style : Style) (t : Turn W) : W × Except Failure Tally :=
  (Transcript.ofCursor style t.writer t.tally t.cursor).outcome

/-- A turn comes to what the turn that follows it comes to. -/
theorem Step.outcome_eq {style : Style} {t t' : Turn W} (h : Step style t t') :
    t.outcome style = t'.outcome style := by
  cases h with
  | @shown w w' tally c c' entry hopen hread hwrite =>
    have hout : (Transcript.ofCursor style w tally c).outcome = _ :=
      Transcript.outcome_of_entry hopen hread
    rw [hwrite] at hout
    exact hout

/-- **All that a turn can do**: another one follows, or the log is at its end and its statistics are
the result if the writer can be flushed, or showing it has failed. -/
theorem outcome_cases (style : Style) (t : Turn W) :
    (∃ t', Step style t t') ∨
    (t.cursor.isAtEnd = true ∧ ∀ tally, (t.outcome style).2 = .ok tally → t.tally = tally) ∨
    ∃ failure, (t.outcome style).2 = .error failure := by
  obtain ⟨w, tally, c⟩ := t
  -- Another turn follows only if a record is read and its line is written.
  by_cases hrest : c.rest = []
  · have hend : c.isAtEnd = true := by simpa [Cursor.isAtEnd] using hrest
    refine .inr (.inl ⟨hend, fun tally' hresult => ?_⟩)
    rw [outcome, Transcript.ofCursor_of_end hend, Transcript.outcome_finish] at hresult
    rcases hflush : Writer.flush w with ⟨w', _ | e⟩
    · rw [hflush] at hresult
      exact Except.ok.inj hresult
    · rw [hflush] at hresult
      exact absurd hresult (by simp)
  · rcases hread : c.read with ⟨e | entry, c'⟩
    · refine .inr (.inr ?_)
      rw [outcome, Transcript.ofCursor_of_error hrest hread, Transcript.outcome_finish]
      rcases Writer.flush w with ⟨w', _ | e'⟩
      · exact ⟨_, rfl⟩
      · exact ⟨_, rfl⟩
    · rcases hwrite : Transcript.writeLine w (entry.record.render tally.lastTimestamp style) with
        ⟨w', _ | e⟩
      · exact .inl ⟨_, .shown hrest hread hwrite⟩
      · have hout : (Transcript.ofCursor style w tally c).outcome = _ :=
          Transcript.outcome_of_entry hrest hread
        rw [hwrite] at hout
        exact .inr (.inr ⟨.output e, congrArg Prod.snd hout⟩)

theorem Step.remaining_lt {style : Style} {t t' : Turn W} (h : Step style t t') :
    t'.cursor.remaining < t.cursor.remaining := by
  cases h with
  | shown hopen hread hwrite => exact Cursor.remaining_lt_of_read hread

/-- Statistics that are the result are those of the turn that ends the log. -/
theorem exists_last {style : Style} {t : Turn W} {tally : Tally}
    (h : (t.outcome style).2 = .ok tally) :
    ∃ t', Relation.ReflTransGen (Step style) t t' ∧ t'.cursor.isAtEnd = true ∧
      t'.tally = tally := by
  -- Every turn that another one follows reads a record, which leaves fewer bytes.
  induction hn : t.cursor.remaining using Nat.strong_induction_on generalizing t with
  | _ n ih =>
    rcases t.outcome_cases style with ⟨t', hstep⟩ | ⟨hend, htally⟩ | ⟨failure, hfail⟩
    · have hlt := hstep.remaining_lt
      rw [hstep.outcome_eq] at h
      obtain ⟨last, hlast, hend, htally⟩ := ih _ (hn ▸ hlt) h rfl
      exact ⟨last, .head hstep hlast, hend, htally⟩
    · exact ⟨t, .refl, hend, htally tally h⟩
    · rw [hfail] at h
      exact absurd h (by simp)

/-- Every turn of showing a log comes to what showing it comes to. -/
theorem outcome_of_reached {style : Style} {w : W} {bs : Bytes} {t : Turn W}
    (h : Reached style w bs t) : t.outcome style = (Transcript.ofBytes style w bs).outcome := by
  induction h with
  | refl => rfl
  | tail _ hstep ih => rw [← hstep.outcome_eq, ih]

theorem exists_reached {style : Style} {w : W} {bs : Bytes} {tally : Tally}
    (h : (Transcript.ofBytes style w bs).result = .ok tally) :
    ∃ t, Reached style w bs t ∧ t.cursor.isAtEnd = true ∧ t.tally = tally :=
  exists_last (t := first w bs) h

namespace Behind

variable {style : Style} {bs rest : Bytes} {past ahead : List Record} {defect : Record.Defect}
  {t t' : Turn W}

/-- A turn moves one record from those ahead to those behind. -/
theorem step (hcut : IsCut bs (past ++ ahead) rest defect) (h : Behind past ahead rest t)
    (hstep : Step style t t') :
    ∃ r ahead', ahead = r :: ahead' ∧ Behind (past ++ [r]) ahead' rest t' := by
  cases hstep with
  | @shown w w' tally c c' entry hopen hread hwrite =>
    obtain ⟨ahead', rfl, hbetween⟩ := h.between.of_read hcut hread
    refine ⟨entry.record, ahead', rfl, hbetween, ?_⟩
    have htally : tally = past.foldl Tally.add .empty := h.tally
    rw [List.foldl_append, ← htally]
    rfl

/-- Any turn that showing a log comes to stands between some of its records and the others. -/
theorem reached {w : W} {rs : List Record} (hcut : IsCut bs rs rest defect)
    (ht : Reached style w bs t) : ∃ past ahead, rs = past ++ ahead ∧ Behind past ahead rest t := by
  induction ht with
  | refl => exact ⟨[], rs, rfl, first w hcut⟩
  | tail _ hstep ih =>
    obtain ⟨past, ahead, rfl, h⟩ := ih
    obtain ⟨r, ahead', rfl, h'⟩ := h.step hcut hstep
    exact ⟨past ++ [r], ahead', List.append_cons past r ahead', h'⟩

end Behind

end Turn

namespace Transcript

/-- The distances in time that the lines of records show, the first of them after a point in
time. -/
def deltas : Option UInt64 → List Record → List Int
  | _, [] => []
  | previous, r :: rs => timeSince r.timestamp previous :: deltas (some r.timestamp) rs

theorem sum_deltas_some (p : UInt64) (rs : List Record) :
    (deltas (some p) rs).sum =
      (((rs.getLast?.map Record.timestamp).getD p).toNat : Int) - (p.toNat : Int) := by
  induction rs generalizing p with
  | nil => exact (Int.sub_self _).symm
  | cons r rs ih =>
    have hlast : ((r :: rs).getLast?.map Record.timestamp).getD p =
        (rs.getLast?.map Record.timestamp).getD r.timestamp := by
      rw [List.getLast?_cons, Option.map_some, Option.getD_some, Option.getD_map]
    -- The point in time of `r` is added once and taken off once.
    rw [deltas, List.sum_cons, ih, hlast, timeSince]
    omega

/-- **The distances in time add up** to the one from the first record to the last, in whatever order
the points in time come. -/
theorem sum_deltas (rs : List Record) :
    (deltas none rs).sum = (rs.foldl Tally.add .empty).duration := by
  rw [Tally.duration, Tally.firstTimestamp_foldl_add, Tally.lastTimestamp_foldl_add]
  rcases rs with _ | ⟨r, rs⟩
  · rfl
  · rw [deltas, List.sum_cons, sum_deltas_some, List.getLast?_cons]
    rcases rs.getLast? with _ | s
    · simp [Tally.empty, timeSince]
    · simp [Tally.empty, timeSince]

/-- **Showing a log keeps account of it**, on any writer and in either style.  Whenever a turn
begins, the statistics have counted the bytes that the cursor has passed, each record goes in one
direction, the counters have room for the next record, and going on from there comes to what showing
the log comes to.  If the statistics are the result, they have counted all bytes, and the distances
in time that the lines show add up to the one that they tell. -/
theorem account_ofBytes {W : Type} [Writer W] (style : Style) (w : W) (bs : Bytes)
    (hlen : bs.length < 2 ^ 63) :
    (∀ t, Turn.Reached style w bs t →
      t.tally.bytes.toNat = t.cursor.offset ∧ t.cursor.offset ≤ bs.length ∧
      t.tally.records.toNat =
        t.tally.requests.toNat + t.tally.responses.toNat + t.tally.untraced.toNat ∧
      t.tally.errors.toNat ≤ t.tally.records.toNat ∧
      29 * t.tally.records.toNat ≤ t.tally.bytes.toNat ∧
      (∀ entry c', t.cursor.read = (.ok entry, c') →
        entry.stop ≤ bs.length ∧ t.tally.HasRoom [entry.record]) ∧
      t.outcome style = (ofBytes style w bs).outcome) ∧
    ∀ tally, (ofBytes style w bs).result = .ok tally →
      tally.bytes.toNat = bs.length ∧ (deltas none (records bs)).sum = tally.duration := by
  obtain ⟨rs, rest, defect, hcut⟩ := exists_isCut bs
  have hword : bs.length < 2 ^ 64 := by omega
  constructor
  · intro t ht
    obtain ⟨past, ahead, rfl, h⟩ := Turn.Behind.reached hcut ht
    obtain ⟨hcounts, hoffset, hread⟩ := h.account hcut hword
    have hbytes : t.tally.bytes.toNat = (Record.wires past).length := by
      rw [hcounts.bytes, Record.length_wires]
      exact Nat.zero_add _
    have hrecords : t.tally.records.toNat = past.length := hcounts.records.trans (Nat.zero_add _)
    have hdirections := Tally.sum_countDirection past
    have herrors := Tally.countErrors_le past
    have hmin : 29 * past.length ≤ (Record.wires past).length := Record.minLength_mul_le past
    refine ⟨by rw [hbytes, h.between.offset], hoffset, ?_, ?_, by omega, hread,
      Turn.outcome_of_reached ht⟩
    · rw [hrecords, hcounts.requests, hcounts.responses, hcounts.untraced, ← hdirections]
      show _ = 0 + _ + (0 + _) + (0 + _)
      omega
    · rw [hrecords, hcounts.errors]
      exact (Nat.zero_add _).trans_le herrors
  · intro tally hresult
    -- The result is the statistics of a turn at the end, where no record is ahead.
    obtain ⟨t, ht, hend, rfl⟩ := Turn.exists_reached hresult
    obtain ⟨past, ahead, rfl, h⟩ := Turn.Behind.reached hcut ht
    obtain ⟨hcounts, -, -⟩ := h.account hcut hword
    have hrest : Record.wires ahead ++ rest = [] := by
      rw [← h.between.rest]
      simpa [Cursor.isAtEnd] using hend
    obtain ⟨hahead, rfl⟩ := List.append_eq_nil_iff.mp hrest
    obtain rfl := Record.wires_eq_nil_iff.mp hahead
    rw [List.append_nil] at hcut
    refine ⟨?_, ?_⟩
    · rw [hcounts.bytes, ← Record.length_wires, ← hcut.length_eq]
      exact Nat.zero_add _
    · rw [hcut.records_eq, sum_deltas, h.tally]

/-- A log of two records, the second as far before the first as points in time can be. -/
theorem account_ofBytes_backwards :
    let first : Record := ⟨2, 0xFFFFFFFFFFFFFFFF, 54544, 8, 254, 0xB4, 0xC0, "a.c", 7⟩
    let second : Record := ⟨0, 0, 0, 0, 0, 0, 0, "", -1⟩
    let bs := Record.wires [first, second]
    bs.length < 2 ^ 63 ∧
    ∃ t, Turn.Reached .json Sink.unlimited bs t ∧ t.tally.bytes.toNat = t.cursor.offset ∧
      (ofBytes .json Sink.unlimited bs).result = .ok t.tally ∧
      t.tally.bytes.toNat = 61 ∧ (deltas none [first, second]).sum = t.tally.duration ∧
      t.tally.duration = -0xFFFFFFFFFFFFFFFF := by
  intro first second bs
  have hlen : bs.length = 61 := by
    rw [Record.length_wires]
    decide
  have hencode : Record.encodeAll [first, second] = .ok bs :=
    Record.encodeAll_eq_ok_iff.mpr ⟨by decide, rfl⟩
  have hcut := isCut_of_encodeAll hencode
  have hresult : (ofBytes .json Sink.unlimited bs).result =
      .ok ([first, second].foldl Tally.add .empty) := by
    rw [result_unlimited, verdict, hcut.failure?_eq, if_pos rfl, hcut.records_eq]
  obtain ⟨hturns, hend⟩ := account_ofBytes .json Sink.unlimited bs (by omega)
  obtain ⟨t, ht, -, htally⟩ := Turn.exists_reached hresult
  rw [← htally] at hresult
  obtain ⟨hbytes, hsum⟩ := hend t.tally hresult
  rw [hcut.records_eq] at hsum
  refine ⟨by omega, t, ht, (hturns t ht).1, hresult, by rw [hbytes, hlen], hsum, ?_⟩
  rw [htally]
  show ((0 : UInt64).toNat : Int) - ((0xFFFFFFFFFFFFFFFF : UInt64).toNat : Int) = _
  simp

end Transcript

end PacketLog
