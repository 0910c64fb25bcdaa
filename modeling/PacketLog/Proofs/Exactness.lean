/-
Reading and writing a whole log undo each other.

* `Cursor.items_ofBytes` — whatever a byte string holds, the records read are those that stand
  written in the bytes that were passed over, and the failure is where they end;
* `Cursor.read_encodeAll` — what is written of records is read back by as many calls of `read` as
  there are records, whatever comes behind it.
-/
import PacketLog.Failure
import PacketLog.Proofs.Calls

namespace PacketLog

namespace IsCut

variable {bs rest : Bytes} {rs : List Record} {defect : Record.Defect}

theorem encodeAll_eq (h : IsCut bs rs rest defect) :
    Record.encodeAll rs = .ok (bs.take (Record.wires rs).length) := by
  refine Record.encodeAll_eq_ok_iff.mpr ⟨h.writable, ?_⟩
  rw [h.eq, List.take_left]

theorem failure?_eq_none_iff (h : IsCut bs rs rest defect) :
    failure? bs = none ↔ (Record.wires rs).length = bs.length := by
  have hlen := h.length_eq
  rw [h.failure?_eq]
  by_cases hrest : rest = []
  · rw [if_pos hrest]
    rw [hrest, List.length_nil, Nat.add_zero] at hlen
    exact ⟨fun _ => hlen, fun _ => rfl⟩
  · have hpos := List.length_pos_of_ne_nil hrest
    rw [if_neg hrest]
    exact ⟨fun h => absurd h (by simp), fun h => by omega⟩

/-- The failure that ends the items has the end of the records as its offset. -/
theorem of_failure? (h : IsCut bs rs rest defect) {e : ReadError} (he : failure? bs = some e) :
    e = ⟨(Record.wires rs).length, defect⟩ ∧ rest ≠ [] := by
  rw [h.failure?_eq] at he
  split at he
  · exact absurd he (by simp)
  · rename_i hrest
    exact ⟨(Option.some.inj he).symm, hrest⟩

end IsCut

/-- What is written of records is a byte string with nothing behind them. -/
theorem isCut_of_encodeAll {bs : Bytes} {rs : List Record} (h : Record.encodeAll rs = .ok bs) :
    IsCut bs rs [] (.shortHeader 0) := by
  obtain ⟨hwritable, rfl⟩ := Record.encodeAll_eq_ok_iff.mp h
  exact ⟨by rw [List.append_nil], hwritable, Record.read_nil⟩

namespace Cursor

/-- Taking items is calling `next` as often as there are items. -/
theorem run_next_collect (c : Cursor) :
    c.run (.replicate c.collect.1.length .next) =
      (c.collect.1.map fun item => (.next, some (item.map Entry.record)), c.collect.2) := by
  -- Taking items recurses on what `next` gives, which is what each call of the run gives.
  fun_induction collect c with
  | case1 c c' hnext =>
    rw [eq_of_next_eq_none hnext]
    rfl
  | case2 c item c' hnext ih =>
    have hcall : c.call .next = (some (item.map Entry.record), c') := by
      rw [call, hnext]
      rfl
    rw [List.length_cons, List.replicate_succ, run_cons hcall, ih]
    rfl

/-- **What taking items from a byte string gives.**  It ends; the items are records and at most one
failure behind them; the records are exactly what is written in the bytes before the place where it
ends; and there is a failure, with that place as its offset, exactly if bytes are left.  So a byte
string gives no failure exactly if it is what is written of some records. -/
theorem items_ofBytes (bs : Bytes) :
    let last := (ofBytes bs).collect.2
    (ofBytes bs).run (.replicate (items bs).length .next) =
      ((items bs).map fun item => (.next, some (item.map Entry.record)), last) ∧
    last.next = (none, last) ∧
    (items bs).map (fun item => item.map Entry.record) =
      (records bs).map .ok ++ (failure? bs).toList.map .error ∧
    Record.encodeAll (records bs) = .ok (bs.take last.offset) ∧ last.offset ≤ bs.length ∧
    (failure? bs = none ↔ last.offset = bs.length) ∧
    (∀ e, failure? bs = some e →
      (Failure.corrupt e).offset? = some last.offset ∧ last.offset < bs.length ∧
      ∀ n, e.defect = .shortHeader n → n = bs.length - last.offset ∧ 1 ≤ n ∧ n ≤ 23) ∧
    29 * (records bs).length ≤ last.offset ∧ (records bs).length ≤ bs.length / 29 ∧
    (failure? bs = none ↔ ∃ rs, Record.encodeAll rs = .ok bs) := by
  obtain ⟨rs, rest, defect, hcut⟩ := exists_isCut bs
  intro last
  have hlast : last = ⟨(Record.wires rs).length, rest, !rest.isEmpty⟩ :=
    congrArg Prod.snd hcut.collect_eq
  have hoffset : last.offset = (Record.wires rs).length := by rw [hlast]
  have hlen := hcut.length_eq
  have hmin : 29 * rs.length ≤ (Record.wires rs).length := Record.minLength_mul_le rs
  rw [hoffset, hcut.records_eq]
  -- The cursor stops behind the records of the cut, so each part is a fact about the cut.
  refine ⟨run_next_collect (ofBytes bs), ?_, ?_, hcut.encodeAll_eq, by omega,
    hcut.failure?_eq_none_iff, ?_, hmin, by omega, ?_⟩
  · refine next_of_over ?_
    rw [hlast]
    rcases rest with _ | ⟨b, rest⟩
    · exact .inr rfl
    · exact .inl rfl
  · rw [hcut.items_eq, hcut.failure?_eq, List.map_append, List.map_map]
    have hok : (Entry.listFrom 0 rs).map
        ((fun item : Except ReadError Entry => item.map Entry.record) ∘ .ok) =
          ((Entry.listFrom 0 rs).map Entry.record).map .ok := by
      rw [List.map_map]
      rfl
    rw [hok, Entry.map_record_listFrom]
    split <;> rfl
  · intro e he
    obtain ⟨rfl, hrest⟩ := hcut.of_failure? he
    have hpos := List.length_pos_of_ne_nil hrest
    refine ⟨rfl, by omega, fun n hn => ?_⟩
    obtain rfl : defect = .shortHeader n := hn
    obtain ⟨hn, hlt⟩ := Record.shortHeader_of_read hcut.stuck
    rw [Record.headerLength] at hlt
    omega
  · constructor
    · intro hnone
      refine ⟨rs, ?_⟩
      rw [hcut.encodeAll_eq, hcut.failure?_eq_none_iff.mp hnone, List.take_length]
    · rintro ⟨ss, hss⟩
      rw [(isCut_of_encodeAll hss).failure?_eq, if_pos rfl]

end Cursor

theorem Record.wires_eq_nil_iff {rs : List Record} : wires rs = [] ↔ rs = [] := by
  constructor
  · intro h
    have hmin := minLength_mul_le rs
    rw [h, List.length_nil, minLength, headerLength, lineLength] at hmin
    exact List.eq_nil_of_length_eq_zero (by omega)
  · rintro rfl
    rfl

/-- As many calls of `read` as there are records ahead hand all of them out. -/
theorem Between.run_read {past passed ahead : List Record} {rest : Bytes} {c : Cursor}
    (hw : ∀ r ∈ passed, r.isWritable = true) (h : Between past (passed ++ ahead) rest c) :
    ∃ c', c.run (.replicate passed.length .read) =
        (passed.map fun r => (.read, some (.ok r)), c') ∧
      Between (past ++ passed) ahead rest c' := by
  induction passed generalizing past c with
  | nil => exact ⟨c, rfl, by rwa [List.append_nil]⟩
  | cons r passed ih =>
    obtain ⟨c', hcall, h'⟩ := h.call_ahead (hw r (by simp)) .read
    obtain ⟨c'', hrun, h''⟩ := ih (fun s hs => hw s (by simp [hs])) h'
    refine ⟨c'', ?_, by simpa using h''⟩
    rw [List.length_cons, List.replicate_succ, Cursor.run_cons hcall, hrun, List.map_cons]

/-- **What is written of records is read back.**  With no NUL in the file names they are written,
and as many calls of `read` hand them out again one by one, whatever bytes `tail` come behind them;
with none, the cursor is at its end after the last of these calls and not before.  So no other
records are written in the same way. -/
theorem Cursor.read_encodeAll (rs : List Record) (h : ∀ r ∈ rs, '\x00' ∉ r.file.toList) :
    ∃ bs, Record.encodeAll rs = .ok bs ∧
      (∀ (tail : Bytes) (i : Nat), i ≤ rs.length →
        let run := (ofBytes (bs ++ tail)).run (.replicate i .read)
        run.1 = (rs.take i).map (fun r => (.read, some (.ok r))) ∧
        run.2.offset = ((rs.take i).map Record.length).sum ∧
        (tail = [] → (run.2.isAtEnd = true ↔ i = rs.length))) ∧
      ∀ ss, Record.encodeAll ss = .ok bs → ss = rs := by
  have hw : ∀ r ∈ rs, r.isWritable = true := fun r hr => Record.isWritable_iff_nul.mpr (h r hr)
  have hencode : Record.encodeAll rs = .ok (Record.wires rs) :=
    Record.encodeAll_eq_ok_iff.mpr ⟨hw, rfl⟩
  refine ⟨Record.wires rs, hencode, ?_, ?_⟩
  · intro tail i hi
    -- Only the first `i` records are passed, so the others are ahead with the tail behind them.
    have hstart : Between [] (rs.take i ++ rs.drop i) tail (ofBytes (Record.wires rs ++ tail)) := by
      rw [List.take_append_drop]
      exact ⟨rfl, rfl, fun _ => rfl⟩
    obtain ⟨c, hrun, hend⟩ := hstart.run_read fun r hr => hw r (List.mem_of_mem_take hr)
    rw [List.length_take, Nat.min_eq_left hi] at hrun
    rw [hrun]
    refine ⟨rfl, ?_, ?_⟩
    · rw [← Record.length_wires]
      exact hend.offset
    · rintro rfl
      show c.isAtEnd = true ↔ i = rs.length
      rw [isAtEnd, hend.rest, List.append_nil, List.isEmpty_iff, Record.wires_eq_nil_iff,
        List.drop_eq_nil_iff]
      omega
  · -- Both lists are the records of the same bytes.
    intro ss hss
    rw [← (isCut_of_encodeAll hss).records_eq, (isCut_of_encodeAll hencode).records_eq]

/-- A record of zero bytes alone and one whose file name has characters of every length, read back
with bytes behind them that begin no record. -/
theorem Cursor.read_encodeAll_zeros_and_wide :
    let rs : List Record :=
      [⟨0, 0, 0, 0, 0, 0, 0, "", 0⟩, ⟨2, 1000, 54544, 8, 254, 0xB4, 0xC0, "a/é€😀.c", -1⟩]
    (∀ r ∈ rs, '\x00' ∉ r.file.toList) ∧
    ∃ bs, Record.encodeAll rs = .ok bs ∧
      ((ofBytes (bs ++ [0, 0, 7])).run [.read, .read]).1 =
        rs.map (fun r => (.read, some (.ok r))) ∧
      ∀ ss, Record.encodeAll ss = .ok bs → ss = rs := by
  intro rs
  have h : ∀ r ∈ rs, '\x00' ∉ r.file.toList := by decide
  obtain ⟨bs, hencode, hread, hunique⟩ := read_encodeAll rs h
  exact ⟨h, bs, hencode, (hread [0, 0, 7] 2 (Nat.le_refl 2)).1, hunique⟩

end PacketLog
