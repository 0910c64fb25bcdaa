/-
A byte string falls apart into records and a rest that begins with none.

The cut stands between decoding and encoding: it speaks of written records only, and all that
reading gives is read off it.

* `exists_isCut` — every byte string has a cut;
* `Cursor.collect_wires` — taking items passes over written records, whatever comes behind them;
* `IsCut.collect_eq` — the items of a byte string are the records of its cut and, if the rest is
  not empty, the defect of the rest.
-/
import Mathlib
import PacketLog.Cursor
import PacketLog.Record.RoundTrip
import PacketLog.Sink.Taking

namespace PacketLog

namespace Record

/-- The bytes of records, one behind the other. -/
def wires (rs : List Record) : Bytes := rs.flatMap wire

/-- What writing each of some records gives, put together; an error if one is refused. -/
def encodeAll (rs : List Record) : Except IoError Bytes := List.flatten <$> rs.mapM encode

@[simp] theorem wires_nil : wires [] = [] := rfl

@[simp] theorem wires_cons (r : Record) (rs : List Record) : wires (r :: rs) = r.wire ++ wires rs :=
  rfl

@[simp] theorem wires_append (rs ss : List Record) : wires (rs ++ ss) = wires rs ++ wires ss :=
  List.flatMap_append

theorem length_wires (rs : List Record) : (wires rs).length = (rs.map length).sum := by
  induction rs with
  | nil => rfl
  | cons r rs ih => rw [wires_cons, List.length_append, length_wire, ih, List.map_cons, List.sum_cons]

theorem minLength_le (r : Record) : minLength ≤ r.length := by
  rw [minLength, length]
  omega

theorem minLength_mul_le (rs : List Record) : minLength * rs.length ≤ (wires rs).length := by
  rw [length_wires]
  induction rs with
  | nil => simp
  | cons r rs ih =>
    have hr := r.minLength_le
    rw [List.map_cons, List.sum_cons, List.length_cons, Nat.mul_succ]
    omega

/-! ### Encoding several records -/

theorem write_unlimited {r : Record} (h : r.isWritable = true) :
    r.write Sink.unlimited = (Sink.unlimited.push r.wire, none) := by
  have haccepts : Sink.unlimited.accepts r.wire.length = r.wire.length := rfl
  rw [write, if_pos h, Sink.writeEach_eq]
  show Sink.unlimited.write r.wire = _
  rw [Sink.write_eq, haccepts, if_pos rfl, List.take_length]

theorem encode_eq (r : Record) :
    r.encode = if r.isWritable then .ok r.wire else .error zeroByteInFile := by
  rw [encode]
  by_cases h : r.isWritable = true
  · rw [write_unlimited h, if_pos h]
    show Except.ok (Sink.unlimited.push r.wire).bytes = _
    rw [Sink.bytes_push]
    rfl
  · rw [write, if_neg h, if_neg h]

theorem encode_eq_ok_iff {r : Record} {bs : Bytes} :
    r.encode = .ok bs ↔ r.isWritable = true ∧ r.wire = bs := by
  rw [encode_eq]
  by_cases h : r.isWritable = true <;> simp [h]

theorem mapM_encode {rs : List Record} (h : ∀ r ∈ rs, r.isWritable = true) :
    rs.mapM encode = .ok (rs.map wire) := by
  induction rs with
  | nil => rfl
  | cons r rs ih =>
    have hr := encode_eq_ok_iff.mpr ⟨h r (by simp), rfl⟩
    rw [List.mapM_cons, hr, ih fun s hs => h s (by simp [hs])]
    rfl

theorem isWritable_of_mapM_encode {rs : List Record} {parts : List Bytes}
    (h : rs.mapM encode = .ok parts) : ∀ r ∈ rs, r.isWritable = true := by
  induction rs generalizing parts with
  | nil => simp
  | cons r rs ih =>
    rw [List.mapM_cons] at h
    rcases hr : r.encode with e | w
    · rw [hr] at h
      exact absurd h (by simp [bind, Except.bind])
    · rcases hrs : rs.mapM encode with e | ws
      · rw [hr, hrs] at h
        exact absurd h (by simp [bind, Except.bind])
      · intro s hs
        rcases List.mem_cons.mp hs with rfl | hs
        · exact (encode_eq_ok_iff.mp hr).1
        · exact ih hrs s hs

/-- Records are encoded exactly if each is writable, and then as their bytes in order. -/
theorem encodeAll_eq_ok_iff {rs : List Record} {bs : Bytes} :
    encodeAll rs = .ok bs ↔ (∀ r ∈ rs, r.isWritable = true) ∧ wires rs = bs := by
  constructor
  · intro h
    have hw : ∀ r ∈ rs, r.isWritable = true := by
      rcases hparts : rs.mapM encode with e | parts
      · rw [encodeAll, hparts] at h
        exact absurd h (by simp [Functor.map, Except.map])
      · exact isWritable_of_mapM_encode hparts
    rw [encodeAll, mapM_encode hw] at h
    exact ⟨hw, Except.ok.inj h⟩
  · rintro ⟨hw, rfl⟩
    rw [encodeAll, mapM_encode hw]
    rfl

end Record

/-- The byte string `bs` is the written records `rs` and a rest with a defect behind them. -/
structure IsCut (bs : Bytes) (rs : List Record) (rest : Bytes) (defect : Record.Defect) : Prop where
  eq : bs = Record.wires rs ++ rest
  writable : ∀ r ∈ rs, r.isWritable = true
  stuck : Record.read rest = .error defect

/-- **Every byte string has a cut.** -/
theorem exists_isCut (bs : Bytes) : ∃ rs rest defect, IsCut bs rs rest defect := by
  -- Reading a record leaves fewer bytes, so the induction is on their number.
  induction hn : bs.length using Nat.strong_induction_on generalizing bs with
  | _ n ih =>
    rcases hread : Record.read bs with defect | x
    · exact ⟨[], bs, defect, rfl, by simp, hread⟩
    · obtain ⟨hwire, hwritable, -⟩ := Record.wire_of_read hread
      have hlt : x.rest.length < n := hn ▸ Record.length_lt_of_read hread
      obtain ⟨rs, rest, defect, hcut⟩ := ih _ hlt x.rest rfl
      refine ⟨x.record :: rs, rest, defect, ?_, ?_, hcut.stuck⟩
      · rw [Record.wires_cons, List.append_assoc, ← hcut.eq, hwire]
      · intro r hr
        rcases List.mem_cons.mp hr with rfl | hr
        · exact hwritable
        · exact hcut.writable r hr

/-- The records that a byte string begins with. -/
def records (bs : Bytes) : List Record :=
  (items bs).filterMap fun item => item.toOption.map Entry.record

/-- The items of a byte string without the places of the records. -/
def outcomes (bs : Bytes) : List (Except ReadError Record) :=
  (items bs).map fun item => item.map Entry.record

/-- The failure that ends the items of a byte string. -/
def failure? (bs : Bytes) : Option ReadError :=
  (items bs).findSome? fun
    | .ok _ => none
    | .error e => some e

/-- The entries of records that stand one behind the other from an offset on. -/
def Entry.listFrom (offset : Nat) : List Record → List Entry
  | [] => []
  | r :: rs => ⟨offset, r, offset + r.length⟩ :: listFrom (offset + r.length) rs

@[simp] theorem Entry.map_record_listFrom (offset : Nat) (rs : List Record) :
    (listFrom offset rs).map Entry.record = rs := by
  induction rs generalizing offset with
  | nil => rfl
  | cons r rs ih => rw [listFrom, List.map_cons, ih]

theorem Entry.map_outcome_listFrom (offset : Nat) (rs : List Record) :
    ((listFrom offset rs).map .ok).map
        (fun item : Except ReadError Entry => item.map Entry.record) = rs.map .ok := by
  have hmap : (listFrom offset rs).map (Except.ok ∘ Entry.record) =
      ((listFrom offset rs).map Entry.record).map (.ok : Record → Except ReadError Record) := by
    rw [List.map_map]
  rw [map_record_listFrom] at hmap
  rw [List.map_map]
  exact hmap

theorem filterMap_toOption_ok (rs : List Record) :
    (rs.map .ok : List (Except ReadError Record)).filterMap Except.toOption = rs := by
  rw [List.filterMap_map]
  exact List.filterMap_some

theorem records_eq_filterMap (bs : Bytes) :
    records bs = (outcomes bs).filterMap Except.toOption := by
  rw [records, outcomes, List.filterMap_map]
  congr 1
  funext item
  rcases item with e | entry <;> rfl

namespace Cursor

theorem read_of_error {c : Cursor} {defect : Record.Defect}
    (h : Record.read c.rest = .error defect) : c.read = (.error ⟨c.offset, defect⟩, c) := by
  rw [read, h]

theorem read_wire {r : Record} (h : r.isWritable = true) (offset : Nat) (rest : Bytes)
    (failed : Bool) :
    read ⟨offset, r.wire ++ rest, failed⟩ =
      (.ok ⟨offset, r, offset + r.length⟩, ⟨offset + r.length, rest, failed⟩) := by
  rw [read]
  simp only [Record.read_wire h rest]

theorem wire_append_ne_nil (r : Record) (rest : Bytes) : r.wire ++ rest ≠ [] := by
  intro h
  have hlen := congrArg List.length h
  have hmin := r.minLength_le
  rw [List.length_append, Record.length_wire, List.length_nil] at hlen
  rw [Record.minLength] at hmin
  omega

theorem next_wire {r : Record} (h : r.isWritable = true) (offset : Nat) (rest : Bytes) :
    next ⟨offset, r.wire ++ rest, false⟩ =
      (some (.ok ⟨offset, r, offset + r.length⟩), ⟨offset + r.length, rest, false⟩) := by
  have hopen : ¬ ((false || isAtEnd ⟨offset, r.wire ++ rest, false⟩) = true) := by
    simpa [isAtEnd] using wire_append_ne_nil r rest
  rw [next, if_neg hopen, read_wire h]

theorem next_of_error {c : Cursor} {defect : Record.Defect} (hfailed : c.failed = false)
    (hrest : c.rest ≠ []) (h : Record.read c.rest = .error defect) :
    c.next = (some (.error ⟨c.offset, defect⟩), ⟨c.offset, c.rest, true⟩) := by
  have hopen : ¬ ((c.failed || c.isAtEnd) = true) := by
    simpa [isAtEnd, hfailed] using hrest
  rw [next, if_neg hopen, read_of_error h]

theorem next_of_over {c : Cursor} (h : c.failed = true ∨ c.rest = []) : c.next = (none, c) := by
  have hover : (c.failed || c.isAtEnd) = true := by
    simpa [isAtEnd] using h
  rw [next, if_pos hover]

theorem eq_of_next_eq_none {c c' : Cursor} (h : c.next = (none, c')) : c' = c := by
  unfold next at h
  split at h
  · exact (Prod.mk.inj h).2.symm
  · split at h <;> exact absurd h (by simp)

theorem collect_of_none {c : Cursor} (h : c.next = (none, c)) : c.collect = ([], c) := by
  -- `collect` keeps the equation of its match, so the match is split and not rewritten.
  rw [collect]
  split
  · rename_i c' hnext
    rw [h] at hnext
    rw [(Prod.mk.inj hnext).2]
  · rename_i hnext
    rw [h] at hnext
    exact absurd hnext (by simp)

theorem collect_of_some {c c' : Cursor} {item : Except ReadError Entry}
    (h : c.next = (some item, c')) : c.collect = (item :: c'.collect.1, c'.collect.2) := by
  rw [collect]
  split
  · rename_i hnext
    rw [h] at hnext
    exact absurd hnext (by simp)
  · rename_i item' c'' hnext
    rw [h] at hnext
    obtain ⟨hitem, rfl⟩ := Prod.mk.inj hnext
    rw [Option.some.inj hitem]

/-- **Taking items passes over written records**, whatever comes behind them. -/
theorem collect_wires {rs : List Record} (h : ∀ r ∈ rs, r.isWritable = true) (offset : Nat)
    (rest : Bytes) :
    collect ⟨offset, Record.wires rs ++ rest, false⟩ =
      ((Entry.listFrom offset rs).map .ok ++
          (collect ⟨offset + (Record.wires rs).length, rest, false⟩).1,
        (collect ⟨offset + (Record.wires rs).length, rest, false⟩).2) := by
  -- A record moves the offset on before the others are passed, so the offset is general.
  induction rs generalizing offset with
  | nil => simp [Entry.listFrom]
  | cons r rs ih =>
    have hr := next_wire (h r (by simp)) offset (Record.wires rs ++ rest)
    have hrs := ih (fun s hs => h s (by simp [hs])) (offset + r.length)
    rw [Record.wires_cons, List.append_assoc, collect_of_some hr, hrs, Entry.listFrom,
      List.length_append, Record.length_wire, ← Nat.add_assoc, List.map_cons, List.cons_append]

end Cursor

namespace Record

theorem read_nil : read [] = .error (.shortHeader 0) :=
  read_eq_iff.mpr (.shortHeader (by decide))

/-- Too short a header tells how many bytes are left. -/
theorem shortHeader_of_read {bs : Bytes} {n : Nat} (h : read bs = .error (.shortHeader n)) :
    n = bs.length ∧ n < headerLength := by
  cases read_eq_iff.mp h with
  | shortHeader hlen => exact ⟨rfl, hlen⟩

end Record

namespace IsCut

variable {bs rest : Bytes} {rs : List Record} {defect : Record.Defect}

theorem length_eq (h : IsCut bs rs rest defect) :
    (Record.wires rs).length + rest.length = bs.length := by
  rw [h.eq, List.length_append]

theorem defect_of_nil (h : IsCut bs rs rest defect) (hrest : rest = []) :
    defect = .shortHeader 0 := by
  have hstuck := h.stuck
  rw [hrest, Record.read_nil] at hstuck
  exact (Except.error.inj hstuck).symm

/-- The items of a byte string, and the cursor behind them, as its cut tells. -/
theorem collect_eq (h : IsCut bs rs rest defect) :
    (Cursor.ofBytes bs).collect =
      ((Entry.listFrom 0 rs).map .ok ++
          if rest = [] then [] else [.error ⟨(Record.wires rs).length, defect⟩],
        ⟨(Record.wires rs).length, rest, !rest.isEmpty⟩) := by
  have hwires := Cursor.collect_wires h.writable 0 rest
  rw [← h.eq, Nat.zero_add] at hwires
  rw [Cursor.ofBytes, hwires]
  -- Behind the records there is no item, or one failure whose mark ends the items.
  by_cases hrest : rest = []
  · subst hrest
    rw [Cursor.collect_of_none (Cursor.next_of_over (.inr rfl)), if_pos rfl]
    rfl
  · have hfail := Cursor.next_of_error (c := ⟨(Record.wires rs).length, rest, false⟩) rfl hrest
      h.stuck
    have hover := Cursor.next_of_over (c := ⟨(Record.wires rs).length, rest, true⟩) (.inl rfl)
    rw [Cursor.collect_of_some hfail, Cursor.collect_of_none hover, if_neg hrest]
    simp [hrest]

/-- Taking items stops behind the records. -/
theorem stop_eq (h : IsCut bs rs rest defect) :
    (Cursor.ofBytes bs).collect.2.offset = (Record.wires rs).length := by
  rw [h.collect_eq]

theorem items_eq (h : IsCut bs rs rest defect) :
    items bs = (Entry.listFrom 0 rs).map .ok ++
      if rest = [] then [] else [.error ⟨(Record.wires rs).length, defect⟩] := by
  rw [items, h.collect_eq]

theorem outcomes_eq (h : IsCut bs rs rest defect) :
    outcomes bs = rs.map .ok ++
      if rest = [] then [] else [.error ⟨(Record.wires rs).length, defect⟩] := by
  rw [outcomes, h.items_eq, List.map_append, Entry.map_outcome_listFrom]
  split <;> rfl

theorem records_eq (h : IsCut bs rs rest defect) : records bs = rs := by
  rw [records_eq_filterMap, h.outcomes_eq, List.filterMap_append, filterMap_toOption_ok]
  split
  · simp
  · simp [Except.toOption]

theorem failure?_eq (h : IsCut bs rs rest defect) :
    failure? bs = if rest = [] then none else some ⟨(Record.wires rs).length, defect⟩ := by
  rw [failure?, h.items_eq, List.findSome?_append, List.findSome?_map]
  -- No entry is a failure, so the search goes on to what is behind the entries.
  show ((Entry.listFrom 0 rs).findSome? fun _ => none).or _ = _
  rw [List.findSome?_eq_none_iff.mpr fun _ _ => rfl, Option.none_or]
  split <;> rfl

/-- Reading at the end of the records gives the failure that ends the items or, if there is none,
a header that is cut short before its first byte. -/
theorem failure_getD (h : IsCut bs rs rest defect) :
    (failure? bs).getD ⟨bs.length, .shortHeader 0⟩ = ⟨(Record.wires rs).length, defect⟩ := by
  rw [h.failure?_eq]
  split
  · rename_i hrest
    have hlen := h.length_eq
    rw [hrest, List.length_nil, Nat.add_zero] at hlen
    rw [Option.getD_none, hlen, h.defect_of_nil hrest]
  · rfl

end IsCut

end PacketLog
