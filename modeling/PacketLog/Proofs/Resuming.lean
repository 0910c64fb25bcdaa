/-
Reading a log that grows.

When bytes are put behind a byte string, taking items goes on where it ended: the records before
that place stay, and from there on the items are those of what is left with the new bytes behind it.
A failure at the old end is not kept, as the new bytes may well mend it.

* `Cursor.collect_moved` — where a cursor stands in a log shows only in the offsets it reports;
* `Cursor.collect_append` — taking items from a byte string with more bytes behind it;
* `Transcript.output_append` — showing it;
* `outcomes_append` — records stay, the others are read afresh, and no line is taken back.
-/
import PacketLog.Proofs.Showing

namespace PacketLog

/-- The failure to read a record that stands a distance further on. -/
def ReadError.moved (distance : Nat) (e : ReadError) : ReadError := ⟨distance + e.offset, e.defect⟩

/-- The entry of a record that stands a distance further on. -/
def Entry.moved (distance : Nat) (entry : Entry) : Entry :=
  ⟨distance + entry.start, entry.record, distance + entry.stop⟩

/-! ### A cursor further on -/

namespace Cursor

/-- The cursor before the same bytes, a distance further on. -/
def moved (distance : Nat) (c : Cursor) : Cursor := ⟨distance + c.offset, c.rest, c.failed⟩

/-- An item a distance further on. -/
def movedItem (distance : Nat) : Except ReadError Entry → Except ReadError Entry
  | .ok entry => .ok (entry.moved distance)
  | .error e => .error (e.moved distance)

theorem read_moved (distance : Nat) (c : Cursor) :
    (c.moved distance).read = (movedItem distance c.read.1, c.read.2.moved distance) := by
  have hrest : (c.moved distance).rest = c.rest := rfl
  rw [read, read, hrest]
  rcases Record.read c.rest with defect | ⟨record, used, rest⟩
  · rfl
  · simp [movedItem, Entry.moved, moved, Nat.add_assoc]

theorem next_moved (distance : Nat) (c : Cursor) :
    (c.moved distance).next = (c.next.1.map (movedItem distance), c.next.2.moved distance) := by
  -- Whether a cursor is at its end or has failed does not depend on its place.
  by_cases hover : c.failed = true ∨ c.rest = []
  · have hover' : (c.moved distance).failed = true ∨ (c.moved distance).rest = [] := hover
    rw [next_of_over hover, next_of_over hover']
    rfl
  · have hopen : ¬ (c.failed || c.isAtEnd) = true := by
      simpa [isAtEnd] using hover
    have hopen' : ¬ ((c.moved distance).failed || (c.moved distance).isAtEnd) = true := hopen
    rw [next, next, if_neg hopen, if_neg hopen', read_moved]
    rcases c.read with ⟨e | entry, c'⟩
    · rfl
    · rfl

/-- **Where a cursor stands shows only in the offsets that it reports.** -/
theorem collect_moved (distance : Nat) (c : Cursor) :
    (c.moved distance).collect =
      (c.collect.1.map (movedItem distance), c.collect.2.moved distance) := by
  -- Both cursors take their items in step, so the induction is on the items of the first one.
  fun_induction collect c with
  | case1 c c' hnext =>
    obtain rfl := eq_of_next_eq_none hnext
    have hmoved : (c'.moved distance).next = (none, c'.moved distance) := by
      rw [next_moved, hnext]
      rfl
    rw [collect_of_none hmoved]
    rfl
  | case2 c item c' hnext ih =>
    have hmoved : (c.moved distance).next =
        (some (movedItem distance item), c'.moved distance) := by
      rw [next_moved, hnext]
      rfl
    rw [collect_of_some hmoved, ih]
    rfl

/-- **Taking items from a byte string with more bytes behind it**: the records of the byte string
come first, and then the items of what is left of it with the bytes behind it. -/
theorem collect_append (bs more : Bytes) :
    let stop := (ofBytes bs).collect.2.offset
    let later := (ofBytes (bs.drop stop ++ more)).collect
    (ofBytes (bs ++ more)).collect =
      ((Entry.listFrom 0 (records bs)).map .ok ++ later.1.map (movedItem stop),
        later.2.moved stop) := by
  obtain ⟨rs, rest, defect, hcut⟩ := exists_isCut bs
  intro stop later
  have hstop : stop = (Record.wires rs).length := hcut.stop_eq
  have hleft : bs.drop stop ++ more = rest ++ more := by
    rw [hstop, hcut.eq, List.drop_left]
  -- Behind the records the cursor is the fresh one, moved on by their bytes.
  have hbehind : (⟨0 + (Record.wires rs).length, rest ++ more, false⟩ : Cursor) =
      (ofBytes (bs.drop stop ++ more)).moved stop := by
    rw [hleft, hstop]
    show _ = (⟨(Record.wires rs).length + 0, rest ++ more, false⟩ : Cursor)
    rw [Nat.zero_add, Nat.add_zero]
  have hwires := collect_wires hcut.writable 0 (rest ++ more)
  rw [← List.append_assoc, ← hcut.eq, hbehind, collect_moved] at hwires
  rw [hcut.records_eq]
  exact hwires

end Cursor

/-- The items of a byte string with more bytes behind it. -/
theorem items_append (bs more : Bytes) :
    let stop := (Cursor.ofBytes bs).collect.2.offset
    items (bs ++ more) =
      (Entry.listFrom 0 (records bs)).map .ok ++
        (items (bs.drop stop ++ more)).map (Cursor.movedItem stop) :=
  congrArg Prod.fst (Cursor.collect_append bs more)

theorem outcomes_append (bs more : Bytes) :
    let stop := (Cursor.ofBytes bs).collect.2.offset
    outcomes (bs ++ more) =
      (records bs).map .ok ++
        (outcomes (bs.drop stop ++ more)).map (Except.mapError (ReadError.moved stop)) := by
  intro stop
  have hitem : ((fun item : Except ReadError Entry => item.map Entry.record) ∘
      Cursor.movedItem stop) =
        Except.mapError (ReadError.moved stop) ∘ fun item => item.map Entry.record := by
    funext item
    rcases item with e | entry <;> rfl
  rw [outcomes, items_append, List.map_append, Entry.map_outcome_listFrom, outcomes, List.map_map,
    List.map_map, hitem]

theorem records_append (bs more : Bytes) :
    records (bs ++ more) =
      records bs ++ records (bs.drop (Cursor.ofBytes bs).collect.2.offset ++ more) := by
  have hitem (stop : Nat) : Except.toOption ∘ Except.mapError (ReadError.moved stop) =
      (Except.toOption : Except ReadError Record → Option Record) := by
    funext item
    rcases item with e | r <;> rfl
  rw [records_eq_filterMap, outcomes_append, List.filterMap_append, filterMap_toOption_ok,
    List.filterMap_map, hitem, ← records_eq_filterMap]

/-! ### Showing a log that grows -/

namespace Transcript

theorem page_append (texts texts' : List String) :
    page (texts ++ texts') = page texts ++ page texts' :=
  List.flatMap_append

theorem lines_append (style : Style) (previous : Option UInt64) (rs ss : List Record) :
    lines style previous (rs ++ ss) =
      lines style previous rs ++
        lines style ((rs.getLast?.map Record.timestamp).or previous) ss := by
  induction rs generalizing previous with
  | nil => rfl
  | cons r rs ih =>
    -- The point in time before the second lines is that of the last record so far, if there is one.
    have hlast : (rs.getLast?.map Record.timestamp).or (some r.timestamp) =
        ((r :: rs).getLast?.map Record.timestamp).or previous := by
      rw [List.getLast?_cons]
      rcases rs.getLast? with _ | s <;> rfl
    rw [List.cons_append, lines, lines, ih, hlast, List.cons_append]

/-- **Showing a byte string with more bytes behind it**: the lines of the byte string stand, and the
first line behind them tells the distance in time from the last of its records. -/
theorem output_append (style : Style) (bs more : Bytes) :
    output style (bs ++ more) =
      output style bs ++
        page (lines style ((records bs).getLast?.map Record.timestamp)
          (records (bs.drop (Cursor.ofBytes bs).collect.2.offset ++ more))) := by
  rw [output_eq, output_eq, records_append, lines_append, page_append, Option.or_none]

end Transcript

/-- **What becomes of a log when it grows.**  The records that taking items gave stay; behind them
come the items of the bytes that were left with the new ones behind them, their failure being
reported where it stands in the whole.  So what was shown is a beginning of what is shown now. -/
theorem outcomes_and_output_append (bs more : Bytes) :
    let stop := (Cursor.ofBytes bs).collect.2.offset
    outcomes (bs ++ more) =
      (records bs).map .ok ++
        (outcomes (bs.drop stop ++ more)).map (Except.mapError (ReadError.moved stop)) ∧
    ∀ style, Transcript.output style bs <+: Transcript.output style (bs ++ more) := by
  intro stop
  refine ⟨outcomes_append bs more, fun style => ?_⟩
  rw [Transcript.output_append]
  exact List.prefix_append _ _

end PacketLog
