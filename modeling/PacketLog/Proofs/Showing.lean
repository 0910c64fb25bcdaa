/-
What showing a log writes, and how it ends.

Showing reads a record, writes its line and counts it before it reads the next one.  To the writer
this is the same as being handed the lines of all records one after the other, up to the first
piece that it refuses, and being flushed if it refuses none.

* `Transcript.ofCursor_wires` — showing written records, whatever comes behind them;
* `Transcript.outcome_ofBytes` — showing a log, for any writer;
* `Transcript.ofBytes_fresh` — showing a log on a sink with a limit.
-/
import PacketLog.Proofs.Cut
import PacketLog.Transcript

namespace PacketLog

theorem Writer.writeEach_append {W : Type} [Writer W] (w : W) (xs ys : List Bytes) :
    writeEach w (xs ++ ys) =
      match writeEach w xs with
      | (w, none) => writeEach w ys
      | (w, some e) => (w, some e) := by
  induction xs generalizing w with
  | nil => rfl
  | cons x xs ih =>
    rw [List.cons_append, writeEach, writeEach]
    rcases write w x with ⟨w', _ | e⟩
    · exact ih w'
    · rfl

namespace Transcript

/-- The lines that show records, the first of them after a point in time. -/
def lines (style : Style) : Option UInt64 → List Record → List String
  | _, [] => []
  | previous, r :: rs => r.render previous style :: lines style (some r.timestamp) rs

/-- The bytes of lines, a newline behind each. -/
def page (texts : List String) : Bytes := texts.flatMap fun text => Utf8.encode (text ++ "\n")

/-- The pieces in which lines are written. -/
def pieces (texts : List String) : List Bytes :=
  texts.flatMap fun text => [Utf8.encode text, Utf8.encode "\n"]

theorem flatten_pieces (texts : List String) : (pieces texts).flatten = page texts := by
  induction texts with
  | nil => rfl
  | cons text texts ih =>
    show Utf8.encode text ++ (Utf8.encode "\n" ++ (pieces texts).flatten) =
      Utf8.encode (text ++ "\n") ++ page texts
    rw [ih, Utf8.encode_append, List.append_assoc]

/-- What the records and the end of a log come to, if the writer does not fail. -/
def verdict (bs : Bytes) : Except Failure Tally :=
  match failure? bs with
  | some e => .error (.corrupt e)
  | none => .ok ((records bs).foldl Tally.add .empty)

variable {W : Type}

/-- A transcript without its events. -/
def outcome (t : Transcript W) : W × Except Failure Tally := (t.writer, t.result)

variable [Writer W]

theorem outcome_finish (w : W) (events : List Event) (result : Except Failure Tally) :
    (finish w events result).outcome =
      match Writer.flush w with
      | (w, none) => (w, result)
      | (w, some e) => (w, .error (.output e)) := by
  rw [finish]
  rcases Writer.flush w with ⟨w', _ | e⟩ <;> rfl

/-! ### The loop, one turn at a time -/

section

variable {style : Style} {w : W} {tally : Tally} {c c' : Cursor}

theorem ofCursor_of_end (h : c.isAtEnd = true) :
    ofCursor style w tally c = finish w [.reachedEnd tally.records c.offset] (.ok tally) := by
  rw [ofCursor, if_pos h]

theorem ofCursor_of_error {e : ReadError} (hopen : c.rest ≠ []) (h : c.read = (.error e, c')) :
    ofCursor style w tally c = finish w [] (.error (.corrupt e)) := by
  have hend : ¬ c.isAtEnd = true := by simpa [Cursor.isAtEnd] using hopen
  rw [ofCursor, if_neg hend]
  split
  · rename_i hread
    rw [h] at hread
    rw [Except.error.inj (Prod.mk.inj hread).1]
  · rename_i hread
    rw [h] at hread
    exact absurd hread (by simp)

theorem ofCursor_of_entry {entry : Entry} (hopen : c.rest ≠ []) (h : c.read = (.ok entry, c')) :
    ofCursor style w tally c =
      match writeLine w (entry.record.render tally.lastTimestamp style) with
      | (w, none) =>
        (ofCursor style w (tally.add entry.record) c').after
          (.decoded entry.start entry.record.traceId (entry.stop - entry.start))
      | (w, some e) =>
        ⟨w, [.decoded entry.start entry.record.traceId (entry.stop - entry.start)],
          .error (.output e)⟩ := by
  have hend : ¬ c.isAtEnd = true := by simpa [Cursor.isAtEnd] using hopen
  rw [ofCursor, if_neg hend]
  split
  · rename_i hread
    rw [h] at hread
    exact absurd hread (by simp)
  · rename_i entry' c'' hread
    rw [h] at hread
    obtain ⟨hentry, rfl⟩ := Prod.mk.inj hread
    obtain rfl := Except.ok.inj hentry
    rfl

theorem outcome_of_entry {entry : Entry} (hopen : c.rest ≠ []) (h : c.read = (.ok entry, c')) :
    (ofCursor style w tally c).outcome =
      match writeLine w (entry.record.render tally.lastTimestamp style) with
      | (w, none) => (ofCursor style w (tally.add entry.record) c').outcome
      | (w, some e) => (w, .error (.output e)) := by
  rw [ofCursor_of_entry hopen h]
  rcases writeLine w (entry.record.render tally.lastTimestamp style) with ⟨w', _ | e⟩
  · rfl
  · rfl

end

/-- **Showing written records is writing their lines and then showing what is behind them**, the
records being counted; a writer that fails ends it. -/
theorem ofCursor_wires {rs : List Record} (h : ∀ r ∈ rs, r.isWritable = true) (style : Style)
    (w : W) (tally : Tally) (offset : Nat) (rest : Bytes) :
    (ofCursor style w tally ⟨offset, Record.wires rs ++ rest, false⟩).outcome =
      match Writer.writeEach w (pieces (lines style tally.lastTimestamp rs)) with
      | (w, none) =>
        (ofCursor style w (rs.foldl Tally.add tally)
          ⟨offset + (Record.wires rs).length, rest, false⟩).outcome
      | (w, some e) => (w, .error (.output e)) := by
  -- The statistics hold the point in time before the next line, so they are general.
  induction rs generalizing w tally offset with
  | nil => rfl
  | cons r rs ih =>
    have hread := Cursor.read_wire (h r (by simp)) offset (Record.wires rs ++ rest) false
    have hopen := Cursor.wire_append_ne_nil r (Record.wires rs ++ rest)
    have hlen : offset + (Record.wires (r :: rs)).length =
        offset + r.length + (Record.wires rs).length := by
      rw [Record.wires_cons, List.length_append, Record.length_wire, Nat.add_assoc]
    have hpieces : pieces (lines style tally.lastTimestamp (r :: rs)) =
        [Utf8.encode (r.render tally.lastTimestamp style), Utf8.encode "\n"] ++
          pieces (lines style (tally.add r).lastTimestamp rs) := rfl
    rw [Record.wires_cons, List.append_assoc, outcome_of_entry hopen hread, hpieces,
      Writer.writeEach_append, ← Record.wires_cons, hlen]
    rw [show Writer.writeEach w [Utf8.encode (r.render tally.lastTimestamp style), Utf8.encode "\n"]
      = writeLine w (r.render tally.lastTimestamp style) from rfl]
    -- Both sides begin with the line of `r`, and go on only if the writer takes it.
    rcases writeLine w (r.render tally.lastTimestamp style) with ⟨w', _ | e⟩
    · exact ih (fun s hs => h s (by simp [hs])) w' (tally.add r) (offset + r.length)
    · rfl

/-- **Showing a log is writing its lines, flushing, and then telling how the log ends**; the first
error of the writer ends it and counts. -/
theorem outcome_ofBytes (style : Style) (w : W) (bs : Bytes) :
    (ofBytes style w bs).outcome =
      match Writer.writeEach w (pieces (lines style none (records bs))) with
      | (w, some e) => (w, .error (.output e))
      | (w, none) =>
        match Writer.flush w with
        | (w, some e) => (w, .error (.output e))
        | (w, none) => (w, verdict bs) := by
  obtain ⟨rs, rest, defect, hcut⟩ := exists_isCut bs
  have hwires := ofCursor_wires hcut.writable style w .empty 0 rest
  rw [← hcut.eq, Nat.zero_add] at hwires
  -- Behind the records only the flush is left, before the rest of the cut decides.
  have hend (w : W) :
      (ofCursor style w (rs.foldl Tally.add .empty) ⟨(Record.wires rs).length, rest, false⟩).outcome
        = match Writer.flush w with
          | (w, none) => (w, verdict bs)
          | (w, some e) => (w, .error (.output e)) := by
    rw [verdict, hcut.failure?_eq, hcut.records_eq]
    by_cases hrest : rest = []
    · subst hrest
      rw [ofCursor_of_end rfl, outcome_finish, if_pos rfl]
    · have hread := Cursor.read_of_error (c := ⟨(Record.wires rs).length, rest, false⟩) hcut.stuck
      rw [ofCursor_of_error hrest hread, outcome_finish, if_neg hrest]
  rw [ofBytes, Cursor.ofBytes, hwires, hcut.records_eq]
  show (match Writer.writeEach w (pieces (lines style none rs)) with
    | (w, none) => (ofCursor style w (rs.foldl Tally.add .empty) _).outcome
    | (w, some e) => (w, .error (.output e))) = _
  rcases Writer.writeEach w (pieces (lines style none rs)) with ⟨w', _ | e⟩
  · dsimp only
    rw [hend]
    rcases Writer.flush w' with ⟨w'', _ | e⟩ <;> rfl
  · rfl

/-- Showing a log on a sink is writing the page at once and, if all of it is taken, flushing. -/
theorem outcome_ofBytes_sink (style : Style) (s : Sink) (bs : Bytes) :
    let text := page (lines style none (records bs))
    (ofBytes style s bs).outcome =
      if s.accepts text.length = text.length then
        ((s.push text).flush.1, (s.flushFault.map fun e => .error (.output e)).getD (verdict bs))
      else (s.push (text.take (s.accepts text.length)), .error (.output s.refusal)) := by
  intro text
  rw [outcome_ofBytes, Sink.writeEach_eq, flatten_pieces, Sink.write_eq]
  -- The sink has room for the whole page, or it stops inside the page and is not flushed.
  by_cases hall : s.accepts text.length = text.length
  · rw [if_pos hall, if_pos hall, hall, List.take_length]
    have hflush : Writer.flush (s.push text) = ((s.push text).flush.1, s.flushFault) := rfl
    dsimp only
    rw [hflush]
    rcases s.flushFault with _ | e <;> rfl
  · rw [if_neg hall, if_neg hall]

/-- What showing a log puts into a sink that takes everything. -/
def output (style : Style) (bs : Bytes) : Bytes := (ofBytes style Sink.unlimited bs).writer.bytes

theorem outcome_ofBytes_unlimited (style : Style) (bs : Bytes) :
    (ofBytes style Sink.unlimited bs).outcome =
      ((Sink.unlimited.push (page (lines style none (records bs)))).flush.1, verdict bs) := by
  have hout := outcome_ofBytes_sink style Sink.unlimited bs
  have haccepts (n : Nat) : Sink.unlimited.accepts n = n := rfl
  rw [hout, haccepts, if_pos rfl]
  rfl

theorem output_eq (style : Style) (bs : Bytes) :
    output style bs = page (lines style none (records bs)) := by
  have hwriter : (ofBytes style Sink.unlimited bs).writer = _ :=
    congrArg Prod.fst (outcome_ofBytes_unlimited style bs)
  rw [output, hwriter]
  exact Sink.bytes_push Sink.unlimited _

theorem result_unlimited (style : Style) (bs : Bytes) :
    (ofBytes style Sink.unlimited bs).result = verdict bs :=
  congrArg Prod.snd (outcome_ofBytes_unlimited style bs)

/-- **Showing a log on a fresh sink.**  The sink takes the page, cut off at its limit.  If that cuts
something off, the refusal is the result and the sink is not flushed.  Otherwise it is flushed
once; a flush that fails is the result, and only if it does not fail the log itself decides. -/
theorem ofBytes_fresh (style : Style) (limit : Option Nat) (fault flushFault : Option IoError)
    (bs : Bytes) :
    let shown := ofBytes style (Sink.fresh limit fault flushFault) bs
    let text := page (lines style none (records bs))
    shown.writer.bytes = text.take (limit.getD text.length) ∧
    (shown.result, shown.writer.flushes) =
      if ∃ l ∈ limit, l < text.length then (.error (.output (fault.getD .writeZero)), 0)
      else match flushFault, failure? bs with
        | some e, _ => (.error (.output e), 1)
        | none, some e => (.error (.corrupt e), 1)
        | none, none => (.ok ((records bs).foldl Tally.add .empty), 1) := by
  intro shown text
  have hout : shown.outcome = _ :=
    outcome_ofBytes_sink style (Sink.fresh limit fault flushFault) bs
  rw [Sink.accepts_fresh] at hout
  by_cases hcut : ∃ l ∈ limit, l < text.length
  · -- The limit lies inside the page: the write of the piece that crosses it is refused.
    obtain ⟨l, rfl, hlt⟩ := hcut
    have hmin : min text.length ((some l).getD text.length) = l := Nat.min_eq_right hlt.le
    rw [hmin, if_neg hlt.ne] at hout
    have hwriter : shown.writer = (Sink.fresh (some l) fault flushFault).push (text.take l) :=
      congrArg Prod.fst hout
    have hresult : shown.result = .error (.output (fault.getD .writeZero)) :=
      congrArg Prod.snd hout
    rw [if_pos ⟨l, rfl, hlt⟩, hwriter, hresult, Sink.bytes_push]
    exact ⟨rfl, rfl⟩
  · -- All of the page is taken, so that only the flush can fail.
    have hall : text.length ≤ limit.getD text.length := by
      rcases limit with _ | l
      · exact Nat.le_refl _
      · exact Nat.le_of_not_lt fun hlt => hcut ⟨l, rfl, hlt⟩
    rw [Nat.min_eq_left hall, if_pos rfl] at hout
    have hwriter : shown.writer = ((Sink.fresh limit fault flushFault).push text).flush.1 :=
      congrArg Prod.fst hout
    have hresult : shown.result =
        (flushFault.map fun e => .error (.output e)).getD (verdict bs) :=
      congrArg Prod.snd hout
    have htaken : ((Sink.fresh limit fault flushFault).push text).flush.1.bytes = text :=
      Sink.bytes_push (Sink.fresh limit fault flushFault) text
    rw [if_neg hcut, hwriter, hresult, htaken, List.take_of_length_le hall]
    refine ⟨rfl, ?_⟩
    rw [verdict]
    -- An error of the flush hides how the log ends.
    rcases flushFault with _ | e
    · rcases failure? bs with _ | e <;> rfl
    · rfl

end Transcript

end PacketLog
