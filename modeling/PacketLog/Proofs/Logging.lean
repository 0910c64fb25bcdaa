/-
What a run logs.

Reading a record is an event of its own, and so is the end of the log, a corrupt record, and output
that nobody reads.  They come about in three places: where records are shown, behind the last of
them, and where the run ends.  If the output works, they account for every byte of the log: the
records, one behind the other from its beginning on, and then its end or the place where it is
corrupt.

* `Event.readings` — the events of records that stand one behind the other;
* `Event.filter_readings` — they are told at the level `trace` only;
* `Transcript.events_of_entry`, `Transcript.events_of_wires` — what one turn of showing a log adds,
  and what written records add;
* `Transcript.events_ofBytes` — the events of showing a log on a writer that does not fail;
* `Run.events_present_working` — those of a whole run;
* `Run.events_working` — what is logged at each level.
-/
import PacketLog.EventFilter.Levels
import PacketLog.Proofs.Exactness
import PacketLog.Proofs.Reporting
import PacketLog.Tally.Counting

namespace PacketLog

/-- The events of reading records that stand one behind the other, the first at an offset: each of
them begins where the one before it ends. -/
def Event.readings (offset : Nat) : List Record → List Event
  | [] => []
  | r :: rs => .decoded offset r.traceId r.length :: readings (offset + r.length) rs

theorem Event.length_readings (offset : Nat) (rs : List Record) :
    (readings offset rs).length = rs.length := by
  induction rs generalizing offset with
  | nil => rfl
  | cons r rs ih => rw [readings, List.length_cons, List.length_cons, ih]

theorem Event.level_of_mem_readings {offset : Nat} {rs : List Record} {e : Event}
    (h : e ∈ readings offset rs) : e.level = .trace := by
  induction rs generalizing offset with
  | nil => exact absurd h (by simp [readings])
  | cons r rs ih =>
    rcases List.mem_cons.mp h with rfl | hmem
    · rfl
    · exact ih hmem

/-- Reading a record is the least grave event of all. -/
theorem Event.filter_readings {level : Level} (h : level ≠ .trace) (offset : Nat)
    (rs : List Record) : (readings offset rs).filter (EventFilter.upTo level) = [] := by
  rw [List.filter_eq_nil_iff]
  intro e he
  show ¬ decide (e.level.rank ≤ level.rank) = true
  rw [Event.level_of_mem_readings he]
  revert h
  cases level <;> decide

/-! ### The lines of events -/

theorem Event.line_decoded (offset : Nat) (id : UInt64) (length : Nat) :
    (decoded offset id length).line = "TRACE decoded record offset=" ++ Decimal.ofNat offset ++
      " trace_id=" ++ Decimal.ofNat id.toNat ++ " len=" ++ Decimal.ofNat length := by
  show "TRACE" ++ " " ++ ("decoded record" ++ message.field "offset" offset ++
    message.field "trace_id" id.toNat ++ message.field "len" length) = _
  simp only [message.field, String.reduceAppend]
  simp only [← String.append_assoc, String.reduceAppend]

theorem Event.line_reachedEnd (n : UInt64) (size : Nat) :
    (reachedEnd n size).line = "DEBUG reached end of trace records=" ++ Decimal.ofNat n.toNat ++
      " bytes=" ++ Decimal.ofNat size := by
  show "DEBUG" ++ " " ++ ("reached end of trace" ++ message.field "records" n.toNat ++
    message.field "bytes" size) = _
  simp only [message.field, String.reduceAppend]
  simp only [← String.append_assoc, String.reduceAppend]

theorem Event.line_corrupt (offset : Nat) :
    (corrupt offset).line = "WARN trace is corrupt, remaining records skipped offset=" ++
      Decimal.ofNat offset := by
  show "WARN" ++ " " ++ ("trace is corrupt, remaining records skipped" ++
    message.field "offset" offset) = _
  simp only [message.field, String.reduceAppend]
  simp only [← String.append_assoc, String.reduceAppend]

/-- A log is corrupt behind the records that it begins with. -/
theorem offset_of_failure? {bs : Bytes} {e : ReadError} (h : failure? bs = some e) :
    e.offset = ((records bs).map Record.length).sum := by
  obtain ⟨rs, rest, defect, hcut⟩ := exists_isCut bs
  obtain ⟨rfl, -⟩ := hcut.of_failure? h
  rw [hcut.records_eq, Record.length_wires]

namespace Transcript

variable {W : Type}

/-- The transcript does not end because the writer fails. -/
def Delivered (t : Transcript W) : Prop := ∀ e, t.result ≠ .error (.output e)

theorem delivered_of_result_eq_verdict {t : Transcript W} {bs : Bytes}
    (h : t.result = verdict bs) : t.Delivered := by
  intro e he
  rw [h, verdict] at he
  rcases hfailure : failure? bs with _ | x
  · rw [hfailure] at he
    exact absurd he (by simp)
  · rw [hfailure] at he
    exact absurd he (by simp)

variable [Writer W] {style : Style} {w : W} {tally : Tally}

theorem events_finish {events : List Event} {result : Except Failure Tally}
    (h : (finish w events result).Delivered) :
    (finish w events result).events = events := by
  rw [finish] at h ⊢
  rcases hflush : Writer.flush w with ⟨w', _ | e⟩
  · rfl
  · rw [hflush] at h
    exact absurd rfl (h e)

/-- **One turn of showing a log** adds the event of reading a record. -/
theorem events_of_entry {c c' : Cursor} {entry : Entry} (hopen : c.rest ≠ [])
    (hread : c.read = (.ok entry, c')) (h : (ofCursor style w tally c).Delivered) :
    ∃ w' : W, (ofCursor style w' (tally.add entry.record) c').Delivered ∧
      (ofCursor style w tally c).events =
        .decoded entry.start entry.record.traceId (entry.stop - entry.start) ::
          (ofCursor style w' (tally.add entry.record) c').events := by
  rw [ofCursor_of_entry hopen hread] at h ⊢
  -- A line that cannot be written would end the transcript with the error of the writer.
  rcases hwrite : writeLine w (entry.record.render tally.lastTimestamp style) with ⟨w', _ | e⟩
  · rw [hwrite] at h
    exact ⟨w', h, rfl⟩
  · rw [hwrite] at h
    exact absurd rfl (h e)

/-- **Showing written records** adds the events of reading them. -/
theorem events_of_wires {rs : List Record} {offset : Nat} {rest : Bytes}
    (hw : ∀ r ∈ rs, r.isWritable = true)
    (h : (ofCursor style w tally ⟨offset, Record.wires rs ++ rest, false⟩).Delivered) :
    let behind : Cursor := ⟨offset + (Record.wires rs).length, rest, false⟩
    ∃ w' : W, (ofCursor style w' (rs.foldl Tally.add tally) behind).Delivered ∧
      (ofCursor style w tally ⟨offset, Record.wires rs ++ rest, false⟩).events =
        Event.readings offset rs ++
          (ofCursor style w' (rs.foldl Tally.add tally) behind).events := by
  -- A turn changes the writer and the statistics and moves the offset on, so all three are general.
  induction rs generalizing w tally offset with
  | nil => exact ⟨w, h, rfl⟩
  | cons r rs ih =>
    have hread := Cursor.read_wire (hw r (by simp)) offset (Record.wires rs ++ rest) false
    have hopen := Cursor.wire_append_ne_nil r (Record.wires rs ++ rest)
    have hlen : offset + (Record.wires (r :: rs)).length =
        offset + r.length + (Record.wires rs).length := by
      rw [Record.wires_cons, List.length_append, Record.length_wire, Nat.add_assoc]
    rw [hlen]
    rw [Record.wires_cons, List.append_assoc] at h ⊢
    obtain ⟨w', hrest, hevents⟩ := events_of_entry hopen hread h
    obtain ⟨w'', hend, hbehind⟩ := ih (fun s hs => hw s (by simp [hs])) hrest
    refine ⟨w'', hend, ?_⟩
    rw [hevents, hbehind, Nat.add_sub_cancel_left]
    rfl

/-- **The events of showing a log on a writer that does not fail**: the records are read, one behind
the other, and if nothing else is in the log its end is reached. -/
theorem events_ofBytes {bs : Bytes} (h : (ofBytes style w bs).Delivered) :
    (ofBytes style w bs).events =
      Event.readings 0 (records bs) ++
        if failure? bs = none then [.reachedEnd (UInt64.ofNat (records bs).length) bs.length]
        else [] := by
  obtain ⟨rs, rest, defect, hcut⟩ := exists_isCut bs
  have hofBytes : ofBytes style w bs =
      ofCursor style w .empty ⟨0, Record.wires rs ++ rest, false⟩ := by
    rw [ofBytes, Cursor.ofBytes, ← hcut.eq]
  rw [hofBytes] at h ⊢
  obtain ⟨w', hend, hevents⟩ := events_of_wires hcut.writable h
  rw [hevents, hcut.records_eq, hcut.failure?_eq]
  congr 1
  -- The end of the log is logged where it is shown, a corrupt record by the run.
  by_cases hrest : rest = []
  · have hcount : (rs.foldl Tally.add .empty).records = UInt64.ofNat rs.length := by
      rw [Tally.records_foldl_add]
      exact UInt64.zero_add _
    have hlen : 0 + (Record.wires rs).length = bs.length := by
      rw [hcut.eq, hrest, List.append_nil, Nat.zero_add]
    rw [hlen] at hend ⊢
    rw [ofCursor_of_end (by simp [Cursor.isAtEnd, hrest])] at hend ⊢
    rw [events_finish hend, hcount, if_pos hrest, if_pos rfl]
  · have hread := Cursor.read_of_error (c := ⟨0 + (Record.wires rs).length, rest, false⟩) hcut.stuck
    rw [ofCursor_of_error hrest hread] at hend ⊢
    rw [events_finish hend, if_neg hrest, if_neg (by simp)]

end Transcript

/-! ### A whole run -/

namespace Run

theorem events_summarize (style : Style) (w : Buffered Sink) (tally : Tally) (events : List Event) :
    (summarize style w tally events).events = events := by
  have houtcome (w : Buffered Sink) (e : Option IoError) :
      (summarize.outcome events w e).events = events := by
    rcases e with _ | e
    · rfl
    · rw [summarize.outcome]
      split
      · rfl
      · rfl
  rw [summarize]
  rcases Transcript.writeLine w (tally.render style) with ⟨w', _ | e⟩
  · exact houtcome _ _
  · exact houtcome _ _

/-- The events before a loaded log is shown. -/
def loadingEvents (source : LoadedFile) : List Event :=
  [if source.mapped then .mapped source.path source.content.length
    else .streamed source.path source.content.length,
    .decoding source.path source.content.length]

/-- The event with which a run ends for a reason other than the end of the log. -/
def endingEvents : Except Failure Tally → List Event
  | .ok _ => []
  | .error failure =>
    if failure.isClosedPipe then [.outputClosed] else (failure.offset?.map Event.corrupt).toList

/-- The events of a run are those of showing the log between these; the statistics add none. -/
theorem events_present (style : Style) (summary : Bool) (capacity : Nat) (stdout : Stdout)
    (source : LoadedFile) :
    let shown :=
      Transcript.ofBytes style (Buffered.ofWriter stdout.sink capacity) source.content
    (present style summary capacity stdout source).events =
      loadingEvents source ++ (shown.events ++ endingEvents shown.result) := by
  intro shown
  rw [present, ← List.append_assoc]
  show Report.events (match shown.result with | .ok tally => _ | .error failure => _) = _
  rcases shown.result with failure | tally
  · show Report.events (if failure.isClosedPipe then _ else _) = _
    rw [endingEvents]
    split
    · rfl
    · rfl
  · show Report.events (if summary then _ else _) = _
    rw [endingEvents, List.append_nil]
    split
    · exact events_summarize _ _ _ _
    · rfl

/-- The event that closes a log: its end, with the number of the records and of the bytes, or the
offset behind the records where it is corrupt. -/
def closingEvent (bs : Bytes) : Event :=
  match failure? bs with
  | none => .reachedEnd (UInt64.ofNat (records bs).length) bs.length
  | some _ => .corrupt ((records bs).map Record.length).sum

/-- **The events of a run whose output works**, with a buffer of any size: the records and one event
that closes the log. -/
theorem events_present_working (style : Style) (summary : Bool) (capacity : Nat)
    (source : LoadedFile) :
    (present style summary capacity .working source).events =
      loadingEvents source ++
        (Event.readings 0 (records source.content) ++ [closingEvent source.content]) := by
  have hbuffered := (Transcript.outcome_buffered style
    (b := Buffered.ofWriter Stdout.working.sink capacity) rfl source.content).1
  have hresult : (Transcript.ofBytes style (Buffered.ofWriter Stdout.working.sink capacity)
      source.content).result = Transcript.verdict source.content :=
    (congrArg Prod.snd hbuffered).trans (Transcript.result_unlimited style source.content)
  have hdelivered := Transcript.delivered_of_result_eq_verdict hresult
  rw [events_present, Transcript.events_ofBytes hdelivered, hresult, Transcript.verdict,
    closingEvent, List.append_assoc]
  -- Either showing the log has logged its end, or the run logs where it is corrupt.
  rcases hfailure : failure? source.content with _ | e
  · rfl
  · rw [← offset_of_failure? hfailure]
    rfl

/-- At any level but `trace` no record is told, and only the events around them can be left. -/
theorem filter_events_present_working {level : Level} (hlevel : level ≠ .trace) (style : Style)
    (summary : Bool) (capacity : Nat) (source : LoadedFile) :
    (present style summary capacity .working source).events.filter (EventFilter.upTo level) =
      (loadingEvents source ++ [closingEvent source.content]).filter (EventFilter.upTo level) := by
  rw [events_present_working, List.filter_append, List.filter_append,
    Event.filter_readings hlevel, List.nil_append, ← List.filter_append]

/-- What is logged of a run on arguments. -/
theorem events_ofArgumentsReading {arguments : List String} {settings : CommandLine.Settings}
    {files : FileTree} {source : LoadedFile} (read : String → Option EventFilter) (stdout : Stdout)
    (named : Option String) (hsettings : CommandLine.parse arguments = .ok settings)
    (hload : files.load (Utf8.encode settings.path) = .ok source) :
    (ofArgumentsReading read arguments files stdout named).events =
      (present settings.style settings.summary bufferSize stdout source).events.filter
        (filter read settings named) := by
  rw [ofArgumentsReading, hsettings]
  dsimp only
  rw [hload]
  rfl

/-- What is logged of it if a level is named. -/
theorem events_ofArgumentsReading_level {arguments : List String} {settings : CommandLine.Settings}
    {files : FileTree} {source : LoadedFile} {read : String → Option EventFilter}
    (hread : EventFilter.KnowsLevels read) (stdout : Stdout)
    (hsettings : CommandLine.parse arguments = .ok settings)
    (hload : files.load (Utf8.encode settings.path) = .ok source) {level : Level} {text : String}
    (h : text.toLower = level.name) :
    (ofArgumentsReading read arguments files stdout (some text)).events =
      (present settings.style settings.summary bufferSize stdout source).events.filter
        (EventFilter.upTo level) := by
  have hfilter : filter read settings (some text) = EventFilter.upTo level :=
    congrArg (Option.getD · _) (hread level text h)
  rw [← hfilter]
  exact events_ofArgumentsReading read stdout (some text) hsettings hload

section

variable {arguments : List String} {settings : CommandLine.Settings} {files : FileTree} {bs : Bytes}

/-- **The log is a gap-free account of a run** whose output works, be the log a file or a stream.  At
the level `trace` it says that the bytes were loaded and are decoded; then it tells each record, the
first at the offset zero and each other one where the one before it ends; and then one event closes
it.  If all bytes are records, that is the end, with the number of the records told and of the
bytes, which is the sum of the lengths told; if not, it is the offset where the log is corrupt,
which is that sum.  The number of the records is a word, and no log in memory has more records than
a word can count.  At each other level the log is what this one has at that level or above: below
`trace` no record is told, below `debug` neither that the bytes were loaded nor the end, and below
`info` at most that the log is corrupt, which is a warning. -/
theorem events_working {read : String → Option EventFilter} (hread : EventFilter.KnowsLevels read)
    (hsettings : CommandLine.parse arguments = .ok settings)
    (hnode : files.find (Utf8.encode settings.path) = .ok (.file bs) ∨
      files.find (Utf8.encode settings.path) = .ok (.stream bs)) :
    let log (named : Option String) :=
      (ofArgumentsReading read arguments files .working named).events
    let path := Utf8.encode settings.path
    let decoding := Event.decoding path bs.length
    let told := Event.readings 0 (records bs)
    let total := ((records bs).map Record.length).sum
    let closing : Event := match failure? bs with
      | none => .reachedEnd (UInt64.ofNat told.length) bs.length
      | some _ => .corrupt total
    let grave : List Event := if failure? bs = none then [] else [closing]
    (∃ loaded : Event, (loaded = .mapped path bs.length ∨ loaded = .streamed path bs.length) ∧
      log (some "trace") = [loaded, decoding] ++ told ++ [closing] ∧
      log (some "debug") = [loaded, decoding, closing]) ∧
    log (some "info") = decoding :: grave ∧
    log (some "warn") = grave ∧
    log (some "error") = [] ∧
    log none = log (some (if settings.verbose then "debug" else "warn")) ∧
    (∀ (level : Level) (text : String), text.toLower = level.name →
      log (some text) = (log (some "trace")).filter fun e => e.level.rank ≤ level.rank) ∧
    (∀ e ∈ told, e.level = .trace) ∧
    closing.level = (if failure? bs = none then .debug else .warn) ∧
    (failure? bs = none ↔ total = bs.length) ∧
    (bs.length < 2 ^ 64 → (UInt64.ofNat told.length).toNat = told.length) ∧
    (∀ offset id length, (Event.decoded offset id length).line =
      "TRACE decoded record offset=" ++ Decimal.ofNat offset ++ " trace_id=" ++
        Decimal.ofNat id.toNat ++ " len=" ++ Decimal.ofNat length) ∧
    (∀ n size, (Event.reachedEnd n size).line =
      "DEBUG reached end of trace records=" ++ Decimal.ofNat n.toNat ++ " bytes=" ++
        Decimal.ofNat size) ∧
    ∀ offset, (Event.corrupt offset).line =
      "WARN trace is corrupt, remaining records skipped offset=" ++ Decimal.ofNat offset := by
  intro log path decoding told total closing grave
  -- Whether the bytes are mapped shows in the first event only.
  obtain ⟨mapped, hload⟩ := exists_load hnode
  let loaded : Event :=
    if mapped then .mapped path bs.length else .streamed path bs.length
  have hevents : (present settings.style settings.summary bufferSize .working
      ⟨path, bs, mapped⟩).events = [loaded, decoding] ++ told ++ [closing] := by
    rw [events_present_working, List.append_assoc, closingEvent, ← Event.length_readings 0]
    rfl
  -- A level picks its events from the list of all of them, and `trace` leaves none out.
  have hlevel (level : Level) (text : String) (h : text.toLower = level.name) :
      log (some text) =
        ([loaded, decoding] ++ told ++ [closing]).filter (EventFilter.upTo level) := by
    rw [← hevents]
    exact events_ofArgumentsReading_level hread .working hsettings hload h
  have htrace : log (some "trace") = [loaded, decoding] ++ told ++ [closing] := by
    rw [hlevel .trace "trace" (by decide +kernel)]
    refine List.filter_eq_self.mpr fun e _ => ?_
    cases e <;> rfl
  have hquiet (level : Level) (hne : level ≠ .trace) :
      log (some level.name) = match level with
        | .trace | .debug => [loaded, decoding, closing]
        | .info => decoding :: grave
        | .warn => grave
        | .error => [] := by
    rw [hlevel level level.name (by cases level <;> decide +kernel), ← hevents,
      filter_events_present_working hne, loadingEvents, closingEvent, ← Event.length_readings 0]
    dsimp only [closing, grave, told]
    -- The level of the closing event is that of an end or of a warning.
    rcases failure? bs with _ | e
    · cases mapped <;> cases level <;> rfl
    · cases mapped <;> cases level <;> rfl
  -- With no level named the settings choose one.
  have hnone : log none =
      ([loaded, decoding] ++ told ++ [closing]).filter (EventFilter.upTo settings.level) := by
    rw [← hevents]
    exact events_ofArgumentsReading read .working none hsettings hload
  obtain ⟨rs, rest, defect, hcut⟩ := exists_isCut bs
  have htotal : total = (Record.wires rs).length := by
    rw [Record.length_wires, ← hcut.records_eq]
  refine ⟨⟨loaded, ?_, htrace, hquiet .debug (by decide)⟩, hquiet .info (by decide),
    hquiet .warn (by decide), hquiet .error (by decide), ?_, fun level text h => ?_,
    fun e he => Event.level_of_mem_readings he, ?_, ?_, fun hlen => ?_, Event.line_decoded,
    Event.line_reachedEnd, Event.line_corrupt⟩
  · cases mapped
    · exact .inr rfl
    · exact .inl rfl
  · rw [hnone, CommandLine.Settings.level]
    cases settings.verbose
    · exact (hlevel .warn "warn" (by decide +kernel)).symm
    · exact (hlevel .debug "debug" (by decide +kernel)).symm
  · rw [hlevel level text h, htrace, EventFilter.upTo_eq]
  · dsimp only [closing]
    rcases failure? bs with _ | e
    · rfl
    · rfl
  · rw [htotal]
    exact hcut.failure?_eq_none_iff
  · -- Each record takes at least 29 bytes.
    have hmin : 29 * rs.length ≤ (Record.wires rs).length := Record.minLength_mul_le rs
    have hle := hcut.length_eq
    rw [Event.length_readings, hcut.records_eq, UInt64.toNat_ofNat_of_lt']
    exact show rs.length < 2 ^ 64 by omega

/-- A file with two records and a byte behind it that begins none.  With no level named, only that
it is corrupt is logged. -/
theorem events_working_corrupt :
    let r : Record := ⟨2, 1000, 54544, 8, 254, 0xB4, 0xC0, "a.c", 7⟩
    let s : Record := ⟨0xFFFFFFFFFFFFFFFF, 1005, 54544, 8, 254, 0xB4, 0x40, "é", 8⟩
    let bs := Record.wires [r, s] ++ [7]
    let files : FileTree := ⟨.directory [], [.directory [(Utf8.encode "log", .file bs)]]⟩
    EventFilter.KnowsLevels EventFilter.ofText? ∧
    CommandLine.parse ["log", "-s"] = .ok ⟨"log", .text, true, false⟩ ∧
    files.find (Utf8.encode "log") = .ok (.file bs) ∧
    (∃ loaded, (ofArguments ["log", "-s"] files .working (some "trace")).events =
      [loaded, .decoding (Utf8.encode "log") bs.length, .decoded 0 2 32,
        .decoded 32 0xFFFFFFFFFFFFFFFF 31, .corrupt 63]) ∧
    (ofArguments ["log", "-s"] files .working none).events = [.corrupt 63] := by
  intro r s bs files
  have hsettings : CommandLine.parse ["log", "-s"] = .ok ⟨"log", .text, true, false⟩ := rfl
  have hnode : files.find (Utf8.encode "log") = .ok (.file bs) := rfl
  have hcut : IsCut bs [r, s] [7] (.shortHeader 1) := ⟨rfl, by decide, rfl⟩
  obtain ⟨⟨loaded, -, htrace, -⟩, -, hwarn, -, hnone, -⟩ :=
    events_working EventFilter.knowsLevels_ofText? hsettings (.inl hnode)
  rw [hcut.records_eq, hcut.failure?_eq, if_neg (by simp)] at htrace
  rw [hcut.records_eq, hcut.failure?_eq, if_neg (by simp)] at hwarn
  have htold : Event.readings 0 [r, s] = [.decoded 0 2 32, .decoded 32 0xFFFFFFFFFFFFFFFF 31] := by
    decide
  have htotal : ([r, s].map Record.length).sum = 63 := by decide
  rw [htold, htotal] at htrace
  rw [htotal] at hwarn
  exact ⟨EventFilter.knowsLevels_ofText?, hsettings, hnode, ⟨loaded, htrace⟩, hnone.trans hwarn⟩

end

end Run

end PacketLog
