/-
What a run reports, for an output that works and for one that fails.

The output goes through a buffer, so that the failure of the output can show at four places: while
lines are written, when the log ends or turns out corrupt, and behind the statistics.  As the buffer
changes nothing in the end, a run can be read off the sink behind it.

* `Report.explain_eq` — the message about a failure, written out;
* `Report.ending` — the four places are one rule: a closed pipe is no failure, all else is;
* `Run.answer_summarize`, `Run.answer_present` — a run through a buffer, read off the sink;
* `first_item_cases` — a log is empty, begins with a failure, or begins with a record;
* `Run.answer_working` — an output that works;
* `Run.answer_refused` — an output that nobody reads, and one with no space left.
-/
import PacketLog.Proofs.Buffering
import PacketLog.Run

namespace PacketLog

theorem Utf8.lossy_encode (s : String) : lossy (encode s) = s := by
  rw [lossy, encode, segments_flatMap_encodeChar, List.map_map]
  exact (congrArg String.ofList (List.map_id s.toList)).trans s.ofList_toList

theorem Utf8.encode_newline_ne_nil (s : String) : encode (s ++ "\n") ≠ [] := by
  rw [encode_append]
  exact List.append_ne_nil_of_right_ne_nil _ (by decide)

theorem IoError.text_noSpace : noSpace.text = "No space left on device (os error 28)" := by
  have hnumber : Decimal.ofInt 28 = "28" := by
    show Decimal.ofNat 28 = "28"
    rw [Decimal.ofNat, Numeral.digits_of_le (by decide) (by decide),
      Numeral.digits_of_lt (by decide)]
    rfl
  rw [noSpace, ofNumber, hnumber]
  rfl

theorem Failure.message_noSpace :
    (output .noSpace).message =
      "failed to write output: No space left on device (os error 28)" := by
  show "failed to write output: " ++ IoError.noSpace.text = _
  rw [IoError.text_noSpace]
  decide

namespace Report

/-- **The message about a failure** has a line for the failure and one for the error behind it, with
numbers if there are both. -/
theorem explain_eq (context : String) (failure : Failure) :
    explain context failure = "Error: " ++ context ++ "\n\nCaused by:\n" ++
      match failure.cause? with
      | none => "    " ++ failure.message ++ "\n"
      | some cause => "    0: " ++ failure.message ++ "\n    1: " ++ cause ++ "\n" := by
  have hzero : Decimal.ofNat 0 = "0" := by
    rw [Decimal.ofNat, Numeral.digits_of_lt (by decide)]
    rfl
  have hone : Decimal.ofNat 1 = "1" := by
    rw [Decimal.ofNat, Numeral.digits_of_lt (by decide)]
    rfl
  rw [explain]
  rcases failure.cause? with _ | cause
  · rfl
  · congr 1
    show String.join ["    " ++ Decimal.ofNat 0 ++ ": " ++ failure.message ++ "\n",
      "    " ++ Decimal.ofNat 1 ++ ": " ++ cause ++ "\n"] = _
    rw [hzero, hone, ← String.toList_inj]
    simp [String.join]

theorem heading_decoding (path : String) :
    "Error: " ++ ("failed to decode " ++ path) = "Error: failed to decode " ++ path := by
  have hlabel : "Error: " ++ "failed to decode " = "Error: failed to decode " := by decide
  rw [← String.append_assoc, hlabel]

/-- A corrupt record has an error behind it if the name in it is bad. -/
theorem explain_corrupt (path : String) (e : ReadError) :
    explain ("failed to decode " ++ path) (.corrupt e) =
      "Error: failed to decode " ++ path ++ "\n\nCaused by:\n" ++
        match e.defect with
        | .badName fault => "    0: " ++ e.message ++ "\n    1: " ++ fault.message ++ "\n"
        | _ => "    " ++ e.message ++ "\n" := by
  obtain ⟨offset, defect⟩ := e
  rw [explain_eq, heading_decoding]
  -- Only a bad name has an error of its own behind it.
  cases defect with
  | badName fault => rfl
  | shortHeader remaining => rfl
  | openName => rfl
  | shortLine remaining => rfl

theorem explain_noSpace (context : String) :
    explain context (.output .noSpace) = "Error: " ++ context ++ ("\n\nCaused by:\n" ++
      "    0: failed to write output: No space left on device (os error 28)\n" ++
      "    1: No space left on device (os error 28)\n") := by
  rw [explain_eq, Failure.message_noSpace, Failure.cause?, IoError.text_noSpace]
  simp only [String.append_assoc]
  rfl

/-- What a run leaves behind besides its log: its status, its output and its message. -/
def answer (r : Report) : Nat × Bytes × String := (r.status, r.output, r.message)

/-- The answer of a run that ends in some context with a failure or with none, after bytes were put
out.  That nobody reads the output any more counts as no failure. -/
def ending (context : String) (taken : Bytes) : Option Failure → Nat × Bytes × String
  | none => (0, taken, "")
  | some failure =>
    if failure.isClosedPipe then (0, taken, "") else (1, taken, explain context failure)

end Report

/-! ### A sink that takes everything, and one that refuses everything -/

namespace Sink

theorem deliver_of_limit_eq_none {s : Sink} (h : s.limit = none) (pieces : List Bytes) :
    Writer.deliver s pieces = ((s.push pieces.flatten).flush.1, s.flushFault) := by
  have haccepts : s.accepts pieces.flatten.length = pieces.flatten.length := by
    rw [accepts, h]
  rw [deliver_eq, if_pos haccepts]

theorem deliver_of_limit_eq_zero {s : Sink} (h : s.limit = some 0) (pieces : List Bytes) :
    Writer.deliver s pieces =
      if pieces.flatten = [] then (s.flush.1, s.flushFault) else (s, some s.refusal) := by
  have haccepts (n : Nat) : s.accepts n = 0 := by
    rw [accepts, h]
    exact (congrArg (min n) (Nat.zero_sub _)).trans (Nat.min_zero n)
  rw [deliver_eq, haccepts]
  -- Nothing is taken even by a sink with no room.
  by_cases hempty : pieces.flatten = []
  · rw [hempty, List.length_nil, if_pos rfl, if_pos rfl, push_nil]
  · have hlen : ¬ 0 = pieces.flatten.length := fun h =>
      hempty (List.eq_nil_of_length_eq_zero h.symm)
    rw [if_neg hlen, if_neg hempty, List.take_zero, push_nil]

end Sink

namespace Transcript

theorem page_eq_nil_iff {texts : List String} : page texts = [] ↔ texts = [] := by
  constructor
  · intro h
    rcases texts with _ | ⟨text, texts⟩
    · rfl
    · exact absurd (List.append_eq_nil_iff.mp h).1 (Utf8.encode_newline_ne_nil text)
  · rintro rfl
    rfl

theorem lines_eq_nil_iff {style : Style} {previous : Option UInt64} {rs : List Record} :
    lines style previous rs = [] ↔ rs = [] := by
  cases rs with
  | nil => exact ⟨fun _ => rfl, fun _ => rfl⟩
  | cons r rs => exact ⟨fun h => absurd h (by simp [lines]), fun h => absurd h (by simp)⟩

/-- On a sink that refuses everything the first line fails; without one the log itself decides. -/
theorem outcome_ofBytes_failing (style : Style) (e : IoError) (bs : Bytes) :
    (ofBytes style (Sink.failing e) bs).outcome =
      if records bs = [] then ((Sink.failing e).flush.1, verdict bs)
      else (Sink.failing e, .error (.output e)) := by
  rw [outcome_eq_deliver, Sink.deliver_of_limit_eq_zero rfl, flatten_pieces]
  by_cases hnone : records bs = []
  · rw [if_pos hnone, if_pos (page_eq_nil_iff.mpr (lines_eq_nil_iff.mpr hnone))]
    rfl
  · have hpage : ¬ page (lines style none (records bs)) = [] := fun h =>
      hnone (lines_eq_nil_iff.mp (page_eq_nil_iff.mp h))
    rw [if_neg hnone, if_neg hpage]
    rfl

end Transcript

/-! ### The first item -/

/-- A log is empty, begins with a failure, or begins with a record. -/
theorem first_item_cases (bs : Bytes) :
    (bs = [] ∧ items bs = [] ∧ records bs = [] ∧ failure? bs = none) ∨
    (bs ≠ [] ∧ records bs = [] ∧ ∃ e, items bs = [.error e] ∧ failure? bs = some e) ∨
    (bs ≠ [] ∧ records bs ≠ [] ∧ ∃ entry more, items bs = .ok entry :: more) := by
  obtain ⟨rs, rest, defect, hcut⟩ := exists_isCut bs
  have hbs := hcut.eq
  rw [hcut.items_eq, hcut.records_eq, hcut.failure?_eq]
  -- The first item is the first record of the cut or, without one, the defect of the rest.
  rcases rs with _ | ⟨r, rs⟩
  · rw [Record.wires_nil, List.nil_append] at hbs
    by_cases hrest : rest = []
    · exact .inl ⟨hbs.trans hrest, by rw [if_pos hrest]; rfl, rfl, if_pos hrest⟩
    · refine .inr (.inl ⟨hbs ▸ hrest, rfl, ⟨0, defect⟩, ?_, ?_⟩)
      · rw [if_neg hrest]
        rfl
      · rw [if_neg hrest]
        rfl
  · refine .inr (.inr ⟨?_, by simp, ⟨0, r, 0 + r.length⟩, _, rfl⟩)
    rw [hbs, Record.wires_cons, List.append_assoc]
    exact Cursor.wire_append_ne_nil r _

theorem head?_items_eq_none_iff {bs : Bytes} : (items bs).head? = none ↔ bs = [] := by
  rcases first_item_cases bs with ⟨hbs, hitems, -, -⟩ | ⟨hbs, -, e, hitems, -⟩ |
    ⟨hbs, -, entry, more, hitems⟩
  · rw [hitems]
    exact ⟨fun _ => hbs, fun _ => rfl⟩
  · rw [hitems]
    exact ⟨fun h => absurd h (by simp), fun h => absurd h hbs⟩
  · rw [hitems]
    exact ⟨fun h => absurd h (by simp), fun h => absurd h hbs⟩

theorem exists_head?_items_iff {bs : Bytes} :
    (∃ entry, (items bs).head? = some (.ok entry)) ↔ records bs ≠ [] := by
  rcases first_item_cases bs with ⟨-, hitems, hrecords, -⟩ | ⟨-, hrecords, e, hitems, -⟩ |
    ⟨-, hrecords, entry, more, hitems⟩
  · rw [hitems, hrecords]
    exact ⟨fun ⟨_, h⟩ => absurd h (by simp), fun h => absurd rfl h⟩
  · rw [hitems, hrecords]
    exact ⟨fun ⟨_, h⟩ => absurd h (by simp), fun h => absurd rfl h⟩
  · rw [hitems]
    exact ⟨fun _ => hrecords, fun _ => ⟨entry, rfl⟩⟩

namespace Run

/-! ### A run, read off the sink behind the buffer -/

theorem answer_outcome (events : List Event) (w : Buffered Sink) (e : Option IoError) :
    (summarize.outcome events w e).answer =
      Report.ending "failed to write summary" w.target.bytes (e.map .output) := by
  rcases e with _ | e
  · rfl
  · rw [summarize.outcome]
    show Report.answer (if (Failure.output e).isClosedPipe then _ else _) =
      if (Failure.output e).isClosedPipe then _ else _
    split
    · rfl
    · rfl

/-- Writing the statistics through an empty buffer. -/
theorem answer_summarize (style : Style) {w : Buffered Sink} (hw : w.held = #[]) (tally : Tally)
    (events : List Event) :
    (summarize style w tally events).answer =
      let ended := Writer.deliver w.target [Utf8.encode (tally.render style ++ "\n")]
      Report.ending "failed to write summary" ended.1.bytes (ended.2.map .output) := by
  have hdeliver : summarize style w tally events =
      let ended := Writer.deliver w [Utf8.encode (tally.render style), Utf8.encode "\n"]
      summarize.outcome events ended.1 ended.2 := by
    rw [summarize, Transcript.writeLine, Writer.deliver]
    rcases Writer.writeEach w [Utf8.encode (tally.render style), Utf8.encode "\n"] with
      ⟨w', _ | e⟩
    · rfl
    · rfl
  obtain ⟨htarget, -⟩ := w.deliver_eq [Utf8.encode (tally.render style), Utf8.encode "\n"]
  -- As nothing is held back, the pieces of the line are all that is delivered.
  have hline : Writer.deliver w.target
      (w.held.toList :: [Utf8.encode (tally.render style), Utf8.encode "\n"]) =
        Writer.deliver w.target [Utf8.encode (tally.render style ++ "\n")] := by
    refine Writer.deliver_congr w.target ?_
    rw [hw, Utf8.encode_append]
    simp
  rw [hdeliver, ← hline, ← htarget]
  generalize Writer.deliver w [Utf8.encode (tally.render style), Utf8.encode "\n"] = ended
  exact answer_outcome events ended.1 ended.2

/-- **A run through a buffer of any size**, read off the sink behind it. -/
theorem answer_present (style : Style) (summary : Bool) (capacity : Nat) (stdout : Stdout)
    (source : LoadedFile) :
    (present style summary capacity stdout source).answer =
      match (Transcript.ofBytes style stdout.sink source.content).outcome with
      | (s, .error failure) =>
        Report.ending ("failed to decode " ++ source.path.display) s.bytes (some failure)
      | (s, .ok tally) =>
        if summary then
          let ended := Writer.deliver s [Utf8.encode (tally.render style ++ "\n")]
          Report.ending "failed to write summary" ended.1.bytes (ended.2.map .output)
        else (0, s.bytes, "") := by
  obtain ⟨htarget, hheld⟩ := Transcript.outcome_buffered style
    (b := Buffered.ofWriter stdout.sink capacity) rfl source.content
  have hsink : (Transcript.ofBytes style stdout.sink source.content).outcome = _ := htarget.symm
  rw [hsink, present, Transcript.outcome]
  dsimp only
  generalize Transcript.ofBytes style (Buffered.ofWriter stdout.sink capacity) source.content =
    shown at hheld ⊢
  -- Only if the statistics are the result can they be written, and then nothing is held back.
  rcases hresult : shown.result with failure | tally
  · show Report.answer (if failure.isClosedPipe then _ else _) =
      if failure.isClosedPipe then _ else _
    split
    · rfl
    · rfl
  · show Report.answer (if summary then _ else _) = if summary then _ else _
    split
    · exact answer_summarize style (hheld tally hresult) tally _
    · rfl

/-- A run on arguments is one on the log that is loaded, whatever events are logged. -/
theorem answer_ofArguments {arguments : List String} {settings : CommandLine.Settings}
    {files : FileTree} {source : LoadedFile} (stdout : Stdout) (named : Option String)
    (hsettings : CommandLine.parse arguments = .ok settings)
    (hload : files.load (Utf8.encode settings.path) = .ok source) :
    (ofArguments arguments files stdout named).answer =
      (present settings.style settings.summary bufferSize stdout source).answer := by
  rw [ofArguments, ofArgumentsReading, hsettings]
  dsimp only
  rw [hload]
  rfl

/-- A file and a stream are loaded with the same bytes. -/
theorem exists_load {files : FileTree} {path : Path} {bs : Bytes}
    (h : files.find path = .ok (.file bs) ∨ files.find path = .ok (.stream bs)) :
    ∃ mapped, files.load path = .ok ⟨path, bs, mapped⟩ := by
  rcases h with h | h
  · exact ⟨!bs.isEmpty, by rw [FileTree.load, h]⟩
  · exact ⟨false, by rw [FileTree.load, h]⟩

/-! ### What a run answers -/

/-- The answer of a run whose output works: the page that shows the log, with the statistics behind
it if they are asked for and nothing fails. -/
theorem answer_present_working (style : Style) (summary : Bool) (capacity : Nat)
    (source : LoadedFile) :
    (present style summary capacity .working source).answer =
      let shown := Transcript.output style source.content
      let tally := (records source.content).foldl Tally.add .empty
      match failure? source.content with
      | none => (0, shown ++ if summary then Utf8.encode (tally.render style ++ "\n") else [], "")
      | some e =>
        (1, shown, Report.explain ("failed to decode " ++ source.path.display) (.corrupt e)) := by
  have hbytes (text : Bytes) : ((Sink.unlimited.push text).flush.1).bytes = text :=
    Sink.bytes_push Sink.unlimited text
  have hout : (Transcript.ofBytes style Stdout.working.sink source.content).outcome = _ :=
    Transcript.outcome_ofBytes_unlimited style source.content
  rw [answer_present, hout, Transcript.verdict, ← Transcript.output_eq]
  -- Behind a failure the statistics are left out, even if they are asked for.
  rcases failure? source.content with _ | e
  · dsimp only
    cases summary with
    | true =>
      rw [if_pos rfl, if_pos rfl, Sink.deliver_of_limit_eq_none rfl, List.flatten_singleton]
      show (0, ((Sink.unlimited.push _).flush.1.push _).bytes, "") = _
      rw [Sink.bytes_push, hbytes]
    | false =>
      rw [if_neg (by simp), if_neg (by simp), hbytes, List.append_nil]
  · dsimp only
    rw [hbytes]
    rfl

/-- The answer of a run whose output refuses everything: the first line that is written shows the
failure, or else the statistics do; if nothing is written, it does not show at all. -/
theorem answer_present_failing {stdout : Stdout} {e : IoError}
    (hstdout : stdout.sink = Sink.failing e) (style : Style) (summary : Bool) (capacity : Nat)
    (source : LoadedFile) :
    (present style summary capacity stdout source).answer =
      let decoding := "failed to decode " ++ source.path.display
      match (items source.content).head?, summary with
      | some (.error x), _ => Report.ending decoding [] (some (.corrupt x))
      | some (.ok _), _ => Report.ending decoding [] (some (.output e))
      | none, true => Report.ending "failed to write summary" [] (some (.output e))
      | none, false => (0, [], "") := by
  rw [answer_present, hstdout, Transcript.outcome_ofBytes_failing, Transcript.verdict]
  -- An empty log writes no line, a corrupt one fails before any, and a record fails on its line.
  rcases first_item_cases source.content with ⟨-, hitems, hrecords, hfailure⟩ |
    ⟨-, hrecords, x, hitems, hfailure⟩ | ⟨-, hrecords, entry, more, hitems⟩
  · rw [hitems, hrecords, hfailure, if_pos rfl]
    cases summary with
    | true =>
      have hline : [Utf8.encode ((([] : List Record).foldl Tally.add .empty).render style ++
          "\n")].flatten ≠ [] := by
        rw [List.flatten_singleton]
        exact Utf8.encode_newline_ne_nil _
      dsimp only
      rw [if_pos rfl, Sink.deliver_of_limit_eq_zero rfl, if_neg hline]
      rfl
    | false => rfl
  · rw [hitems, hrecords, hfailure, if_pos rfl]
    rfl
  · rw [hitems, if_neg hrecords]
    rfl

section

variable {arguments : List String} {settings : CommandLine.Settings} {files : FileTree} {bs : Bytes}

/-- **A run whose output works.**  Whether the log is a file or a stream, whatever events are logged
and however large the buffer is, the output is the page that shows the log, and behind it the
statistics if they are asked for and the whole log is read.  If it is, the status is zero; if not,
the message tells the failure that ends the items of the log, and the error behind it if there is
one. -/
theorem answer_working (named : Option String)
    (hsettings : CommandLine.parse arguments = .ok settings)
    (hnode : files.find (Utf8.encode settings.path) = .ok (.file bs) ∨
      files.find (Utf8.encode settings.path) = .ok (.stream bs)) :
    let shown := Transcript.output settings.style bs
    let tally := (records bs).foldl Tally.add .empty
    let answer : Nat × Bytes × String :=
      match failure? bs with
      | none =>
        (0, shown ++
          if settings.summary then Utf8.encode (tally.render settings.style ++ "\n") else [], "")
      | some e => (1, shown, Report.explain ("failed to decode " ++ settings.path) (.corrupt e))
    (ofArguments arguments files .working named).answer = answer ∧
    (∀ capacity mapped,
      (present settings.style settings.summary capacity .working
        ⟨Utf8.encode settings.path, bs, mapped⟩).answer = answer) ∧
    (failure? bs = none →
      (Transcript.ofBytes settings.style Sink.unlimited bs).result = .ok tally) ∧
    ∀ e, failure? bs = some e →
      (ofArguments arguments files .working named).message =
        "Error: failed to decode " ++ settings.path ++ "\n\nCaused by:\n" ++
          match e.defect with
          | .badName fault => "    0: " ++ e.message ++ "\n    1: " ++ fault.message ++ "\n"
          | _ => "    " ++ e.message ++ "\n" := by
  intro shown tally answer
  have hpresent (capacity : Nat) (mapped : Bool) :
      (present settings.style settings.summary capacity .working
        ⟨Utf8.encode settings.path, bs, mapped⟩).answer = answer := by
    rw [answer_present_working, Path.display, Utf8.lossy_encode]
  obtain ⟨mapped, hload⟩ := exists_load hnode
  have hanswer : (ofArguments arguments files .working named).answer = answer :=
    (answer_ofArguments .working named hsettings hload).trans (hpresent bufferSize mapped)
  refine ⟨hanswer, hpresent, fun hnone => ?_, fun e hsome => ?_⟩
  · rw [Transcript.result_unlimited, Transcript.verdict, hnone]
  · have hmessage : (ofArguments arguments files .working named).message = answer.2.2 :=
      congrArg (·.2.2) hanswer
    rw [hmessage]
    dsimp only [answer]
    rw [hsome]
    exact Report.explain_corrupt settings.path e

/-- A log of one record that comes out of a stream, shown as JSON with the statistics. -/
theorem answer_working_stream :
    let r : Record := ⟨0xFFFFFFFFFFFFFFFF, 1000, 54544, 8, 254, 0xB4, 0xC0, "a\nb.c", -7⟩
    let files : FileTree := ⟨.directory [], [.directory [(Utf8.encode "log", .stream r.wire)]]⟩
    CommandLine.parse ["--format=json", "log", "-s"] = .ok ⟨"log", .json, true, false⟩ ∧
    files.find (Utf8.encode "log") = .ok (.stream r.wire) ∧
    (ofArguments ["--format=json", "log", "-s"] files .working (some "trace")).answer =
      (0, Transcript.output .json r.wire ++
        Utf8.encode ((Tally.empty.add r).render .json ++ "\n"), "") := by
  intro r files
  have hsettings : CommandLine.parse ["--format=json", "log", "-s"] =
      .ok ⟨"log", .json, true, false⟩ := rfl
  have hnode : files.find (Utf8.encode "log") = .ok (.stream r.wire) := rfl
  have hcut : IsCut r.wire [r] [] (.shortHeader 0) := by
    refine ⟨?_, by decide, Record.read_nil⟩
    rw [Record.wires_cons, Record.wires_nil, List.append_nil, List.append_nil]
  have hanswer := (answer_working (some "trace") hsettings (.inr hnode)).1
  rw [hcut.failure?_eq, if_pos rfl, hcut.records_eq] at hanswer
  dsimp only at hanswer
  rw [if_pos rfl, List.foldl_cons, List.foldl_nil] at hanswer
  exact ⟨hsettings, hnode, hanswer⟩

/-- **A run whose output fails**, because nobody reads it or because there is no space left.  The
first of these counts as no failure, so that only a log whose very first record cannot be read makes
the run fail.  The second one fails every run that has something to put out. -/
theorem answer_refused (named : Option String)
    (hsettings : CommandLine.parse arguments = .ok settings)
    (hnode : files.find (Utf8.encode settings.path) = .ok (.file bs) ∨
      files.find (Utf8.encode settings.path) = .ok (.stream bs)) :
    let decoding := "failed to decode " ++ settings.path
    let closed : Nat × Bytes × String :=
      match (items bs).head? with
      | some (.error e) => (1, [], Report.explain decoding (.corrupt e))
      | _ => (0, [], "")
    let full : Nat × Bytes × String :=
      match (items bs).head?, settings.summary with
      | some (.error e), _ => (1, [], Report.explain decoding (.corrupt e))
      | some (.ok _), _ => (1, [], Report.explain decoding (.output .noSpace))
      | none, true => (1, [], Report.explain "failed to write summary" (.output .noSpace))
      | none, false => (0, [], "")
    let noSpace : String := "\n\nCaused by:\n" ++
      "    0: failed to write output: No space left on device (os error 28)\n" ++
      "    1: No space left on device (os error 28)\n"
    (ofArguments arguments files .closed named).answer = closed ∧
    (ofArguments arguments files .full named).answer = full ∧
    (∀ capacity mapped,
      let source : LoadedFile := ⟨Utf8.encode settings.path, bs, mapped⟩
      (present settings.style settings.summary capacity .closed source).answer = closed ∧
      (present settings.style settings.summary capacity .full source).answer = full) ∧
    ((items bs).head? = none ↔ bs = []) ∧
    ((∃ entry, (items bs).head? = some (.ok entry)) ↔ records bs ≠ []) ∧
    (Failure.output .noSpace).message =
      "failed to write output: No space left on device (os error 28)" ∧
    (∀ e, (items bs).head? = some (.error e) →
      let message := "Error: failed to decode " ++ settings.path ++ "\n\nCaused by:\n" ++
        match e.defect with
        | .badName fault => "    0: " ++ e.message ++ "\n    1: " ++ fault.message ++ "\n"
        | _ => "    " ++ e.message ++ "\n"
      (ofArguments arguments files .closed named).message = message ∧
      (ofArguments arguments files .full named).message = message) ∧
    (records bs ≠ [] → (ofArguments arguments files .full named).message =
      "Error: failed to decode " ++ settings.path ++ noSpace) ∧
    (bs = [] → settings.summary = true → (ofArguments arguments files .full named).message =
      "Error: failed to write summary" ++ noSpace) := by
  intro decoding closed full noSpace
  -- Both outputs refuse everything; a closed one is forgiven, a full one is not.
  have hclosed (capacity : Nat) (mapped : Bool) :
      (present settings.style settings.summary capacity .closed
        ⟨Utf8.encode settings.path, bs, mapped⟩).answer = closed := by
    rw [answer_present_failing (e := .brokenPipe) rfl, Path.display, Utf8.lossy_encode]
    dsimp only [closed]
    rcases (items bs).head? with _ | ⟨x | entry⟩
    · cases settings.summary <;> rfl
    · rfl
    · rfl
  have hfull (capacity : Nat) (mapped : Bool) :
      (present settings.style settings.summary capacity .full
        ⟨Utf8.encode settings.path, bs, mapped⟩).answer = full := by
    rw [answer_present_failing (e := .noSpace) rfl, Path.display, Utf8.lossy_encode]
    dsimp only [full]
    rcases (items bs).head? with _ | ⟨x | entry⟩
    · cases settings.summary <;> rfl
    · rfl
    · rfl
  obtain ⟨mapped, hload⟩ := exists_load hnode
  have hclosedAnswer : (ofArguments arguments files .closed named).answer = closed :=
    (answer_ofArguments .closed named hsettings hload).trans (hclosed bufferSize mapped)
  have hfullAnswer : (ofArguments arguments files .full named).answer = full :=
    (answer_ofArguments .full named hsettings hload).trans (hfull bufferSize mapped)
  have hclosedMessage : (ofArguments arguments files .closed named).message = closed.2.2 :=
    congrArg (·.2.2) hclosedAnswer
  have hfullMessage : (ofArguments arguments files .full named).message = full.2.2 :=
    congrArg (·.2.2) hfullAnswer
  refine ⟨hclosedAnswer, hfullAnswer,
    fun capacity mapped => ⟨hclosed capacity mapped, hfull capacity mapped⟩,
    head?_items_eq_none_iff, exists_head?_items_iff, Failure.message_noSpace,
    fun e hhead => ?_, fun hrecords => ?_, fun hbs hsummary => ?_⟩
  · intro message
    have hmessage : Report.explain decoding (.corrupt e) = message :=
      Report.explain_corrupt settings.path e
    rw [hclosedMessage, hfullMessage, ← hmessage]
    dsimp only [closed, full]
    rw [hhead]
    exact ⟨rfl, rfl⟩
  · obtain ⟨entry, hhead⟩ := exists_head?_items_iff.mpr hrecords
    rw [hfullMessage]
    dsimp only [full]
    rw [hhead]
    exact (Report.explain_noSpace decoding).trans
      (congrArg (· ++ noSpace) (Report.heading_decoding settings.path))
  · rw [hfullMessage]
    dsimp only [full]
    rw [head?_items_eq_none_iff.mpr hbs, hsummary]
    exact Report.explain_noSpace "failed to write summary"

/-- A file with one record and a byte behind it that begins none.  That the log is corrupt is not
told by either run, as the output fails first. -/
theorem answer_refused_corrupt :
    let r : Record := ⟨2, 1000, 54544, 8, 254, 0xB4, 0xC0, "a.c", 7⟩
    let bs := r.wire ++ [7]
    let files : FileTree := ⟨.directory [], [.directory [(Utf8.encode "log", .file bs)]]⟩
    CommandLine.parse ["log", "-v"] = .ok ⟨"log", .text, false, true⟩ ∧
    files.find (Utf8.encode "log") = .ok (.file bs) ∧
    failure? bs = some ⟨32, .shortHeader 1⟩ ∧
    (ofArguments ["log", "-v"] files .closed none).answer = (0, [], "") ∧
    (ofArguments ["log", "-v"] files .full none).answer =
      (1, [], Report.explain "failed to decode log" (.output .noSpace)) := by
  intro r bs files
  have hsettings : CommandLine.parse ["log", "-v"] = .ok ⟨"log", .text, false, true⟩ := rfl
  have hnode : files.find (Utf8.encode "log") = .ok (.file bs) := rfl
  have hcut : IsCut bs [r] [7] (.shortHeader 1) := by
    refine ⟨?_, by decide, rfl⟩
    rw [Record.wires_cons, Record.wires_nil, List.append_nil]
  have hlen : (Record.wires [r]).length = 32 := by
    rw [Record.length_wires]
    decide
  have hfailure : failure? bs = some ⟨32, .shortHeader 1⟩ := by
    rw [hcut.failure?_eq, if_neg (by simp), hlen]
  obtain ⟨hclosed, hfull, -⟩ := answer_refused none hsettings (.inl hnode)
  rw [hcut.items_eq] at hclosed hfull
  exact ⟨hsettings, hnode, hfailure, hclosed, hfull⟩

end

end Run

end PacketLog
