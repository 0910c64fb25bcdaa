/-
Showing a log: one line per record, in the order of the log.

A line is written before the next record is read, so that what comes before a corrupt record is
shown all the same.  At the end, and before a corrupt record is reported, the writer is flushed; a
writer that fails ends the transcript, and its error is the one that counts.
-/
import PacketLog.Event
import PacketLog.Record.Line
import PacketLog.Tally

namespace PacketLog

/-- What a transcript leaves behind: the writer, what happened, and the statistics of the log or
the reason why it was not shown to its end. -/
structure Transcript (W : Type) where
  writer : W
  events : List Event
  result : Except Failure Tally

namespace Transcript

variable {W : Type} [Writer W]

/-- Adds an event that happened before the others. -/
def after (e : Event) (t : Transcript W) : Transcript W := ⟨t.writer, e :: t.events, t.result⟩

/-- Writes a text and a newline behind it. -/
def writeLine (w : W) (line : String) : W × Option IoError :=
  Writer.writeEach w [Utf8.encode line, Utf8.encode "\n"]

/-- Flushes the writer and ends with a result. -/
def finish (w : W) (events : List Event) (result : Except Failure Tally) : Transcript W :=
  match Writer.flush w with
  | (w, none) => ⟨w, events, result⟩
  | (w, some e) => ⟨w, [], .error (.output e)⟩

/-- Shows the records from a cursor on, those before it being counted already. -/
def ofCursor (style : Style) (w : W) (tally : Tally) (c : Cursor) : Transcript W :=
  if c.isAtEnd then finish w [.reachedEnd tally.records c.offset] (.ok tally)
  else
    match _h : c.read with
    | (.error e, _) => finish w [] (.error (.corrupt e))
    | (.ok entry, c') =>
      let r := entry.record
      let decoded := Event.decoded entry.start r.traceId (entry.stop - entry.start)
      match writeLine w (r.render tally.lastTimestamp style) with
      | (w, none) => (ofCursor style w (tally.add r) c').after decoded
      | (w, some e) => ⟨w, [decoded], .error (.output e)⟩
termination_by c.remaining
decreasing_by exact Cursor.remaining_lt_of_read _h

def ofBytes (style : Style) (w : W) (bs : Bytes) : Transcript W :=
  ofCursor style w .empty (.ofBytes bs)

end Transcript

end PacketLog
