/-
Statistics of the records of a log.
-/
import PacketLog.Record.Line
import PacketLog.Record.Wire

namespace PacketLog

/-- What is counted of the records of a log.  The counters are words and wrap around. -/
structure Tally where
  records : UInt64
  bytes : UInt64
  firstTimestamp : Option UInt64
  lastTimestamp : Option UInt64
  requests : UInt64
  responses : UInt64
  untraced : UInt64
  errors : UInt64
  deriving DecidableEq, Repr

namespace Tally

def empty : Tally := ⟨0, 0, none, none, 0, 0, 0, 0⟩

def countIf (holds : Bool) (counter : UInt64) : UInt64 :=
  if holds then counter + 1 else counter

def add (t : Tally) (r : Record) : Tally where
  records := t.records + 1
  bytes := t.bytes + UInt64.ofNat r.length
  firstTimestamp := t.firstTimestamp <|> some r.timestamp
  lastTimestamp := some r.timestamp
  requests := countIf (r.direction = .request) t.requests
  responses := countIf (r.direction = .response) t.responses
  untraced := countIf (r.direction = .untraced) t.untraced
  errors := countIf (r.errorCode ≠ 0) t.errors

/-- The signed distance of the last point in time from the first. -/
def duration (t : Tally) : Int :=
  match t.firstTimestamp, t.lastTimestamp with
  | some first, some last => (last.toNat : Int) - (first.toNat : Int)
  | _, _ => 0

def decimal (counter : UInt64) : String := Decimal.ofNat counter.toNat

/-- The lines of the text form.  The time is left out when no record was seen, and the number of
packets that were not traced when it is zero. -/
def textLines (t : Tally) : List String :=
  ["Records:   " ++ decimal t.records, "Bytes:     " ++ decimal t.bytes] ++
  (match t.firstTimestamp, t.lastTimestamp with
    | some first, some last =>
      ["Time:      " ++ decimal first ++ " .. " ++ decimal last ++
        " (" ++ Decimal.signed t.duration ++ ")"]
    | _, _ => []) ++
  ["Requests:  " ++ decimal t.requests, "Responses: " ++ decimal t.responses] ++
  (if t.untraced = 0 then [] else ["Invalid:   " ++ decimal t.untraced]) ++
  ["Errors:    " ++ decimal t.errors]

def jsonCount (counter : UInt64) : Json := .number counter.toNat

def jsonTime : Option UInt64 → Json
  | some timestamp => jsonCount timestamp
  | none => .null

def toJson (t : Tally) : Json :=
  .object [("summary", .object [
    ("records", jsonCount t.records),
    ("bytes", jsonCount t.bytes),
    ("first_timestamp", jsonTime t.firstTimestamp),
    ("last_timestamp", jsonTime t.lastTimestamp),
    ("requests", jsonCount t.requests),
    ("responses", jsonCount t.responses),
    ("invalid", jsonCount t.untraced),
    ("errors", jsonCount t.errors)])]

/-- The text of the statistics, with no newline at its end. -/
def render (t : Tally) : Style → String
  | .text => "\n".intercalate t.textLines
  | .json => t.toJson.render

end Tally

end PacketLog
