/-
The line that shows a record.

A line of text has columns of fixed width for the fields of the packet header; a line of JSON is an
object with all fields.  Both show the distance in time from the record before.
-/
import PacketLog.Json
import PacketLog.Numeral.Base58
import PacketLog.Record.Basic
import PacketLog.Style
import PacketLog.Text.Column

namespace PacketLog

/-- The signed distance of a point in time from the one before, zero if there is none. -/
def timeSince (timestamp : UInt64) (previous : Option UInt64) : Int :=
  match previous with
  | some p => (timestamp.toNat : Int) - (p.toNat : Int)
  | none => 0

/-- The nearest number that fits in a signed word of 64 bits. -/
def clampInt64 (n : Int) : Int := max Int64.minValue.toInt (min n Int64.maxValue.toInt)

namespace Record

def decimalByte (b : UInt8) : String := Decimal.ofNat b.toNat

def textLine (r : Record) (previous : Option UInt64) : String :=
  "I: " ++ Column.right 20 (Decimal.ofNat r.traceId.toNat) ++
  ", T: " ++ Decimal.ofNat r.timestamp.toNat ++
  " " ++ Column.right 10 (Decimal.signed (timeSince r.timestamp previous)) ++
  ", U: " ++ Column.left 6 (Base58.encode r.uid.toUInt64) ++
  ", L: " ++ Column.right 3 (decimalByte r.packetLength) ++
  ", F: " ++ Column.right 3 (decimalByte r.functionId) ++
  ", S: " ++ Column.right 2 (decimalByte r.sequenceNumber) ++
  ", R: " ++ decimalByte r.optionBit ++
  ", E: " ++ decimalByte r.errorCode ++
  " -> " ++ r.file ++ ":" ++ Decimal.ofInt r.line.toInt

def jsonByte (b : UInt8) : Json := .number b.toNat

/-- The object that shows a record.  A distance in time beyond the 64-bit range is clamped. -/
def toJson (r : Record) (previous : Option UInt64) : Json :=
  .object [
    ("trace_id", .number r.traceId.toNat),
    ("kind", .string r.direction.name),
    ("timestamp", .number r.timestamp.toNat),
    ("delta", .number (clampInt64 (timeSince r.timestamp previous))),
    ("uid", .string (Base58.encode r.uid.toUInt64)),
    ("length", jsonByte r.packetLength),
    ("function_id", jsonByte r.functionId),
    ("sequence_number", jsonByte r.sequenceNumber),
    ("option", jsonByte r.optionBit),
    ("error_code", jsonByte r.errorCode),
    ("error_name", .string r.outcome.name),
    ("seq_and_options", jsonByte r.sequenceByte),
    ("error_and_reserved", jsonByte r.errorByte),
    ("file", .string r.file),
    ("line", .number r.line.toInt)]

/-- The line that shows a record after the point in time of the one before. -/
def render (r : Record) (previous : Option UInt64) : Style → String
  | .text => r.textLine previous
  | .json => (r.toJson previous).render

end Record

end PacketLog
