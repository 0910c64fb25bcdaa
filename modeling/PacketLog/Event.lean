/-
The events of a run, as they are logged.
-/
import PacketLog.Failure
import PacketLog.Level

namespace PacketLog

inductive Event where
  /-- A file was loaded by mapping it into memory. -/
  | mapped (path : Path) (bytes : Nat)
  /-- A file was loaded by reading it to its end. -/
  | streamed (path : Path) (bytes : Nat)
  | decoding (path : Path) (bytes : Nat)
  /-- A record of `length` bytes was read at an offset. -/
  | decoded (offset : Nat) (traceId : UInt64) (length : Nat)
  | reachedEnd (records : UInt64) (bytes : Nat)
  /-- The record at an offset cannot be read, nor those after it. -/
  | corrupt (offset : Nat)
  /-- Nobody reads the output any more. -/
  | outputClosed
  deriving DecidableEq, Repr

namespace Event

def level : Event → Level
  | .mapped .. => .debug
  | .streamed .. => .debug
  | .decoding .. => .info
  | .decoded .. => .trace
  | .reachedEnd .. => .debug
  | .corrupt .. => .warn
  | .outputClosed => .debug

/-- The part of the program that an event comes from. -/
def target : Event → String
  | .mapped .. => "packet_trace::source"
  | .streamed .. => "packet_trace::source"
  | .decoding .. => "packet_trace::app"
  | .decoded .. => "packet_trace::decoder"
  | .reachedEnd .. => "packet_trace::driver"
  | .corrupt .. => "packet_trace::app"
  | .outputClosed => "packet_trace::app"

/-- What happened, with the numbers that belong to it. -/
def message : Event → String
  | .mapped path bytes => "mapped trace file" ++ place path bytes
  | .streamed path bytes => "read trace stream" ++ place path bytes
  | .decoding path bytes => "decoding trace" ++ place path bytes
  | .decoded offset traceId length =>
    "decoded record" ++ field "offset" offset ++ field "trace_id" traceId.toNat ++
      field "len" length
  | .reachedEnd records bytes =>
    "reached end of trace" ++ field "records" records.toNat ++ field "bytes" bytes
  | .corrupt offset =>
    "trace is corrupt, remaining records skipped" ++ field "offset" offset
  | .outputClosed => "stdout closed, stopping"
where
  field (key : String) (n : Nat) : String := " " ++ key ++ "=" ++ Decimal.ofNat n
  place (path : Path) (bytes : Nat) : String :=
    " path=" ++ path.display ++ field "bytes" bytes

def line (e : Event) : String := e.level.label ++ " " ++ e.message

end Event

end PacketLog
