/-
The record of one traced packet, and what its packed bytes mean.

A daemon numbers the requests it sees `2, 4, 6, …` and the responses down from the largest odd
number; zero marks a packet that is not traced.  The packet header packs a sequence number and an
option flag into one byte, and an error code with reserved bits into another.
-/
import PacketLog.Text.Utf8

namespace PacketLog

/-- The record of one traced packet: the point in time, the header of the packet, and the place
in the daemon's source text that recorded it. -/
structure Record where
  traceId : UInt64
  timestamp : UInt64
  uid : UInt32
  packetLength : UInt8
  functionId : UInt8
  sequenceByte : UInt8
  errorByte : UInt8
  file : String
  line : Int32
  deriving DecidableEq, Repr

inductive Direction where
  | request
  | response
  | untraced
  deriving DecidableEq, Repr

/-- The direction that a trace id tells: zero none, the other even ids a request. -/
def Direction.ofTraceId (id : UInt64) : Direction :=
  if id = 0 then .untraced else if id % 2 = 0 then .request else .response

def Direction.name : Direction → String
  | .request => "request"
  | .response => "response"
  | .untraced => "invalid"

/-- What became of a request, as its response tells. -/
inductive Outcome where
  | success
  | invalidParameter
  | functionNotSupported
  | unknownError
  deriving DecidableEq, Repr

/-- The outcome that a code stands for, of which only the two low bits count. -/
def Outcome.ofCode (code : UInt8) : Outcome :=
  match code.toNat % 4 with
  | 0 => .success
  | 1 => .invalidParameter
  | 2 => .functionNotSupported
  | _ => .unknownError

def Outcome.message : Outcome → String
  | .success => "success"
  | .invalidParameter => "invalid parameter"
  | .functionNotSupported => "function not supported"
  | .unknownError => "unknown error"

/-- The name of an outcome, in one word. -/
def Outcome.name : Outcome → String
  | .success => "success"
  | .invalidParameter => "invalid_parameter"
  | .functionNotSupported => "function_not_supported"
  | .unknownError => "unknown_error"

namespace Record

/-- The upper half of the sequence byte. -/
def sequenceNumber (r : Record) : UInt8 := r.sequenceByte >>> 4

/-- Bit 2 of the sequence byte.  Bits 0, 1 and 3 mean nothing. -/
def optionBit (r : Record) : UInt8 := (r.sequenceByte >>> 2) &&& 1

/-- The top two bits of the error byte.  The other six are reserved. -/
def errorCode (r : Record) : UInt8 := r.errorByte >>> 6

def outcome (r : Record) : Outcome := .ofCode r.errorCode

def direction (r : Record) : Direction := .ofTraceId r.traceId

end Record

end PacketLog
