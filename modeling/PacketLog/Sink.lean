/-
A writer that takes a limited number of bytes.

A sink keeps what it took and counts its flushes.  Once the limit is reached it refuses: it
reports its fault or, having none, takes no byte at all, which counts as an error too.  A write
that crosses the limit is taken in part.  A fault is final: a mere interruption, after which one
would offer the bytes once more, is not meant by it.
-/
import PacketLog.Writer

namespace PacketLog

structure Sink where
  /-- The number of bytes that it takes in all, if there is a limit. -/
  limit : Option Nat
  /-- The error that it reports when it refuses. -/
  fault : Option IoError
  /-- The error that every flush of it reports. -/
  flushFault : Option IoError
  taken : Array UInt8
  /-- The number of times that it was flushed, failed flushes included. -/
  flushes : Nat
  deriving DecidableEq, Repr

namespace Sink

def fresh (limit : Option Nat) (fault flushFault : Option IoError) : Sink :=
  ⟨limit, fault, flushFault, #[], 0⟩

/-- A fresh sink, flushing which may report the fault as well. -/
def new (limit : Option Nat) (fault : Option IoError) (flushFails : Bool) : Sink :=
  fresh limit fault (if flushFails then fault else none)

def unlimited : Sink := fresh none none none

/-- A sink that reports an error on every byte. -/
def failing (fault : IoError) : Sink := fresh (some 0) (some fault) none

def bytes (s : Sink) : Bytes := s.taken.toList

/-- How many of `n` more bytes the sink takes. -/
def accepts (s : Sink) (n : Nat) : Nat :=
  match s.limit with
  | none => n
  | some limit => min n (limit - s.taken.size)

def push (s : Sink) (bs : Bytes) : Sink :=
  ⟨s.limit, s.fault, s.flushFault, s.taken ++ bs, s.flushes⟩

/-- Takes what there is room for.  When there is room for none of the bytes the answer is the
fault, or the number zero. -/
def offer (s : Sink) (bs : Bytes) : Sink × Except IoError Nat :=
  let n := s.accepts bs.length
  if n = 0 then
    match s.fault with
    | some fault => (s, .error fault)
    | none => (s, .ok 0)
  else (s.push (bs.take n), .ok n)

/-- Offers bytes until all of them are taken or the sink refuses. -/
def write (s : Sink) (bs : Bytes) : Sink × Option IoError :=
  match bs with
  | [] => (s, none)
  | b :: rest =>
    match s.offer (b :: rest) with
    | (s, .error fault) => (s, some fault)
    | (s, .ok 0) => (s, some .writeZero)
    | (s, .ok (n + 1)) => s.write (rest.drop n)
termination_by bs.length
decreasing_by simp only [List.length_drop, List.length_cons]; omega

/-- Counts a flush, whether or not it fails. -/
def flush (s : Sink) : Sink × Option IoError :=
  (⟨s.limit, s.fault, s.flushFault, s.taken, s.flushes + 1⟩, s.flushFault)

instance : Writer Sink := ⟨write, flush⟩

end Sink

end PacketLog
