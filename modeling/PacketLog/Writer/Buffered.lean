/-
A writer with a buffer before it.

Bytes are held back until a write does not fit behind them; then they are passed on, and a write
that is as long as the whole buffer goes straight to the target.
-/
import PacketLog.Writer

namespace PacketLog

/-- A writer with a buffer of `capacity` bytes before it. -/
structure Buffered (W : Type) where
  target : W
  capacity : Nat
  held : Array UInt8

namespace Buffered

variable {W : Type} [Writer W]

def ofWriter (target : W) (capacity : Nat) : Buffered W := ⟨target, capacity, #[]⟩

def room (b : Buffered W) : Nat := b.capacity - b.held.size

/-- Passes on what is held back.  Bytes that the target refuses are lost. -/
def drain (b : Buffered W) : Buffered W × Option IoError :=
  match Writer.write b.target b.held.toList with
  | (target, outcome) => (⟨target, b.capacity, #[]⟩, outcome)

/-- Holds bytes back, or passes them on if they fill the buffer by themselves. -/
def store (b : Buffered W) (bs : Bytes) : Buffered W × Option IoError :=
  if bs.length < b.capacity then (⟨b.target, b.capacity, b.held ++ bs⟩, none)
  else
    match Writer.write b.target bs with
    | (target, outcome) => (⟨target, b.capacity, b.held⟩, outcome)

/-- Writes into the buffer, draining it first when the bytes do not fit. -/
def write (b : Buffered W) (bs : Bytes) : Buffered W × Option IoError :=
  if bs.length ≤ b.room then b.store bs
  else
    match b.drain with
    | (b, none) => b.store bs
    | (b, some e) => (b, some e)

def flush (b : Buffered W) : Buffered W × Option IoError :=
  match b.drain with
  | (b, some e) => (b, some e)
  | (b, none) =>
    match Writer.flush b.target with
    | (target, outcome) => (⟨target, b.capacity, b.held⟩, outcome)

instance : Writer (Buffered W) := ⟨write, flush⟩

end Buffered

end PacketLog
