/-
Reading a trace log from its beginning to its end.

A cursor stands before the bytes that are still to be read.  Reading a record moves it behind the
record, and a failure leaves it where it is.  Taking one item after the other ends at the end of
the bytes or after the first failure, as nothing tells where the next record would begin.

* `Cursor.read` reads a record, `Cursor.next` takes an item, and `Cursor.collect` takes all.
-/
import PacketLog.Record.Wire

namespace PacketLog

/-- The failure to read the record that begins at an offset. -/
structure ReadError where
  offset : Nat
  defect : Record.Defect
  deriving DecidableEq, Repr

def ReadError.message (e : ReadError) : String :=
  let place := " at offset " ++ Decimal.ofNat e.offset ++ ": "
  let short (need remaining : Nat) : String :=
    "need " ++ Decimal.ofNat need ++ " bytes, " ++ Decimal.ofNat remaining ++ " remaining"
  match e.defect with
  | .shortHeader remaining => "truncated header" ++ place ++ short Record.headerLength remaining
  | .openName => "unterminated filename" ++ place ++ "no NUL byte before end of stream"
  | .badName fault => "invalid text encoding in filename" ++ place ++ fault.message
  | .shortLine remaining => "truncated line number" ++ place ++ short Record.lineLength remaining

/-- A record and its place: it takes the bytes from `start` up to `stop`. -/
structure Entry where
  start : Nat
  record : Record
  stop : Nat
  deriving DecidableEq, Repr

/-- A place in a byte string, with the bytes from there on. -/
structure Cursor where
  offset : Nat
  rest : Bytes
  /-- Whether taking an item has failed. -/
  failed : Bool
  deriving DecidableEq, Repr

namespace Cursor

/-- The cursor before the byte at an offset.  Behind the end of the bytes none are left. -/
def ofOffset (bs : Bytes) (offset : Nat) : Cursor := ⟨offset, bs.drop offset, false⟩

def ofBytes (bs : Bytes) : Cursor := ⟨0, bs, false⟩

def remaining (c : Cursor) : Nat := c.rest.length

def isAtEnd (c : Cursor) : Bool := c.rest.isEmpty

/-- Reads the next record, whatever happened before. -/
def read (c : Cursor) : Except ReadError Entry × Cursor :=
  match Record.read c.rest with
  | .error defect => (.error ⟨c.offset, defect⟩, c)
  | .ok ⟨record, used, rest⟩ =>
    let stop := c.offset + used
    (.ok ⟨c.offset, record, stop⟩, ⟨stop, rest, c.failed⟩)

/-- Takes the next item, which is none at the end of the bytes and after a failure. -/
def next (c : Cursor) : Option (Except ReadError Entry) × Cursor :=
  if c.failed || c.isAtEnd then (none, c)
  else
    match c.read with
    | (.error e, c) => (some (.error e), ⟨c.offset, c.rest, true⟩)
    | (.ok entry, c) => (some (.ok entry), c)

/-- A bound on the number of items that are left. -/
def fuel (c : Cursor) : Nat := if c.failed then 0 else c.rest.length + 1

end Cursor

theorem Cursor.remaining_lt_of_read {c c' : Cursor} {entry : Entry}
    (h : c.read = (.ok entry, c')) : c'.remaining < c.remaining := by
  unfold Cursor.read at h
  split at h
  · exact absurd h (by simp)
  · rename_i hread
    obtain ⟨-, rfl⟩ := Prod.mk.inj h
    exact Record.length_lt_of_read hread

theorem Cursor.fuel_lt_of_next {c c' : Cursor} {item : Except ReadError Entry}
    (h : c.next = (some item, c')) : c'.fuel < c.fuel := by
  unfold Cursor.next at h
  split at h
  · exact absurd h (by simp)
  · rename_i hopen
    simp only [Bool.or_eq_true, not_or, Bool.not_eq_true] at hopen
    split at h
    · obtain ⟨-, rfl⟩ := Prod.mk.inj h
      simp [Cursor.fuel, hopen.1]
    · rename_i hread
      obtain ⟨-, rfl⟩ := Prod.mk.inj h
      have hlt := remaining_lt_of_read hread
      unfold Cursor.remaining at hlt
      rw [Cursor.fuel, Cursor.fuel, hopen.1]
      split
      · simp
      · simpa using hlt

namespace Cursor

def collect (c : Cursor) : List (Except ReadError Entry) × Cursor :=
  match _h : c.next with
  | (none, c') => ([], c')
  | (some item, c') => (item :: (collect c').1, (collect c').2)
termination_by c.fuel
decreasing_by all_goals exact fuel_lt_of_next _h

end Cursor

/-- The items of a byte string: the records that it begins with, and the failure that ends them
if they do not make up all of it. -/
def items (bs : Bytes) : List (Except ReadError Entry) := (Cursor.ofBytes bs).collect.1

end PacketLog
