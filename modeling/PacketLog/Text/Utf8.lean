/-
UTF-8.

`Utf8.encode` writes a text.  Reading cuts a byte string into segments: characters, maximal
ill-formed pieces, and the beginning of a character that the end of the bytes cuts off.  The
strict reader `Utf8.decode` reports the first segment that is no character, and the lenient
reader `Utf8.lossy` puts the replacement character in the place of each.
-/
import PacketLog.Bytes
import PacketLog.Numeral.Decimal

namespace PacketLog.Utf8

/-- The encoding of one character, in one to four bytes. -/
def encodeChar (c : Char) : Bytes :=
  let n := c.toNat
  let more (k : Nat) : UInt8 := UInt8.ofNat (0x80 + k % 64)
  if n < 0x80 then [UInt8.ofNat n]
  else if n < 0x800 then [UInt8.ofNat (0xC0 + n / 64), more n]
  else if n < 0x10000 then [UInt8.ofNat (0xE0 + n / 4096), more (n / 64), more n]
  else [UInt8.ofNat (0xF0 + n / 262144), more (n / 4096), more (n / 64), more n]

def encode (s : String) : Bytes :=
  s.toList.flatMap encodeChar

/-- What a lead byte says of its character: the bits that it holds itself, how many bytes follow,
and the bounds of the first of those.  The bounds shut out encodings that are longer than they
need be, surrogates, and values above U+10FFFF. -/
structure Lead where
  bits : Nat
  more : Nat
  low : Nat
  high : Nat

/-- The reading of a byte as the lead byte of a character of two or more bytes. -/
def Lead.ofByte? (b : Nat) : Option Lead :=
  if b < 0xC2 then none
  else if b < 0xE0 then some ⟨b - 0xC0, 1, 0x80, 0xBF⟩
  else if b < 0xF0 then
    some ⟨b - 0xE0, 2, if b = 0xE0 then 0xA0 else 0x80, if b = 0xED then 0x9F else 0xBF⟩
  else if b < 0xF5 then
    some ⟨b - 0xF0, 3, if b = 0xF0 then 0x90 else 0x80, if b = 0xF4 then 0x8F else 0xBF⟩
  else none

/-- A piece of a byte string that is read as text. -/
inductive Segment where
  | char (c : Char)
  /-- A maximal ill-formed piece: no character begins with these bytes and the next one. -/
  | stray (bytes : Bytes)
  /-- The beginning of a character whose other bytes are missing at the end. -/
  | cut (bytes : Bytes)
  deriving DecidableEq, Repr

def Segment.bytes : Segment → Bytes
  | .char c => encodeChar c
  | .stray bytes => bytes
  | .cut bytes => bytes

/-- Reads the `more` bytes that continue a character, the first of them between `low` and `high`.
The bytes in `seen` are read already and hold `bits`. -/
def follow (bits : Nat) (seen : Bytes) : (more low high : Nat) → Bytes → Segment × Bytes
  | 0, _, _, rest => (.char (Char.ofNat bits), rest)
  | _ + 1, _, _, [] => (.cut seen, [])
  | more + 1, low, high, b :: rest =>
    if low ≤ b.toNat ∧ b.toNat ≤ high then
      follow (bits * 64 + (b.toNat - 0x80)) (seen ++ [b]) more 0x80 0xBF rest
    else (.stray seen, b :: rest)

/-- The first segment of the bytes `b :: rest`, with the bytes after it. -/
def first (b : UInt8) (rest : Bytes) : Segment × Bytes :=
  if b.toNat < 0x80 then (.char (Char.ofNat b.toNat), rest)
  else match Lead.ofByte? b.toNat with
    | some lead => follow lead.bits [b] lead.more lead.low lead.high rest
    | none => (.stray [b], rest)

theorem follow_length_le (bits : Nat) (seen : Bytes) (more low high : Nat) (rest : Bytes) :
    (follow bits seen more low high rest).2.length ≤ rest.length := by
  induction more generalizing bits seen low high rest with
  | zero => simp [follow]
  | succ more ih =>
    cases rest with
    | nil => simp [follow]
    | cons b rest =>
      rw [follow]
      split
      · exact Nat.le_succ_of_le (ih _ _ _ _ _)
      · exact Nat.le_refl _

theorem first_length_le (b : UInt8) (rest : Bytes) : (first b rest).2.length ≤ rest.length := by
  rw [first]
  split
  · exact Nat.le_refl _
  · split
    · exact follow_length_le _ _ _ _ _ _
    · exact Nat.le_refl _

def segments : Bytes → List Segment
  | [] => []
  | b :: rest => (first b rest).1 :: segments (first b rest).2
termination_by bytes => bytes.length
decreasing_by exact Nat.lt_succ_of_le (first_length_le b rest)

/-- Why a byte string is not the encoding of a text. -/
inductive Fault where
  /-- From `start` on, `length` bytes begin no character together with the byte after them. -/
  | invalid (length start : Nat)
  /-- The bytes end inside the character that begins at `start`. -/
  | incomplete (start : Nat)
  deriving DecidableEq, Repr

def Fault.message : Fault → String
  | .invalid length start =>
    "invalid utf-8 sequence of " ++ Decimal.ofNat length ++ " bytes from index " ++
      Decimal.ofNat start
  | .incomplete start => "incomplete utf-8 byte sequence from index " ++ Decimal.ofNat start

/-- The characters of a list of segments that starts at byte `start`, if they all are. -/
def characters (start : Nat) : List Segment → Except Fault (List Char)
  | [] => .ok []
  | .char c :: rest => (characters (start + (encodeChar c).length) rest).map (c :: ·)
  | .stray bytes :: _ => .error (.invalid bytes.length start)
  | .cut _ :: _ => .error (.incomplete start)

def decode (bytes : Bytes) : Except Fault String :=
  (characters 0 (segments bytes)).map String.ofList

/-- A byte string as text, the replacement character standing for what is no character. -/
def lossy (bytes : Bytes) : String :=
  String.ofList ((segments bytes).map fun
    | .char c => c
    | _ => Char.ofNat 0xFFFD)

end PacketLog.Utf8
