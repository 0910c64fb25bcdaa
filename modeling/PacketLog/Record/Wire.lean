/-
The layout of a record in a trace log.

A record is a header of 24 bytes, the name of a source file with a zero byte after it, and a line
number of 4 bytes, all numbers least significant byte first.  Records follow one another with
nothing between them, so that the end of one is only known once it is read.
-/
import PacketLog.Record.Basic
import PacketLog.Sink

namespace PacketLog.Record

def headerLength : Nat := 24

def lineLength : Nat := 4

/-- The length of the shortest record, one with an empty file name. -/
def minLength : Nat := headerLength + 1 + lineLength

def length (r : Record) : Nat :=
  headerLength + (Utf8.encode r.file).length + 1 + lineLength

def headerParts (r : Record) : List Bytes :=
  [.ofNat 8 r.traceId.toNat, .ofNat 8 r.timestamp.toNat, .ofNat 4 r.uid.toNat,
    [r.packetLength], [r.functionId], [r.sequenceByte], [r.errorByte]]

/-- The parts of a record in the order in which they are written. -/
def parts (r : Record) : List Bytes :=
  r.headerParts ++ [Utf8.encode r.file, [0], .ofNat lineLength r.line.toUInt32.toNat]

def wire (r : Record) : Bytes := r.parts.flatten

/-- A zero byte in the file name would end it too early. -/
def zeroByteInFile : IoError := ⟨.invalidInput, "source_file contains a NUL byte"⟩

/-- Whether a record can be told from its bytes: no zero byte is in its file name. -/
def isWritable (r : Record) : Bool := !(Utf8.encode r.file).contains 0

/-- Writes a record part by part.  One that is not writable is refused before the first part. -/
def write {W : Type} [Writer W] (r : Record) (w : W) : W × Option IoError :=
  if r.isWritable then Writer.writeEach w r.parts else (w, some zeroByteInFile)

/-- The bytes that writing a record puts into a sink that takes everything. -/
def encode (r : Record) : Except IoError Bytes :=
  match r.write Sink.unlimited with
  | (s, none) => .ok s.bytes
  | (_, some e) => .error e

/-- What keeps a byte string from beginning with a record. -/
inductive Defect where
  /-- Only so many bytes are left, too few for a header. -/
  | shortHeader (remaining : Nat)
  | openName
  | badName (fault : Utf8.Fault)
  /-- Only so many bytes are left after the file name, too few for a line number. -/
  | shortLine (remaining : Nat)
  deriving DecidableEq, Repr

/-- The record with a header, a file name and a line number. -/
def ofParts (header : Bytes) (file : String) (line : Bytes) : Record where
  traceId := UInt64.ofNat (Bytes.toNat (header.take 8))
  timestamp := UInt64.ofNat (Bytes.toNat ((header.drop 8).take 8))
  uid := UInt32.ofNat (Bytes.toNat ((header.drop 16).take 4))
  packetLength := header.getD 20 0
  functionId := header.getD 21 0
  sequenceByte := header.getD 22 0
  errorByte := header.getD 23 0
  file := file
  line := (UInt32.ofNat (Bytes.toNat line)).toInt32

structure Reading where
  record : Record
  /-- The number of bytes that the record took. -/
  used : Nat
  rest : Bytes
  deriving DecidableEq, Repr

def read (bs : Bytes) : Except Defect Reading :=
  if bs.length < headerLength then .error (.shortHeader bs.length)
  else
    let body := bs.drop headerLength
    let name := body.takeWhile (· != 0)
    match body.dropWhile (· != 0) with
    | [] => .error .openName
    | _ :: rest =>
      match Utf8.decode name with
      | .error fault => .error (.badName fault)
      | .ok file =>
        if rest.length < lineLength then .error (.shortLine rest.length)
        else
          .ok ⟨ofParts (bs.take headerLength) file (rest.take lineLength),
            headerLength + name.length + 1 + lineLength, rest.drop lineLength⟩

/-- Reading a record uses up bytes. -/
theorem length_lt_of_read {bs : Bytes} {x : Reading} (h : read bs = .ok x) :
    x.rest.length < bs.length := by
  unfold read at h
  split at h
  · exact absurd h (by simp)
  · rename_i hlen
    dsimp only at h
    split at h
    · exact absurd h (by simp)
    · rename_i z tail hdrop
      split at h
      · exact absurd h (by simp)
      · split at h
        · exact absurd h (by simp)
        · obtain rfl := Except.ok.inj h
          have htail : tail.length + 1 ≤ (bs.drop headerLength).length := by
            have := (List.dropWhile_suffix (l := bs.drop headerLength)
              (fun b : UInt8 => b != 0)).length_le
            rw [hdrop] at this
            simpa using this
          rw [List.length_drop] at htail ⊢
          have : lineLength = 4 := rfl
          have : headerLength = 24 := rfl
          omega

end PacketLog.Record
