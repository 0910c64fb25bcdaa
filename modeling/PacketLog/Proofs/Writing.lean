/-
What a sink takes of a record that is written to it.

A record goes out in many writes, of which the limit of a sink can cut any, or fall between two of
them.  Neither this nor the number of bytes that the sink takes at a time matters: what it takes is
as much of the encoding as there is room for.  A record that could not be read back is refused
before its first byte.

* `Record.write_of_nul` — a record with a NUL in its file name is refused at once;
* `Record.write_sink_of_noNul` — the parts of any other record are written as its wire form is;
* `Record.write_piecemeal` — however many bytes the sink takes at a time;
* `Record.write_eq_take_encode` — what a sink takes of the encoding, and how the writing ends.
-/
import PacketLog.Proofs.Cut
import PacketLog.Sink.Piecemeal

namespace PacketLog.Record

variable {r : Record}

/-- A record with a NUL in its file name is refused by every writer before it is given a byte. -/
theorem write_of_nul {W : Type} [Writer W] (h : '\x00' ∈ r.file.toList) (w : W) :
    r.write w = (w, some zeroByteInFile) := by
  have hnot : ¬ r.isWritable = true := fun hwritable => isWritable_iff_nul.mp hwritable h
  rw [write, if_neg hnot]

theorem write_of_noNul {W : Type} [Writer W] (h : '\x00' ∉ r.file.toList) (w : W) :
    r.write w = Writer.writeEach w r.parts := by
  rw [write, if_pos (isWritable_iff_nul.mpr h)]

/-- How many bytes a sink takes at a time does not matter. -/
theorem write_piecemeal (r : Record) (p : Piecemeal) :
    (r.write p).1.sink = (r.write p.sink).1 ∧ (r.write p).2 = (r.write p.sink).2 := by
  -- A record that is refused reaches neither of the two sinks.
  by_cases h : '\x00' ∈ r.file.toList
  · rw [write_of_nul h, write_of_nul h]
    exact ⟨rfl, rfl⟩
  · rw [write_of_noNul h, write_of_noNul h]
    exact p.writeEach_eq r.parts

/-- The ten parts of a record are written as its wire form is. -/
theorem write_sink_of_noNul (h : '\x00' ∉ r.file.toList) (s : Sink) :
    r.write s = s.write r.wire := by
  rw [write_of_noNul h, Sink.writeEach_eq]
  rfl

/-- **Writing a record to a sink.**  A record with a NUL in its file name is invalid input, for the
encoding as for any sink, which is left as it was.  Every other record has an encoding, of the
length that it should have; of this a sink takes all that it has room for, and the writing succeeds
exactly if that is everything, else it fails with the error of the sink.  Whether the sink takes its
bytes at once or a few at a time makes no difference. -/
theorem write_eq_take_encode (r : Record) (limit : Option Nat) (fault flushFault : Option IoError)
    (portions : Nat → Nat) :
    let start := Piecemeal.fresh (.fresh limit fault flushFault) portions
    let final := (r.write start).1
    let failure := (r.write start).2
    (final.sink = (r.write start.sink).1 ∧ failure = (r.write start.sink).2) ∧
    ('\x00' ∈ r.file.toList →
      r.encode = .error zeroByteInFile ∧ zeroByteInFile.kind = .invalidInput ∧
        failure = some zeroByteInFile ∧ final = start) ∧
    ('\x00' ∉ r.file.toList →
      ∃ bytes, r.encode = .ok bytes ∧ bytes.length = r.length ∧
        final.sink.bytes = bytes.take (min (limit.getD r.length) r.length) ∧
        (failure = none ↔ r.length ≤ limit.getD r.length) ∧
        (failure ≠ none → failure = some (fault.getD .writeZero))) := by
  intro start final failure
  have hsame : final.sink = (r.write start.sink).1 ∧ failure = (r.write start.sink).2 :=
    r.write_piecemeal start
  refine ⟨hsame, fun h => ?_, fun h => ?_⟩
  · have hwrite : r.write start = (start, some zeroByteInFile) := write_of_nul h start
    have hencode : r.encode = .error zeroByteInFile := by
      rw [encode, write_of_nul h]
    exact ⟨hencode, rfl, congrArg Prod.snd hwrite, congrArg Prod.fst hwrite⟩
  · -- The parts are taken as one byte string, so that the limit alone decides.
    have haccepts : start.sink.accepts r.length = min (limit.getD r.length) r.length := by
      rw [Nat.min_comm]
      exact Sink.accepts_fresh limit fault flushFault r.length
    rw [write_sink_of_noNul h, Sink.write_eq, length_wire, haccepts] at hsame
    obtain ⟨hsink, hfailure⟩ := hsame
    refine ⟨r.wire, encode_eq_ok_iff.mpr ⟨isWritable_iff_nul.mpr h, rfl⟩, length_wire r, ?_, ?_, ?_⟩
    · rw [hsink, Sink.bytes_push]
      rfl
    · rw [hfailure, ite_eq_left_iff, min_eq_right_iff]
      simp
    · rw [hfailure]
      intro hne
      rw [if_neg fun hall => hne (if_pos hall)]
      rfl

end PacketLog.Record
