/-
A buffer before a writer changes nothing about what the writer takes in the end.

A buffer holds bytes back, so that an error of the writer behind it shows later than it would
without the buffer.  But the writer is given the same bytes in the same order, and when the buffer
is flushed at the end any error has shown.

* `LawfulWriter` — a writer that does not mind how bytes are cut into pieces, such as a sink;
* `Buffered.Passed` — what a write keeps: held back or not, the bytes reach the writer in order;
* `Buffered.passed_write`, `Buffered.passed_writeEach` — one write and any number of writes keep it;
* `Buffered.deliver_eq` — what is written and flushed reaches the writer as if there were no buffer;
* `Transcript.outcome_buffered` — so a log is shown through a buffer as it is without one.
-/
import PacketLog.Proofs.Showing
import PacketLog.Writer.Buffered

namespace PacketLog

/-- A writer that does not mind how bytes are cut into pieces. -/
class LawfulWriter (W : Type) [Writer W] : Prop where
  write_nil : ∀ w : W, Writer.write w [] = (w, none)
  write_append : ∀ (w : W) (as bs : Bytes),
    Writer.write w (as ++ bs) =
      match Writer.write w as with
      | (w, none) => Writer.write w bs
      | (w, some e) => (w, some e)

instance : LawfulWriter Sink where
  write_nil := Sink.write_nil
  write_append s as bs := by
    have happend : Writer.write s (as ++ bs) = _ := s.write_append as bs
    rw [happend, show Writer.write s as = s.write as from rfl]
    rcases s.write as with ⟨t, _ | e⟩
    · rfl
    · rfl

namespace Writer

variable {W : Type} [Writer W]

/-- Writes byte strings one after the other and flushes, up to the first failure. -/
def deliver (w : W) (pieces : List Bytes) : W × Option IoError :=
  match writeEach w pieces with
  | (w, none) => flush w
  | (w, some e) => (w, some e)

theorem writeEach_eq_write [LawfulWriter W] (w : W) (pieces : List Bytes) :
    writeEach w pieces = write w pieces.flatten := by
  induction pieces generalizing w with
  | nil => exact (LawfulWriter.write_nil w).symm
  | cons piece pieces ih =>
    rw [writeEach, List.flatten_cons, LawfulWriter.write_append]
    rcases write w piece with ⟨w', _ | e⟩
    · exact ih w'
    · rfl

theorem deliver_congr [LawfulWriter W] (w : W) {pieces pieces' : List Bytes}
    (h : pieces.flatten = pieces'.flatten) : deliver w pieces = deliver w pieces' := by
  rw [deliver, deliver, writeEach_eq_write, writeEach_eq_write, h]

end Writer

/-- Delivering bytes to a sink: it takes all of them and is flushed, or it refuses. -/
theorem Sink.deliver_eq (s : Sink) (pieces : List Bytes) :
    Writer.deliver s pieces =
      if s.accepts pieces.flatten.length = pieces.flatten.length then
        ((s.push pieces.flatten).flush.1, s.flushFault)
      else (s.push (pieces.flatten.take (s.accepts pieces.flatten.length)), some s.refusal) := by
  rw [Writer.deliver, writeEach_eq, write_eq]
  by_cases hall : s.accepts pieces.flatten.length = pieces.flatten.length
  · rw [if_pos hall, if_pos hall, hall, List.take_length]
    rfl
  · rw [if_neg hall, if_neg hall]

namespace Buffered

variable {W : Type} [Writer W]

/-- What the writer behind a buffer does with the bytes held back and some more. -/
def pass (b : Buffered W) (more : Bytes) : W × Option IoError :=
  Writer.write b.target (b.held.toList ++ more)

/-- What becomes of bytes that are written into a buffer.  If nothing fails, they come behind those
held back and before any more; if something fails, it would have failed without the buffer, whatever
comes later, and with the same bytes taken. -/
def Passed (b : Buffered W) (bs : Bytes) : Buffered W × Option IoError → Prop
  | (b', none) => ∀ more, b'.pass more = b.pass (bs ++ more)
  | (b', some e) => ∀ more, b.pass (bs ++ more) = (b'.target, some e)

theorem flush_eq (b : Buffered W) :
    b.flush =
      match b.pass [] with
      | (w, none) => (⟨(Writer.flush w).1, b.capacity, #[]⟩, (Writer.flush w).2)
      | (w, some e) => (⟨w, b.capacity, #[]⟩, some e) := by
  rw [flush, drain, pass, List.append_nil]
  rcases Writer.write b.target b.held.toList with ⟨w, _ | e⟩
  · rfl
  · rfl

variable [LawfulWriter W] {b : Buffered W} {bs : Bytes}

theorem store_nil (b : Buffered W) : b.store [] = (b, none) := by
  have hheld : b.held ++ ([] : Bytes) = b.held := Array.toList_inj.mp (by simp)
  rw [store, LawfulWriter.write_nil, hheld]
  exact ite_self _

/-- Storing is safe when the bytes do not overtake any that are held back. -/
theorem passed_store (h : b.held = #[] ∨ bs.length < b.capacity) : b.Passed bs (b.store bs) := by
  by_cases hshort : bs.length < b.capacity
  · rw [store, if_pos hshort]
    intro more
    show Writer.write b.target ((b.held ++ bs).toList ++ more) = _
    rw [Array.toList_appendList, List.append_assoc]
    rfl
  · -- The bytes go straight to the writer, with nothing held back before them.
    have hheld : b.held = #[] := h.resolve_right hshort
    have hpass (more : Bytes) : b.pass (bs ++ more) = _ :=
      (congrArg (fun held : Array UInt8 => Writer.write b.target (held.toList ++ (bs ++ more)))
        hheld).trans (LawfulWriter.write_append b.target bs more)
    rw [store, if_neg hshort]
    rcases hwrite : Writer.write b.target bs with ⟨w, _ | e⟩
    · intro more
      rw [hpass, hwrite, pass, hheld]
      rfl
    · intro more
      rw [hpass, hwrite]

/-- **What is written into a buffer reaches the writer behind it**, now or later, in order. -/
theorem passed_write (b : Buffered W) (bs : Bytes) : b.Passed bs (b.write bs) := by
  rw [write]
  by_cases hfits : bs.length ≤ b.room
  · rw [if_pos hfits]
    rw [room] at hfits
    by_cases hempty : bs = []
    · subst hempty
      rw [store_nil]
      intro more
      rfl
    · -- Bytes that fit and fill the whole buffer find it empty.
      have hpos := List.length_pos_of_ne_nil hempty
      refine passed_store ?_
      by_cases hsize : b.held.size = 0
      · exact .inl (Array.eq_empty_of_size_eq_zero hsize)
      · exact .inr (by omega)
  · rw [if_neg hfits, drain]
    have hpass (more : Bytes) : b.pass (bs ++ more) = _ :=
      LawfulWriter.write_append b.target b.held.toList (bs ++ more)
    rcases hwrite : Writer.write b.target b.held.toList with ⟨w, _ | e⟩
    · -- Once the buffer is drained, it stands as an empty one before the writer as it is then.
      have hstore : Passed ⟨w, b.capacity, #[]⟩ bs (store ⟨w, b.capacity, #[]⟩ bs) :=
        passed_store (.inl rfl)
      have hdrained (more : Bytes) :
          pass ⟨w, b.capacity, #[]⟩ (bs ++ more) = b.pass (bs ++ more) := by
        rw [hpass, hwrite]
        rfl
      dsimp only
      rcases hb' : store ⟨w, b.capacity, #[]⟩ bs with ⟨b', _ | e⟩
      · rw [hb'] at hstore
        intro more
        rw [← hdrained]
        exact hstore more
      · rw [hb'] at hstore
        intro more
        rw [← hdrained]
        exact hstore more
    · intro more
      rw [hpass, hwrite]

theorem passed_writeEach (b : Buffered W) (pieces : List Bytes) :
    b.Passed pieces.flatten (Writer.writeEach b pieces) := by
  -- Every piece leaves another buffer to those behind it.
  induction pieces generalizing b with
  | nil =>
    intro more
    rfl
  | cons piece pieces ih =>
    have hpiece : b.Passed piece (Writer.write b piece) := b.passed_write piece
    rw [Writer.writeEach, List.flatten_cons]
    rcases hb' : Writer.write b piece with ⟨b', _ | e⟩
    · rw [hb'] at hpiece
      have hpieces := ih b'
      dsimp only
      rcases hb'' : Writer.writeEach b' pieces with ⟨b'', _ | e⟩
      · rw [hb''] at hpieces
        intro more
        rw [List.append_assoc, hpieces more]
        exact hpiece _
      · rw [hb''] at hpieces
        intro more
        rw [List.append_assoc, ← hpieces more]
        exact (hpiece _).symm
    · rw [hb'] at hpiece
      intro more
      rw [List.append_assoc]
      exact hpiece _

/-- **What is written into a buffer and flushed reaches the writer as if there were no buffer**,
with the same error if there is one.  Nothing is left in the buffer, unless a write failed. -/
theorem deliver_eq (b : Buffered W) (pieces : List Bytes) :
    Prod.map target id (Writer.deliver b pieces) =
        Writer.deliver b.target (b.held.toList :: pieces) ∧
      ((Writer.deliver b pieces).2 = none → (Writer.deliver b pieces).1.held = #[]) := by
  have hpassed := b.passed_writeEach pieces
  have htarget : Writer.deliver b.target (b.held.toList :: pieces) =
      match b.pass (pieces.flatten ++ []) with
      | (w, none) => Writer.flush w
      | (w, some e) => (w, some e) := by
    rw [Writer.deliver, Writer.writeEach_eq_write, List.append_nil]
    rfl
  rw [htarget, Writer.deliver]
  -- If all pieces are passed the flush hands on what is held back; else the error has come through.
  rcases hb' : Writer.writeEach b pieces with ⟨b', _ | e⟩
  · rw [hb'] at hpassed
    have hpass : b'.pass [] = b.pass (pieces.flatten ++ []) := hpassed []
    have hflush : Writer.flush b' = _ := b'.flush_eq
    rw [← hpass]
    dsimp only
    rw [hflush]
    rcases b'.pass [] with ⟨w, _ | e⟩
    · exact ⟨rfl, fun _ => rfl⟩
    · exact ⟨rfl, fun _ => rfl⟩
  · rw [hb'] at hpassed
    have hpass : b.pass (pieces.flatten ++ []) = (b'.target, some e) := hpassed []
    rw [hpass]
    exact ⟨rfl, fun h => absurd h (by simp)⟩

end Buffered

namespace Transcript

variable {W : Type} [Writer W]

/-- Showing a log is delivering its lines and then telling how the log ends. -/
theorem outcome_eq_deliver (style : Style) (w : W) (bs : Bytes) :
    (ofBytes style w bs).outcome =
      match Writer.deliver w (pieces (lines style none (records bs))) with
      | (w, none) => (w, verdict bs)
      | (w, some e) => (w, .error (.output e)) := by
  rw [outcome_ofBytes, Writer.deliver]
  rcases Writer.writeEach w (pieces (lines style none (records bs))) with ⟨w', _ | e⟩
  · dsimp only
    rcases Writer.flush w' with ⟨w'', _ | e⟩
    · rfl
    · rfl
  · rfl

/-- **A log is shown through an empty buffer as it is without one**: the writer ends up in the same
state and the result is the same.  If it is the statistics, nothing is left in the buffer. -/
theorem outcome_buffered [LawfulWriter W] (style : Style) {b : Buffered W} (hb : b.held = #[])
    (bs : Bytes) :
    Prod.map Buffered.target id (ofBytes style b bs).outcome =
        (ofBytes style b.target bs).outcome ∧
      ∀ tally, (ofBytes style b bs).result = .ok tally →
        (ofBytes style b bs).writer.held = #[] := by
  obtain ⟨htarget, hheld⟩ := b.deliver_eq (pieces (lines style none (records bs)))
  have hempty : Writer.deliver b.target (b.held.toList :: pieces (lines style none (records bs))) =
      Writer.deliver b.target (pieces (lines style none (records bs))) := by
    refine Writer.deliver_congr b.target ?_
    rw [hb]
    rfl
  have hout : (ofBytes style b bs).outcome = _ := outcome_eq_deliver style b bs
  rw [hempty] at htarget
  rw [outcome_eq_deliver style b.target, ← htarget, hout]
  rcases hdeliver : Writer.deliver b (pieces (lines style none (records bs))) with ⟨b', _ | e⟩
  · rw [hdeliver] at hheld hout
    have hwriter : (ofBytes style b bs).writer = b' := congrArg Prod.fst hout
    exact ⟨rfl, fun tally _ => hwriter ▸ hheld rfl⟩
  · rw [hdeliver] at hout
    have hresult : (ofBytes style b bs).result = .error (.output e) := congrArg Prod.snd hout
    refine ⟨rfl, fun tally hok => ?_⟩
    rw [hresult] at hok
    exact absurd hok (by simp)

end Transcript

end PacketLog
