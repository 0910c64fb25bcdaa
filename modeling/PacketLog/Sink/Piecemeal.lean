/-
A sink that takes its bytes piece by piece.

A sink that is offered bytes need not take all that it has room for.  This one looks at some of
them only, at least at the first, and is offered the others again; how many it looks at may be
different each time.  To those who write it makes no difference.

* `Piecemeal.write_eq` — a write leaves the sink as it would if it took all it has room for at once,
  and fails with the same error;
* `Piecemeal.writeEach_eq` — so do any number of writes.
-/
import Mathlib
import PacketLog.Sink.Taking

namespace PacketLog

/-- A sink that looks at some of the bytes that it is offered. -/
structure Piecemeal where
  sink : Sink
  /-- How many bytes it looks at besides the first, at each time that it is offered bytes. -/
  portions : Nat → Nat
  /-- The number of times that it was offered bytes. -/
  offers : Nat

namespace Piecemeal

def fresh (sink : Sink) (portions : Nat → Nat) : Piecemeal := ⟨sink, portions, 0⟩

/-- The piecemeal sink after one more offer that left its sink as given. -/
def next (p : Piecemeal) (sink : Sink) : Piecemeal := ⟨sink, p.portions, p.offers + 1⟩

def offer (p : Piecemeal) (bs : Bytes) : Piecemeal × Except IoError Nat :=
  match p.sink.offer (bs.take (p.portions p.offers + 1)) with
  | (sink, answer) => (p.next sink, answer)

/-- Offers bytes until all of them are taken or the sink refuses. -/
def write (p : Piecemeal) (bs : Bytes) : Piecemeal × Option IoError :=
  match bs with
  | [] => (p, none)
  | b :: rest =>
    match p.offer (b :: rest) with
    | (p, .error fault) => (p, some fault)
    | (p, .ok 0) => (p, some .writeZero)
    | (p, .ok (n + 1)) => p.write (rest.drop n)
termination_by bs.length
decreasing_by simp only [List.length_drop, List.length_cons]; omega

def flush (p : Piecemeal) : Piecemeal × Option IoError :=
  match p.sink.flush with
  | (sink, outcome) => (⟨sink, p.portions, p.offers⟩, outcome)

instance : Writer Piecemeal := ⟨write, flush⟩

end Piecemeal

/-! ### Nothing is lost between two offers -/

namespace Sink

variable {s : Sink} {bs : Bytes} {n : Nat}

theorem accepts_of_le (h : n ≤ s.accepts bs.length) : s.accepts n = n := by
  unfold accepts at *
  cases hl : s.limit with
  | none => rfl
  | some limit =>
    rw [hl] at h
    dsimp only at h ⊢
    omega

/-- A write may go on behind any bytes that were taken of it. -/
theorem write_push_take (h : n ≤ s.accepts bs.length) :
    (s.push (bs.take n)).write (bs.drop n) = s.write bs := by
  have hlen : (bs.take n).length = n := by
    rw [List.length_take]
    exact Nat.min_eq_left (h.trans (s.accepts_le _))
  have htake : s.write (bs.take n) = (s.push (bs.take n), none) := by
    rw [write_eq, hlen, accepts_of_le h, if_pos rfl, List.take_take, Nat.min_self]
  conv_rhs => rw [← List.take_append_drop n bs, write_append, htake]

/-- There is room for some of the first bytes if there is room for some of them all. -/
theorem accepts_take_eq_zero {k : Nat} :
    s.accepts (bs.take (k + 1)).length = 0 ↔ s.accepts bs.length = 0 := by
  unfold accepts
  cases s.limit with
  | none =>
    dsimp only
    rw [List.length_take]
    omega
  | some limit =>
    dsimp only
    rw [List.length_take]
    omega

theorem accepts_take_le {k : Nat} : s.accepts (bs.take k).length ≤ s.accepts bs.length := by
  unfold accepts
  cases s.limit with
  | none => exact List.length_take_le' ..
  | some limit =>
    dsimp only
    rw [List.length_take]
    omega

end Sink

namespace Piecemeal

/-- Writing to the sink in pieces and writing to it at once are the same. -/
theorem write_eq (p : Piecemeal) (bs : Bytes) :
    (p.write bs).1.sink = (p.sink.write bs).1 ∧ (p.write bs).2 = (p.sink.write bs).2 := by
  -- The induction is on the bytes that are left, for what is offered again is less.
  induction hn : bs.length using Nat.strongRecOn generalizing p bs with
  | _ n ih =>
    cases bs with
    | nil =>
      rw [write, Sink.write_nil]
      exact ⟨rfl, rfl⟩
    | cons b rest =>
      set portion := (b :: rest).take (p.portions p.offers + 1) with hportion
      by_cases hzero : p.sink.accepts portion.length = 0
      · have hall := Sink.accepts_take_eq_zero.mp hzero
        rw [write, offer, ← hportion, Sink.offer_of_accepts_eq_zero hzero,
          Sink.write_of_accepts_eq_zero (by simp) hall, Sink.refusal]
        cases p.sink.fault with
        | none => exact ⟨rfl, rfl⟩
        | some fault => exact ⟨rfl, rfl⟩
      · obtain ⟨m, hm⟩ := Nat.exists_eq_add_one_of_ne_zero hzero
        have hle : m + 1 ≤ portion.length := by
          rw [← hm]
          exact p.sink.accepts_le _
        have htaken : portion.take (m + 1) = (b :: rest).take (m + 1) := by
          rw [hportion, List.take_take, Nat.min_eq_left]
          exact hle.trans (List.length_take_le _ _)
        have hless : (rest.drop m).length < n := by
          rw [← hn, List.length_drop, List.length_cons]
          omega
        have hgo := ih _ hless (p.next (p.sink.push ((b :: rest).take (m + 1)))) (rest.drop m) rfl
        rw [write, offer, ← hportion, Sink.offer_of_accepts_ne_zero hzero, hm, htaken,
          ← Sink.write_push_take (hm ▸ Sink.accepts_take_le)]
        exact hgo

theorem writeEach_eq (p : Piecemeal) (pieces : List Bytes) :
    (Writer.writeEach p pieces).1.sink = (Writer.writeEach p.sink pieces).1 ∧
      (Writer.writeEach p pieces).2 = (Writer.writeEach p.sink pieces).2 := by
  induction pieces generalizing p with
  | nil => exact ⟨rfl, rfl⟩
  | cons piece pieces ih =>
    obtain ⟨hsink, herror⟩ := p.write_eq piece
    rw [Writer.writeEach, Writer.writeEach, show Writer.write p piece = p.write piece from rfl,
      show Writer.write p.sink piece = p.sink.write piece from rfl]
    cases hp : p.write piece with
    | mk p' outcome =>
      cases hs : p.sink.write piece with
      | mk s' outcome' =>
        rw [hp, hs] at hsink herror
        dsimp only at hsink herror
        subst hsink herror
        cases outcome with
        | none => exact ih p'
        | some e => exact ⟨rfl, rfl⟩

end Piecemeal

end PacketLog
