/-
A cursor under calls of both of its methods, in any order.

`Cursor.read` and `Cursor.next` share the place in the bytes, but only `next` sets and heeds the
mark of a failure, and only `next` looks whether the end is reached.  All the same a run of calls,
however mixed, hands out the records of the byte string one after the other.

* `Between` is what every run keeps: the cursor stands between two records of the cut;
* `Between.call_ahead`, `Between.read_done`, `Between.next_done` — what one call does;
* `Between.run`, `Between.pairwise_run` — what a whole run does;
* `Cursor.run_ofBytes` — all of it for the cursor before a byte string.
-/
import PacketLog.Proofs.Cut

namespace PacketLog

/-- The two ways to move a cursor on. -/
inductive Call where
  | read
  | next
  deriving DecidableEq, Repr

/-- The answer to a call: a record, a failure or, from `next` alone, nothing. -/
abbrev Reply := Option (Except ReadError Record)

namespace Cursor

def call (c : Cursor) : Call → Reply × Cursor
  | .read => (some (c.read.1.map Entry.record), c.read.2)
  | .next => (c.next.1.map fun item => item.map Entry.record, c.next.2)

/-- Makes one call after the other, and keeps each with its answer. -/
def run (c : Cursor) : List Call → List (Call × Reply) × Cursor
  | [] => ([], c)
  | k :: ks => ((k, (c.call k).1) :: ((c.call k).2.run ks).1, ((c.call k).2.run ks).2)

theorem run_cons {c c' : Cursor} {k : Call} {reply : Reply} (h : c.call k = (reply, c'))
    (ks : List Call) : c.run (k :: ks) = ((k, reply) :: (c'.run ks).1, (c'.run ks).2) := by
  rw [run, h]

end Cursor

/-- The records among the answers of a run. -/
def returned (steps : List (Call × Reply)) : List Record :=
  steps.filterMap fun
    | (_, some (.ok r)) => some r
    | _ => none

/-- The failures that `next` reported in a run. -/
def nextErrors (steps : List (Call × Reply)) : List ReadError :=
  steps.filterMap fun
    | (.next, some (.error e)) => some e
    | _ => none

/-- A call of `next` that gave no record. -/
def EndsIteration : Call × Reply → Prop
  | (.next, some (.ok _)) => False
  | (.next, _) => True
  | (.read, _) => False

/-- A call of `next` that gave nothing, or a call of `read` that failed. -/
def Barren : Call × Reply → Prop
  | (.next, reply) => reply = none
  | (.read, reply) => ∃ e, reply = some (.error e)

/-- The cursor stands behind the records `past` and before the records `ahead`, behind which is
`rest`.  The mark of a failure is not set before all records are behind it. -/
structure Between (past ahead : List Record) (rest : Bytes) (c : Cursor) : Prop where
  offset : c.offset = (Record.wires past).length
  rest : c.rest = Record.wires ahead ++ rest
  unfailed : ahead ≠ [] → c.failed = false

namespace Between

variable {bs rest : Bytes} {past ahead : List Record} {r : Record} {defect : Record.Defect}
  {c : Cursor}

theorem ofBytes {rs : List Record} (hcut : IsCut bs rs rest defect) :
    Between [] rs rest (.ofBytes bs) :=
  ⟨rfl, hcut.eq, fun _ => rfl⟩

/-! ### One call -/

/-- With a record ahead, both calls hand it out and pass over it. -/
theorem call_ahead (hr : r.isWritable = true) (h : Between past (r :: ahead) rest c) (k : Call) :
    ∃ c', c.call k = (some (.ok r), c') ∧ Between (past ++ [r]) ahead rest c' := by
  obtain ⟨offset, rest', failed⟩ := c
  obtain ⟨rfl, hrest, hfailed⟩ := h
  obtain rfl : failed = false := hfailed (by simp)
  obtain rfl : rest' = r.wire ++ (Record.wires ahead ++ rest) := by
    rw [← List.append_assoc]
    exact hrest
  -- As the mark is not set and bytes are left, `next` does what `read` does.
  refine ⟨⟨(Record.wires past).length + r.length, Record.wires ahead ++ rest, false⟩, ?_, ?_⟩
  · cases k with
    | read => rw [Cursor.call, Cursor.read_wire hr]; rfl
    | next => rw [Cursor.call, Cursor.next_wire hr]; rfl
  · refine ⟨?_, rfl, fun _ => rfl⟩
    simp [Record.length_wire]

/-- With no record ahead `read` fails and changes nothing, however often it is called. -/
theorem read_done (hcut : IsCut bs past rest defect) (h : Between past [] rest c) :
    c.call .read = (some (.error ⟨(Record.wires past).length, defect⟩), c) := by
  have hstuck : Record.read c.rest = .error defect := by
    rw [h.rest]
    exact hcut.stuck
  rw [Cursor.call, Cursor.read_of_error hstuck, h.offset]
  rfl

/-- With no record ahead `next` fails once, and only if there is a rest. -/
theorem next_done (hcut : IsCut bs past rest defect) (h : Between past [] rest c) :
    c.call .next =
      if c.failed = true ∨ rest = [] then (none, c)
      else (some (.error ⟨(Record.wires past).length, defect⟩), ⟨c.offset, c.rest, true⟩) := by
  have hrest : c.rest = rest := h.rest
  by_cases hover : c.failed = true ∨ rest = []
  · rw [if_pos hover, Cursor.call, Cursor.next_of_over (by rwa [hrest])]
    rfl
  · rw [if_neg hover]
    rw [not_or, Bool.not_eq_true] at hover
    have hstuck : Record.read c.rest = .error defect := by
      rw [hrest]
      exact hcut.stuck
    rw [Cursor.call, Cursor.next_of_error hover.1 (by rw [hrest]; exact hover.2) hstuck, h.offset]
    rfl

/-- All that a call can do.  With a record ahead it is handed out; else `read` fails, and `next`
gives nothing or, with a rest and no mark of a failure yet, sets the mark and fails. -/
theorem call_cases (hcut : IsCut bs (past ++ ahead) rest defect) (h : Between past ahead rest c)
    (k : Call) :
    (∃ r ahead' c', ahead = r :: ahead' ∧ c.call k = (some (.ok r), c') ∧
      Between (past ++ [r]) ahead' rest c') ∨
    (ahead = [] ∧ k = .read ∧
      c.call k = (some (.error ⟨(Record.wires past).length, defect⟩), c)) ∨
    (ahead = [] ∧ k = .next ∧ (c.failed = true ∨ rest = []) ∧ c.call k = (none, c)) ∨
    (ahead = [] ∧ k = .next ∧ rest ≠ [] ∧
      c.call k =
        (some (.error ⟨(Record.wires past).length, defect⟩), ⟨c.offset, c.rest, true⟩)) := by
  rcases ahead with _ | ⟨r, ahead⟩
  · rw [List.append_nil] at hcut
    cases k with
    | read => exact .inr (.inl ⟨rfl, rfl, h.read_done hcut⟩)
    | next =>
      have hnext := h.next_done hcut
      split at hnext
      · rename_i hover
        exact .inr (.inr (.inl ⟨rfl, rfl, hover, hnext⟩))
      · rename_i hopen
        exact .inr (.inr (.inr ⟨rfl, rfl, fun hrest => hopen (.inr hrest), hnext⟩))
  · obtain ⟨c', hcall, h'⟩ := h.call_ahead (hcut.writable r (by simp)) k
    exact .inl ⟨r, ahead, c', rfl, hcall, h'⟩

/-- A call passes over those records that it hands out: one, or none. -/
theorem call (hcut : IsCut bs (past ++ ahead) rest defect) (h : Between past ahead rest c)
    (k : Call) :
    ∃ passed ahead', ahead = passed ++ ahead' ∧ returned [(k, (c.call k).1)] = passed ∧
      Between (past ++ passed) ahead' rest (c.call k).2 := by
  rcases h.call_cases hcut k with ⟨r, ahead', c', rfl, hcall, h'⟩ | ⟨rfl, rfl, hcall⟩ |
    ⟨rfl, rfl, -, hcall⟩ | ⟨rfl, rfl, -, hcall⟩
  · rw [hcall]
    exact ⟨[r], ahead', rfl, rfl, h'⟩
  -- The other cases hand out nothing and stay at the same place.
  · rw [hcall]
    exact ⟨[], [], rfl, rfl, by rwa [List.append_nil]⟩
  · rw [hcall]
    exact ⟨[], [], rfl, rfl, by rwa [List.append_nil]⟩
  · rw [hcall]
    refine ⟨[], [], rfl, rfl, ?_, h.rest, fun hne => absurd rfl hne⟩
    rw [List.append_nil]
    exact h.offset

theorem place_of_error (hcut : IsCut bs (past ++ ahead) rest defect)
    (h : Between past ahead rest c) {k : Call} {e : ReadError}
    (hcall : (c.call k).1 = some (.error e)) :
    (c.call k).2.offset = c.offset ∧ (c.call k).2.remaining = c.remaining := by
  rcases h.call_cases hcut k with ⟨r, _, c', _, hk, _⟩ | ⟨_, _, hk⟩ | ⟨_, _, _, hk⟩ | ⟨_, _, _, hk⟩
  · rw [hk] at hcall
    exact absurd hcall (by simp)
  all_goals rw [hk]; exact ⟨rfl, rfl⟩

/-- What `next` reports as a failure is the one that ends the items of the byte string. -/
theorem failure?_of_call (hcut : IsCut bs (past ++ ahead) rest defect)
    (h : Between past ahead rest c) {e : ReadError} (hcall : (c.call .next).1 = some (.error e)) :
    failure? bs = some e := by
  rcases h.call_cases hcut .next with ⟨r, _, c', _, hk, _⟩ | ⟨_, hread, _⟩ | ⟨_, _, _, hk⟩ |
    ⟨rfl, _, hrest, hk⟩
  · rw [hk] at hcall
    exact absurd hcall (by simp)
  · exact absurd hread (by simp)
  · rw [hk] at hcall
    exact absurd hcall (by simp)
  · rw [hk] at hcall
    rw [List.append_nil] at hcut
    rw [hcut.failure?_eq, if_neg hrest]
    simpa using hcall

/-- A call of `next` that gives no record leaves all records behind and iteration over. -/
theorem over_of_endsIteration (hcut : IsCut bs (past ++ ahead) rest defect)
    (h : Between past ahead rest c) {k : Call} (hends : EndsIteration (k, (c.call k).1)) :
    ahead = [] ∧ Between past [] rest (c.call k).2 ∧
      ((c.call k).2.failed = true ∨ rest = []) := by
  rcases h.call_cases hcut k with ⟨r, _, c', _, hk, _⟩ | ⟨_, rfl, _⟩ | ⟨rfl, _, hover, hk⟩ |
    ⟨rfl, _, _, hk⟩
  · rw [hk] at hends
    cases k <;> exact absurd hends id
  · exact absurd hends id
  · rw [hk]
    exact ⟨rfl, h, hover⟩
  · rw [hk]
    exact ⟨rfl, ⟨h.offset, h.rest, fun hne => absurd rfl hne⟩, .inl rfl⟩

/-! ### A run of calls -/

/-- A run passes over those records that it hands out. -/
theorem run (hcut : IsCut bs (past ++ ahead) rest defect) (h : Between past ahead rest c)
    (ks : List Call) :
    ∃ passed ahead', ahead = passed ++ ahead' ∧ returned (c.run ks).1 = passed ∧
      Between (past ++ passed) ahead' rest (c.run ks).2 := by
  induction ks generalizing past ahead c with
  | nil => exact ⟨[], ahead, rfl, rfl, by rwa [List.append_nil]⟩
  | cons k ks ih =>
    obtain ⟨first, ahead, rfl, hfirst, h'⟩ := h.call hcut k
    rw [← List.append_assoc] at hcut
    obtain ⟨more, ahead, rfl, hmore, h''⟩ := ih hcut h'
    refine ⟨first ++ more, ahead, by rw [List.append_assoc], ?_, by rwa [← List.append_assoc]⟩
    rw [← hfirst, ← hmore]
    exact List.filterMap_append (l := [(k, (c.call k).1)])

/-- Once iteration is over, every later call is barren. -/
theorem barren_run (hcut : IsCut bs past rest defect) (h : Between past [] rest c)
    (hover : c.failed = true ∨ rest = []) (ks : List Call) :
    ∀ step ∈ (c.run ks).1, Barren step := by
  -- Neither call moves the cursor any more, so the induction keeps it.
  have hcall (k : Call) : (c.call k).2 = c ∧ Barren (k, (c.call k).1) := by
    cases k with
    | read =>
      rw [h.read_done hcut]
      exact ⟨rfl, _, rfl⟩
    | next =>
      rw [h.next_done hcut, if_pos hover]
      exact ⟨rfl, rfl⟩
  induction ks with
  | nil => simp [Cursor.run]
  | cons k ks ih =>
    intro step hstep
    obtain ⟨hstay, hbarren⟩ := hcall k
    rw [Cursor.run, hstay] at hstep
    rcases List.mem_cons.mp hstep with rfl | hstep
    · exact hbarren
    · exact ih step hstep

theorem pairwise_run (hcut : IsCut bs (past ++ ahead) rest defect) (h : Between past ahead rest c)
    (ks : List Call) :
    (c.run ks).1.Pairwise fun early late => EndsIteration early → Barren late := by
  induction ks generalizing past ahead c with
  | nil => exact List.Pairwise.nil
  | cons k ks ih =>
    rw [Cursor.run]
    refine List.Pairwise.cons ?_ ?_
    · -- If this step ends iteration nothing is ahead, which makes all later steps barren.
      intro late hlate hends
      obtain ⟨rfl, h', hover⟩ := h.over_of_endsIteration hcut hends
      rw [List.append_nil] at hcut
      exact h'.barren_run hcut hover ks late hlate
    · obtain ⟨passed, ahead, rfl, -, h'⟩ := h.call hcut k
      rw [← List.append_assoc] at hcut
      exact ih hcut h'

theorem mem_nextErrors_run (hcut : IsCut bs (past ++ ahead) rest defect)
    (h : Between past ahead rest c) (ks : List Call) :
    ∀ e ∈ nextErrors (c.run ks).1, failure? bs = some e := by
  induction ks generalizing past ahead c with
  | nil => simp [Cursor.run, nextErrors]
  | cons k ks ih =>
    intro e he
    have hsplit : nextErrors (c.run (k :: ks)).1 =
        nextErrors [(k, (c.call k).1)] ++ nextErrors ((c.call k).2.run ks).1 :=
      List.filterMap_append (l := [(k, (c.call k).1)])
    rw [hsplit] at he
    rcases List.mem_append.mp he with he | he
    · refine h.failure?_of_call hcut ?_
      -- Only a failure that `next` reports is among the failures of this one step.
      rcases k with _ | _
      · exact absurd he (by simp [nextErrors])
      · rcases hreply : (c.call .next).1 with _ | x | r
        · simp [nextErrors, hreply] at he
        · obtain rfl : e = x := by simpa [nextErrors, hreply] using he
          rfl
        · simp [nextErrors, hreply] at he
    · obtain ⟨passed, ahead, rfl, -, h'⟩ := h.call hcut k
      rw [← List.append_assoc] at hcut
      exact ih hcut h' e he

end Between

/-- If all steps behind an end of iteration are barren, `next` reports one failure at most. -/
theorem length_nextErrors_le {steps : List (Call × Reply)}
    (h : steps.Pairwise fun early late => EndsIteration early → Barren late) :
    (nextErrors steps).length ≤ 1 := by
  induction steps with
  | nil => exact Nat.zero_le _
  | cons step steps ih =>
    obtain ⟨hhead, htail⟩ := List.pairwise_cons.mp h
    rcases step with ⟨_ | _, _ | e | r⟩
    case next.some.error =>
      -- The failure ends iteration, so that no later answer of `next` is one.
      have hnone : nextErrors steps = [] := by
        refine List.filterMap_eq_nil_iff.mpr ?_
        rintro ⟨_ | _, reply⟩ hlate
        · rfl
        · obtain rfl : reply = none := hhead _ hlate trivial
          rfl
      show (e :: nextErrors steps).length ≤ 1
      rw [hnone]
      exact Nat.le_refl 1
    all_goals exact ih htail

namespace Cursor

/-- **What any run of calls on the cursor before a byte string does.**  The records handed out are
the first of those in the byte string, the place is behind them, and a failing call keeps it.  With
all of them handed out `read` fails for good.  `next` fails once at most, with the failure that ends
the items, and when it has given no record, no later call gives one. -/
theorem run_ofBytes (bs : Bytes) (ks : List Call) :
    let steps := ((ofBytes bs).run ks).1
    let c := ((ofBytes bs).run ks).2
    let seen := returned steps
    (∃ m ≤ (records bs).length, seen = (records bs).take m) ∧
    c.offset = (seen.map Record.length).sum ∧ c.offset ≤ bs.length ∧
    c.remaining + c.offset = bs.length ∧ (c.isAtEnd = true ↔ c.offset = bs.length) ∧
    (c.isAtEnd = true ↔ c.remaining = 0) ∧
    (∀ k e, (c.call k).1 = some (.error e) →
      (c.call k).2.offset = c.offset ∧ (c.call k).2.remaining = c.remaining) ∧
    (seen.length = (records bs).length →
      (c.call .read).1 =
        some (.error ((failure? bs).getD ⟨bs.length, .shortHeader 0⟩))) ∧
    (nextErrors steps).length ≤ 1 ∧ (∀ e ∈ nextErrors steps, failure? bs = some e) ∧
    steps.Pairwise fun early late => EndsIteration early → Barren late := by
  obtain ⟨rs, rest, defect, hcut⟩ := exists_isCut bs
  have hstart := Between.ofBytes hcut
  have hpairwise := hstart.pairwise_run hcut ks
  have herrors := hstart.mem_nextErrors_run hcut ks
  -- What is ahead at the end of the run splits the cut, and the invariant there tells the rest.
  obtain ⟨passed, ahead, rfl, hseen, hend⟩ := hstart.run hcut ks
  rw [List.nil_append] at hend
  intro steps c seen
  have hseen : seen = passed := hseen
  have hoffset : c.offset = (Record.wires passed).length := hend.offset
  have hremaining : c.remaining + c.offset = bs.length := by
    rw [remaining, hend.rest, hoffset, ← hcut.length_eq, Record.wires_append]
    simp only [List.length_append]
    omega
  have hend_iff : c.isAtEnd = true ↔ c.remaining = 0 := by
    rw [isAtEnd, remaining, List.isEmpty_iff_length_eq_zero]
  rw [hcut.records_eq]
  refine ⟨⟨passed.length, by simp, by rw [hseen]; simp⟩, ?_, by omega, hremaining, ?_, hend_iff,
    ?_, ?_, length_nextErrors_le hpairwise, herrors, hpairwise⟩
  · rw [hoffset, hseen, Record.length_wires]
  · rw [hend_iff]
    omega
  · intro k e he
    exact hend.place_of_error hcut he
  · -- As many records as the cut has leave none ahead.
    intro hall
    obtain rfl : ahead = [] := by
      rw [hseen, List.length_append] at hall
      exact List.eq_nil_of_length_eq_zero (by omega)
    rw [List.append_nil] at hcut
    rw [hend.read_done hcut, hcut.failure_getD]

end Cursor

end PacketLog
