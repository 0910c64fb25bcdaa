/-
Which failures more bytes can mend.

A log that is still being written ends with a failure, as its last record is only begun.  With the
right bytes behind it such a log can be read to its end; a log whose failure is bad text cannot,
as the bytes that are in the way stay where they are.

* `Record.exists_wire_append` — the beginning of a record is completed to a record;
* `Record.of_read_append` — what can be completed is the beginning of a record;
* `exists_failure?_append_iff` — the same of a whole log, and that bad text stays bad text.
-/
import PacketLog.Proofs.Exactness
import PacketLog.Text.Utf8.WellFormed

namespace PacketLog

namespace Utf8

/-- A character with a zero byte has no other bytes. -/
theorem eq_zero_of_mem_encodeChar {c : Char} {b : UInt8} (hzero : 0 ∈ encodeChar c)
    (hb : b ∈ encodeChar c) : b = 0 := by
  have hc : c.toNat = 0 := by
    rcases toNat_of_mem_encodeChar hzero with ⟨-, h⟩ | ⟨-, h⟩
    · exact h.symm
    · exact absurd h (by decide)
  rw [encodeChar_of_lt (by omega), List.mem_singleton, hc] at hb
  exact hb

/-- Bytes that begin a text and hold no zero byte begin a text that holds none. -/
theorem exists_wellFormed_append {bs more : Bytes} (h : WellFormed (bs ++ more)) (hbs : 0 ∉ bs) :
    ∃ other, 0 ∉ other ∧ WellFormed (bs ++ other) := by
  obtain ⟨cs, hcs⟩ := h
  -- The bytes end at the end of a character or in it, and they need no more than the rest of it.
  induction cs generalizing bs with
  | nil =>
    obtain ⟨rfl, -⟩ := List.append_eq_nil_iff.mp hcs.symm
    exact ⟨[], by simp, [], rfl⟩
  | cons c cs ih =>
    rw [List.flatMap_cons] at hcs
    rcases List.append_eq_append_iff.mp hcs with ⟨bs', rfl, hrest⟩ | ⟨left, hchar, -⟩
    · obtain ⟨other, hother, ds, hds⟩ := ih (fun h => hbs (by simp [h])) hrest
      refine ⟨other, hother, c :: ds, ?_⟩
      rw [List.flatMap_cons, hds, List.append_assoc]
    · cases bs with
      | nil => exact ⟨[], by simp, [], rfl⟩
      | cons b bs =>
        refine ⟨left, ?_, [c], ?_⟩
        · intro hzero
          rw [← encodeChar_eq] at hchar
          have hb : b ∈ encodeChar c := by
            rw [hchar]
            exact List.mem_cons_self
          have hzero' : 0 ∈ encodeChar c := by
            rw [hchar]
            exact List.mem_append_right _ hzero
          rw [eq_zero_of_mem_encodeChar hzero' hb] at hbs
          exact hbs List.mem_cons_self
        · rw [List.flatMap_singleton, hchar]

end Utf8

namespace Record

variable {bs more : Bytes} {defect : Defect}

/-- A header, a name with a zero byte behind it and a line number are a record. -/
theorem exists_wire_eq {header name line : Bytes} (hheader : header.length = headerLength)
    (hname : 0 ∉ name) (hgood : Utf8.WellFormed name) (hline : line.length = lineLength) :
    ∃ r : Record, r.isWritable = true ∧ r.wire = header ++ (name ++ 0 :: line) := by
  obtain ⟨file, hfile⟩ := Utf8.exists_decode_eq_ok_iff.mpr hgood
  have hread : read (header ++ (name ++ 0 :: (line ++ []))) = _ :=
    read_eq_iff.mpr (.record hheader hname hfile hline)
  obtain ⟨hwire, hwritable, -⟩ := wire_of_read hread
  rw [List.append_nil, List.append_nil] at hwire
  exact ⟨_, hwritable, hwire⟩

theorem length_append_zeros {n : Nat} (h : bs.length ≤ n) :
    (bs ++ List.replicate (n - bs.length) 0).length = n := by
  rw [List.length_append, List.length_replicate]
  omega

/-- **The beginning of a record is completed to a record**, with zero bytes for all that a name does
not ask for. -/
theorem exists_wire_append (h : read bs = .error defect)
    (hdefect : (∃ n, defect = .shortHeader n) ∨ (∃ m, defect = .shortLine m) ∨
      (defect = .openName ∧ ∃ more, Utf8.WellFormed (bs.drop headerLength ++ more))) :
    ∃ (more : Bytes) (r : Record), r.isWritable = true ∧ r.wire = bs ++ more := by
  have hzeros : ([] ++ List.replicate lineLength (0 : UInt8)).length = lineLength :=
    List.length_replicate
  cases read_eq_iff.mp h with
  | shortHeader hlen =>
    obtain ⟨r, hwritable, hwire⟩ := exists_wire_eq (length_append_zeros (Nat.le_of_lt hlen))
      List.not_mem_nil ⟨[], rfl⟩ hzeros
    rw [List.append_assoc] at hwire
    exact ⟨_, r, hwritable, hwire⟩
  | @openName header body hheader hbody =>
    obtain ⟨more, hmore⟩ : ∃ more, Utf8.WellFormed (body ++ more) := by
      rw [List.drop_left' hheader] at hdefect
      simpa using hdefect
    obtain ⟨other, hother, hgood⟩ := Utf8.exists_wellFormed_append hmore hbody
    have hname : 0 ∉ body ++ other := by
      rw [List.mem_append, not_or]
      exact ⟨hbody, hother⟩
    obtain ⟨r, hwritable, hwire⟩ := exists_wire_eq hheader hname hgood hzeros
    rw [List.append_assoc, ← List.append_assoc] at hwire
    exact ⟨_, r, hwritable, hwire⟩
  | badName => simp at hdefect
  | @shortLine header name tail file hheader hname hfile htail =>
    obtain ⟨r, hwritable, hwire⟩ := exists_wire_eq hheader hname
      (Utf8.exists_decode_eq_ok_iff.mp ⟨file, hfile⟩) (length_append_zeros (Nat.le_of_lt htail))
    refine ⟨List.replicate (lineLength - tail.length) 0, r, hwritable, ?_⟩
    rw [hwire, List.append_assoc, List.append_assoc, List.cons_append]

/-- Bad text is found whatever comes behind it. -/
theorem read_append_of_badName {fault : Utf8.Fault} (h : read bs = .error (.badName fault))
    (more : Bytes) : read (bs ++ more) = .error (.badName fault) := by
  cases read_eq_iff.mp h with
  | badName hheader hname hfault =>
    rw [List.append_assoc, List.append_assoc, List.cons_append]
    exact read_eq_iff.mpr (.badName hheader hname hfault)

/-- Bytes before the first zero byte are an initial segment of those before any zero byte. -/
theorem exists_append_of_append_eq {body name tail : Bytes} (hbody : 0 ∉ body)
    (h : name ++ 0 :: tail = body ++ more) : ∃ other, name = body ++ other := by
  rcases List.append_eq_append_iff.mp h with ⟨left, rfl, hleft⟩ | ⟨left, hname, -⟩
  · cases left with
    | nil => exact ⟨[], by simp⟩
    | cons b left =>
      obtain ⟨rfl, -⟩ := List.cons.inj hleft
      exact absurd (by simp) hbody
  · exact ⟨left, hname⟩

/-- **What can be completed is the beginning of a record.** -/
theorem of_read_append {x : Reading} (h : read bs = .error defect)
    (hmore : read (bs ++ more) = .ok x) :
    (∃ n, defect = .shortHeader n) ∨ (∃ m, defect = .shortLine m) ∨
      (defect = .openName ∧ ∃ more, Utf8.WellFormed (bs.drop headerLength ++ more)) := by
  cases read_eq_iff.mp h with
  | shortHeader => exact .inl ⟨_, rfl⟩
  | @openName header body hheader hbody =>
    refine .inr (.inr ⟨rfl, ?_⟩)
    -- The zero byte of the record is behind the name, which the bytes without one begin.
    obtain ⟨hwire, -, -⟩ := wire_of_read hmore
    have hdrop := congrArg (List.drop headerLength) hwire
    rw [wire_eq, List.append_assoc, List.append_assoc, List.drop_left' (length_header _),
      List.cons_append, List.append_assoc, List.drop_left' hheader] at hdrop
    obtain ⟨other, hname⟩ := exists_append_of_append_eq hbody hdrop
    refine ⟨other, ?_⟩
    rw [List.drop_left' hheader, ← hname]
    exact Utf8.wellFormed_encode _
  | badName hheader hname hfault =>
    rw [read_append_of_badName h more] at hmore
    exact absurd hmore (by simp)
  | shortLine => exact .inr (.inl ⟨_, rfl⟩)

end Record

/-- The cut of a longer byte string. -/
theorem IsCut.append {bs rest more rest' : Bytes} {rs ss : List Record}
    {defect defect' : Record.Defect} (h : IsCut bs rs rest defect)
    (hmore : IsCut (rest ++ more) ss rest' defect') : IsCut (bs ++ more) (rs ++ ss) rest' defect' := by
  refine ⟨?_, ?_, hmore.stuck⟩
  · rw [h.eq, List.append_assoc, hmore.eq, Record.wires_append, List.append_assoc]
  · intro r hr
    rcases List.mem_append.mp hr with hr | hr
    · exact h.writable r hr
    · exact hmore.writable r hr

/-- **Which failures more bytes can mend.**  There are bytes with which a log is read to its end
exactly if its last record breaks off: in the header, in the line number, or in the file name with
an initial segment of some text there.  Bad text with a zero byte behind it stays as it is: with
whatever bytes more, the log has the same records and the same failure at the same offset. -/
theorem exists_failure?_append_iff {bs : Bytes} {e : ReadError} (h : failure? bs = some e) :
    ((∃ more, failure? (bs ++ more) = none ∧
        (Cursor.ofBytes (bs ++ more)).collect.2.isAtEnd = true) ↔
      (∃ n, e.defect = .shortHeader n) ∨ (∃ m, e.defect = .shortLine m) ∨
        (e.defect = .openName ∧ ∃ more, Utf8.WellFormed (bs.drop (e.offset + 24) ++ more))) ∧
    ∀ fault, e.defect = .badName fault → ∀ more, items (bs ++ more) = items bs := by
  obtain ⟨rs, rest, defect, hcut⟩ := exists_isCut bs
  obtain ⟨rfl, hrest⟩ := hcut.of_failure? h
  have hbody : bs.drop ((Record.wires rs).length + 24) = rest.drop Record.headerLength := by
    rw [← List.drop_drop, hcut.eq, List.drop_left]
    rfl
  dsimp only
  rw [hbody]
  constructor
  · constructor
    · rintro ⟨more, hnone, -⟩
      obtain ⟨ss, rest', defect', hmore⟩ := exists_isCut (rest ++ more)
      rw [(hcut.append hmore).failure?_eq, ite_eq_left_iff] at hnone
      have hrest' : rest' = [] := by simpa using hnone
      -- The rest is not empty, so it is in the first of the records that are read now.
      cases ss with
      | nil =>
        have heq := hmore.eq
        rw [hrest', Record.wires_nil, List.append_nil] at heq
        exact absurd (List.append_eq_nil_iff.mp heq).1 hrest
      | cons r ss =>
        have hread := Record.read_wire (hmore.writable r (by simp)) (Record.wires ss ++ rest')
        rw [← List.append_assoc, ← Record.wires_cons, ← hmore.eq] at hread
        exact Record.of_read_append hcut.stuck hread
    · intro hdefect
      obtain ⟨more, r, hwritable, hwire⟩ := Record.exists_wire_append hcut.stuck hdefect
      -- What is left is completed to one record with nothing behind it.
      have hwhole : IsCut (rest ++ more) [r] [] (.shortHeader 0) := by
        refine ⟨?_, ?_, Record.read_nil⟩
        · rw [← hwire, Record.wires_cons, Record.wires_nil, List.append_nil, List.append_nil]
        · intro s hs
          rwa [List.mem_singleton.mp hs]
      have hall := hcut.append hwhole
      refine ⟨more, ?_, ?_⟩
      · rw [hall.failure?_eq, if_pos rfl]
      · rw [hall.collect_eq]
        rfl
  · intro fault hdefect more
    obtain rfl : defect = .badName fault := hdefect
    have hstuck := Record.read_append_of_badName hcut.stuck more
    -- The longer log is cut at the same place, as no record is read there.
    have hmore : IsCut (rest ++ more) [] (rest ++ more) (.badName fault) := ⟨rfl, by simp, hstuck⟩
    have hne : rest ++ more ≠ [] := fun hnil => hrest (List.append_eq_nil_iff.mp hnil).1
    rw [(hcut.append hmore).items_eq, hcut.items_eq, if_neg hrest, if_neg hne, List.append_nil]

/-- A file name that breaks off in the sign for the euro. -/
theorem exists_failure?_append_euro :
    let bs : Bytes := List.replicate 24 1 ++ [0xE2, 0x82]
    failure? bs = some ⟨0, .openName⟩ ∧
      ∃ more, failure? (bs ++ more) = none ∧
        (Cursor.ofBytes (bs ++ more)).collect.2.isAtEnd = true := by
  intro bs
  have hstuck : Record.read bs = .error .openName :=
    Record.read_eq_iff.mpr (.openName rfl (by decide))
  have hcut : IsCut bs [] bs .openName := ⟨rfl, by simp, hstuck⟩
  have hfailure : failure? bs = some ⟨0, .openName⟩ := by
    rw [hcut.failure?_eq, if_neg (by decide)]
    rfl
  exact ⟨hfailure, (exists_failure?_append_iff hfailure).1.mpr
    (.inr (.inr ⟨rfl, [0xAC], ['€'], by decide⟩))⟩

end PacketLog
