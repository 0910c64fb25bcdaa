/-
What the text of statistics tells of them.

Each line of the text begins with a label, and ends with a number or with the points in time.  Two
of the lines can be missing: that of the points in time when there are not both of them, and that of
the packets that were not traced when there are none.  A missing line shows, as the labels behind
these lines begin with other characters; and what it would say is known, as statistics of records
have both points in time or neither.

* `Tally.splitOn_render_text` — the lines of the text are told by the text;
* `Tally.IsTimed.add`, `Tally.IsTimed.foldl_add` — adding records keeps both points in time or none;
* `Tally.eq_of_textLines_eq`, `Tally.toJson_injective` — the lines and the JSON object tell the
  statistics;
* `Tally.render_eq_iff` — so does the text of statistics of records, and any JSON text.
-/
import PacketLog.Proofs.Columns
import PacketLog.Proofs.Lines
import PacketLog.Tally.Counting

namespace PacketLog.Tally

/-! ### The lines -/

/-- The line of the points in time, if there are both. -/
def timeLine? (t : Tally) : Option String :=
  match t.firstTimestamp, t.lastTimestamp with
  | some first, some last =>
    some ("Time:      " ++ decimal first ++ " .. " ++ decimal last ++
      " (" ++ Decimal.signed t.duration ++ ")")
  | _, _ => none

/-- The line of the packets that were not traced, if there are any. -/
def untracedLine? (t : Tally) : Option String :=
  if t.untraced = 0 then none else some ("Invalid:   " ++ decimal t.untraced)

/-- The lines in their order, two of which can be missing. -/
theorem textLines_eq (t : Tally) :
    t.textLines =
      ("Records:   " ++ decimal t.records) :: ("Bytes:     " ++ decimal t.bytes) ::
        (t.timeLine?.toList ++
          ("Requests:  " ++ decimal t.requests) :: ("Responses: " ++ decimal t.responses) ::
            (t.untracedLine?.toList ++ ["Errors:    " ++ decimal t.errors])) := by
  rw [textLines, timeLine?, untracedLine?]
  -- Without the first point in time the second one is not looked at.
  rcases t.firstTimestamp with _ | first
  · split_ifs <;> rfl
  · rcases t.lastTimestamp with _ | last
    · split_ifs <;> rfl
    · split_ifs <;> rfl

theorem mem_textLines_iff {t : Tally} {line : String} :
    line ∈ t.textLines ↔
      line = "Records:   " ++ decimal t.records ∨ line = "Bytes:     " ++ decimal t.bytes ∨
      line ∈ t.timeLine? ∨ line = "Requests:  " ++ decimal t.requests ∨
      line = "Responses: " ++ decimal t.responses ∨ line ∈ t.untracedLine? ∨
      line = "Errors:    " ++ decimal t.errors := by
  simp only [textLines_eq, List.mem_cons, List.mem_append, Option.mem_toList, Option.mem_def,
    List.not_mem_nil, or_false]

theorem head?_label {label : String} {c : Char} (h : label.toList.head? = some c) (s : String) :
    (label ++ s).toList.head? = some c := by
  rw [String.toList_append, List.head?_append, h]
  rfl

theorem prefix_of_mem_timeLine? {t : Tally} {line : String} (h : line ∈ t.timeLine?) :
    "Time:".toList <+: line.toList := by
  rw [timeLine?] at h
  split at h
  · obtain rfl := Option.some.inj h
    simp only [String.toList_append, List.append_assoc]
    exact ⟨"      ".toList ++ _, rfl⟩
  · exact absurd h (by simp)

theorem prefix_of_mem_untracedLine? {t : Tally} {line : String} (h : line ∈ t.untracedLine?) :
    "Invalid:".toList <+: line.toList := by
  rw [untracedLine?] at h
  split at h
  · exact absurd h (by simp)
  · obtain rfl := Option.some.inj h
    rw [String.toList_append]
    exact ⟨"   ".toList ++ _, rfl⟩

theorem head?_of_prefix {p cs : List Char} {c : Char} (h : p <+: cs) (hp : p.head? = some c) :
    cs.head? = some c := by
  obtain ⟨rest, rfl⟩ := h
  rw [List.head?_append, hp]
  rfl

theorem head?_of_mem_timeLine? {t : Tally} {line : String} (h : line ∈ t.timeLine?) :
    line.toList.head? = some 'T' :=
  head?_of_prefix (prefix_of_mem_timeLine? h) rfl

theorem head?_of_mem_untracedLine? {t : Tally} {line : String} (h : line ∈ t.untracedLine?) :
    line.toList.head? = some 'I' :=
  head?_of_prefix (prefix_of_mem_untracedLine? h) rfl

/-- The lines that are never missing begin with none of the first characters of the other two. -/
theorem head?_of_mem_textLines {t : Tally} {line : String} (h : line ∈ t.textLines) :
    line ∈ t.timeLine? ∨ line ∈ t.untracedLine? ∨
      line.toList.head? = some 'R' ∨ line.toList.head? = some 'B' ∨
      line.toList.head? = some 'E' := by
  rcases mem_textLines_iff.mp h with rfl | rfl | htime | rfl | rfl | huntraced | rfl
  · exact .inr (.inr (.inl (head?_label rfl _)))
  · exact .inr (.inr (.inr (.inl (head?_label rfl _))))
  · exact .inl htime
  · exact .inr (.inr (.inl (head?_label rfl _)))
  · exact .inr (.inr (.inl (head?_label rfl _)))
  · exact .inr (.inl huntraced)
  · exact .inr (.inr (.inr (.inr (head?_label rfl _))))

theorem isSome_timeLine?_foldl_add (rs : List Record) :
    (rs.foldl add .empty).timeLine?.isSome = true ↔ rs ≠ [] := by
  rw [timeLine?, firstTimestamp_foldl_add, lastTimestamp_foldl_add]
  rcases rs with _ | ⟨r, rs⟩
  · simp [empty]
  · simp [empty, List.getLast?_cons]

theorem exists_prefix_time_iff {t : Tally} :
    (∃ line ∈ t.textLines, "Time:".toList <+: line.toList) ↔ t.timeLine?.isSome = true := by
  constructor
  · rintro ⟨line, hline, hprefix⟩
    -- No line but that of the points in time begins with this character.
    have hhead : line.toList.head? = some 'T' := head?_of_prefix hprefix rfl
    rcases head?_of_mem_textLines hline with htime | huntraced | hother
    · exact Option.isSome_of_mem htime
    · rw [head?_of_mem_untracedLine? huntraced] at hhead
      exact absurd hhead (by decide)
    · rw [hhead] at hother
      exact absurd hother (by decide)
  · intro h
    obtain ⟨line, hline⟩ := Option.isSome_iff_exists.mp h
    exact ⟨line, mem_textLines_iff.mpr (.inr (.inr (.inl hline))), prefix_of_mem_timeLine? hline⟩

theorem exists_prefix_untraced_iff {t : Tally} :
    (∃ line ∈ t.textLines, "Invalid:".toList <+: line.toList) ↔ t.untraced ≠ 0 := by
  have hsome : t.untracedLine?.isSome = true ↔ t.untraced ≠ 0 := by
    rw [untracedLine?]
    split_ifs with h <;> simp [h]
  rw [← hsome]
  constructor
  · rintro ⟨line, hline, hprefix⟩
    have hhead : line.toList.head? = some 'I' := head?_of_prefix hprefix rfl
    rcases head?_of_mem_textLines hline with htime | huntraced | hother
    · rw [head?_of_mem_timeLine? htime] at hhead
      exact absurd hhead (by decide)
    · exact Option.isSome_of_mem huntraced
    · rw [hhead] at hother
      exact absurd hother (by decide)
  · intro h
    obtain ⟨line, hline⟩ := Option.isSome_iff_exists.mp h
    have hmem : line ∈ t.textLines :=
      mem_textLines_iff.mpr (.inr (.inr (.inr (.inr (.inr (.inl hline))))))
    exact ⟨line, hmem, prefix_of_mem_untracedLine? hline⟩

/-! ### The lines are told by the text -/

theorem noControl_label {label : String} (h : NoControl label.toList) (counter : UInt64) :
    NoControl (label ++ decimal counter).toList := by
  rw [String.toList_append]
  exact h.append (Decimal.noControl_ofNat _)

theorem noControl_timeLine? {t : Tally} {line : String} (h : line ∈ t.timeLine?) :
    NoControl line.toList := by
  rw [timeLine?] at h
  split at h
  · obtain rfl := Option.some.inj h
    simp only [String.toList_append, NoControl.append_iff]
    exact ⟨⟨⟨⟨⟨⟨by decide, Decimal.noControl_ofNat _⟩, by decide⟩, Decimal.noControl_ofNat _⟩,
      by decide⟩, Decimal.noControl_signed _⟩, by decide⟩
  · exact absurd h (by simp)

theorem noControl_untracedLine? {t : Tally} {line : String} (h : line ∈ t.untracedLine?) :
    NoControl line.toList := by
  rw [untracedLine?] at h
  split at h
  · exact absurd h (by simp)
  · obtain rfl := Option.some.inj h
    exact noControl_label (by decide) _

theorem noControl_of_mem_textLines {t : Tally} {line : String} (h : line ∈ t.textLines) :
    NoControl line.toList := by
  rcases mem_textLines_iff.mp h with rfl | rfl | htime | rfl | rfl | huntraced | rfl
  · exact noControl_label (by decide) _
  · exact noControl_label (by decide) _
  · exact noControl_timeLine? htime
  · exact noControl_label (by decide) _
  · exact noControl_label (by decide) _
  · exact noControl_untracedLine? huntraced
  · exact noControl_label (by decide) _

/-- **Splitting the text gives the lines**, as none of them holds a newline. -/
theorem splitOn_render_text (t : Tally) :
    (t.render .text).toList.splitOn '\n' = t.textLines.map String.toList := by
  show ("\n".intercalate t.textLines).toList.splitOn '\n' = _
  rw [String.toList_intercalate]
  refine List.splitOn_intercalate '\n' ?_ (by simp [textLines_eq])
  intro cs hcs
  obtain ⟨line, hline, rfl⟩ := List.mem_map.mp hcs
  exact (noControl_of_mem_textLines hline).newline_notMem

theorem textLines_eq_of_render_eq {t u : Tally} (h : t.render .text = u.render .text) :
    t.textLines = u.textLines := by
  have hlines : t.textLines.map String.toList = u.textLines.map String.toList := by
    rw [← splitOn_render_text, h, splitOn_render_text]
  exact (List.map_injective_iff.mpr fun _ _ => String.toList_inj.mp) hlines

/-! ### The lines tell the statistics -/

/-- A line that can be missing shows, if the line behind it begins with another character. -/
theorem toList_append_cons_inj {c : Char} {x y : Option String} {a b : String}
    {as bs : List String} (hx : ∀ line ∈ x, line.toList.head? = some c)
    (hy : ∀ line ∈ y, line.toList.head? = some c) (ha : a.toList.head? ≠ some c)
    (hb : b.toList.head? ≠ some c) (h : x.toList ++ a :: as = y.toList ++ b :: bs) :
    x = y ∧ a = b ∧ as = bs := by
  -- If only one of the two lines is missing, `a` or `b` stands where the other one begins with `c`.
  rcases x with _ | line <;> rcases y with _ | line'
  · obtain ⟨hab, hrest⟩ := List.cons.inj h
    exact ⟨rfl, hab, hrest⟩
  · obtain ⟨rfl, -⟩ := List.cons.inj h
    exact absurd (hy a rfl) ha
  · obtain ⟨rfl, -⟩ := List.cons.inj h
    exact absurd (hx line rfl) hb
  · obtain ⟨rfl, hrest⟩ := List.cons.inj h
    obtain ⟨hab, hrest⟩ := List.cons.inj hrest
    exact ⟨rfl, hab, hrest⟩

theorem decimal_inj {v w : UInt64} (h : decimal v = decimal w) : v = w :=
  UInt64.toNat_inj.mp (Decimal.ofNat_injective h)

theorem label_decimal_inj {label : String} {v w : UInt64}
    (h : label ++ decimal v = label ++ decimal w) : v = w := by
  rw [← String.toList_inj, String.toList_append, String.toList_append] at h
  exact decimal_inj (String.toList_inj.mp (List.append_cancel_left h))

/-- There are both points in time or there is neither. -/
def IsTimed (t : Tally) : Prop := t.firstTimestamp.isSome = t.lastTimestamp.isSome

namespace IsTimed

variable {t u : Tally}

theorem empty : IsTimed .empty := rfl

theorem add (t : Tally) (r : Record) : IsTimed (t.add r) := by
  show (t.firstTimestamp <|> some r.timestamp).isSome = true
  rcases t.firstTimestamp with _ | first <;> rfl

/-- **Adding records keeps both points in time or none.** -/
theorem foldl_add (h : IsTimed t) (rs : List Record) : IsTimed (rs.foldl Tally.add t) := by
  induction rs generalizing t with
  | nil => exact h
  | cons r rs ih => exact ih (add t r)

theorem times_cases (h : IsTimed t) :
    (t.firstTimestamp = none ∧ t.lastTimestamp = none) ∨
      ∃ first last, t.firstTimestamp = some first ∧ t.lastTimestamp = some last := by
  rw [IsTimed] at h
  rcases hfirst : t.firstTimestamp with _ | first
  · rw [hfirst, eq_comm, Option.isSome_none, Option.isSome_eq_false_iff, Option.isNone_iff_eq_none]
      at h
    exact .inl ⟨rfl, h⟩
  · rw [hfirst, eq_comm, Option.isSome_some, Option.isSome_iff_exists] at h
    obtain ⟨last, hlast⟩ := h
    exact .inr ⟨first, last, rfl, hlast⟩

/-- The line of the points in time tells them. -/
theorem times_eq (ht : IsTimed t) (hu : IsTimed u) (h : t.timeLine? = u.timeLine?) :
    t.firstTimestamp = u.firstTimestamp ∧ t.lastTimestamp = u.lastTimestamp := by
  rw [timeLine?, timeLine?] at h
  rcases ht.times_cases with ⟨hfirst, hlast⟩ | ⟨first, last, hfirst, hlast⟩ <;>
    rcases hu.times_cases with ⟨hfirst', hlast'⟩ | ⟨first', last', hfirst', hlast'⟩ <;>
    rw [hfirst, hlast, hfirst', hlast'] at h ⊢
  · exact ⟨rfl, rfl⟩
  · exact absurd h (by simp)
  · exact absurd h (by simp)
  · -- Each of the two numbers ends where a label begins.
    have hline := congrArg String.toList (Option.some.inj h)
    simp only [String.toList_append, List.append_assoc] at hline
    obtain ⟨heq, hline⟩ := Decimal.ofNat_append_inj (noDigitNext_label rfl _)
      (noDigitNext_label rfl _) (List.append_cancel_left hline)
    obtain ⟨heq', -⟩ := Decimal.ofNat_append_inj (noDigitNext_label rfl _)
      (noDigitNext_label rfl _) (List.append_cancel_left hline)
    rw [UInt64.toNat_inj.mp heq, UInt64.toNat_inj.mp heq']
    exact ⟨rfl, rfl⟩

end IsTimed

theorem untraced_eq_of_untracedLine?_eq {t u : Tally} (h : t.untracedLine? = u.untracedLine?) :
    t.untraced = u.untraced := by
  rw [untracedLine?, untracedLine?] at h
  split_ifs at h with ht hu
  · rw [ht, hu]
  · exact label_decimal_inj (Option.some.inj h)

/-- **The lines tell the statistics**, if there are both points in time or neither. -/
theorem eq_of_textLines_eq {t u : Tally} (ht : IsTimed t) (hu : IsTimed u)
    (h : t.textLines = u.textLines) : t = u := by
  have hhead {label : String} {c d : Char} (hlabel : label.toList.head? = some c) (hne : c ≠ d)
      (s : String) : (label ++ s).toList.head? ≠ some d := by
    rw [head?_label hlabel]
    exact fun heq => hne (Option.some.inj heq)
  rw [textLines_eq, textLines_eq] at h
  -- Lines are taken off both lists in order, those that can be missing with the one behind.
  obtain ⟨hrecords, h⟩ := List.cons.inj h
  obtain ⟨hbytes, h⟩ := List.cons.inj h
  obtain ⟨htime, hrequests, h⟩ := toList_append_cons_inj (fun _ => head?_of_mem_timeLine?)
    (fun _ => head?_of_mem_timeLine?) (hhead rfl (by decide) _) (hhead rfl (by decide) _) h
  obtain ⟨hresponses, h⟩ := List.cons.inj h
  obtain ⟨huntraced, herrors, -⟩ := toList_append_cons_inj (fun _ => head?_of_mem_untracedLine?)
    (fun _ => head?_of_mem_untracedLine?) (hhead rfl (by decide) _) (hhead rfl (by decide) _) h
  obtain ⟨hfirst, hlast⟩ := ht.times_eq hu htime
  cases t
  cases u
  rw [mk.injEq]
  exact ⟨label_decimal_inj hrecords, label_decimal_inj hbytes, hfirst, hlast,
    label_decimal_inj hrequests, label_decimal_inj hresponses,
    untraced_eq_of_untracedLine?_eq huntraced, label_decimal_inj herrors⟩

/-! ### JSON -/

theorem jsonCount_injective : Function.Injective jsonCount := by
  intro v w h
  exact UInt64.toNat_inj.mp (Int.natCast_inj.mp (Json.number.inj h))

theorem jsonTime_injective : Function.Injective jsonTime := by
  intro p q h
  rcases p with _ | v <;> rcases q with _ | w
  · rfl
  · exact absurd h (by simp [jsonTime, jsonCount])
  · exact absurd h (by simp [jsonTime, jsonCount])
  · rw [jsonCount_injective h]

theorem toJson_injective : Function.Injective toJson := by
  intro t u h
  simp only [toJson, Json.object.injEq, List.cons.injEq, Prod.mk.injEq, true_and, and_true,
    jsonCount_injective.eq_iff, jsonTime_injective.eq_iff] at h
  cases t
  cases u
  rw [mk.injEq]
  exact h

/-- **Printed statistics are unambiguous.**  The texts of the statistics of any two lists of records
are the same exactly if the statistics are, though a line is left out of the text when there are no
records and another one when the number of packets that were not traced is zero.  The JSON texts of
any two statistics are the same exactly if the statistics are, whatever they are of. -/
theorem render_eq_iff :
    (∀ rs ss : List Record,
      (rs.foldl add .empty).render .text = (ss.foldl add .empty).render .text ↔
        rs.foldl add .empty = ss.foldl add .empty) ∧
    (∀ rs : List Record,
      let t := rs.foldl add .empty
      let lines := (t.render .text).toList.splitOn '\n'
      ((∃ line ∈ lines, "Time:".toList <+: line) ↔ rs ≠ []) ∧
      ((∃ line ∈ lines, "Invalid:".toList <+: line) ↔ t.untraced ≠ 0)) ∧
    ∀ t u : Tally, t.render .json = u.render .json ↔ t = u := by
  refine ⟨fun rs ss => ⟨fun h => ?_, fun h => by rw [h]⟩, fun rs => ?_, fun t u => ?_⟩
  · exact eq_of_textLines_eq (IsTimed.empty.foldl_add rs) (IsTimed.empty.foldl_add ss)
      (textLines_eq_of_render_eq h)
  · intro t lines
    have hlines : lines = t.textLines.map String.toList := splitOn_render_text t
    rw [hlines]
    simp only [List.mem_map, exists_exists_and_eq_and]
    exact ⟨exists_prefix_time_iff.trans (isSome_timeLine?_foldl_add rs), exists_prefix_untraced_iff⟩
  · exact (Json.render_injective.comp toJson_injective).eq_iff

end PacketLog.Tally
