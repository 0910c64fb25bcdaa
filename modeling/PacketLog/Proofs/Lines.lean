/-
How many lines the page of a log has.

A newline ends the line of each record.  A line of JSON holds none of its own, as every control is
escaped in its strings, but a line of text shows the name of the source file as it is: a newline in
the name is one in the line.  So splitting the page at its newlines gives the lines of the records
exactly if the page is JSON or no name holds a newline.

* `Json.noControl_chars` — JSON text holds no control;
* `Record.count_newline_render` — the newlines in the line of a record;
* `Transcript.count_newline_output` — those of a page, and when splitting it gives the lines.
-/
import PacketLog.Proofs.Lossless

namespace PacketLog

/-- Holds no control, which is a character below the space. -/
def NoControl (cs : List Char) : Prop := ∀ c ∈ cs, 0x20 ≤ c.toNat

-- Goes through the list; the instance that is found by itself goes through all characters.
instance (cs : List Char) : Decidable (NoControl cs) :=
  List.decidableBAll (fun c : Char => 0x20 ≤ c.toNat) cs

namespace NoControl

variable {cs ds : List Char}

theorem append_iff : NoControl (cs ++ ds) ↔ NoControl cs ∧ NoControl ds := List.forall_mem_append

theorem append (hcs : NoControl cs) (hds : NoControl ds) : NoControl (cs ++ ds) :=
  append_iff.mpr ⟨hcs, hds⟩

theorem flatMap {f : Char → List Char} (h : ∀ c, NoControl (f c)) : NoControl (cs.flatMap f) := by
  intro c hc
  obtain ⟨d, -, hd⟩ := List.mem_flatMap.mp hc
  exact h d c hd

theorem newline_notMem (h : NoControl cs) : '\n' ∉ cs :=
  fun hmem => absurd (h '\n' hmem) (by decide)

theorem count_newline (h : NoControl cs) : cs.count '\n' = 0 :=
  List.count_eq_zero_of_not_mem h.newline_notMem

end NoControl

/-! ### Numbers and columns -/

namespace Decimal

theorem noControl_ofNat (n : Nat) : NoControl (ofNat n).toList := by
  intro c hc
  have hdigit := isDigit_of_mem_ofNat hc
  rw [Char.isDigit, Bool.and_eq_true, decide_eq_true_iff] at hdigit
  have hzero : 48 ≤ c.toNat := hdigit.1
  omega

theorem noControl_ofInt (n : Int) : NoControl (ofInt n).toList := by
  rcases n with n | n
  · exact noControl_ofNat n
  · have hminus : NoControl ['-'] := by decide
    rw [toList_ofInt_negSucc]
    exact hminus.append (noControl_ofNat (n + 1))

theorem noControl_signed (n : Int) : NoControl (signed n).toList := by
  rcases n with n | n
  · rw [signed, String.toList_append]
    exact NoControl.append (by decide) (noControl_ofNat n)
  · rw [signed, String.toList_append]
    exact NoControl.append (by decide) (noControl_ofNat (n + 1))

end Decimal

theorem Base58.noControl_encode (word : UInt64) : NoControl (encode word).toList := by
  intro c hc
  rw [encode, String.toList_ofList] at hc
  obtain ⟨d, hd, rfl⟩ := List.mem_map.mp hc
  have hdigit : ∀ d < radix, 0x20 ≤ (digit d).toNat := by decide +kernel
  exact hdigit d (Numeral.digits_lt (by decide) d hd)

namespace Column

variable {s : String}

theorem noControl_replicate (n : Nat) : NoControl (List.replicate n ' ') := by
  intro c hc
  rw [List.eq_of_mem_replicate hc]
  decide

theorem noControl_right (width : Nat) (h : NoControl s.toList) :
    NoControl (right width s).toList := by
  rw [right, String.toList_append, String.toList_ofList]
  exact (noControl_replicate _).append h

theorem noControl_left (width : Nat) (h : NoControl s.toList) :
    NoControl (left width s).toList := by
  rw [left, String.toList_append, String.toList_ofList]
  exact h.append (noControl_replicate _)

end Column

/-! ### JSON text -/

namespace Json

theorem noControl_escape (c : Char) : NoControl (escape c) := by
  rw [escape]
  split_ifs with h1 h2 h3 h4 h5 h6 h7 h8
  · decide
  · decide
  · decide
  · decide
  · decide
  · decide
  · decide
  · -- The two digits of a control are digits whatever it is.
    have hdigit : ∀ d < 16, 0x20 ≤ (Quoted.hexDigit d).toNat := by decide
    have hhigh := hdigit (c.toNat / 16) (by omega)
    have hlow := hdigit (c.toNat % 16) (by omega)
    have hfront : NoControl ['\\', 'u', '0', '0'] := by decide
    refine hfront.append ?_
    intro d hd
    rcases List.mem_pair.mp hd with rfl | rfl
    · exact hhigh
    · exact hlow
  · intro d hd
    rw [List.mem_singleton.mp hd]
    omega

theorem noControl_quote (s : String) : NoControl (quote s) := by
  have hinner : NoControl (s.toList.flatMap escape) := NoControl.flatMap noControl_escape
  rw [quote]
  exact (NoControl.append (by decide) hinner).append (by decide)

mutual

/-- **JSON text holds no control**, whatever stands in its strings. -/
theorem noControl_chars : (v : Json) → NoControl v.chars
  | .null => by
    rw [chars]
    decide
  | .number n => by
    rw [chars]
    exact Decimal.noControl_ofInt n
  | .string s => by
    rw [chars]
    exact noControl_quote s
  | .object [] => by
    rw [chars]
    decide
  | .object (m :: ms) => by
    rw [chars]
    exact (NoControl.append (by decide) (noControl_memberChars m)).append (noControl_moreChars ms)

theorem noControl_memberChars : (m : String × Json) → NoControl (memberChars m)
  | (key, value) => by
    rw [memberChars]
    exact ((noControl_quote key).append (by decide)).append (noControl_chars value)

theorem noControl_moreChars : (ms : List (String × Json)) → NoControl (moreChars ms)
  | [] => by
    rw [moreChars]
    decide
  | m :: ms => by
    rw [moreChars]
    exact (NoControl.append (by decide) (noControl_memberChars m)).append (noControl_moreChars ms)

end

end Json

/-! ### The line of a record -/

namespace Record

/-- How many newlines the line of a record holds: in text those of the file name, in JSON none. -/
def breaks (style : Style) (r : Record) : Nat :=
  match style with
  | .text => r.file.toList.count '\n'
  | .json => 0

/-- Around the file name, a line of text holds no control. -/
theorem exists_textLine_eq (r : Record) (previous : Option UInt64) :
    ∃ front back, NoControl front ∧ NoControl back ∧
      (r.textLine previous).toList = front ++ r.file.toList ++ back := by
  unfold textLine
  rw [String.toList_append, String.toList_append, String.toList_append, List.append_assoc]
  -- In front of the name are labels, numbers and columns, and behind it a number.
  refine ⟨_, _, ?_, ?_, rfl⟩
  · simp +decide only [String.toList_append, NoControl.append_iff, decimalByte,
      Decimal.noControl_ofNat, Decimal.noControl_signed, Base58.noControl_encode,
      Column.noControl_left, Column.noControl_right, and_self]
  · exact NoControl.append (by decide) (Decimal.noControl_ofInt _)

/-- **The newlines in the line of a record.** -/
theorem count_newline_render (r : Record) (previous : Option UInt64) (style : Style) :
    (r.render previous style).toList.count '\n' = r.breaks style := by
  cases style with
  | text =>
    obtain ⟨front, back, hfront, hback, heq⟩ := r.exists_textLine_eq previous
    show (r.textLine previous).toList.count '\n' = r.file.toList.count '\n'
    rw [heq, List.count_append, List.count_append, hfront.count_newline, hback.count_newline]
    omega
  | json =>
    show (r.toJson previous).render.toList.count '\n' = 0
    rw [Json.render, String.toList_ofList]
    exact (Json.noControl_chars _).count_newline

end Record

/-! ### Newlines as bytes -/

namespace Utf8

/-- A byte below 0x80 is written as often as its character stands in the text. -/
theorem count_encode {c : Char} (h : c.toNat < 0x80) (s : String) :
    (encode s).count (UInt8.ofNat c.toNat) = s.toList.count c := by
  -- The byte of an ASCII character is among those of no other character.
  have hchar (d : Char) : (encodeChar d).count (UInt8.ofNat c.toNat) = [d].count c := by
    by_cases hd : d = c
    · rw [hd, encodeChar_of_lt h, List.count_singleton_self, List.count_singleton_self]
    · have hmem := ascii_mem_encode_iff h (String.ofList [d])
      rw [encode, String.toList_ofList, List.flatMap_singleton, List.mem_singleton] at hmem
      have hnot : UInt8.ofNat c.toNat ∉ encodeChar d := fun hin => hd (hmem.mp hin).symm
      rw [List.count_eq_zero_of_not_mem hnot, List.count_eq_zero_of_not_mem (by simp [Ne.symm hd])]
  rw [encode]
  induction s.toList with
  | nil => rfl
  | cons d cs ih =>
    rw [List.flatMap_cons, List.count_append, ih, hchar, ← List.count_append, List.singleton_append]

end Utf8

/-! ### The page -/

/-- Splitting a list at an element gives one part more than the element stands in it. -/
theorem length_splitOn {α : Type} [BEq α] (x : α) (xs : List α) :
    (xs.splitOn x).length = xs.count x + 1 := by
  rw [List.splitOn, List.count]
  induction xs with
  | nil => rfl
  | cons y ys ih =>
    rw [List.splitOnP_cons_eq_if_modifyHead, List.countP_cons]
    split_ifs with hy
    · rw [List.length_cons, ih]
    · rw [List.length_modifyHead, ih, Nat.add_zero]

namespace Transcript

theorem page_cons (text : String) (texts : List String) :
    page (text :: texts) = Utf8.encode text ++ [0x0A] ++ page texts := by
  show Utf8.encode (text ++ "\n") ++ page texts = _
  rw [Utf8.encode_append]
  rfl

theorem count_newline_page (texts : List String) :
    (page texts).count 0x0A = texts.length + (texts.map fun t => t.toList.count '\n').sum := by
  induction texts with
  | nil => rfl
  | cons text texts ih =>
    have htext : (Utf8.encode text).count 0x0A = text.toList.count '\n' :=
      Utf8.count_encode (c := '\n') (by decide) text
    rw [page_cons, List.count_append, List.count_append, ih, htext, List.count_singleton_self,
      List.length_cons, List.map_cons, List.sum_cons]
    omega

theorem page_eq_intercalate (texts : List String) :
    page texts = [0x0A].intercalate (texts.map Utf8.encode ++ [[]]) := by
  induction texts with
  | nil => rfl
  | cons text texts ih =>
    rw [page_cons, ih, List.map_cons, List.cons_append, List.intercalate_cons_of_ne_nil (by simp)]

/-- The lines of a page are its parts between newlines, if none of them holds one itself. -/
theorem splitOn_page {texts : List String} (h : ∀ text ∈ texts, '\n' ∉ text.toList) :
    (page texts).splitOn 0x0A = texts.map Utf8.encode ++ [[]] := by
  rw [page_eq_intercalate]
  refine List.splitOn_intercalate 0x0A ?_ (by simp)
  intro line hline
  rcases List.mem_append.mp hline with hmem | hmem
  · obtain ⟨text, htext, rfl⟩ := List.mem_map.mp hmem
    have hiff := Utf8.ascii_mem_encode_iff (c := '\n') (by decide) text
    exact fun hin => h text htext (hiff.mp hin)
  · rw [List.mem_singleton.mp hmem]
    exact List.not_mem_nil

/-- The newlines that the lines of records hold themselves are those of the records. -/
theorem map_count_newline_lines (style : Style) (previous : Option UInt64) (rs : List Record) :
    (lines style previous rs).map (fun t => t.toList.count '\n') =
      rs.map (Record.breaks style) := by
  induction rs generalizing previous with
  | nil => rfl
  | cons r rs ih =>
    rw [lines, List.map_cons, List.map_cons, ih, Record.count_newline_render]

theorem length_lines (style : Style) (previous : Option UInt64) (rs : List Record) :
    (lines style previous rs).length = rs.length := by
  have hlen := congrArg List.length (map_count_newline_lines style previous rs)
  rwa [List.length_map, List.length_map] at hlen

theorem newline_notMem_of_mem_lines {style : Style} {previous : Option UInt64} {rs : List Record}
    (h : ∀ r ∈ rs, r.breaks style = 0) :
    ∀ text ∈ lines style previous rs, '\n' ∉ text.toList := by
  intro text htext
  have hmem : text.toList.count '\n' ∈ rs.map (Record.breaks style) := by
    rw [← map_count_newline_lines style previous]
    exact List.mem_map_of_mem htext
  obtain ⟨r, hr, hcount⟩ := List.mem_map.mp hmem
  rw [h r hr] at hcount
  exact List.count_eq_zero.mp hcount.symm

/-- **The newlines of a page.**  There is one for each record, and besides in text one for each
newline in the name of its file.  So there is exactly one for each record, and splitting the page at
its newlines gives exactly the lines of the records and behind them nothing, if and only if the page
is JSON or no file name holds a newline. -/
theorem count_newline_output (style : Style) (bs : Bytes) :
    let clean := style = .json ∨ ∀ r ∈ records bs, '\n' ∉ r.file.toList
    (output style bs).count 0x0A =
        (records bs).length + ((records bs).map (Record.breaks style)).sum ∧
    ((output style bs).count 0x0A = (records bs).length ↔ clean) ∧
    ((output style bs).splitOn 0x0A = (lines style none (records bs)).map Utf8.encode ++ [[]] ↔
      clean) := by
  intro clean
  have hclean : clean ↔ ∀ r ∈ records bs, r.breaks style = 0 := by
    cases style with
    | text => simp [clean, Record.breaks, List.count_eq_zero]
    | json => simp [clean, Record.breaks]
  have hcount := count_newline_page (lines style none (records bs))
  rw [← output_eq, length_lines, map_count_newline_lines] at hcount
  have hone : (output style bs).count 0x0A = (records bs).length ↔ clean := by
    rw [hcount, hclean, Nat.add_eq_left, List.sum_eq_zero_iff, List.forall_mem_map]
  refine ⟨hcount, hone, ?_, ?_⟩
  · -- There is one part more than there are newlines, and one line for each record.
    intro hsplit
    have hlen := congrArg List.length hsplit
    rw [length_splitOn, List.length_append, List.length_map, length_lines] at hlen
    exact hone.mp (Nat.succ.inj hlen)
  · intro h
    rw [output_eq]
    exact splitOn_page (newline_notMem_of_mem_lines (hclean.mp h))

/-- A record whose file name holds a newline is shown by two lines. -/
theorem two_lines_of_newline_in_file :
    let r : Record := ⟨2, 100, 7, 4, 1, 0b00110000, 0, "a\nb.c", 12⟩
    ∃ bs, Record.encodeAll [r] = .ok bs ∧ (records bs).length = 1 ∧
      (output .text bs).count 0x0A = 2 := by
  intro r
  have hencode : Record.encodeAll [r] = .ok (Record.wires [r]) :=
    Record.encodeAll_eq_ok_iff.mpr ⟨by decide +kernel, rfl⟩
  have hrecords : records (Record.wires [r]) = [r] := (isCut_of_encodeAll hencode).records_eq
  refine ⟨Record.wires [r], hencode, by rw [hrecords]; rfl, ?_⟩
  rw [output_eq, count_newline_page, length_lines, map_count_newline_lines, hrecords]
  decide

end Transcript

end PacketLog
