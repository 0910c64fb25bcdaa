/-
JSON text has one reading.

Every part of a text ends where it can be told to end: blanks and numbers at the first character
that is none of theirs, a string at the first quote that is no part of an escape, and what stands
between brackets at the bracket that closes it.  So no characters spell two values.

* `Number.unique` — digits, a fraction and an exponent are told apart in one way;
* `Character.append_inj`, `Quotation.append_inj` — a character of a string, and a string, end where
  their spelling does;
* `Spells.append_inj` — so does a value, if its spelling is not followed by more of a number;
* `Text.unique` — a text stands for one value.
-/
import PacketLog.Json.Grammar
import PacketLog.Numeral.RoundTrip

namespace PacketLog.Json

variable {as bs cs ds xs ys : List Char}

/-- None of a class of characters comes next. -/
def Stops (p : Char → Bool) (cs : List Char) : Prop := ∀ c ∈ cs.head?, p c = false

theorem stops_nil {p : Char → Bool} : Stops p [] := by
  rintro c ⟨⟩

theorem stops_cons {p : Char → Bool} {c : Char} (h : p c = false) : Stops p (c :: cs) := by
  rintro d ⟨⟩
  exact h

/-- A run of characters of a class ends at the first character that is none of them. -/
theorem run_append_inj {p : Char → Bool} (has : ∀ c ∈ as, p c = true) (hbs : ∀ c ∈ bs, p c = true)
    (hxs : Stops p xs) (hys : Stops p ys) (h : as ++ xs = bs ++ ys) : as = bs ∧ xs = ys := by
  obtain rfl : as = bs := by
    rw [← takeWhile_append_of_stops has hxs, h, takeWhile_append_of_stops hbs hys]
  exact ⟨rfl, List.append_cancel_left h⟩

/-! ### Numbers -/

theorem Digits.head_ne {c : Char} (h : Digits (c :: cs)) {d : Char} (hd : d.isDigit = false) :
    c ≠ d := by
  rintro rfl
  have hc := h.2 c (by simp)
  rw [hd] at hc
  exact absurd hc (by simp)

theorem SignedDigits.unique {d e : ℤ} (hd : SignedDigits cs d) (he : SignedDigits cs e) :
    d = e := by
  cases hd with
  | plain h =>
    cases he with
    | plain h' => rfl
    | plus h' => exact absurd rfl (h.head_ne (by decide))
    | minus h' => exact absurd rfl (h.head_ne (by decide))
  | plus h =>
    cases he with
    | plain h' => exact absurd rfl (h'.head_ne (by decide))
    | plus h' => rfl
  | minus h =>
    cases he with
    | plain h' => exact absurd rfl (h'.head_ne (by decide))
    | minus h' => rfl

theorem Exponent.unique {d e : ℤ} (hd : Exponent cs d) (he : Exponent cs e) : d = e := by
  cases hd with
  | none =>
    cases he with
    | none => rfl
  | some hmark h =>
    cases he with
    | some hmark' h' => exact h.unique h'

/-- An exponent begins with neither a digit nor a point. -/
theorem Exponent.stops {e : ℤ} (h : Exponent cs e) : Stops (fun c => c.isDigit || c == '.') cs := by
  cases h with
  | none => exact stops_nil
  | some hmark h =>
    rcases hmark with rfl | rfl
    · exact stops_cons rfl
    · exact stops_cons rfl

theorem Exponent.stops_isDigit {e : ℤ} (h : Exponent cs e) : Stops Char.isDigit cs :=
  fun c hc => (Bool.or_eq_false_iff.mp (h.stops c hc)).1

theorem Exponent.ne_point {e : ℤ} (h : Exponent ('.' :: cs) e) : False :=
  absurd (h.stops '.' rfl) (by decide)

theorem Fraction.stops_isDigit {f : ℚ} {e : ℤ} (hf : Fraction as f) (he : Exponent bs e) :
    Stops Char.isDigit (as ++ bs) := by
  cases hf with
  | none => exact he.stops_isDigit
  | some h => exact stops_cons rfl

theorem Fraction.append_inj {f g : ℚ} {d e : ℤ} (hf : Fraction as f) (hg : Fraction bs g)
    (hd : Exponent xs d) (he : Exponent ys e) (h : as ++ xs = bs ++ ys) : f = g ∧ xs = ys := by
  cases hf with
  | none =>
    cases hg with
    | none => exact ⟨rfl, h⟩
    | some hdigits =>
      rw [List.nil_append, List.cons_append] at h
      exact (h ▸ hd).ne_point.elim
  | some hdigits =>
    cases hg with
    | none =>
      rw [List.nil_append, List.cons_append] at h
      exact (h ▸ he).ne_point.elim
    | some hdigits' =>
      obtain ⟨rfl, htail⟩ := run_append_inj hdigits.2 hdigits'.2 hd.stops_isDigit he.stops_isDigit
        (List.cons.inj h).2
      exact ⟨rfl, htail⟩

theorem Magnitude.unique {p q : ℚ} (hp : Magnitude cs p) (hq : Magnitude cs q) : p = q := by
  obtain @⟨whole, fraction, exponent, f, d, hwhole, hf, hd⟩ := hp
  generalize htext : whole ++ (fraction ++ exponent) = cs at hq
  obtain @⟨whole', fraction', exponent', g, e, hwhole', hg, he⟩ := hq
  -- Digits end at the point or the mark of the exponent, whichever comes first.
  obtain ⟨rfl, htail⟩ := run_append_inj hwhole.1.2 hwhole'.1.2 (hf.stops_isDigit hd)
    (hg.stops_isDigit he) htext
  obtain ⟨rfl, rfl⟩ := hf.append_inj hg hd he htail
  rw [hd.unique he]

theorem Magnitude.exists_eq_cons {q : ℚ} (h : Magnitude cs q) :
    ∃ c rest, cs = c :: rest ∧ c.isDigit = true := by
  obtain @⟨whole, fraction, exponent, f, e, hwhole, hf, he⟩ := h
  obtain ⟨c, rest, rfl⟩ := List.exists_cons_of_ne_nil hwhole.1.1
  exact ⟨c, rest ++ (fraction ++ exponent), rfl, hwhole.1.2 c (by simp)⟩

theorem Magnitude.head_ne_minus {q : ℚ} (h : Magnitude ('-' :: cs) q) : False := by
  obtain ⟨c, rest, heq, hdigit⟩ := h.exists_eq_cons
  rw [← (List.cons.inj heq).1] at hdigit
  exact absurd hdigit (by decide)

theorem Number.unique {p q : ℚ} (hp : Number cs p) (hq : Number cs q) : p = q := by
  cases hp with
  | plain hp =>
    cases hq with
    | plain hq => exact hp.unique hq
    | minus hq => exact hp.head_ne_minus.elim
  | minus hp =>
    cases hq with
    | plain hq => exact hq.head_ne_minus.elim
    | minus hq => rw [hp.unique hq]

/-- Whether a character can stand in a number. -/
def isNumeric (c : Char) : Bool :=
  c.isDigit || c == '.' || c == 'e' || c == 'E' || c == '+' || c == '-'

theorem Digits.isNumeric (h : Digits cs) : ∀ c ∈ cs, isNumeric c = true := by
  intro c hc
  rw [Json.isNumeric, h.2 c hc]
  rfl

theorem Fraction.isNumeric {f : ℚ} (h : Fraction cs f) : ∀ c ∈ cs, isNumeric c = true := by
  cases h with
  | none => exact List.forall_mem_nil _
  | some h => exact List.forall_mem_cons.mpr ⟨rfl, h.isNumeric⟩

theorem SignedDigits.isNumeric {e : ℤ} (h : SignedDigits cs e) : ∀ c ∈ cs, isNumeric c = true := by
  cases h with
  | plain h => exact h.isNumeric
  | plus h => exact List.forall_mem_cons.mpr ⟨rfl, h.isNumeric⟩
  | minus h => exact List.forall_mem_cons.mpr ⟨rfl, h.isNumeric⟩

theorem Exponent.isNumeric {e : ℤ} (h : Exponent cs e) : ∀ c ∈ cs, isNumeric c = true := by
  cases h with
  | none => exact List.forall_mem_nil _
  | some hmark h =>
    refine List.forall_mem_cons.mpr ⟨?_, h.isNumeric⟩
    rcases hmark with rfl | rfl
    · rfl
    · rfl

theorem Magnitude.isNumeric {q : ℚ} (h : Magnitude cs q) : ∀ c ∈ cs, isNumeric c = true := by
  obtain @⟨whole, fraction, exponent, f, e, hwhole, hf, he⟩ := h
  exact List.forall_mem_append.mpr
    ⟨hwhole.1.isNumeric, List.forall_mem_append.mpr ⟨hf.isNumeric, he.isNumeric⟩⟩

theorem Number.isNumeric {q : ℚ} (h : Number cs q) : ∀ c ∈ cs, isNumeric c = true := by
  cases h with
  | plain h => exact h.isNumeric
  | minus h => exact List.forall_mem_cons.mpr ⟨rfl, h.isNumeric⟩

theorem Number.append_inj {p q : ℚ} (hp : Number as p) (hq : Number bs q)
    (hxs : Stops Json.isNumeric xs) (hys : Stops Json.isNumeric ys) (h : as ++ xs = bs ++ ys) :
    p = q ∧ xs = ys := by
  obtain ⟨rfl, htail⟩ := run_append_inj hp.isNumeric hq.isNumeric hxs hys h
  exact ⟨hp.unique hq, htail⟩

/-! ### Strings -/

theorem length_of_codeUnit? {n : Nat} (h : codeUnit? cs = some n) : cs.length = 4 := by
  unfold codeUnit? at h
  split at h
  · rfl
  · exact absurd h (by simp)

/-- The four digits of a code end where they do. -/
theorem codeUnit_append_inj {m n : Nat} (hm : codeUnit? as = some m) (hn : codeUnit? bs = some n)
    (h : as ++ xs = bs ++ ys) : as = bs ∧ m = n ∧ xs = ys := by
  obtain ⟨rfl, htail⟩ :=
    List.append_inj h ((length_of_codeUnit? hm).trans (length_of_codeUnit? hn).symm)
  exact ⟨rfl, Option.some.inj (hm.symm.trans hn), htail⟩

theorem named_unique {mark c d : Char} (hc : (mark, c) ∈ namedEscapes)
    (hd : (mark, d) ∈ namedEscapes) : c = d := by
  have hall : ∀ p ∈ namedEscapes, ∀ q ∈ namedEscapes, p.1 = q.1 → p.2 = q.2 := by decide
  exact hall _ hc _ hd rfl

theorem named_ne_code {c : Char} (h : ('u', c) ∈ namedEscapes) : False := by
  have hall : ∀ p ∈ namedEscapes, p.1 ≠ 'u' := by decide
  exact hall _ h rfl

theorem append_eq_of_codes (h : '\\' :: 'u' :: as ++ xs = '\\' :: 'u' :: bs ++ ys) :
    as ++ xs = bs ++ ys :=
  (List.cons.inj (List.cons.inj h).2).2

/-- A code that stands for a character alone is not the first of a pair. -/
theorem not_isValidChar_of_high {n : Nat} (hvalid : n.isValidChar)
    (h : 0xD800 ≤ n ∧ n < 0xDC00) : False := by
  rcases hvalid with hlow | ⟨hhigh, -⟩
  · omega
  · omega

/-- A character inside a string ends where its spelling does. -/
theorem Character.append_inj {c d : Char} (hc : Character as c) (hd : Character bs d)
    (h : as ++ xs = bs ++ ys) : c = d ∧ xs = ys := by
  -- A backslash tells an escape, the mark behind it a code, and the code the first one of a pair.
  cases hc with
  | plain hcontrol hquote hslash =>
    cases hd with
    | plain => exact ⟨(List.cons.inj h).1, (List.cons.inj h).2⟩
    | _ => exact absurd (List.cons.inj h).1 hslash
  | named hmark =>
    cases hd with
    | plain _ _ hslash' => exact absurd (List.cons.inj h).1.symm hslash'
    | named hmark' =>
      obtain ⟨rfl, htail⟩ := List.cons.inj (List.cons.inj h).2
      exact ⟨named_unique hmark hmark', htail⟩
    | code =>
      obtain ⟨rfl, -⟩ := List.cons.inj (List.cons.inj h).2
      exact (named_ne_code hmark).elim
    | pair =>
      obtain ⟨rfl, -⟩ := List.cons.inj (List.cons.inj h).2
      exact (named_ne_code hmark).elim
  | code hn hvalid =>
    cases hd with
    | plain _ _ hslash' => exact absurd (List.cons.inj h).1.symm hslash'
    | named hmark' =>
      obtain ⟨rfl, -⟩ := List.cons.inj (List.cons.inj h).2
      exact (named_ne_code hmark').elim
    | code hn' =>
      obtain ⟨-, rfl, htail⟩ := codeUnit_append_inj hn hn' (append_eq_of_codes h)
      exact ⟨rfl, htail⟩
    | pair hhigh' hlow' hrange' =>
      have htext := append_eq_of_codes h
      rw [List.append_assoc] at htext
      obtain ⟨-, rfl, -⟩ := codeUnit_append_inj hn hhigh' htext
      exact (not_isValidChar_of_high hvalid hrange').elim
  | pair hhigh hlow hrange hrangeLow =>
    cases hd with
    | plain _ _ hslash' => exact absurd (List.cons.inj h).1.symm hslash'
    | named hmark' =>
      obtain ⟨rfl, -⟩ := List.cons.inj (List.cons.inj h).2
      exact (named_ne_code hmark').elim
    | code hn' hvalid' =>
      have htext := append_eq_of_codes h
      rw [List.append_assoc] at htext
      obtain ⟨-, rfl, -⟩ := codeUnit_append_inj hhigh hn' htext
      exact (not_isValidChar_of_high hvalid' hrange).elim
    | pair hhigh' hlow' =>
      have htext := append_eq_of_codes h
      rw [List.append_assoc, List.append_assoc] at htext
      obtain ⟨-, rfl, hsecond⟩ := codeUnit_append_inj hhigh hhigh' htext
      obtain ⟨-, rfl, htail⟩ :=
        codeUnit_append_inj hlow hlow' (append_eq_of_codes hsecond)
      exact ⟨rfl, htail⟩

/-- The end of a string is no character of it. -/
theorem Character.append_ne_quote {c : Char} (h : Character cs c) : cs ++ xs ≠ '"' :: ys := by
  intro heq
  cases h with
  | plain hcontrol hquote hslash => exact hquote (List.cons.inj heq).1
  | _ => exact absurd (List.cons.inj heq).1 (by decide)

theorem Characters.append_inj {s t : List Char} (hs : Characters as s) (ht : Characters bs t)
    (h : as ++ '"' :: xs = bs ++ '"' :: ys) : s = t ∧ xs = ys := by
  -- The quote is the beginning of no character, so neither of the texts can end first.
  induction hs generalizing bs t with
  | nil =>
    cases ht with
    | nil => exact ⟨rfl, (List.cons.inj h).2⟩
    | cons hd ht =>
      rw [List.nil_append, List.append_assoc] at h
      exact absurd h.symm hd.append_ne_quote
  | cons hc hs ih =>
    rw [List.append_assoc] at h
    cases ht with
    | nil => exact absurd h hc.append_ne_quote
    | cons hd ht =>
      rw [List.append_assoc] at h
      obtain ⟨rfl, htail⟩ := hc.append_inj hd h
      obtain ⟨rfl, rfl⟩ := ih ht htail
      exact ⟨rfl, rfl⟩

theorem Quotation.append_inj {s t : String} (hs : Quotation as s) (ht : Quotation bs t)
    (h : as ++ xs = bs ++ ys) : s = t ∧ xs = ys := by
  obtain @⟨cs, s, hs⟩ := hs
  obtain @⟨ds, t, ht⟩ := ht
  rw [List.cons_append, List.cons_append, List.append_assoc, List.append_assoc] at h
  obtain ⟨hst, htail⟩ := hs.append_inj ht (List.cons.inj h).2
  exact ⟨String.toList_inj.mp hst, htail⟩

/-! ### Blanks around an item -/

theorem eq_of_isBlank {c : Char} (h : isBlank c = true) :
    c = ' ' ∨ c = '\t' ∨ c = '\n' ∨ c = '\r' := by
  simpa [isBlank, or_assoc] using h

/-- What may follow an item: neither a blank, which would belong to it, nor more of a number. -/
def Apart (cs : List Char) : Prop := Stops (fun c => isBlank c || isNumeric c) cs

theorem Apart.stops_isBlank (h : Apart cs) : Stops isBlank cs :=
  fun c hc => (Bool.or_eq_false_iff.mp (h c hc)).1

theorem Apart.stops_isNumeric (h : Apart cs) : Stops isNumeric cs :=
  fun c hc => (Bool.or_eq_false_iff.mp (h c hc)).2

theorem Apart.stops_isNumeric_append (hcs : Blank cs) (hxs : Apart xs) :
    Stops isNumeric (cs ++ xs) := by
  cases cs with
  | nil => exact hxs.stops_isNumeric
  | cons c cs =>
    refine stops_cons ?_
    rcases eq_of_isBlank (hcs c (by simp)) with rfl | rfl | rfl | rfl
    · rfl
    · rfl
    · rfl
    · rfl

/-- A bracket that closes an array or an object. -/
def Closes (c : Char) : Prop := c = ']' ∨ c = '\x7d'

theorem Closes.apart {c : Char} (h : Closes c) : Apart (c :: cs) := by
  rcases h with rfl | rfl
  · exact stops_cons rfl
  · exact stops_cons rfl

theorem Closes.ne_comma {c : Char} (h : Closes c) : c ≠ ',' := by
  rcases h with rfl | rfl
  · decide
  · decide

/-- Begins with neither a blank nor a bracket that closes anything. -/
def Solid (cs : List Char) : Prop :=
  ∃ c rest, cs = c :: rest ∧ isBlank c = false ∧ ¬ Closes c

theorem Solid.append (h : Solid cs) (ds : List Char) : Solid (cs ++ ds) := by
  obtain ⟨c, rest, rfl, hc⟩ := h
  exact ⟨c, rest ++ ds, rfl, hc⟩

theorem Solid.stops_isBlank (h : Solid cs) : Stops isBlank (cs ++ xs) := by
  obtain ⟨c, rest, rfl, hblank, -⟩ := h
  exact stops_cons hblank

section

variable {α β : Type} {p q : Padded α}

/-- An item with blanks around it ends where its text does, if it does so without them. -/
theorem Padded.append_inj (hp : Solid p.core) (hq : Solid q.core)
    (hcore : ∀ cs ds, Stops isNumeric cs → Stops isNumeric ds →
      p.core ++ cs = q.core ++ ds → p.value = q.value ∧ cs = ds)
    (hxs : Apart xs) (hys : Apart ys) (h : p.chars ++ xs = q.chars ++ ys) :
    p.value = q.value ∧ xs = ys := by
  simp only [Padded.chars, List.append_assoc] at h
  -- The blanks in front end where the core begins, and those behind it where the next item does.
  obtain ⟨-, hbehind⟩ :=
    run_append_inj p.blank_before q.blank_before hp.stops_isBlank hq.stops_isBlank h
  obtain ⟨hvalue, hafter⟩ := hcore _ _ (Apart.stops_isNumeric_append p.blank_after hxs)
    (Apart.stops_isNumeric_append q.blank_after hys) hbehind
  obtain ⟨-, htail⟩ := run_append_inj p.blank_after q.blank_after hxs.stops_isBlank
    hys.stops_isBlank hafter
  exact ⟨hvalue, htail⟩

/-! ### Items with commas between them -/

theorem commaChars_singleton (cs : List Char) : commaChars [cs] = cs :=
  List.intercalate_singleton

theorem commaChars_cons_cons (cs ds : List Char) (rest : List (List Char)) :
    commaChars (cs :: ds :: rest) = cs ++ ',' :: commaChars (ds :: rest) := by
  rw [commaChars, List.intercalate_cons_cons, List.append_assoc]
  rfl

theorem exists_commaChars_eq (cs : List Char) (rest : List (List Char)) :
    ∃ tail, commaChars (cs :: rest) = cs ++ tail := by
  cases rest with
  | nil => exact ⟨[], by rw [commaChars_singleton, List.append_nil]⟩
  | cons ds rest => exact ⟨_, commaChars_cons_cons cs ds rest⟩

/-- Blanks between brackets are no items. -/
theorem blank_append_ne {text : α → List Char} {close : Char} {is : List α}
    (hclose : Closes close) (hcs : Blank cs) (his : is ≠ [])
    (hitem : ∀ i ∈ is, ∃ before core, Blank before ∧ Solid core ∧ text i = before ++ core) :
    cs ++ close :: xs ≠ commaChars (is.map text) ++ ys := by
  intro h
  obtain ⟨i, is, rfl⟩ := List.exists_cons_of_ne_nil his
  obtain ⟨before, core, hbefore, hcore, hi⟩ := hitem i (by simp)
  obtain ⟨more, hmore⟩ := exists_commaChars_eq (text i) (is.map text)
  rw [List.map_cons, hmore, hi, List.append_assoc, List.append_assoc] at h
  obtain ⟨-, hbehind⟩ :=
    run_append_inj hcs hbefore hclose.apart.stops_isBlank hcore.stops_isBlank h
  obtain ⟨c, rest, rfl, -, hopen⟩ := hcore
  obtain rfl := (List.cons.inj hbehind).1
  exact hopen hclose

theorem blank_append_inj {close : Char} (hclose : Closes close) (hcs : Blank cs)
    (hds : Blank ds) (h : cs ++ close :: xs = ds ++ close :: ys) : xs = ys := by
  have htails := (run_append_inj hcs hds hclose.apart.stops_isBlank hclose.apart.stops_isBlank h).2
  exact (List.cons.inj htails).2

/-- Items end at the bracket that closes them, if each of them ends where its text does. -/
theorem commaChars_append_inj {text : α → List Char} {value : α → β} {close : Char} {is js : List α}
    (hclose : Closes close) (his : is ≠ []) (hjs : js ≠ [])
    (hitem : ∀ i ∈ is, ∀ j ∈ js, ∀ cs ds, Apart cs → Apart ds →
      text i ++ cs = text j ++ ds → value i = value j ∧ cs = ds)
    (h : commaChars (is.map text) ++ close :: xs = commaChars (js.map text) ++ close :: ys) :
    is.map value = js.map value ∧ xs = ys := by
  have hcomma {cs : List Char} : Apart (',' :: cs) := stops_cons rfl
  -- Behind the first item stands a comma or the bracket, and it is the same in both texts.
  induction is generalizing js with
  | nil => exact absurd rfl his
  | cons i is ih =>
    cases js with
    | nil => exact absurd rfl hjs
    | cons j js =>
      have hfirst := hitem i (by simp) j (by simp)
      cases is with
      | nil =>
        cases js with
        | nil =>
          simp only [List.map_cons, List.map_nil, commaChars_singleton] at h ⊢
          obtain ⟨hvalue, htail⟩ := hfirst _ _ hclose.apart hclose.apart h
          exact ⟨by rw [hvalue], (List.cons.inj htail).2⟩
        | cons j' js =>
          simp only [List.map_cons, List.map_nil, commaChars_singleton, commaChars_cons_cons,
            List.append_assoc, List.cons_append] at h
          obtain ⟨-, htail⟩ := hfirst _ _ hclose.apart hcomma h
          exact absurd (List.cons.inj htail).1 hclose.ne_comma
      | cons i' is =>
        cases js with
        | nil =>
          simp only [List.map_cons, List.map_nil, commaChars_singleton, commaChars_cons_cons,
            List.append_assoc, List.cons_append] at h
          obtain ⟨-, htail⟩ := hfirst _ _ hcomma hclose.apart h
          exact absurd (List.cons.inj htail).1.symm hclose.ne_comma
        | cons j' js =>
          simp only [List.map_cons, commaChars_cons_cons, List.append_assoc,
            List.cons_append] at h
          obtain ⟨hvalue, htail⟩ := hfirst _ _ hcomma hcomma h
          obtain ⟨hvalues, hxs⟩ := ih (List.cons_ne_nil i' is) (List.cons_ne_nil j' js)
            (fun k hk l hl => hitem k (by simp [hk]) l (by simp [hl])) (List.cons.inj htail).2
          exact ⟨by rw [List.map_cons, hvalue, hvalues, ← List.map_cons], hxs⟩

end

/-! ### Values -/

/-- Which words or signs a value is spelled with. -/
inductive Form where
  | null
  | truth (b : Bool)
  | number
  | string
  | array
  | object
  deriving DecidableEq

def Value.form : Value → Form
  | .null => .null
  | .truth b => .truth b
  | .number _ => .number
  | .string _ => .string
  | .array _ => .array
  | .object _ => .object

/-- The form of the values that begin with a character, if there are any. -/
def Form.ofChar? (c : Char) : Option Form :=
  if c = 'n' then some .null
  else if c = 't' then some (.truth true)
  else if c = 'f' then some (.truth false)
  else if c = '"' then some .string
  else if c = '[' then some .array
  else if c = '\x7b' then some .object
  else if c = '-' ∨ c.isDigit = true then some .number
  else none

theorem Form.ofChar?_of_isDigit {c : Char} (h : c.isDigit = true) :
    Form.ofChar? c = some .number := by
  have hne {d : Char} (hd : d.isDigit = false) : c ≠ d := by
    rintro rfl
    rw [hd] at h
    exact absurd h (by simp)
  rw [Form.ofChar?, if_neg (hne rfl), if_neg (hne rfl), if_neg (hne rfl), if_neg (hne rfl),
    if_neg (hne rfl), if_neg (hne rfl), if_pos (.inr h)]

/-- The first character of a spelling tells the form of the value. -/
theorem Spells.exists_eq_cons {v : Value} (h : Spells cs v) :
    ∃ c rest, cs = c :: rest ∧ Form.ofChar? c = some v.form := by
  cases h with
  | null => exact ⟨'n', _, rfl, rfl⟩
  | true => exact ⟨'t', _, rfl, rfl⟩
  | false => exact ⟨'f', _, rfl, rfl⟩
  | number h =>
    cases h with
    | plain h =>
      obtain ⟨c, rest, hcs, hdigit⟩ := h.exists_eq_cons
      exact ⟨c, rest, hcs, Form.ofChar?_of_isDigit hdigit⟩
    | minus h => exact ⟨'-', _, rfl, rfl⟩
  | string h =>
    obtain ⟨_⟩ := h
    exact ⟨'"', _, rfl, rfl⟩
  | emptyArray => exact ⟨'[', _, rfl, rfl⟩
  | array => exact ⟨'[', _, rfl, rfl⟩
  | emptyObject => exact ⟨'\x7b', _, rfl, rfl⟩
  | object => exact ⟨'\x7b', _, rfl, rfl⟩

theorem Spells.solid {v : Value} (h : Spells cs v) : Solid cs := by
  obtain ⟨c, rest, hcs, hform⟩ := h.exists_eq_cons
  have hne {d : Char} (hd : Form.ofChar? d = none) : c ≠ d := by
    rintro rfl
    rw [hd] at hform
    exact absurd hform (by simp)
  refine ⟨c, rest, hcs, ?_, fun hclose => hclose.elim (hne rfl) (hne rfl)⟩
  by_contra hblank
  rcases eq_of_isBlank (eq_true_of_ne_false hblank) with hc | hc | hc | hc
  · exact hne rfl hc
  · exact hne rfl hc
  · exact hne rfl hc
  · exact hne rfl hc

theorem Quotation.solid {s : String} (h : Quotation cs s) : Solid cs := by
  obtain ⟨_⟩ := h
  exact ⟨'"', _, rfl, rfl, fun hclose => hclose.elim (by decide) (by decide)⟩

theorem Spells.form_eq {v w : Value} (hv : Spells as v) (hw : Spells bs w)
    (h : as ++ xs = bs ++ ys) : v.form = w.form := by
  obtain ⟨c, rest, rfl, hc⟩ := hv.exists_eq_cons
  obtain ⟨d, rest', rfl, hd⟩ := hw.exists_eq_cons
  rw [← (List.cons.inj h).1, hc] at hd
  exact Option.some.inj hd

theorem Padded.append_inj_of_spells {i j : Padded Value} (hi : Spells i.core i.value)
    (hj : Spells j.core j.value)
    (hcore : ∀ {w : Value} {bs xs ys : List Char}, Spells bs w → Stops isNumeric xs →
      Stops isNumeric ys → i.core ++ xs = bs ++ ys → i.value.form = w.form →
        i.value = w ∧ xs = ys)
    (hcs : Apart cs) (hds : Apart ds) (h : i.chars ++ cs = j.chars ++ ds) :
    i.value = j.value ∧ cs = ds := by
  refine Padded.append_inj hi.solid hj.solid ?_ hcs hds h
  intro xs ys hxs hys hij
  exact hcore hj hxs hys hij (hi.form_eq hj hij)

theorem pairChars_append (m : Padded String × Padded Value) (cs : List Char) :
    pairChars m ++ cs = m.1.chars ++ ':' :: (m.2.chars ++ cs) := by
  rw [pairChars, List.append_assoc, List.cons_append]

theorem exists_pairChars_eq {m : Padded String × Padded Value} (h : Quotation m.1.core m.1.value) :
    ∃ core, Solid core ∧ pairChars m = m.1.before ++ core := by
  refine ⟨m.1.core ++ (m.1.after ++ ':' :: m.2.chars), h.solid.append _, ?_⟩
  rw [pairChars, Padded.chars, List.append_assoc, List.append_assoc]

/-- A member of an object ends where its value does. -/
theorem pairChars_append_inj {m n : Padded String × Padded Value}
    (hm : Quotation m.1.core m.1.value) (hn : Quotation n.1.core n.1.value)
    (hvalue : m.2.chars ++ cs = n.2.chars ++ ds → m.2.value = n.2.value ∧ cs = ds)
    (h : pairChars m ++ cs = pairChars n ++ ds) :
    (m.1.value, m.2.value) = (n.1.value, n.2.value) ∧ cs = ds := by
  have hcolon {zs : List Char} : Apart (':' :: zs) := stops_cons rfl
  rw [pairChars_append, pairChars_append] at h
  obtain ⟨hkey, htail⟩ := Padded.append_inj hm.solid hn.solid
    (fun xs ys _ _ hcore => hm.append_inj hn hcore) hcolon hcolon h
  obtain ⟨hmember, hrest⟩ := hvalue (List.cons.inj htail).2
  exact ⟨by rw [hkey, hmember], hrest⟩

/-- **A value ends where its spelling does**, if no more of a number follows. -/
theorem Spells.append_inj {v w : Value} (hv : Spells as v) (hw : Spells bs w)
    (hxs : Stops isNumeric xs) (hys : Stops isNumeric ys) (h : as ++ xs = bs ++ ys) :
    v = w ∧ xs = ys := by
  -- The forms agree, so that each case is about two values of one form; the induction is on what
  -- stands between their brackets.
  have hform := hv.form_eq hw h
  induction hv generalizing bs w xs ys with
  | null =>
    cases hw with
    | null => exact ⟨rfl, List.append_cancel_left h⟩
    | _ => exact absurd hform (by simp [Value.form])
  | true =>
    cases hw with
    | true => exact ⟨rfl, List.append_cancel_left h⟩
    | _ => exact absurd hform (by simp [Value.form])
  | false =>
    cases hw with
    | false => exact ⟨rfl, List.append_cancel_left h⟩
    | _ => exact absurd hform (by simp [Value.form])
  | number hp =>
    cases hw with
    | number hq =>
      obtain ⟨rfl, htail⟩ := hp.append_inj hq hxs hys h
      exact ⟨rfl, htail⟩
    | _ => exact absurd hform (by simp [Value.form])
  | string hs =>
    cases hw with
    | string ht =>
      obtain ⟨rfl, htail⟩ := hs.append_inj ht h
      exact ⟨rfl, htail⟩
    | _ => exact absurd hform (by simp [Value.form])
  | emptyArray hblank =>
    simp only [List.cons_append, List.append_assoc, List.nil_append] at h
    cases hw with
    | emptyArray hblank' =>
      simp only [List.cons_append, List.append_assoc, List.nil_append] at h
      exact ⟨rfl, blank_append_inj (.inl rfl) hblank hblank' (List.cons.inj h).2⟩
    | array hjs hitems' =>
      simp only [List.cons_append, List.append_assoc, List.nil_append] at h
      refine absurd (List.cons.inj h).2 (blank_append_ne (.inl rfl) hblank hjs fun j hj => ?_)
      exact ⟨j.before, _, j.blank_before, (hitems' j hj).solid.append _, rfl⟩
    | _ => exact absurd hform (by simp [Value.form])
  | array his hitems ih =>
    simp only [List.cons_append, List.append_assoc, List.nil_append] at h
    cases hw with
    | emptyArray hblank' =>
      simp only [List.cons_append, List.append_assoc, List.nil_append] at h
      refine absurd (List.cons.inj h).2.symm (blank_append_ne (.inl rfl) hblank' his fun i hi => ?_)
      exact ⟨i.before, _, i.blank_before, (hitems i hi).solid.append _, rfl⟩
    | array hjs hitems' =>
      simp only [List.cons_append, List.append_assoc, List.nil_append] at h
      obtain ⟨hvalues, htail⟩ := commaChars_append_inj (.inl rfl) his hjs
        (fun i hi j hj cs ds hcs hds hij => Padded.append_inj_of_spells (hitems i hi)
          (hitems' j hj) (ih i hi) hcs hds hij) (List.cons.inj h).2
      exact ⟨by rw [hvalues], htail⟩
    | _ => exact absurd hform (by simp [Value.form])
  | emptyObject hblank =>
    simp only [List.cons_append, List.append_assoc, List.nil_append] at h
    cases hw with
    | emptyObject hblank' =>
      simp only [List.cons_append, List.append_assoc, List.nil_append] at h
      exact ⟨rfl, blank_append_inj (.inr rfl) hblank hblank' (List.cons.inj h).2⟩
    | object hns hkeys' hvalues' =>
      simp only [List.cons_append, List.append_assoc, List.nil_append] at h
      refine absurd (List.cons.inj h).2 (blank_append_ne (.inr rfl) hblank hns fun n hn => ?_)
      obtain ⟨core, hsolid, hpair⟩ := exists_pairChars_eq (hkeys' n hn)
      exact ⟨n.1.before, core, n.1.blank_before, hsolid, hpair⟩
    | _ => exact absurd hform (by simp [Value.form])
  | object hms hkeys hvalues ih =>
    simp only [List.cons_append, List.append_assoc, List.nil_append] at h
    cases hw with
    | emptyObject hblank' =>
      simp only [List.cons_append, List.append_assoc, List.nil_append] at h
      refine absurd (List.cons.inj h).2.symm (blank_append_ne (.inr rfl) hblank' hms fun m hm => ?_)
      obtain ⟨core, hsolid, hpair⟩ := exists_pairChars_eq (hkeys m hm)
      exact ⟨m.1.before, core, m.1.blank_before, hsolid, hpair⟩
    | object hns hkeys' hvalues' =>
      simp only [List.cons_append, List.append_assoc, List.nil_append] at h
      obtain ⟨hpairs, htail⟩ := commaChars_append_inj (.inr rfl) hms hns
        (fun m hm n hn cs ds hcs hds hmn => pairChars_append_inj (hkeys m hm) (hkeys' n hn)
          (Padded.append_inj_of_spells (hvalues m hm) (hvalues' n hn) (ih m hm) hcs hds) hmn)
        (List.cons.inj h).2
      exact ⟨by rw [hpairs], htail⟩
    | _ => exact absurd hform (by simp [Value.form])

/-- **A text stands for one value.** -/
theorem Text.unique {v w : Value} (hv : Text cs v) (hw : Text cs w) : v = w := by
  obtain ⟨p, hp, rfl, hv⟩ := hv
  obtain ⟨q, hq, rfl, hw⟩ := hw
  have hchars : p.chars ++ [] = q.chars ++ [] := by rw [hp, hq]
  exact (Padded.append_inj hv.solid hw.solid (fun _ _ hxs hys => hv.append_inj hw hxs hys)
    stops_nil stops_nil hchars).1

end PacketLog.Json
