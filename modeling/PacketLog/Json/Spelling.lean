/-
Rendered values are JSON text.

What is rendered of a value spells it, with an escape for every character that needs one, and as no
text spells two values, whoever reads JSON text reads this value in it and no other.

* `character_escape` — an escape spells the character that is escaped;
* `spells_chars` — what is rendered of a value spells it;
* `text_chars_iff` — nothing else can be read in it;
* `chars_append_inj` — where the text of a value ends can be told from the text.
-/
import PacketLog.Json.Unambiguous
import PacketLog.Numeral.RoundTrip

namespace PacketLog.Json

mutual

/-- The value that is rendered, as one that JSON text can stand for. -/
def toValue : Json → Value
  | .null => .null
  | .number n => .number n
  | .string s => .string s
  | .object members => .object (memberValues members)

def memberValues : List (String × Json) → List (String × Value)
  | [] => []
  | (key, value) :: members => (key, toValue value) :: memberValues members

end

theorem memberValues_eq (members : List (String × Json)) :
    memberValues members = members.map fun m => (m.1, m.2.toValue) := by
  induction members with
  | nil => rfl
  | cons m members ih => rw [memberValues, ih, List.map_cons]

/-! ### Numbers -/

theorem digits_ofNat (n : Nat) : Digits (Decimal.ofNat n).toList := by
  obtain ⟨c, cs, hcs, -⟩ := Decimal.exists_ofNat_eq_cons n
  exact ⟨by simp [hcs], fun c hc => Decimal.isDigit_of_mem_ofNat hc⟩

theorem digitsValue_ofNat (n : Nat) : digitsValue (Decimal.ofNat n).toList = n :=
  Decimal.value_ofNat n

theorem whole_ofNat (n : Nat) : Whole (Decimal.ofNat n).toList := by
  refine ⟨digits_ofNat n, fun hzero => ?_⟩
  have hdigit : ∀ d < 10, Decimal.digit d = '0' → d = 0 := by decide
  rw [Decimal.ofNat, String.toList_ofList] at hzero ⊢
  rw [List.head?_map] at hzero
  obtain ⟨d, hhead, hd⟩ := Option.map_eq_some_iff.mp hzero
  obtain rfl := hdigit d (Numeral.digits_lt (by decide) d (List.mem_of_head? hhead)) hd
  -- The digits of a number begin with a zero only if it is zero, and then the zero is all of them.
  have hn : n = 0 := by
    by_contra hne
    exact Numeral.head?_digits_ne_zero (by decide) hne hhead
  rw [hn, Numeral.digits_of_lt (by decide)]
  rfl

theorem magnitude_ofNat (n : Nat) : Magnitude (Decimal.ofNat n).toList n := by
  have h := Magnitude.intro (whole_ofNat n) .none .none
  rwa [digitsValue_ofNat, List.append_nil, List.append_nil, add_zero, zpow_zero, mul_one] at h

theorem number_ofInt (n : Int) : Number (Decimal.ofInt n).toList n := by
  cases n with
  | ofNat n =>
    have h := Number.plain (magnitude_ofNat n)
    simpa [Decimal.ofInt] using h
  | negSucc n =>
    have h := Number.minus (magnitude_ofNat (n + 1))
    rw [← Decimal.toList_ofInt_negSucc] at h
    rw [Int.cast_negSucc]
    exact h

/-! ### Strings -/

theorem hexDigitValue?_hexDigit :
    ∀ d < 16, hexDigitValue? (Quoted.hexDigit d) = some d := by decide

/-- The code of a control, of which only the last two digits are not zero. -/
theorem codeUnit?_control {n : Nat} (h : n < 0x100) :
    codeUnit? ['0', '0', Quoted.hexDigit (n / 16), Quoted.hexDigit (n % 16)] = some n := by
  have hzero : hexDigitValue? '0' = some 0 := rfl
  have hhigh := hexDigitValue?_hexDigit (n / 16) (by omega)
  have hlow := hexDigitValue?_hexDigit (n % 16) (by omega)
  have hvalue : Numeral.value 16 [0, 0, n / 16, n % 16] = n := by
    show ((0 * 16 + 0) * 16 + n / 16) * 16 + n % 16 = n
    omega
  simp only [codeUnit?, hzero, hhigh, hlow, Option.bind_eq_bind, Option.bind_some, hvalue]
  rfl

theorem character_escape (c : Char) : Character (escape c) c := by
  rw [escape]
  split_ifs with h1 h2 h3 h4 h5 h6 h7 h8
  · subst h1; exact .named (by decide)
  · subst h2; exact .named (by decide)
  · subst h3; exact .named (by decide)
  · subst h4; exact .named (by decide)
  · subst h5; exact .named (by decide)
  · subst h6; exact .named (by decide)
  · subst h7; exact .named (by decide)
  · -- The other controls have a code, which stands for a character as it is below the surrogates.
    have hcode := Character.code (codeUnit?_control (n := c.toNat) (by omega)) (.inl (by omega))
    rwa [Char.ofNat_toNat] at hcode
  · exact .plain (by omega) h1 h2

theorem characters_escape (cs : List Char) : Characters (cs.flatMap escape) cs := by
  induction cs with
  | nil => exact .nil
  | cons c cs ih =>
    rw [List.flatMap_cons]
    exact .cons (character_escape c) ih

theorem quotation_quote (s : String) : Quotation (quote s) s := by
  have h := Quotation.intro (s := s) (characters_escape s.toList)
  rwa [quote, List.append_assoc]

/-! ### Values -/

/-- A spelling without blanks around it. -/
def bare {α : Type} (core : List Char) (value : α) : Padded α :=
  ⟨[], core, [], value, List.forall_mem_nil _, List.forall_mem_nil _⟩

theorem chars_bare {α : Type} (core : List Char) (value : α) : (bare core value).chars = core := by
  rw [Padded.chars, bare, List.nil_append, List.append_nil]

def barePair (m : String × Json) : Padded String × Padded Value :=
  (bare (quote m.1) m.1, bare m.2.chars m.2.toValue)

theorem pairChars_barePair (m : String × Json) : pairChars (barePair m) = memberChars m := by
  rw [pairChars, barePair, chars_bare, chars_bare, memberChars, List.append_assoc]
  rfl

/-- The members of an object stand between its braces, with commas between them. -/
theorem memberChars_append_moreChars (m : String × Json) (ms : List (String × Json)) :
    memberChars m ++ moreChars ms =
      commaChars (((m :: ms).map barePair).map pairChars) ++ ['\x7d'] := by
  induction ms generalizing m with
  | nil =>
    rw [moreChars, List.map_singleton, List.map_singleton, commaChars_singleton,
      pairChars_barePair]
  | cons n ms ih =>
    rw [moreChars, List.append_assoc, ih n]
    simp only [List.map_cons, commaChars_cons_cons, pairChars_barePair, List.append_assoc,
      List.cons_append, List.nil_append]

mutual

/-- **What is rendered of a value spells it.** -/
theorem spells_chars : (v : Json) → Spells v.chars v.toValue
  | .null => by
    rw [chars, toValue]
    exact .null
  | .number n => by
    rw [chars, toValue]
    exact .number (number_ofInt n)
  | .string s => by
    rw [chars, toValue]
    exact .string (quotation_quote s)
  | .object [] => by
    rw [chars, toValue]
    exact .emptyObject (List.forall_mem_nil _)
  | .object (m :: ms) => by
    have hkeys : ∀ p ∈ (m :: ms).map barePair, Quotation p.1.core p.1.value := by
      intro p hp
      obtain ⟨n, -, rfl⟩ := List.mem_map.mp hp
      exact quotation_quote n.1
    have hvalues : ∀ p ∈ (m :: ms).map barePair, Spells p.2.core p.2.value := by
      intro p hp
      obtain ⟨n, hn, rfl⟩ := List.mem_map.mp hp
      exact spells_members (m :: ms) n hn
    have h := Spells.object (by simp) hkeys hvalues
    rw [← memberChars_append_moreChars, List.map_map] at h
    rw [chars, toValue, memberValues_eq, List.append_assoc]
    exact h

theorem spells_members : (ms : List (String × Json)) → ∀ m ∈ ms, Spells m.2.chars m.2.toValue
  | [] => List.forall_mem_nil _
  | (_, value) :: ms => List.forall_mem_cons.mpr ⟨spells_chars value, spells_members ms⟩

end

/-- **Nothing but the value can be read in its text.** -/
theorem text_chars_iff (v : Json) (w : Value) : Text v.chars w ↔ w = v.toValue := by
  have hself : Text v.chars v.toValue :=
    ⟨bare v.chars v.toValue, chars_bare _ _, rfl, spells_chars v⟩
  constructor
  · intro h
    exact h.unique hself
  · rintro rfl
    exact hself

mutual

theorem toValue_injective : (v w : Json) → v.toValue = w.toValue → v = w
  | .null, w, h => by
    cases w with
    | null => rfl
    | _ => simp [toValue] at h
  | .number m, w, h => by
    cases w with
    | number n =>
      rw [toValue, toValue] at h
      rw [Int.cast_injective (Value.number.inj h)]
    | _ => simp [toValue] at h
  | .string s, w, h => by
    cases w with
    | string t =>
      rw [toValue, toValue] at h
      rw [Value.string.inj h]
    | _ => simp [toValue] at h
  | .object ms, w, h => by
    cases w with
    | object ns =>
      rw [toValue, toValue] at h
      rw [memberValues_injective ms ns (Value.object.inj h)]
    | _ => simp [toValue] at h

theorem memberValues_injective : (ms ns : List (String × Json)) →
    memberValues ms = memberValues ns → ms = ns
  | [], ns, h => by
    cases ns with
    | nil => rfl
    | cons n ns => simp [memberValues] at h
  | (key, value) :: ms, ns, h => by
    cases ns with
    | nil => simp [memberValues] at h
    | cons n ns =>
      rw [memberValues, memberValues] at h
      obtain ⟨hmember, hmembers⟩ := List.cons.inj h
      obtain ⟨rfl, hvalue⟩ := Prod.mk.inj hmember
      rw [toValue_injective value n.2 hvalue, memberValues_injective ms ns hmembers]

end

/-- **A value ends where its text does**, if no more of a number follows. -/
theorem chars_append_inj (v w : Json) {cs ds : List Char} (hcs : Stops isNumeric cs)
    (hds : Stops isNumeric ds) (h : v.chars ++ cs = w.chars ++ ds) : v = w ∧ cs = ds := by
  obtain ⟨hvalue, htail⟩ := (spells_chars v).append_inj (spells_chars w) hcs hds h
  exact ⟨toValue_injective v w hvalue, htail⟩

/-- **Different values have different texts.** -/
theorem render_injective : Function.Injective render := by
  intro v w h
  have hchars : v.chars ++ [] = w.chars ++ [] := by
    rw [List.append_nil, List.append_nil]
    exact String.ofList_injective h
  exact (chars_append_inj v w stops_nil stops_nil hchars).1

end PacketLog.Json
