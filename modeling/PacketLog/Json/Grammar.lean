/-
The grammar of JSON text.

A value is spelled by a word, a number, a string between quotes, or items between brackets with
commas between them; blanks may stand around every item and around the whole.  The grammar is that
of JSON in full, with more than is ever written here, so that it can be said of a text that it is
JSON and what everybody has to read in it.

Numbers stand for themselves exactly, whatever their number of digits.  An escape that is half of a
surrogate pair stands for no character, so that there is no text with one.

* `Spells cs v` — the characters spell the value;
* `Text cs v` — the same with blanks around it.
-/
import Mathlib
import PacketLog.Json

namespace PacketLog.Json

/-- A value that JSON text can stand for. -/
inductive Value where
  | null
  | truth (b : Bool)
  | number (q : ℚ)
  | string (s : String)
  | array (items : List Value)
  | object (members : List (String × Value))

/-! ### Blanks -/

def isBlank (c : Char) : Bool := c == ' ' || c == '\t' || c == '\n' || c == '\r'

def Blank (cs : List Char) : Prop := ∀ c ∈ cs, isBlank c = true

/-- What spells something, with blanks around it. -/
structure Padded (α : Type) where
  before : List Char
  core : List Char
  after : List Char
  /-- What the core is to spell. -/
  value : α
  blank_before : Blank before
  blank_after : Blank after

def Padded.chars {α : Type} (p : Padded α) : List Char := p.before ++ (p.core ++ p.after)

/-! ### Numbers -/

def Digits (cs : List Char) : Prop := cs ≠ [] ∧ ∀ c ∈ cs, c.isDigit = true

def digitsValue (cs : List Char) : Nat := Numeral.value 10 (cs.map fun c => c.toNat - 48)

/-- Digits with no zero in front of others. -/
def Whole (cs : List Char) : Prop := Digits cs ∧ (cs.head? = some '0' → cs = ['0'])

/-- A point and the digits behind it. -/
inductive Fraction : List Char → ℚ → Prop
  | none : Fraction [] 0
  | some {cs : List Char} (h : Digits cs) :
    Fraction ('.' :: cs) ((digitsValue cs : ℚ) / 10 ^ cs.length)

/-- Digits with a sign, which need not be there. -/
inductive SignedDigits : List Char → ℤ → Prop
  | plain {cs : List Char} (h : Digits cs) : SignedDigits cs (digitsValue cs)
  | plus {cs : List Char} (h : Digits cs) : SignedDigits ('+' :: cs) (digitsValue cs)
  | minus {cs : List Char} (h : Digits cs) : SignedDigits ('-' :: cs) (-(digitsValue cs : ℤ))

/-- The power of ten at the end of a number. -/
inductive Exponent : List Char → ℤ → Prop
  | none : Exponent [] 0
  | some {mark : Char} {cs : List Char} {e : ℤ} (hmark : mark = 'e' ∨ mark = 'E')
      (h : SignedDigits cs e) : Exponent (mark :: cs) e

/-- A number without its sign. -/
inductive Magnitude : List Char → ℚ → Prop
  | intro {whole fraction exponent : List Char} {f : ℚ} {e : ℤ} (hwhole : Whole whole)
      (hfraction : Fraction fraction f) (hexponent : Exponent exponent e) :
    Magnitude (whole ++ (fraction ++ exponent)) ((digitsValue whole + f) * 10 ^ e)

inductive Number : List Char → ℚ → Prop
  | plain {cs : List Char} {q : ℚ} (h : Magnitude cs q) : Number cs q
  | minus {cs : List Char} {q : ℚ} (h : Magnitude cs q) : Number ('-' :: cs) (-q)

/-! ### Strings -/

/-- The characters that have an escape of two, each behind the one that stands for it. -/
def namedEscapes : List (Char × Char) :=
  [('"', '"'), ('\\', '\\'), ('/', '/'), ('b', '\x08'), ('f', '\x0c'), ('n', '\n'), ('r', '\r'),
    ('t', '\t')]

def hexDigitValue? (c : Char) : Option Nat :=
  if '0' ≤ c ∧ c ≤ '9' then some (c.toNat - 48)
  else if 'A' ≤ c ∧ c ≤ 'F' then some (c.toNat - 55)
  else if 'a' ≤ c ∧ c ≤ 'f' then some (c.toNat - 87)
  else none

/-- The number that four hexadecimal digits stand for. -/
def codeUnit? : List Char → Option Nat
  | [a, b, c, d] => do
    let a ← hexDigitValue? a
    let b ← hexDigitValue? b
    let c ← hexDigitValue? c
    let d ← hexDigitValue? d
    return Numeral.value 16 [a, b, c, d]
  | _ => none

/-- The characters that spell one character inside a string. -/
inductive Character : List Char → Char → Prop
  | plain {c : Char} (hcontrol : 0x20 ≤ c.toNat) (hquote : c ≠ '"') (hslash : c ≠ '\\') :
    Character [c] c
  | named {mark c : Char} (h : (mark, c) ∈ namedEscapes) : Character ['\\', mark] c
  | code {cs : List Char} {n : Nat} (h : codeUnit? cs = some n) (hvalid : n.isValidChar) :
    Character ('\\' :: 'u' :: cs) (Char.ofNat n)
  | pair {cs ds : List Char} {high low : Nat} (hhigh : codeUnit? cs = some high)
      (hlow : codeUnit? ds = some low) (hhighRange : 0xD800 ≤ high ∧ high < 0xDC00)
      (hlowRange : 0xDC00 ≤ low ∧ low < 0xE000) :
    Character ('\\' :: 'u' :: (cs ++ '\\' :: 'u' :: ds))
      (Char.ofNat (0x10000 + 0x400 * (high - 0xD800) + (low - 0xDC00)))

inductive Characters : List Char → List Char → Prop
  | nil : Characters [] []
  | cons {cs ds : List Char} {c : Char} {s : List Char} (hc : Character cs c)
      (hs : Characters ds s) : Characters (cs ++ ds) (c :: s)

/-- A string between quotes. -/
inductive Quotation : List Char → String → Prop
  | intro {cs : List Char} {s : String} (h : Characters cs s.toList) :
    Quotation ('"' :: (cs ++ ['"'])) s

/-! ### Values -/

/-- The characters of items with commas between them. -/
def commaChars (items : List (List Char)) : List Char := [','].intercalate items

/-- The characters of a member of an object: its key, a colon and its value. -/
def pairChars (m : Padded String × Padded Value) : List Char :=
  m.1.chars ++ ':' :: m.2.chars

/-- The characters that spell a value. -/
inductive Spells : List Char → Value → Prop
  | null : Spells "null".toList .null
  | true : Spells "true".toList (.truth true)
  | false : Spells "false".toList (.truth false)
  | number {cs : List Char} {q : ℚ} (h : Number cs q) : Spells cs (.number q)
  | string {cs : List Char} {s : String} (h : Quotation cs s) : Spells cs (.string s)
  | emptyArray {cs : List Char} (h : Blank cs) : Spells ('[' :: (cs ++ [']'])) (.array [])
  | array {items : List (Padded Value)} (hne : items ≠ [])
      (h : ∀ i ∈ items, Spells i.core i.value) :
    Spells ('[' :: (commaChars (items.map Padded.chars) ++ [']'])) (.array (items.map Padded.value))
  | emptyObject {cs : List Char} (h : Blank cs) :
    Spells ('\x7b' :: (cs ++ ['\x7d'])) (.object [])
  | object {members : List (Padded String × Padded Value)} (hne : members ≠ [])
      (hkeys : ∀ m ∈ members, Quotation m.1.core m.1.value)
      (h : ∀ m ∈ members, Spells m.2.core m.2.value) :
    Spells ('\x7b' :: (commaChars (members.map pairChars) ++ ['\x7d']))
      (.object (members.map fun m => (m.1.value, m.2.value)))

/-- The characters of a value with blanks around it. -/
def Text (cs : List Char) (v : Value) : Prop :=
  ∃ p : Padded Value, p.chars = cs ∧ p.value = v ∧ Spells p.core v

end PacketLog.Json
