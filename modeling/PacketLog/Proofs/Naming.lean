/-
What the message about an input tells.

A path stands in quotes, behind a label and before the text of an error, which may be any text.
The quotes tell where the path ends, so the message tells the path, and the text where it is shown.

* `Quoted.append_bytes_append_inj` — what stands around a quoted path can be told from it;
* `Failure.message_ofInput_eq_iff` — when two messages are equal, and what stands in the quotes.
-/
import PacketLog.Failure
import PacketLog.Text.Quoted.Reading

namespace PacketLog

/-- A quoted byte string behind a label tells the bytes, and the text behind it. -/
theorem Quoted.append_bytes_append_inj (label : String) {as bs : Bytes} {s t : String} :
    label ++ bytes as ++ s = label ++ bytes bs ++ t ↔ as = bs ∧ s = t := by
  constructor
  · intro h
    have hchars : label.toList ++ ((bytes as).toList ++ s.toList) =
        label.toList ++ ((bytes bs).toList ++ t.toList) := by
      simpa only [String.toList_append, List.append_assoc] using congrArg String.toList h
    -- A quoted path ends at the first quote that is not escaped.
    obtain ⟨hbytes, hbehind⟩ := bytes_append_inj (List.append_cancel_left hchars)
    exact ⟨hbytes, String.toList_inj.mp hbehind⟩
  · rintro ⟨rfl, rfl⟩
    rfl

namespace Failure

variable {p q : Path} {x y : IoError}

theorem message_inputNotFound (p : Path) :
    (inputNotFound p).message = "trace file not found: " ++ Quoted.bytes p := rfl

theorem message_inputUnreadable (p : Path) (x : IoError) :
    (inputUnreadable p x).message = "io error at " ++ Quoted.bytes p ++ (": " ++ x.text) :=
  String.append_assoc

theorem message_inputNotFound_inj :
    (inputNotFound p).message = (inputNotFound q).message ↔ p = q :=
  (String.append_right_inj _).trans Quoted.bytes_injective.eq_iff

/-- The text behind the path is the whole text of the error. -/
theorem message_inputUnreadable_inj :
    (inputUnreadable p x).message = (inputUnreadable q y).message ↔ p = q ∧ x.text = y.text := by
  rw [message_inputUnreadable, message_inputUnreadable, Quoted.append_bytes_append_inj,
    String.append_right_inj]

/-- The labels differ in their first characters. -/
theorem message_inputNotFound_ne_inputUnreadable :
    (inputNotFound p).message ≠ (inputUnreadable q y).message := by
  intro h
  have hchars := congrArg String.toList h
  rw [message_inputNotFound, message_inputUnreadable, String.append_assoc, String.toList_append,
    String.toList_append] at hchars
  exact absurd (List.cons.inj hchars).1 (by decide)

/-- **The message about an input tells the path**, and the text of the error unless nothing was found
under the path.  Between the quotes around the path there is no control, and no quote that is not
escaped; the quote that ends the path is not escaped. -/
theorem message_ofInput_eq_iff (p q : Path) (x y : IoError) :
    ((ofInput p x).message = (ofInput q y).message ↔
      (x.kind = .notFound ∧ y.kind = .notFound ∧ p = q) ∨
      (x.kind ≠ .notFound ∧ y.kind ≠ .notFound ∧ p = q ∧ x.text = y.text)) ∧
    ∃ body : String,
      Quoted.bytes p = "\"" ++ body ++ "\"" ∧
      (ofInput p x).message =
        (if x.kind = .notFound then "trace file not found: " ++ Quoted.bytes p
        else "io error at " ++ Quoted.bytes p ++ ": " ++ x.text) ∧
      (∀ c ∈ body.toList, ¬ Unicode.IsControl c) ∧
      (∀ before after, body.toList = before ++ '"' :: after →
        Quoted.escapesNext before = true) ∧
      Quoted.escapesNext body.toList = false := by
  constructor
  · -- Either error may say that nothing was found; messages of both kinds differ in their labels.
    by_cases hx : x.kind = .notFound <;> by_cases hy : y.kind = .notFound
    · simp [ofInput, hx, hy, message_inputNotFound_inj]
    · simp [ofInput, hx, hy, message_inputNotFound_ne_inputUnreadable]
    · simp [ofInput, hx, hy, message_inputNotFound_ne_inputUnreadable.symm]
    · simp [ofInput, hx, hy, message_inputUnreadable_inj]
  · obtain ⟨body, hquoted, hcontrol, hquote, hend⟩ := Quoted.exists_bytes_eq p
    refine ⟨body, hquoted, ?_, hcontrol, hquote, hend⟩
    rw [ofInput]
    split_ifs <;> rfl

end Failure

end PacketLog
