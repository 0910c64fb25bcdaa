/-
Filters that the name of a level asks for.

Whatever else a reader of filters understands, it knows the levels: the name of one, in capitals or
not, asks for the events that are at least as grave.

* `EventFilter.KnowsLevels` — what is expected of a reader of filters;
* `EventFilter.knowsLevels_ofText?` — the reader of directives is one of them.
-/
import Mathlib
import PacketLog.EventFilter

namespace PacketLog

/-! ### The names of levels -/

section

variable {level : Level} {text : String}

theorem Level.map_toLower_of_toLower (h : text.toLower = level.name) :
    text.toList.map Char.toLower = level.name.toList := by
  rw [← h, String.toLower, String.toList_map]

theorem Level.length_of_toLower (h : text.toLower = level.name) : 4 ≤ text.toList.length := by
  have hname : 4 ≤ level.name.toList.length := by
    cases level <;> decide
  rwa [← map_toLower_of_toLower h, List.length_map] at hname

theorem Level.comma_notMem_of_toLower (h : text.toLower = level.name) : ',' ∉ text.toList := by
  intro hcomma
  have hmem : Char.toLower ',' ∈ level.name.toList := by
    rw [← map_toLower_of_toLower h]
    exact List.mem_map_of_mem hcomma
  revert hmem
  cases level <;> decide

theorem Threshold.ofName?_of_toLower (h : text.toLower = level.name) :
    ofName? text = some (.upTo level) := by
  -- The name is too long to be the number of a threshold.
  have hlong (c : Char) : text.toList ≠ [c] := by
    intro hone
    have hlen := Level.length_of_toLower h
    rw [hone] at hlen
    exact absurd hlen (by simp)
  rw [ofName?]
  simp only [h, hlong, or_false]
  cases level <;> decide +kernel

/-- A level that stands alone is a directive about all events. -/
theorem Directive.ofText?_of_toLower (h : text.toLower = level.name) :
    ofText? text.toList = some ⟨[], false, .upTo level⟩ := by
  rw [ofText?, String.ofList_toList, Threshold.ofName?_of_toLower h]

end

/-! ### The filters of levels -/

namespace EventFilter

theorem upTo_eq (limit : Level) : upTo limit = fun e => decide (e.level.rank ≤ limit.rank) := rfl

theorem ofDirectives_all (limit : Level) : ofDirectives [⟨[], false, .upTo limit⟩] = upTo limit := by
  funext e
  simp [ofDirectives, Directive.prefer, Directive.isAbout, upTo]

theorem pieces_of_notMem {text : List Char} (h : ',' ∉ text) : pieces text = [text] := by
  induction text with
  | nil => rfl
  | cons c text ih =>
    have hc : c ≠ ',' := fun hc => h (by simp [hc])
    have hrest : pieces text = [text] := ih fun hmem => h (List.mem_cons_of_mem c hmem)
    rw [pieces] at hrest ⊢
    rw [List.foldr_cons, hrest, if_neg hc]
    rfl

/-- A reader of filters knows the levels if the name of one, ASCII letters being capitals or not, asks
for the events that are at least as grave. -/
def KnowsLevels (read : String → Option EventFilter) : Prop :=
  ∀ (level : Level) (text : String), text.toLower = level.name → read text = some (upTo level)

theorem knowsLevels_ofText? : KnowsLevels ofText? := by
  intro level text h
  have hopen : text.toList ≠ [] := by
    intro hnil
    have hlen := Level.length_of_toLower h
    rw [hnil] at hlen
    exact absurd hlen (by simp)
  rw [ofText?, pieces_of_notMem (Level.comma_notMem_of_toLower h)]
  simp [hopen, Directive.ofText?_of_toLower h, ofDirectives_all]

end EventFilter

end PacketLog
