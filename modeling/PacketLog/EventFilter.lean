/-
Filters for events, and the texts that ask for them.

A text is a list of directives with commas between them.  A directive gives a threshold for all
events, or the beginning of a target and, behind an equals sign, a threshold for the events from
there, all of which pass if none is given.  Of the directives about an event the one with the longest
target counts, and of several such the last.  Brackets behind the target limit a directive to what
happens within spans, of which a run opens none.

A text that cannot be read so asks for nothing, and the empty one asks for errors.
-/
import PacketLog.Event

namespace PacketLog

/-- Which events are logged. -/
abbrev EventFilter := Event → Bool

/-- A threshold for some of the events. -/
structure Directive where
  /-- How the targets of these events begin. -/
  target : List Char
  /-- Whether only what happens within spans is meant. -/
  inSpan : Bool
  threshold : Threshold
  deriving DecidableEq, Repr

namespace Directive

def isTargetChar (c : Char) : Bool := c.isAlphanum || c = '_' || c = ':' || c = '-'

/-- The threshold that the end of a directive gives. -/
def threshold? : List Char → Option Threshold
  | [] => some (.upTo .trace)
  | ['='] => some (.upTo .trace)
  | '=' :: name => Threshold.ofName? (String.ofList name)
  | _ => none

def ofText? (text : List Char) : Option Directive :=
  match Threshold.ofName? (String.ofList text) with
  | some threshold => some ⟨[], false, threshold⟩
  | none =>
    let target := text.takeWhile isTargetChar
    match text.dropWhile isTargetChar with
    | '[' :: span =>
      match span.dropWhile (· ≠ ']') with
      | [] => none
      | _ :: rest => (threshold? rest).map (⟨target, true, ·⟩)
    | rest => if target = [] then none else (threshold? rest).map (⟨target, false, ·⟩)

def isAbout (d : Directive) (e : Event) : Bool :=
  !d.inSpan && d.target.isPrefixOf e.target.toList

/-- The directive that counts for an event when one more follows. -/
def prefer (e : Event) (best : Option Directive) (d : Directive) : Option Directive :=
  if d.isAbout e && best.all (fun b => b.target.length ≤ d.target.length) then some d else best

end Directive

namespace EventFilter

/-- The events that are at least as grave as a level. -/
def upTo (limit : Level) : EventFilter := fun e => (Threshold.upTo limit).admits e.level

def ofDirectives (directives : List Directive) : EventFilter := fun e =>
  (directives.foldl (Directive.prefer e) none).any fun d => d.threshold.admits e.level

/-- The pieces of a text between its commas. -/
def pieces (text : List Char) : List (List Char) :=
  text.foldr (fun c ps => if c = ',' then [] :: ps else (c :: ps.headD []) :: ps.tail) [[]]

/-- The filter that a text asks for, if it can be read. -/
def ofText? (text : String) : Option EventFilter :=
  match (pieces text.toList).filter (· ≠ []) with
  | [] => some (upTo .error)
  | directives => (directives.mapM Directive.ofText?).map ofDirectives

end EventFilter

end PacketLog
