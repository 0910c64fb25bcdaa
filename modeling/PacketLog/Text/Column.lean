/-
Columns: text filled up with spaces to a least width, counted in characters.
-/
namespace PacketLog.Column

/-- Text moved to the right end of a column. -/
def right (width : Nat) (s : String) : String :=
  String.ofList (List.replicate (width - s.length) ' ') ++ s

/-- Text at the left end of a column. -/
def left (width : Nat) (s : String) : String :=
  s ++ String.ofList (List.replicate (width - s.length) ' ')

end PacketLog.Column
