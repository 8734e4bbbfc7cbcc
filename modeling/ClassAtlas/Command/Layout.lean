import ClassAtlas.Command.Session

/-!
# Layout of what is printed

A text is laid out as it is. A table is laid out in columns that are as wide as their widest
cell, two blanks apart, below its title.
-/
namespace ClassAtlas.Command

/-- Fill a text up with blanks to a width. -/
def padTo (width : Nat) (text : String) : String :=
  String.ofList (text.toList ++ List.replicate (width - text.length) ' ')

/-- The widths of columns that have room for one more row. -/
def widen (widths : List Nat) (row : List String) : List Nat :=
  List.zipWith (fun width cell => max width cell.length) widths row

/-- The cells of a row side by side. -/
def rowLine (widths : List Nat) (row : List String) : String :=
  "  ".intercalate (List.zipWith padTo widths row)

/-- The lines of what a command prints. -/
def Output.layout : Output → List String
  | .line text => [text]
  | .table title columns rows =>
    let widths := rows.foldl widen (columns.map (·.length))
    title :: (columns :: rows).map (rowLine widths)

end ClassAtlas.Command
