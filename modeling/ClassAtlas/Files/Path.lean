import ClassAtlas.Text.Cut

/-!
# Paths

A path is read once into its parts: repeated and trailing slashes and single dots are dropped,
double dots are kept. It starts at the root or at some directory that the context supplies.
Paths are ordered part by part, so a directory comes before what lies in it and `a/b` before
`a-b`.
-/
namespace ClassAtlas

/-- The parts of a path from the root. -/
abbrev Location := List String

/-- A path. -/
structure Path where
  /-- Whether it starts at the root. -/
  absolute : Bool := false
  /-- Its parts in order. -/
  parts : List String := []
deriving DecidableEq, Inhabited, Repr

namespace Path

/-- The path that a text spells. -/
def ofString (text : String) : Path :=
  { absolute := text.toList.head? == some '/'
    parts := (Text.parts (· == '/') text).filter fun part => part != "" && part != "." }

/-- The path of a location. -/
def ofLocation (location : Location) : Path := { absolute := true, parts := location }

/-- The spelling of a path. -/
def render (path : Path) : String :=
  let body := "/".intercalate path.parts
  if path.absolute then "/" ++ body
  else if path.parts.isEmpty then "."
  else body

/-- A path followed from another: one that starts at the root stands alone. -/
def join (left right : Path) : Path :=
  if right.absolute then right else { left with parts := left.parts ++ right.parts }

/-- The path without its last part. -/
def parent (path : Path) : Path := { path with parts := path.parts.dropLast }

/-- Follow one part from a location: double dots lead to the directory above. -/
def stepTo (location : Location) (part : String) : Location :=
  if part = ".." then location.dropLast else location ++ [part]

/-- The location that parts lead to from the root. -/
def collapse (parts : List String) : Location := parts.foldl stepTo []

/-- Parts without double dots lead below where they start. -/
theorem foldl_stepTo {parts : List String} (plain : ".." ∉ parts) (location : Location) :
    parts.foldl stepTo location = location ++ parts := by
  induction parts generalizing location with
  | nil => simp
  | cons part rest ih =>
    simp only [List.mem_cons, not_or] at plain
    rw [List.foldl_cons, ih plain.2, stepTo, if_neg (Ne.symm plain.1), List.append_assoc]
    rfl

/-- Parts without double dots lead below where those before them lead. -/
theorem collapse_append {parts inner : List String} (plain : ".." ∉ inner) :
    collapse (parts ++ inner) = collapse parts ++ inner := by
  rw [collapse, List.foldl_append, foldl_stepTo plain, collapse]

end Path

end ClassAtlas
