import ClassAtlas.Fault
import ClassAtlas.Key

/-!
# References

What a name in source turns out to refer to: a declared type, a type known to lie outside the
corpus, or nothing known. An edge to anything but a declared type is flagged for review.
-/
namespace ClassAtlas

/-- What a name refers to. -/
inductive TypeRef where
  /-- A declared type by its key. -/
  | declared (key : Key)
  /-- A type outside the corpus by its qualified name. -/
  | external (name : String)
  /-- A name that could not be identified, as written. -/
  | unresolved (name : String)
deriving DecidableEq, Inhabited, Repr

/-- Why an edge needs review. -/
inductive ReviewFlag where
  | external
  | unresolved
deriving DecidableEq, Inhabited, Repr

/-- The word for a flag. -/
def ReviewFlag.name : ReviewFlag → String
  | .external => "external"
  | .unresolved => "unresolved"

/-- The flag that a word names. -/
def ReviewFlag.ofName? (name : String) : Option ReviewFlag :=
  [ReviewFlag.external, .unresolved].find? (·.name == name)

namespace TypeRef

/-- The name under which a reference is drawn. -/
def displayName : TypeRef → String
  | .declared key => key
  | .external name => name
  | .unresolved name => name

/-- The flag of an edge towards a reference. -/
def review : TypeRef → Option ReviewFlag
  | .declared _ => none
  | .external _ => some .external
  | .unresolved _ => some .unresolved

/-- The flag of an edge towards a reference that has to be there. -/
def review? : Option TypeRef → Except Fault (Option ReviewFlag)
  | none => .error .unknownReference
  | some ref => .ok ref.review

/-- An edge needs no review exactly when it points to a declared type. -/
theorem review_eq_none_iff (ref : TypeRef) :
    ref.review = none ↔ ∃ key, ref = .declared key := by
  cases ref <;> simp [review]

end TypeRef

end ClassAtlas
