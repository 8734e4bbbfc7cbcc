import ClassAtlas.Fingerprint

/-!
# The order of compilation units

Units are taken in one order, whatever order they arrive in: by package, first type, type
names, path and, where all of these agree, by fingerprint. Strings compare by code point and
lists of names lexicographically.
-/
namespace ClassAtlas

/-- What compilation units are ordered by. -/
structure UnitKey where
  /-- The package. -/
  package : String
  /-- The name of the first type, empty if there is none. -/
  primary : String
  /-- The names of all top-level types. -/
  names : List String
  /-- Where the file lies. -/
  path : String
  /-- The fingerprint of types and imports. -/
  fingerprint : String
deriving DecidableEq

namespace UnitKey

/-- The key of a compilation unit. -/
def ofUnit (unit : CompilationUnit) : UnitKey :=
  let names := unit.types.map (·.name)
  { package := unit.package
    primary := names.headD ""
    names
    path := unit.path
    fingerprint := Fingerprint.contents unit }

/-- Keys compare part by part, the first difference deciding. -/
def order : UnitKey → UnitKey → Ordering :=
  compareLex (compareOn (·.package)) <| compareLex (compareOn (·.primary)) <|
    compareLex (compareOn (·.names)) <| compareLex (compareOn (·.path))
      (compareOn (·.fingerprint))

/-- Whether one key does not come after another. -/
def le (left right : UnitKey) : Bool := (order left right).isLE

end UnitKey

/-- Units by their keys, units with the same key in the order of arrival. -/
def sortUnits (units : List CompilationUnit) : List CompilationUnit :=
  ((units.map fun unit => (UnitKey.ofUnit unit, unit)).mergeSort fun left right =>
    left.1.le right.1).map (·.2)

end ClassAtlas
