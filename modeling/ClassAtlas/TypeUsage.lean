/-!
# Type usages

A type usage is a type as a source file writes it, before any name in it is resolved. Three
readings of a usage are held here. `render` spells it in source form. `head?` peels arrays,
wildcard upper bounds and first bounds of type variables down to the class type that the usage
refers to. `sites` lists that class type and, depth first, those of its arguments.

The usage `unspecified` is no usage at all: it marks an absent wildcard bound, and data from
outside may put it where a type is required. A reading that would need it fails there, and
`renders`, `hasHead` and `hasSites` say which usages never need it.
-/
namespace ClassAtlas

/-- A type as written in source. -/
inductive TypeUsage where
  /-- No usage. -/
  | unspecified
  /-- A primitive type, `void` included. -/
  | primitive (name : String)
  /-- A class type, its name as written, with type arguments. -/
  | named (name : String) (arguments : List TypeUsage)
  /-- An array of a component type. -/
  | array (component : TypeUsage)
  /-- A wildcard argument with its bounds, `unspecified` where there is none. -/
  | wildcard (upper lower : TypeUsage)
  /-- A type variable in scope with its bounds. -/
  | typeVar (name : String) (bounds : List TypeUsage)
deriving Inhabited

/-- A class type in a usage: a name as written and its type arguments. -/
structure ClassUsage where
  /-- The name as written. -/
  name : String
  /-- The type arguments in order. -/
  arguments : List TypeUsage := []
deriving Inhabited

namespace TypeUsage

/-- The type of a method that returns nothing. -/
def void : TypeUsage := .primitive "void"

/-- Whether there is a usage. -/
def isSpecified : TypeUsage → Bool
  | .unspecified => false
  | _ => true

/-- Whether a usage is a primitive type. -/
def isPrimitive : TypeUsage → Bool
  | .primitive _ => true
  | _ => false

mutual

/-- The source spelling of a usage. An upper bound of a wildcard hides its lower bound. -/
def render : TypeUsage → String
  | .unspecified => ""
  | .primitive name => name
  | .named name arguments =>
    if arguments.isEmpty then name
    else name ++ "<" ++ ", ".intercalate (renderAll arguments) ++ ">"
  | .array component => render component ++ "[]"
  | .wildcard upper lower =>
    if upper.isSpecified then "? extends " ++ render upper
    else if lower.isSpecified then "? super " ++ render lower
    else "?"
  | .typeVar name _ => name

/-- The source spellings of usages. -/
def renderAll : List TypeUsage → List String
  | [] => []
  | usage :: usages => render usage :: renderAll usages

end

mutual

/-- Whether spelling a usage never needs an unspecified one. -/
def renders : TypeUsage → Bool
  | .unspecified => false
  | .primitive _ => true
  | .named _ arguments => rendersAll arguments
  | .array component => renders component
  | .wildcard upper lower =>
    if upper.isSpecified then renders upper
    else if lower.isSpecified then renders lower
    else true
  | .typeVar _ _ => true

/-- Whether spelling any of the usages never needs an unspecified one. -/
def rendersAll : List TypeUsage → Bool
  | [] => true
  | usage :: usages => renders usage && rendersAll usages

end

mutual

/-- The class type that a usage refers to, if it refers to one. -/
def head? : TypeUsage → Option ClassUsage
  | .unspecified => none
  | .primitive _ => none
  | .named name arguments => some ⟨name, arguments⟩
  | .array component => head? component
  | .wildcard upper _ => head? upper
  | .typeVar _ bounds => headOfFirst? bounds

/-- The class type that the first of some bounds refers to. -/
def headOfFirst? : List TypeUsage → Option ClassUsage
  | [] => none
  | bound :: _ => head? bound

end

mutual

/-- Whether peeling a usage never ends in an unspecified one. -/
def hasHead : TypeUsage → Bool
  | .unspecified => false
  | .primitive _ => true
  | .named _ _ => true
  | .array component => hasHead component
  | .wildcard upper _ => !upper.isSpecified || hasHead upper
  | .typeVar _ bounds => firstHasHead bounds

/-- Whether peeling the first of some bounds never ends in an unspecified usage. -/
def firstHasHead : List TypeUsage → Bool
  | [] => true
  | bound :: _ => hasHead bound

end

mutual

/-- The class types that a usage reaches: its own, then those of its arguments, depth first. -/
def sites : TypeUsage → List ClassUsage
  | .unspecified => []
  | .primitive _ => []
  | .named name arguments => ⟨name, arguments⟩ :: sitesOfAll arguments
  | .array component => sites component
  | .wildcard upper _ => sites upper
  | .typeVar _ bounds => sitesOfFirst bounds

/-- The class types that usages reach, one usage after the other. -/
def sitesOfAll : List TypeUsage → List ClassUsage
  | [] => []
  | usage :: usages => sites usage ++ sitesOfAll usages

/-- The class types that the first of some bounds reaches. -/
def sitesOfFirst : List TypeUsage → List ClassUsage
  | [] => []
  | bound :: _ => sites bound

end

mutual

/-- Whether listing the sites of a usage never needs an unspecified one. -/
def hasSites : TypeUsage → Bool
  | .unspecified => false
  | .primitive _ => true
  | .named _ arguments => allHaveSites arguments
  | .array component => hasSites component
  | .wildcard upper _ => !upper.isSpecified || hasSites upper
  | .typeVar _ bounds => firstHasSites bounds

/-- Whether listing the sites of usages never needs an unspecified one. -/
def allHaveSites : List TypeUsage → Bool
  | [] => true
  | usage :: usages => hasSites usage && allHaveSites usages

/-- Whether listing the sites of the first of some bounds never needs an unspecified usage. -/
def firstHasSites : List TypeUsage → Bool
  | [] => true
  | bound :: _ => hasSites bound

end

/-- A usage wrapped in a number of arrays. -/
def arrays : Nat → TypeUsage → TypeUsage
  | 0, usage => usage
  | depth + 1, usage => arrays depth (.array usage)

/-- The spellings of several usages are those of each. -/
theorem renderAll_eq_map (usages : List TypeUsage) : renderAll usages = usages.map render := by
  induction usages with
  | nil => simp [renderAll]
  | cons usage usages ih => simp [renderAll, ih]

/-- The sites of several usages are those of each, in order. -/
theorem sitesOfAll_eq_flatMap (usages : List TypeUsage) :
    sitesOfAll usages = usages.flatMap sites := by
  induction usages with
  | nil => simp [sitesOfAll]
  | cons usage usages ih => simp [sitesOfAll, ih]

end TypeUsage

end ClassAtlas
