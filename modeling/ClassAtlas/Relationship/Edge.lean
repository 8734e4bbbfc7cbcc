import ClassAtlas.Resolution.Reference

/-!
# Edges between types

An edge joins two names by a kind of relationship. The registry remembers the edges handed out
in one classification: it refuses an edge from a name to itself and an edge it has seen, and it
knows which pairs a structural edge joins.
-/
namespace ClassAtlas

/-- The kinds of relationships. -/
inductive RelationshipKind where
  | owns
  | inheritance
  | realization
  | association
  | dependency
deriving DecidableEq, Inhabited, Repr

namespace RelationshipKind

/-- The word for a kind. -/
def name : RelationshipKind → String
  | .owns => "owns"
  | .inheritance => "inheritance"
  | .realization => "realization"
  | .association => "association"
  | .dependency => "dependency"

/-- Every kind. -/
def all : List RelationshipKind :=
  [.owns, .inheritance, .realization, .association, .dependency]

/-- The kind that a word names. -/
def ofName? (name : String) : Option RelationshipKind := all.find? (·.name == name)

/-- Whether a kind makes a dependency between the same types redundant. -/
def isStructural : RelationshipKind → Bool
  | .inheritance | .realization | .association => true
  | .owns | .dependency => false

end RelationshipKind

/-- What identifies an edge. -/
structure EdgeKey where
  /-- Where it starts. -/
  src : String
  /-- Where it ends. -/
  dst : String
  /-- Its kind. -/
  kind : RelationshipKind
  /-- The role of an association. -/
  role : String := ""
deriving DecidableEq, Inhabited, Repr

/-- A relationship between two types. -/
structure Edge where
  /-- Where it starts. -/
  src : String
  /-- Where it ends. -/
  dst : String
  /-- Its kind. -/
  kind : RelationshipKind
  /-- The role of an association. -/
  role : String := ""
  /-- The annotation names drawn with it. -/
  stereotypes : List String := []
  /-- Why it needs review. -/
  review : Option ReviewFlag := none
deriving DecidableEq, Inhabited, Repr

/-- What identifies an edge. -/
def Edge.key (edge : Edge) : EdgeKey :=
  { src := edge.src, dst := edge.dst, kind := edge.kind, role := edge.role }

/-- The edges handed out so far. -/
structure EdgeRegistry where
  /-- Their keys, the latest first. -/
  seen : List EdgeKey := []
deriving Inhabited

namespace EdgeRegistry

/-- Whether an edge has been handed out. -/
def contains (registry : EdgeRegistry) (key : EdgeKey) : Bool := registry.seen.contains key

/-- The number of edges handed out. -/
def size (registry : EdgeRegistry) : Nat := registry.seen.length

/-- Whether a structural edge joins a pair. -/
def hasStructural (registry : EdgeRegistry) (src dst : String) : Bool :=
  registry.seen.any fun key => key.src == src && key.dst == dst && key.kind.isStructural

/-- Register an edge, unless it joins a name to itself or has been handed out. -/
def register (registry : EdgeRegistry) (key : EdgeKey) : EdgeRegistry × Bool :=
  if key.src == key.dst || registry.contains key then (registry, false)
  else ({ seen := key :: registry.seen }, true)

end EdgeRegistry

end ClassAtlas
