import ClassAtlas.Diagram.Event

/-!
# DOT text

The DOT text of a diagram lists its nodes and edges. A focus restricts it to the nodes with
that key or simple name, their edges and the declared ends of those edges; a focus that no
node answers to restricts nothing.
-/
namespace ClassAtlas.Dot

/-- An edge as DOT draws it. -/
structure Arrow where
  /-- Where it starts. -/
  src : String
  /-- Where it ends. -/
  dst : String
  /-- Its kind. -/
  kind : RelationshipKind
  /-- The role of an association. -/
  role : String := ""
  /-- Why it needs review. -/
  review : Option ReviewFlag := none
deriving DecidableEq, Inhabited

/-- The edge that an event draws. -/
def Arrow.ofEvent? : Event → Option Arrow
  | .connectOwns owner owned => some { src := owner, dst := owned, kind := .owns }
  | .connectInheritance sub super review =>
    some { src := sub, dst := super, kind := .inheritance, review }
  | .connectRealization sub super review =>
    some { src := sub, dst := super, kind := .realization, review }
  | .connectAssociation owner target role _ =>
    some { src := owner, dst := target, kind := .association, role }
  | .connectDependency src dst review => some { src, dst, kind := .dependency, review }
  | _ => none

/-- The attributes of a kind of edge. -/
def style : RelationshipKind → String
  | .owns => "arrowhead=odiamond, label=\"owns\""
  | .inheritance => "arrowhead=onormal, label=\"extends\""
  | .realization => "arrowhead=onormal, style=dashed, label=\"implements\""
  | .association => "arrowhead=vee"
  | .dependency => "arrowhead=vee, style=dashed, label=\"uses\""

/-- The declared nodes: each key at its first place, with the kind it was last given. -/
abbrev Nodes := List (Key × Option TypeKind)

/-- Declare a node. -/
def Nodes.declare (nodes : Nodes) (key : Key) (kind : Option TypeKind) : Nodes :=
  if nodes.any (·.1 == key) then nodes.map fun node => if node.1 = key then (key, kind) else node
  else nodes ++ [(key, kind)]

/-- Whether a key is a declared node. -/
def Nodes.contains (nodes : Nodes) (key : Key) : Bool := nodes.any (·.1 == key)

/-- The nodes that events declare. -/
def nodesOf (events : List Event) : Nodes :=
  events.foldl (fun nodes event =>
    match event with
    | .declareNode key kind _ _ => nodes.declare key kind
    | _ => nodes) []

/-- The edges that events draw. -/
def arrowsOf (events : List Event) : List Arrow := events.filterMap Arrow.ofEvent?

/-- The part of a diagram that is drawn. -/
structure View where
  /-- The keys of the drawn nodes in order. -/
  keys : List Key
  /-- The drawn edges in order. -/
  arrows : List Arrow

/-- The keys that a focus names. -/
def focused (nodes : Nodes) (focus : String) : List Key :=
  (nodes.map (·.1)).filter fun key => focus == key || focus == Key.simpleName key

/-- The part of a diagram that a focus selects. -/
def view (nodes : Nodes) (arrows : List Arrow) (focus : String) : View :=
  let names := focused nodes focus
  if focus.isEmpty || names.isEmpty then ⟨nodes.map (·.1), arrows⟩
  else
    let near := arrows.filter fun arrow => names.contains arrow.src || names.contains arrow.dst
    let ends := (near.flatMap fun arrow => [arrow.src, arrow.dst]).filter nodes.contains
    ⟨distinctNames (names ++ ends), near⟩

/-- A text inside double quotes. -/
def escape (text : String) : String :=
  String.ofList (text.toList.flatMap fun c => if c = '"' then ['\\', '"'] else [c])

/-- The statement of a declared node. -/
def nodeLine (key : Key) (kind : TypeKind) : String :=
  "  \"" ++ escape key ++ "\" [label=\"" ++ escape (kind.name ++ "\\n" ++ key) ++ "\"];"

/-- The statement of an undeclared end of an edge. -/
def ghostLine (name : String) : String :=
  "  \"" ++ escape name ++ "\" [color=grey, fontcolor=grey];"

/-- The statement of an edge. -/
def arrowLine (arrow : Arrow) : String :=
  let role := if arrow.role.isEmpty then "" else ", label=\"" ++ escape arrow.role ++ "\""
  let flag :=
    if arrow.review.isSome then ", color=grey, fontcolor=grey, style=\"dashed\"" else ""
  "  \"" ++ escape arrow.src ++ "\" -> \"" ++ escape arrow.dst ++ "\" ["
    ++ style arrow.kind ++ role ++ flag ++ "];"

/-- The statements of an edge: a flagged edge to an undeclared end brings that end along. -/
def arrowLines (nodes : Nodes) (arrow : Arrow) : List String :=
  let ghost :=
    if arrow.review.isSome && !nodes.contains arrow.dst then [ghostLine arrow.dst] else []
  ghost ++ [arrowLine arrow]

/-- The statement of a drawn key, if it is a declared node; a node has to have a kind. -/
def nodeLines (nodes : Nodes) (key : Key) : Except Fault (List String) :=
  match nodes.find? (·.1 == key) with
  | some (_, some kind) => .ok [nodeLine key kind]
  | some (_, none) => .error .unlabelledNode
  | none => .ok []

/-- The DOT text of a diagram under a focus, empty for all of it. -/
def render (events : List Event) (focus : String) : Except Fault String := do
  let nodes := nodesOf events
  let selected := view nodes (arrowsOf events) focus
  let boxes ← selected.keys.mapM (nodeLines nodes)
  let lines := ["digraph ClassDiagram \x7b", "  rankdir=LR;", "  node [shape=box];"]
    ++ boxes.flatten ++ selected.arrows.flatMap (arrowLines nodes) ++ ["\x7d"]
  pure ("\n".intercalate lines ++ "\n")

end ClassAtlas.Dot
