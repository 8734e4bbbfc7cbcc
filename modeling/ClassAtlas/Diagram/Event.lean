import ClassAtlas.Relationship.Classification

/-!
# The event stream of a diagram

A diagram is told as a stream of events: nodes first, grouped by package and each between its
declaration and its end, then the edges. A renderer reads the stream; `ClassifiedDiagram.events`
tells it in the one canonical order.
-/
namespace ClassAtlas

/-- One step of telling a diagram. -/
inductive Event where
  | beginDiagram (name : String)
  | endDiagram (name : String)
  | beginPackage (name : String)
  | endPackage (name : String)
  /-- A node opens; one from outside the corpus may come without a kind. -/
  | declareNode (key : Key) (kind : Option TypeKind) (stereotypes modifiers : List String)
  | endNode (key : Key)
  | addAttribute (owner : Key) (member : FieldDecl) (component : Bool)
  | addEnumConstant (owner : Key) (name : String)
  | addConstructor (owner : Key) (constructor : ConstructorDecl)
  | addMethod (owner : Key) (method : MethodDecl)
  | addAnnotationMember (owner : Key) (member : AnnotationMember)
  | connectOwns (owner owned : String)
  | connectInheritance (sub super : String) (review : Option ReviewFlag)
  | connectRealization (sub super : String) (review : Option ReviewFlag)
  | connectAssociation (owner target role : String) (stereotypes : List String)
  | connectDependency (src dst : String) (review : Option ReviewFlag)
deriving Inhabited

namespace Event

/-- The word for the kind of an event. -/
def name : Event → String
  | .beginDiagram .. => "begin_diagram"
  | .endDiagram .. => "end_diagram"
  | .beginPackage .. => "begin_package"
  | .endPackage .. => "end_package"
  | .declareNode .. => "declare_node"
  | .endNode .. => "end_node"
  | .addAttribute .. => "add_attribute"
  | .addEnumConstant .. => "add_enum_constant"
  | .addConstructor .. => "add_constructor"
  | .addMethod .. => "add_method"
  | .addAnnotationMember .. => "add_annotation_member"
  | .connectOwns .. => "connect_owns"
  | .connectInheritance .. => "connect_inheritance"
  | .connectRealization .. => "connect_realization"
  | .connectAssociation .. => "connect_association"
  | .connectDependency .. => "connect_dependency"

/-- Whether an event draws an edge. -/
def isEdge : Event → Bool
  | .connectOwns .. | .connectInheritance .. | .connectRealization .. | .connectAssociation ..
  | .connectDependency .. => true
  | _ => false

/-- The key of a node that an event opens. -/
def nodeKey? : Event → Option Key
  | .declareNode key _ _ _ => some key
  | _ => none

/-- The event that draws an edge. -/
def ofEdge (edge : Edge) : Event :=
  match edge.kind with
  | .owns => .connectOwns edge.src edge.dst
  | .inheritance => .connectInheritance edge.src edge.dst edge.review
  | .realization => .connectRealization edge.src edge.dst edge.review
  | .association => .connectAssociation edge.src edge.dst edge.role edge.stereotypes
  | .dependency => .connectDependency edge.src edge.dst edge.review

/-- The event as it is kept: modifiers in order, repeats included. -/
def recorded : Event → Event
  | .declareNode key kind stereotypes modifiers =>
    .declareNode key kind stereotypes (modifiers.mergeSort fun left right => !(right < left))
  | event => event

end Event

/-- The keys of the nodes that events open, in order. -/
def nodeKeys (events : List Event) : List Key := events.filterMap (·.nodeKey?)

/-- The names of the attributes that events add to a node, in order. -/
def attributeNames (events : List Event) (owner : Key) : List String :=
  events.filterMap fun
    | .addAttribute key member _ => if key = owner then some member.name else none
    | _ => none

namespace ClassifiedType

/-- The events of one node. -/
def events (classified : ClassifiedType) : List Event :=
  let declaration := classified.declared.declaration
  let key := classified.key
  [.declareNode key declaration.kind classified.stereotypes declaration.modifiers.names]
    ++ declaration.enumConstants.map (.addEnumConstant key)
    ++ classified.attributes.map (fun (member, component) => .addAttribute key member component)
    ++ declaration.constructors.map (.addConstructor key)
    ++ declaration.methods.map (.addMethod key)
    ++ declaration.annotationMembers.map (.addAnnotationMember key)
    ++ [.endNode key]

/-- The package of a classified type. -/
def package (classified : ClassifiedType) : String := classified.declared.package

end ClassifiedType

/-- The events of neighbouring types of one package, `open?` being the package that the types
before them left open. -/
def nodeEvents (open? : Option String) : List ClassifiedType → List Event
  | [] => closing open?
  | classified :: rest =>
    if open? = some classified.package then classified.events ++ nodeEvents open? rest
    else
      closing open? ++ opening classified.package ++ classified.events
        ++ nodeEvents (some classified.package) rest
where
  /-- The end of the open package; the default package has no block of its own. -/
  closing : Option String → List Event
    | none => []
    | some package => if package.isEmpty then [] else [.endPackage package]
  /-- The start of a package. -/
  opening (package : String) : List Event :=
    if package.isEmpty then [] else [.beginPackage package]

/-- The name of a diagram that is given none. -/
def defaultDiagramName : String := "class-diagram"

/-- A classified diagram told in canonical order. -/
def ClassifiedDiagram.events (diagram : ClassifiedDiagram) (name : String) : List Event :=
  [.beginDiagram name] ++ nodeEvents none diagram.types ++ diagram.edges.map Event.ofEdge
    ++ [.endDiagram name]

end ClassAtlas
