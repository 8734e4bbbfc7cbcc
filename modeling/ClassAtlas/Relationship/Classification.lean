import ClassAtlas.Relationship.Edge
import ClassAtlas.Resolution.Resolver

/-!
# Classification of relationships

Every member and every usage of a declared type becomes one thing: an attribute, an
association, an inheritance or realization edge, an owns edge, a dependency, or nothing where
another edge already says it. Four passes over the types, in index order, share one registry,
so a dependency yields to every structural edge of the diagram.
-/
namespace ClassAtlas

/-- What a member becomes. -/
inductive MemberOutcome where
  /-- A line inside the type's node. -/
  | attribute (member : FieldDecl) (component : Bool)
  /-- An edge to another declared type. -/
  | association (member : FieldDecl) (target : Key) (component : Bool)
deriving Inhabited

namespace MemberOutcome

/-- The member itself. -/
def member : MemberOutcome → FieldDecl
  | .attribute member _ => member
  | .association member _ _ => member

/-- Whether the member is a record component. -/
def component : MemberOutcome → Bool
  | .attribute _ component => component
  | .association _ _ component => component

/-- The declared type an association points to. -/
def target? : MemberOutcome → Option Key
  | .attribute _ _ => none
  | .association _ target _ => some target

end MemberOutcome

/-- A declared type with what its members become. -/
structure ClassifiedType where
  /-- The declared type. -/
  declared : DeclaredType
  /-- Its members in order. -/
  members : List MemberOutcome := []
deriving Inhabited

namespace ClassifiedType

/-- The type's key. -/
def key (classified : ClassifiedType) : Key := classified.declared.key

/-- The type's distinct annotation names in order. -/
def stereotypes (classified : ClassifiedType) : List String :=
  distinctNames classified.declared.declaration.annotations

/-- The members that become attributes, each with whether it is a record component. -/
def attributes (classified : ClassifiedType) : List (FieldDecl × Bool) :=
  classified.members.filterMap fun
    | .attribute member component => some (member, component)
    | .association _ _ _ => none

end ClassifiedType

/-- The classified types and edges of a corpus. -/
structure ClassifiedDiagram where
  /-- The types in index order. -/
  types : List ClassifiedType := []
  /-- Nesting. -/
  owns : List Edge := []
  /-- Inheritance and realization. -/
  supertypes : List Edge := []
  /-- Associations. -/
  associations : List Edge := []
  /-- Dependencies. -/
  dependencies : List Edge := []
  /-- The reports of the index. -/
  diagnostics : List Diagnostic := []
deriving Inhabited

/-- Every edge in drawing order. -/
def ClassifiedDiagram.edges (diagram : ClassifiedDiagram) : List Edge :=
  diagram.owns ++ diagram.supertypes ++ diagram.associations ++ diagram.dependencies

namespace TypeDeclaration

/-- The supertypes of a declaration, each with the relationship it denotes. -/
def supertypeClauses (declaration : TypeDeclaration) : List (RelationshipKind × TypeUsage) :=
  let extended := declaration.extending.map (RelationshipKind.inheritance, ·)
  let implemented := declaration.implementing.map (RelationshipKind.realization, ·)
  match declaration.kind with
  | .classType => extended ++ implemented
  | .interface => extended
  | .enum | .record => implemented
  | .annotationType => []

/-- A supertype is one that the declaration extends, which it inherits from, or one that it
implements, which it realizes. -/
theorem origin_of_mem_supertypeClauses {declaration : TypeDeclaration} {kind : RelationshipKind}
    {usage : TypeUsage} (clause : (kind, usage) ∈ declaration.supertypeClauses) :
    kind = .inheritance ∧ usage ∈ declaration.extending ∨
      kind = .realization ∧ usage ∈ declaration.implementing := by
  have tagged {word : RelationshipKind} {usages : List TypeUsage}
      (given : (kind, usage) ∈ usages.map (word, ·)) : kind = word ∧ usage ∈ usages := by
    obtain ⟨_, here, same⟩ := List.mem_map.1 given
    obtain ⟨rfl, rfl⟩ := Prod.mk.inj same
    exact ⟨rfl, here⟩
  unfold supertypeClauses at clause
  split at clause
  · exact (List.mem_append.1 clause).imp tagged tagged
  · exact Or.inl (tagged clause)
  · exact Or.inr (tagged clause)
  · exact Or.inr (tagged clause)
  · exact absurd clause List.not_mem_nil

/-- The members that may become associations, each with whether it is a record component. -/
def members (declaration : TypeDeclaration) : List (FieldDecl × Bool) :=
  let components := declaration.components.map (·, true)
  let fields := declaration.fields.map (·, false)
  match declaration.kind with
  | .record => components ++ fields
  | .annotationType => []
  | .classType | .interface | .enum => fields

/-- A member is a record component or a field. -/
theorem origin_of_mem_members {declaration : TypeDeclaration} {member : FieldDecl}
    {component : Bool} (listed : (member, component) ∈ declaration.members) :
    member ∈ declaration.components ∨ member ∈ declaration.fields := by
  have tagged {flag : Bool} {decls : List FieldDecl}
      (given : (member, component) ∈ decls.map (·, flag)) : member ∈ decls := by
    obtain ⟨_, here, same⟩ := List.mem_map.1 given
    exact (Prod.mk.inj same).1 ▸ here
  unfold members at listed
  split at listed
  · exact (List.mem_append.1 listed).imp tagged tagged
  · exact absurd listed List.not_mem_nil
  · exact Or.inr (tagged listed)
  · exact Or.inr (tagged listed)
  · exact Or.inr (tagged listed)

/-- The usages that may become dependencies, in declaration order. Of a member only the type
arguments count, its own type being decided with the member. -/
def dependencySites (declaration : TypeDeclaration) : List TypeUsage :=
  declaration.members.flatMap (fun (member, _) => (member.type.head?.map (·.arguments)).getD [])
    ++ declaration.constructors.flatMap (fun constructor =>
      constructor.parameters.map (·.type) ++ constructor.throws)
    ++ declaration.methods.flatMap (fun method =>
      (if method.returnType.isPrimitive then [] else [method.returnType])
        ++ method.parameters.map (·.type) ++ method.throws)
    ++ declaration.usages.map (·.type)

/-- Whether classifying a declaration never needs an unspecified usage. -/
def isClassifiable (declaration : TypeDeclaration) : Bool :=
  declaration.members.all (fun (member, _) => member.type.hasHead)
    && declaration.supertypeClauses.all (fun (_, usage) =>
      usage.hasHead && (usage.head?.isSome || usage.renders))
    && declaration.dependencySites.all (·.hasSites)

end TypeDeclaration

namespace EdgeRegistry

/-- Hand out the edges of a list that the registry does not refuse, in order. -/
def registerAll (registry : EdgeRegistry) : List Edge → EdgeRegistry × List Edge
  | [] => (registry, [])
  | edge :: edges =>
    match registry.register edge.key with
    | (next, true) =>
      let (last, added) := next.registerAll edges
      (last, edge :: added)
    | (next, false) => next.registerAll edges

/-- Hand out dependencies, leaving out those that a structural edge makes redundant. -/
def registerDependencies (registry : EdgeRegistry) : List Edge → EdgeRegistry × List Edge
  | [] => (registry, [])
  | edge :: edges =>
    if registry.hasStructural edge.src edge.dst then registry.registerDependencies edges
    else
      match registry.register edge.key with
      | (next, true) =>
        let (last, added) := next.registerDependencies edges
        (last, edge :: added)
      | (next, false) => next.registerDependencies edges

end EdgeRegistry

namespace Resolver

/-- What a member of a declared type becomes. -/
def classifyMember (resolver : Resolver) (declared : DeclaredType) (member : FieldDecl)
    (component : Bool) : MemberOutcome :=
  match resolver.resolveUsage member.type declared.context with
  | some (.declared key) =>
    if key = declared.key then .attribute member component
    else .association member key component
  | _ => .attribute member component

/-- A declared type with what its members become. -/
def classifyType (resolver : Resolver) (declared : DeclaredType) : ClassifiedType :=
  { declared
    members := declared.declaration.members.map fun (member, component) =>
      resolver.classifyMember declared member component }

/-- The nesting of a declared type in a declared owner. -/
def nestingEdges (resolver : Resolver) (declared : DeclaredType) : List Edge :=
  match declared.owner with
  | some owner =>
    if resolver.index.contains owner then
      [{ src := owner, dst := declared.key, kind := .owns }]
    else []
  | none => []

/-- The reference of a supertype, which is drawn as written if it refers to no class type. -/
def supertypeRef (resolver : Resolver) (declared : DeclaredType) (usage : TypeUsage) : TypeRef :=
  (resolver.resolveUsage usage declared.context).getD (.unresolved usage.render)

/-- The supertypes of a declared type before repeats are refused. -/
def supertypeEdges (resolver : Resolver) (declared : DeclaredType) : List Edge :=
  declared.declaration.supertypeClauses.map fun (kind, usage) =>
    let ref := resolver.supertypeRef declared usage
    { src := declared.key, dst := ref.displayName, kind, review := ref.review }

/-- The dependencies of a declared type before repeats and redundant ones are refused. -/
def dependencyEdges (resolver : Resolver) (declared : DeclaredType) : List Edge :=
  (declared.declaration.dependencySites.flatMap (·.sites)).map fun usage =>
    let ref := resolver.resolve usage declared.context
    { src := declared.key, dst := ref.displayName, kind := .dependency, review := ref.review }

end Resolver

/-- The associations of a classified type before repeats are refused. -/
def ClassifiedType.associationEdges (classified : ClassifiedType) : List Edge :=
  classified.members.filterMap fun
    | .attribute _ _ => none
    | .association member target _ =>
      some
        { src := classified.key, dst := target, kind := .association, role := member.name
          stereotypes := distinctNames member.annotations }

namespace Resolver

/-- Classify every relationship of the corpus, one registry going through the four passes. -/
def classify (resolver : Resolver) : ClassifiedDiagram :=
  let declared := resolver.index.types
  let types := declared.map resolver.classifyType
  let (registry, owns) := ({} : EdgeRegistry).registerAll (declared.flatMap resolver.nestingEdges)
  let (registry, supertypes) := registry.registerAll (declared.flatMap resolver.supertypeEdges)
  let (registry, associations) := registry.registerAll (types.flatMap (·.associationEdges))
  let (_, dependencies) := registry.registerDependencies (declared.flatMap resolver.dependencyEdges)
  { types, owns, supertypes, associations, dependencies
    diagnostics := resolver.index.diagnostics }

/-- The same, failing where a usage that has to be read is none. -/
def classify? (resolver : Resolver) : Except Fault ClassifiedDiagram :=
  if resolver.index.types.all (·.declaration.isClassifiable) then .ok resolver.classify
  else .error .unknownUsage

end Resolver

end ClassAtlas
