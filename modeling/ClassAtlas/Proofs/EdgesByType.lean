import ClassAtlas.Proofs.ClassifiedEdges
import ClassAtlas.Proofs.ValidUsages

/-!
# The edges of a diagram, type by type

The types of an index differ in key, so no type meets an edge of another in the shared registry.
What the passes hand out is said here for each type by itself: of the supertypes that lead
elsewhere the first of each kind and name, and of the usages that lead elsewhere the first of each
name to which no supertype or association of the type leads.
-/
namespace ClassAtlas

/-- The edge from a type to a reference, flagged if the reference is not to a declared type. -/
def DeclaredType.edgeTo (declared : DeclaredType) (kind : RelationshipKind) (ref : TypeRef) :
    Edge :=
  { src := declared.key, dst := ref.displayName, kind, review := ref.review }

namespace Resolver

/-- What the supertypes of a type refer to, the spelling of one that refers to no class type. -/
def supertypeRefs (resolver : Resolver) (declared : DeclaredType) :
    List (RelationshipKind × TypeRef) :=
  declared.declaration.supertypeClauses.map fun (kind, usage) =>
    (kind, (resolver.resolveUsage usage declared.context).getD (.unresolved usage.render))

/-- What the class types that a type mentions beside its members' own types refer to. -/
def usedRefs (resolver : Resolver) (declared : DeclaredType) : List TypeRef :=
  (declared.declaration.dependencySites.flatMap (·.sites)).map fun site =>
    resolver.resolve site declared.context

/-- The supertypes of a type that lead elsewhere, the first of each kind and name. -/
def supertypesOf (resolver : Resolver) (declared : DeclaredType) : List Edge :=
  let elsewhere := (resolver.supertypeRefs declared).filter fun (_, ref) =>
    ref.displayName != declared.key
  (firstOfEach (fun (kind, ref) => (kind, ref.displayName)) elsewhere).map fun (kind, ref) =>
    declared.edgeTo kind ref

/-- The usages of a type that lead elsewhere, and where no supertype or association of a diagram
leads, the first of each name. -/
def dependenciesOf (resolver : Resolver) (diagram : ClassifiedDiagram) (declared : DeclaredType) :
    List Edge :=
  let elsewhere := (resolver.usedRefs declared).filter fun ref =>
    ref.displayName != declared.key && !diagram.joins declared.key ref.displayName
  (firstOfEach TypeRef.displayName elsewhere).map (declared.edgeTo .dependency)

variable {resolver : Resolver} {declared : DeclaredType} {edge : Edge}

/-- The edges proposed for supertypes lead to what the supertypes refer to. -/
theorem supertypeEdges_eq (resolver : Resolver) (declared : DeclaredType) :
    resolver.supertypeEdges declared =
      (resolver.supertypeRefs declared).map fun (kind, ref) => declared.edgeTo kind ref := by
  rw [supertypeRefs, List.map_map]
  rfl

/-- The edges proposed for usages lead to what the usages refer to. -/
theorem dependencyEdges_eq (resolver : Resolver) (declared : DeclaredType) :
    resolver.dependencyEdges declared =
      (resolver.usedRefs declared).map (declared.edgeTo .dependency) := by
  rw [usedRefs, List.map_map]
  rfl

/-- Edges that leave the types of an index meet no edge of another type. -/
theorem firstOfEach_types (resolver : Resolver) {block : DeclaredType → List Edge}
    (leaving : ∀ declared, ∀ edge ∈ block declared, edge.src = declared.key) :
    firstOfEach Edge.key (resolver.index.types.flatMap block) =
      resolver.index.types.flatMap fun declared => firstOfEach Edge.key (block declared) := by
  refine firstOfEach_flatMap ?_
  have distinct := List.pairwise_map.1 resolver.index.types_nodup
  refine distinct.imp fun {left right} differ first here second there same => differ ?_
  have sources : first.src = second.src := congrArg EdgeKey.src same
  rw [leaving left first here, leaving right second there] at sources
  exact sources

/-- The edges handed out for the supertypes of a type are the first of each kind and name. -/
theorem firstOfEach_supertypeEdges (resolver : Resolver) (declared : DeclaredType) :
    firstOfEach Edge.key
        ((resolver.supertypeEdges declared).filter fun edge => edge.src != edge.dst) =
      resolver.supertypesOf declared := by
  rw [supertypeEdges_eq, supertypesOf]
  refine firstOfEach_filter_map (fun clause => ?_) (fun left right => ?_) _
  · exact bne_comm
  · simp [Edge.key, DeclaredType.edgeTo, and_comm]

/-- The edges handed out for the usages of a type are the first of each name. -/
theorem firstOfEach_dependencyEdges (resolver : Resolver) (declared : DeclaredType)
    (diagram : ClassifiedDiagram) :
    firstOfEach Edge.key ((resolver.dependencyEdges declared).filter fun edge =>
        edge.src != edge.dst && !diagram.joins edge.src edge.dst) =
      resolver.dependenciesOf diagram declared := by
  rw [dependencyEdges_eq, dependenciesOf]
  refine firstOfEach_filter_map (fun ref => ?_) (fun left right => ?_) _
  · exact congrArg (· && !diagram.joins declared.key ref.displayName) bne_comm
  · simp [Edge.key, DeclaredType.edgeTo]

/-- The supertypes that the passes hand out are those of each type. -/
theorem supertypes_by_type (resolver : Resolver) :
    resolver.classify.supertypes = resolver.index.types.flatMap resolver.supertypesOf := by
  rw [classify_supertypes_eq, List.filter_flatMap, firstOfEach_types]
  · simp only [firstOfEach_supertypeEdges]
  · intro declared edge member
    rw [supertypeEdges_eq] at member
    obtain ⟨_, _, rfl⟩ := List.mem_map.1 (List.mem_filter.1 member).1
    rfl

/-- The dependencies that the passes hand out are those of each type. -/
theorem dependencies_by_type (resolver : Resolver) :
    resolver.classify.dependencies =
      resolver.index.types.flatMap (resolver.dependenciesOf resolver.classify) := by
  rw [classify_dependencies_eq, List.filter_flatMap, firstOfEach_types]
  · simp only [firstOfEach_dependencyEdges]
  · intro declared edge member
    rw [dependencyEdges_eq] at member
    obtain ⟨_, _, rfl⟩ := List.mem_map.1 (List.mem_filter.1 member).1
    rfl

/-- A supertype that leads elsewhere is in the diagram. -/
theorem exists_supertype (listed : declared ∈ resolver.index.types) {kind : RelationshipKind}
    {ref : TypeRef} (clause : (kind, ref) ∈ resolver.supertypeRefs declared)
    (elsewhere : ref.displayName ≠ declared.key) :
    ∃ edge ∈ resolver.classify.supertypes,
      edge.src = declared.key ∧ edge.dst = ref.displayName ∧ edge.kind = kind := by
  have kept : (kind, ref) ∈ (resolver.supertypeRefs declared).filter fun (_, ref) =>
      ref.displayName != declared.key := List.mem_filter.2 ⟨clause, by simpa using elsewhere⟩
  obtain ⟨⟨other, first⟩, member, same⟩ := exists_mem_firstOfEach
    (fun (clause : RelationshipKind × TypeRef) => (clause.1, clause.2.displayName)) kept
  obtain ⟨kinds, names⟩ := Prod.mk.inj same
  rw [supertypes_by_type]
  refine ⟨declared.edgeTo other first, ?_, rfl, names, kinds⟩
  exact List.mem_flatMap.2 ⟨declared, listed, List.mem_map_of_mem member⟩

/-- A usage that leads elsewhere, and where no supertype or association leads, is in the
diagram. -/
theorem exists_dependency (listed : declared ∈ resolver.index.types) {ref : TypeRef}
    (used : ref ∈ resolver.usedRefs declared) (elsewhere : ref.displayName ≠ declared.key)
    (apart : ¬resolver.classify.joins declared.key ref.displayName = true) :
    ∃ edge ∈ resolver.classify.dependencies,
      edge.src = declared.key ∧ edge.dst = ref.displayName := by
  have kept : ref ∈ (resolver.usedRefs declared).filter fun ref =>
      ref.displayName != declared.key &&
        !resolver.classify.joins declared.key ref.displayName :=
    List.mem_filter.2 ⟨used, by simp [elsewhere, apart]⟩
  obtain ⟨first, member, same⟩ := exists_mem_firstOfEach TypeRef.displayName kept
  rw [dependencies_by_type]
  refine ⟨declared.edgeTo .dependency first, ?_, rfl, same⟩
  exact List.mem_flatMap.2 ⟨declared, listed, List.mem_map_of_mem member⟩

/-- One registry goes through the passes, and what they hand out is what each type has by itself.
The supertypes are, type by type, the first of each kind and name that leads elsewhere; the
dependencies are, type by type, the first of each name that leads elsewhere and where no supertype
or association of the diagram leads. Nothing that leads elsewhere is lost, and classification does
not fail where the usages of the index are valid. -/
theorem classify_by_type (resolver : Resolver) :
    resolver.classify.supertypes = resolver.index.types.flatMap resolver.supertypesOf ∧
    resolver.classify.dependencies =
      resolver.index.types.flatMap (resolver.dependenciesOf resolver.classify) ∧
    (∀ declared ∈ resolver.index.types, ∀ clause ∈ resolver.supertypeRefs declared,
      clause.2.displayName ≠ declared.key →
        ∃ edge ∈ resolver.classify.supertypes, edge.src = declared.key ∧
          edge.dst = clause.2.displayName ∧ edge.kind = clause.1) ∧
    (∀ declared ∈ resolver.index.types, ∀ ref ∈ resolver.usedRefs declared,
      ref.displayName ≠ declared.key →
        ∃ edge ∈ resolver.classify.supertypes ++ resolver.classify.associations ++
            resolver.classify.dependencies,
          edge.src = declared.key ∧ edge.dst = ref.displayName) ∧
    ((∀ declared ∈ resolver.index.types, declared.declaration.HasValidUsages) →
      resolver.classify? = .ok resolver.classify) := by
  refine ⟨supertypes_by_type resolver, dependencies_by_type resolver, ?_, ?_,
    classify?_of_valid⟩
  · intro declared listed clause member elsewhere
    exact exists_supertype listed member elsewhere
  · intro declared listed ref used elsewhere
    by_cases joined : resolver.classify.joins declared.key ref.displayName = true
    · obtain ⟨edge, member, ends⟩ := ClassifiedDiagram.joins_iff.1 joined
      exact ⟨edge, List.mem_append_left _ member, ends⟩
    · obtain ⟨edge, member, ends⟩ := exists_dependency listed used elsewhere joined
      exact ⟨edge, List.mem_append_right _ member, ends⟩

/-- A type that extends another one, and mentions it again beside a type that is named twice, has
one inheritance and one dependency, also where the oracle fails. -/
theorem classify_by_type_repeats :
    let base : TypeDeclaration := { name := "Base" }
    let derived : TypeDeclaration :=
      { name := "Derived"
        extending := [.named "Base" [], .named "Base" []]
        methods :=
          [{ name := "all", returnType := .named "List" [.named "Base" []] },
            { name := "again", parameters := [{ name := "old", type := .named "List" [] }] }] }
    let index : Index :=
      { entries :=
          [{ key := "p.Base", package := "p", declaration := base },
            { key := "p.Derived", package := "p", declaration := derived }]
        distinct := by decide }
    let resolver : Resolver := { index, oracle := some fun _ _ => .error "offline" }
    (∀ declared ∈ resolver.index.types, declared.declaration.HasValidUsages) ∧
      resolver.classify? = .ok resolver.classify ∧
      resolver.classify.supertypes =
        [{ src := "p.Derived", dst := "p.Base", kind := .inheritance }] ∧
      resolver.classify.dependencies =
        [{ src := "p.Derived", dst := "List", kind := .dependency
           review := some .unresolved }] := by
  intro base derived index resolver
  have valid : ∀ declared ∈ resolver.index.types, declared.declaration.HasValidUsages := by
    decide +kernel
  obtain ⟨supertypes, dependencies, _, _, returned⟩ := classify_by_type resolver
  refine ⟨valid, returned valid, ?_, ?_⟩
  · rw [supertypes]
    decide +kernel
  · rw [dependencies]
    decide +kernel

end Resolver

end ClassAtlas
