import ClassAtlas.Proofs.EdgeRegistry
import ClassAtlas.Proofs.IndexLookup

/-!
# The edges of a classified diagram

Four passes share one registry. Their edges differ in kind, so no pass meets a key of another: of
what is proposed to it, each refuses edges from a name to itself and repeats, and the last also
edges between names that the supertypes and associations of the finished diagram join.
-/
namespace ClassAtlas

/-- Whether a supertype or an association leads from one name to another. -/
def ClassifiedDiagram.joins (diagram : ClassifiedDiagram) (src dst : String) : Bool :=
  (diagram.supertypes ++ diagram.associations).any fun edge => edge.src == src && edge.dst == dst

/-- Whether a name leads to another is told by an edge. -/
theorem ClassifiedDiagram.joins_iff {diagram : ClassifiedDiagram} {src dst : String} :
    diagram.joins src dst = true ↔
      ∃ edge ∈ diagram.supertypes ++ diagram.associations, edge.src = src ∧ edge.dst = dst := by
  simp only [joins, List.any_eq_true, Bool.and_eq_true, beq_iff_eq]

namespace Resolver

variable {resolver : Resolver} {declared : DeclaredType} {edge : Edge}

/-! ## Proposed edges -/

/-- A nesting edge leads from a declared owner to the type. -/
theorem mem_nestingEdges :
    edge ∈ resolver.nestingEdges declared ↔
      ∃ owner, declared.owner = some owner ∧ resolver.index.contains owner = true ∧
        edge = { src := owner, dst := declared.key, kind := .owns } := by
  unfold nestingEdges
  cases declared.owner with
  | none => simp
  | some owner =>
    by_cases known : resolver.index.contains owner = true
    · simp [known]
    · simp [known]

/-- A supertype edge leads from the type to the reference of one of its clauses. -/
theorem mem_supertypeEdges :
    edge ∈ resolver.supertypeEdges declared ↔
      ∃ kind usage, (kind, usage) ∈ declared.declaration.supertypeClauses ∧
        edge =
          { src := declared.key, dst := (resolver.supertypeRef declared usage).displayName, kind
            review := (resolver.supertypeRef declared usage).review } := by
  simp only [supertypeEdges, List.mem_map, Prod.exists]
  constructor
  · rintro ⟨kind, usage, clause, rfl⟩
    exact ⟨kind, usage, clause, rfl⟩
  · rintro ⟨kind, usage, clause, rfl⟩
    exact ⟨kind, usage, clause, rfl⟩

/-- A member becomes an association exactly when its type refers to another declared type. -/
theorem classifyMember_eq_association {member field : FieldDecl} {component flag : Bool}
    {target : Key} :
    resolver.classifyMember declared member component = .association field target flag ↔
      resolver.resolveUsage member.type declared.context = some (.declared target) ∧
        target ≠ declared.key ∧ field = member ∧ flag = component := by
  unfold classifyMember
  split
  · next key found =>
    rw [found]
    by_cases own : key = declared.key
    · rw [if_pos own]
      simp only [reduceCtorEq, Option.some.injEq, TypeRef.declared.injEq, false_iff]
      rintro ⟨rfl, elsewhere, _⟩
      exact elsewhere own
    · rw [if_neg own]
      simp only [MemberOutcome.association.injEq, Option.some.injEq, TypeRef.declared.injEq]
      constructor
      · rintro ⟨rfl, rfl, rfl⟩
        exact ⟨rfl, own, rfl, rfl⟩
      · rintro ⟨rfl, _, rfl, rfl⟩
        exact ⟨rfl, rfl, rfl⟩
  · next undeclared =>
    simp only [reduceCtorEq, false_iff]
    rintro ⟨found, _⟩
    exact undeclared target found

/-- An association edge leads from the type to the declared type that a member refers to. -/
theorem mem_associationEdges :
    edge ∈ (resolver.classifyType declared).associationEdges ↔
      ∃ member component target, (member, component) ∈ declared.declaration.members ∧
        resolver.resolveUsage member.type declared.context = some (.declared target) ∧
        target ≠ declared.key ∧
        edge =
          { src := declared.key, dst := target, kind := .association, role := member.name
            stereotypes := distinctNames member.annotations } := by
  simp only [ClassifiedType.associationEdges, classifyType, ClassifiedType.key,
    List.filterMap_map, List.mem_filterMap, Prod.exists, Function.comp_apply]
  constructor
  · rintro ⟨member, component, listed, made⟩
    split at made
    · exact absurd made (Option.some_ne_none edge).symm
    · next field target flag outcome =>
      obtain ⟨found, elsewhere, rfl, rfl⟩ := classifyMember_eq_association.1 outcome
      exact ⟨_, _, target, listed, found, elsewhere, (Option.some.inj made).symm⟩
  · rintro ⟨member, component, target, listed, found, elsewhere, rfl⟩
    have outcome : resolver.classifyMember declared member component =
        .association member target component :=
      classifyMember_eq_association.2 ⟨found, elsewhere, rfl, rfl⟩
    exact ⟨member, component, listed, by rw [outcome]⟩

/-- A dependency edge leads from the type to the reference of a class type it mentions. -/
theorem mem_dependencyEdges :
    edge ∈ resolver.dependencyEdges declared ↔
      ∃ usage ∈ declared.declaration.dependencySites, ∃ site ∈ usage.sites,
        edge =
          { src := declared.key
            dst := (resolver.resolve site declared.context).displayName
            kind := .dependency
            review := (resolver.resolve site declared.context).review } := by
  simp only [dependencyEdges, List.mem_map, List.mem_flatMap]
  constructor
  · rintro ⟨site, ⟨usage, written, inside⟩, rfl⟩
    exact ⟨usage, written, site, inside, rfl⟩
  · rintro ⟨usage, written, site, inside, rfl⟩
    exact ⟨site, ⟨usage, written, inside⟩, rfl⟩

/-! ## The passes -/

/-- The registry when the nesting has been handed out. -/
def afterOwns (resolver : Resolver) : EdgeRegistry :=
  (({} : EdgeRegistry).registerAll (resolver.index.types.flatMap resolver.nestingEdges)).1

/-- The registry when the supertypes have been handed out, too. -/
def afterSupertypes (resolver : Resolver) : EdgeRegistry :=
  (resolver.afterOwns.registerAll (resolver.index.types.flatMap resolver.supertypeEdges)).1

/-- The associations of the corpus before repeats are refused. -/
def associationEdges (resolver : Resolver) : List Edge :=
  resolver.index.types.flatMap fun declared => (resolver.classifyType declared).associationEdges

/-- The registry when the associations have been handed out, too. -/
def afterAssociations (resolver : Resolver) : EdgeRegistry :=
  (resolver.afterSupertypes.registerAll resolver.associationEdges).1

/-- The registry when the dependencies have been handed out, too. -/
def afterDependencies (resolver : Resolver) : EdgeRegistry :=
  (resolver.afterAssociations.registerDependencies
    (resolver.index.types.flatMap resolver.dependencyEdges)).1

/-- The first pass starts with nothing handed out. -/
theorem classify_owns (resolver : Resolver) :
    resolver.classify.owns =
      (({} : EdgeRegistry).registerAll (resolver.index.types.flatMap resolver.nestingEdges)).2 :=
  rfl

/-- The second pass goes on with the registry of the first. -/
theorem classify_supertypes (resolver : Resolver) :
    resolver.classify.supertypes =
      (resolver.afterOwns.registerAll (resolver.index.types.flatMap resolver.supertypeEdges)).2 :=
  rfl

/-- The third pass goes on with the registry of the second. -/
theorem classify_associations (resolver : Resolver) :
    resolver.classify.associations =
      (resolver.afterSupertypes.registerAll resolver.associationEdges).2 := by
  rw [associationEdges, ← List.flatMap_map]
  rfl

/-- The last pass goes on with the registry of the third. -/
theorem classify_dependencies (resolver : Resolver) :
    resolver.classify.dependencies =
      (resolver.afterAssociations.registerDependencies
        (resolver.index.types.flatMap resolver.dependencyEdges)).2 := by
  rw [afterAssociations, associationEdges, ← List.flatMap_map]
  rfl

/-- After the first pass the registry has seen the nesting. -/
theorem seen_afterOwns (resolver : Resolver) :
    resolver.afterOwns.seen = (resolver.classify.owns.map Edge.key).reverse := by
  rw [afterOwns, EdgeRegistry.registerAll_seen, ← classify_owns, List.append_nil]

/-- After the second pass it has seen the supertypes, too. -/
theorem seen_afterSupertypes (resolver : Resolver) :
    resolver.afterSupertypes.seen =
      ((resolver.classify.owns ++ resolver.classify.supertypes).map Edge.key).reverse := by
  rw [afterSupertypes, EdgeRegistry.registerAll_seen, ← classify_supertypes, seen_afterOwns,
    ← List.reverse_append, ← List.map_append]

/-- After the third pass it has seen the associations, too. -/
theorem seen_afterAssociations (resolver : Resolver) :
    resolver.afterAssociations.seen =
      ((resolver.classify.owns ++ resolver.classify.supertypes ++
        resolver.classify.associations).map Edge.key).reverse := by
  rw [afterAssociations, EdgeRegistry.registerAll_seen, ← classify_associations,
    seen_afterSupertypes, ← List.reverse_append, ← List.map_append]

/-- After the last pass it has seen every edge of the diagram. -/
theorem seen_afterDependencies (resolver : Resolver) :
    resolver.afterDependencies.seen = (resolver.classify.edges.map Edge.key).reverse := by
  rw [afterDependencies, EdgeRegistry.registerDependencies_seen, ← classify_dependencies,
    seen_afterAssociations, ClassifiedDiagram.edges, ← List.reverse_append, ← List.map_append]

/-! ## What each pass hands out -/

/-- The nesting of the diagram is that of a type in another one. -/
theorem mem_classify_owns (member : edge ∈ resolver.classify.owns) :
    ∃ declared ∈ resolver.index.types, edge ∈ resolver.nestingEdges declared := by
  rw [classify_owns] at member
  exact List.mem_flatMap.1 (EdgeRegistry.mem_registerAll_added member)

/-- The supertypes of the diagram are those of a type. -/
theorem mem_classify_supertypes (member : edge ∈ resolver.classify.supertypes) :
    ∃ declared ∈ resolver.index.types, edge ∈ resolver.supertypeEdges declared := by
  rw [classify_supertypes] at member
  exact List.mem_flatMap.1 (EdgeRegistry.mem_registerAll_added member)

/-- The associations of the diagram are those of a type. -/
theorem mem_classify_associations (member : edge ∈ resolver.classify.associations) :
    ∃ declared ∈ resolver.index.types,
      edge ∈ (resolver.classifyType declared).associationEdges := by
  rw [classify_associations] at member
  exact List.mem_flatMap.1 (EdgeRegistry.mem_registerAll_added member)

/-- The first pass hands out nesting alone. -/
theorem kind_of_mem_owns (member : edge ∈ resolver.classify.owns) : edge.kind = .owns := by
  obtain ⟨declared, _, proposed⟩ := mem_classify_owns member
  obtain ⟨owner, _, _, rfl⟩ := mem_nestingEdges.1 proposed
  rfl

/-- A supertype is inherited from or realized. -/
theorem kind_of_mem_supertypeEdges (proposed : edge ∈ resolver.supertypeEdges declared) :
    edge.kind = .inheritance ∨ edge.kind = .realization := by
  obtain ⟨kind, usage, clause, rfl⟩ := mem_supertypeEdges.1 proposed
  exact (TypeDeclaration.origin_of_mem_supertypeClauses clause).imp And.left And.left

/-- The second pass hands out inheritance and realization alone. -/
theorem kind_of_mem_supertypes (member : edge ∈ resolver.classify.supertypes) :
    edge.kind = .inheritance ∨ edge.kind = .realization := by
  obtain ⟨declared, _, proposed⟩ := mem_classify_supertypes member
  exact kind_of_mem_supertypeEdges proposed

/-- What a member proposes is an association. -/
theorem kind_of_mem_associationEdges
    (proposed : edge ∈ (resolver.classifyType declared).associationEdges) :
    edge.kind = .association := by
  obtain ⟨member, component, target, _, _, _, rfl⟩ := mem_associationEdges.1 proposed
  rfl

/-- The third pass hands out associations alone. -/
theorem kind_of_mem_associations (member : edge ∈ resolver.classify.associations) :
    edge.kind = .association := by
  obtain ⟨declared, _, proposed⟩ := mem_classify_associations member
  exact kind_of_mem_associationEdges proposed

/-- What a usage proposes is a dependency. -/
theorem kind_of_mem_dependencyEdges
    (proposed : edge ∈ resolver.index.types.flatMap resolver.dependencyEdges) :
    edge.kind = .dependency := by
  obtain ⟨declared, _, inside⟩ := List.mem_flatMap.1 proposed
  obtain ⟨usage, _, site, _, rfl⟩ := mem_dependencyEdges.1 inside
  rfl

/-- No dependency is handed out before the last pass. -/
theorem kind_ne_dependency
    (member : edge ∈ resolver.classify.owns ++ resolver.classify.supertypes ++
      resolver.classify.associations) : edge.kind ≠ .dependency := by
  rcases List.mem_append.1 member with front | association
  · rcases List.mem_append.1 front with nesting | supertype
    · rw [kind_of_mem_owns nesting]
      decide
    · rcases kind_of_mem_supertypes supertype with kind | kind
      · rw [kind]
        decide
      · rw [kind]
        decide
  · rw [kind_of_mem_associations association]
    decide

/-- No supertype has the key of a nesting, so the second pass refuses only edges from a name to
itself and repeats. -/
theorem classify_supertypes_eq (resolver : Resolver) :
    resolver.classify.supertypes =
      firstOfEach Edge.key ((resolver.index.types.flatMap resolver.supertypeEdges).filter
        fun edge => edge.src != edge.dst) := by
  rw [classify_supertypes]
  refine EdgeRegistry.registerAll_fresh fun edge proposed seen => ?_
  obtain ⟨declared, _, inside⟩ := List.mem_flatMap.1 proposed
  rw [seen_afterOwns, List.mem_reverse] at seen
  obtain ⟨nesting, member, same⟩ := List.mem_map.1 seen
  have kind : nesting.kind = edge.kind := congrArg EdgeKey.kind same
  rw [kind_of_mem_owns member] at kind
  rcases kind_of_mem_supertypeEdges inside with inherited | realized
  · rw [inherited] at kind
    exact absurd kind (by decide)
  · rw [realized] at kind
    exact absurd kind (by decide)

/-- Supertypes and associations are structural. -/
theorem isStructural_of_mem
    (member : edge ∈ resolver.classify.supertypes ++ resolver.classify.associations) :
    edge.kind.isStructural = true := by
  rcases List.mem_append.1 member with supertype | association
  · rcases kind_of_mem_supertypes supertype with kind | kind
    · rw [kind]
      rfl
    · rw [kind]
      rfl
  · rw [kind_of_mem_associations association]
    rfl

/-- The pairs that the registry holds to be joined structurally before the last pass are those
that the finished diagram joins. -/
theorem hasStructural_afterAssociations (resolver : Resolver) (src dst : String) :
    resolver.afterAssociations.hasStructural src dst = resolver.classify.joins src dst := by
  rw [Bool.eq_iff_iff, ClassifiedDiagram.joins_iff, EdgeRegistry.hasStructural,
    seen_afterAssociations]
  simp only [List.any_eq_true, Bool.and_eq_true, beq_iff_eq, List.mem_reverse, List.mem_map]
  constructor
  · rintro ⟨_, ⟨edge, member, rfl⟩, ⟨rfl, rfl⟩, structural⟩
    rw [List.append_assoc] at member
    rcases List.mem_append.1 member with nesting | joining
    · -- Nesting is remembered, but it does not count as structural.
      have kind : edge.key.kind = .owns := kind_of_mem_owns nesting
      rw [kind] at structural
      exact absurd structural (by decide)
    · exact ⟨edge, joining, rfl, rfl⟩
  · rintro ⟨edge, member, rfl, rfl⟩
    have earlier := List.mem_append_right resolver.classify.owns member
    rw [← List.append_assoc] at earlier
    exact ⟨edge.key, ⟨edge, earlier, rfl⟩, ⟨rfl, rfl⟩, isStructural_of_mem member⟩

/-- The last pass refuses only edges from a name to itself, edges between names that the finished
diagram joins, and repeats. -/
theorem classify_dependencies_eq (resolver : Resolver) :
    resolver.classify.dependencies =
      firstOfEach Edge.key ((resolver.index.types.flatMap resolver.dependencyEdges).filter
        fun edge => edge.src != edge.dst && !resolver.classify.joins edge.src edge.dst) := by
  rw [classify_dependencies,
    EdgeRegistry.registerDependencies_added _ fun edge => kind_of_mem_dependencyEdges]
  refine congrArg (firstOfEach Edge.key) (List.filter_congr fun edge proposed => ?_)
  have unseen : resolver.afterAssociations.contains edge.key = false := by
    have fresh : edge.key ∉ resolver.afterAssociations.seen := by
      intro seen
      rw [seen_afterAssociations, List.mem_reverse] at seen
      obtain ⟨other, member, same⟩ := List.mem_map.1 seen
      have kind : other.kind = edge.kind := congrArg EdgeKey.kind same
      exact kind_ne_dependency member (kind.trans (kind_of_mem_dependencyEdges proposed))
    simpa [EdgeRegistry.contains] using fresh
  rw [EdgeRegistry.admits, unseen, hasStructural_afterAssociations, Bool.not_false, Bool.and_true]
  rfl

end Resolver

end ClassAtlas
