import ClassAtlas.Proofs.EdgeLaws

/-!
# Referential integrity

An oracle may answer anything, decline or fail: the index has the last word. A reference to a
declared type is to a key of the index, and one to a type outside names neither a key nor the
source spelling of one. So every edge starts at a node, an edge that needs no review ends at one,
and an edge to a type outside never ends at a name that the corpus declares.
-/
namespace ClassAtlas

/-- What an index vouches for in a reference: a declared type is one of its keys, and a type
outside the corpus is spelled by none of them. -/
def Index.Grounds (index : Index) : TypeRef → Prop
  | .declared key => index.contains key = true
  | .external name =>
    index.contains name = false ∧ ∀ key, index.contains key = true → Key.dotted key ≠ name
  | .unresolved _ => True

namespace Resolver

variable {resolver : Resolver} {declared : DeclaredType}

/-- The reference of a spelling is grounded: every key it can lead to is looked up. -/
theorem resolveText_grounded (index : Index) (name package : String) :
    index.Grounds (resolveText index name package) := by
  simp only [resolveText]
  split
  · next known =>
    rw [Bool.and_eq_true] at known
    exact known.2
  · split
    · next known => exact known
    · split
      · next key only => exact Index.contains_of_uniqueKey? only
      · exact trivial

/-- The reference of an answer is grounded, whatever the answer is. -/
theorem settle_grounded (index : Index) (answer : OracleAnswer) :
    index.Grounds (settle index answer) := by
  have byName : index.Grounds (settle.byName index answer) := by
    unfold settle.byName
    split
    · next key found => exact Index.contains_of_keyForName? found
    · next missing => exact Index.keyForName?_eq_none missing
  unfold settle
  split
  · split
    · next known => exact known
    · exact byName
  · exact byName

/-- The reference of a class type is grounded, whatever the oracle does. -/
theorem resolve_grounded (resolver : Resolver) (usage : ClassUsage)
    (context : ResolutionContext) : resolver.index.Grounds (resolver.resolve usage context) := by
  unfold resolve
  split
  · exact settle_grounded _ _
  · exact resolveText_grounded _ _ _

/-- The reference of the class type that a usage refers to is grounded. -/
theorem resolveUsage_grounded {usage : TypeUsage} {context : ResolutionContext} {ref : TypeRef}
    (found : resolver.resolveUsage usage context = some ref) : resolver.index.Grounds ref := by
  obtain ⟨site, _, rfl⟩ := Option.map_eq_some_iff.1 found
  exact resolve_grounded resolver site context

/-- The reference of a supertype is grounded. -/
theorem supertypeRefs_grounded {kind : RelationshipKind} {ref : TypeRef}
    (clause : (kind, ref) ∈ resolver.supertypeRefs declared) : resolver.index.Grounds ref := by
  obtain ⟨⟨_, usage⟩, _, same⟩ := List.mem_map.1 clause
  rw [← (Prod.mk.inj same).2]
  cases found : resolver.resolveUsage usage declared.context with
  | none => exact trivial
  | some given => exact resolveUsage_grounded found

/-- The reference of a usage is grounded. -/
theorem usedRefs_grounded {ref : TypeRef} (used : ref ∈ resolver.usedRefs declared) :
    resolver.index.Grounds ref := by
  obtain ⟨site, _, rfl⟩ := List.mem_map.1 used
  exact resolve_grounded resolver site declared.context

end Resolver

/-- What an index vouches for in an edge. -/
structure Index.Anchors (index : Index) (edge : Edge) : Prop where
  /-- It starts at a declared type. -/
  src : index.contains edge.src = true
  /-- If it needs no review, it ends at a declared type. -/
  dst : edge.review = none → index.contains edge.dst = true
  /-- Nesting and associations need no review. -/
  unflagged : edge.kind = .owns ∨ edge.kind = .association → edge.review = none
  /-- If it leads outside, no key is or spells the name it leads to. -/
  outside : edge.review = some .external →
    index.contains edge.dst = false ∧
      ∀ key, index.contains key = true → Key.dotted key ≠ edge.dst

namespace Index

variable {index : Index} {declared : DeclaredType}

/-- The edge from a declared type to a grounded reference is anchored. -/
theorem anchors_edgeTo (listed : index.contains declared.key = true) {kind : RelationshipKind}
    (flaggable : ¬(kind = .owns ∨ kind = .association)) {ref : TypeRef}
    (grounded : index.Grounds ref) : index.Anchors (declared.edgeTo kind ref) := by
  refine ⟨listed, ?_, fun plain => absurd plain flaggable, ?_⟩
  · intro unflagged
    obtain ⟨key, rfl⟩ := (TypeRef.review_eq_none_iff ref).1 unflagged
    exact grounded
  · intro flagged
    cases ref with
    | declared key => exact absurd flagged (Option.some_ne_none _).symm
    | external name => exact grounded
    | unresolved name => exact absurd (Option.some.inj flagged) (by decide)

/-- An edge between declared types that needs no review is anchored. -/
theorem anchors_unflagged {edge : Edge} (src : index.contains edge.src = true)
    (dst : index.contains edge.dst = true) (unflagged : edge.review = none) :
    index.Anchors edge := by
  refine ⟨src, fun _ => dst, fun _ => unflagged, fun flagged => ?_⟩
  rw [unflagged] at flagged
  exact absurd flagged (Option.some_ne_none _).symm

end Index

namespace Resolver

variable {resolver : Resolver} {edge : Edge}

/-- Every edge of a classified diagram is anchored in the index. -/
theorem classify_anchored (member : edge ∈ resolver.classify.edges) :
    resolver.index.Anchors edge := by
  have known {declared : DeclaredType} (listed : declared ∈ resolver.index.types) :
      resolver.index.contains declared.key = true :=
    Index.contains_iff_types.2 ⟨declared, listed, rfl⟩
  simp only [ClassifiedDiagram.edges, List.mem_append, or_assoc] at member
  rcases member with nesting | supertype | association | dependency
  · obtain ⟨declared, listed, proposed⟩ := mem_classify_owns nesting
    obtain ⟨owner, _, owned, rfl⟩ := mem_nestingEdges.1 proposed
    exact Index.anchors_unflagged owned (known listed) rfl
  · obtain ⟨declared, listed, proposed⟩ := mem_classify_supertypes supertype
    rw [supertypeEdges_eq] at proposed
    obtain ⟨⟨kind, ref⟩, clause, rfl⟩ := List.mem_map.1 proposed
    refine Index.anchors_edgeTo (known listed) ?_ (supertypeRefs_grounded clause)
    have either : kind = .inheritance ∨ kind = .realization := kind_of_mem_supertypes supertype
    rcases either with rfl | rfl
    · decide
    · decide
  · obtain ⟨declared, listed, proposed⟩ := mem_classify_associations association
    obtain ⟨_, _, target, _, found, _, rfl⟩ := mem_associationEdges.1 proposed
    have declaredTarget : resolver.index.contains target = true := resolveUsage_grounded found
    exact Index.anchors_unflagged (known listed) declaredTarget rfl
  · obtain ⟨⟨declared, listed, ref, used, rfl⟩, _⟩ := mem_classify_dependencies dependency
    exact Index.anchors_edgeTo (known listed) (by decide) (usedRefs_grounded used)

/-- The declared keys are those of the nodes of the classified diagram. -/
theorem exists_node_iff {key : Key} :
    (∃ node ∈ resolver.classify.types, node.key = key) ↔ resolver.index.contains key = true := by
  rw [Index.contains_iff_types]
  constructor
  · rintro ⟨_, listed, rfl⟩
    obtain ⟨declared, member, rfl⟩ := List.mem_map.1 listed
    exact ⟨declared, member, rfl⟩
  · rintro ⟨declared, member, rfl⟩
    exact ⟨resolver.classifyType declared, List.mem_map_of_mem member, rfl⟩

end Resolver

/-- Every edge of the diagram of a corpus starts at a node. One that needs no review ends at a
node, as nesting and associations always do. One that leads outside the corpus ends at a name that
is neither a declared key nor the source spelling of one. None of this depends on the oracle, which
may be wrong, decline or fail. -/
theorem generate_edges_anchored (units : List CompilationUnit) (choice : OracleChoice)
    (carried : List Diagnostic) :
    let generation := generate units choice carried
    let diagram := generation.classified
    ∀ edge ∈ diagram.edges,
      (∃ node ∈ diagram.types, node.key = edge.src) ∧
      (edge.review = none → ∃ node ∈ diagram.types, node.key = edge.dst) ∧
      (edge.kind = .owns ∨ edge.kind = .association → edge.review = none) ∧
      (edge.review = some .external →
        generation.index.contains edge.dst = false ∧
          ∀ key, generation.index.contains key = true → Key.dotted key ≠ edge.dst) := by
  intro generation diagram edge member
  have anchored := Resolver.classify_anchored member
  refine ⟨Resolver.exists_node_iff.2 anchored.src, ?_, anchored.unflagged, anchored.outside⟩
  intro unflagged
  exact Resolver.exists_node_iff.2 (anchored.dst unflagged)

end ClassAtlas
