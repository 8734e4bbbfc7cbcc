import ClassAtlas.Diagram.Generation
import ClassAtlas.Proofs.EdgesByType

/-!
# The laws of the edges of a diagram

The edges of a diagram obey laws that no pass sees as a whole. That every edge joins two names and
that no key occurs twice holds of everything the registry remembers, and at the end it remembers
the whole diagram. That a dependency is drawn exactly where no structural edge is follows from what
each type has by itself.
-/
namespace ClassAtlas

/-- What holds of the edges of a diagram together. -/
structure ClassifiedDiagram.Lawful (diagram : ClassifiedDiagram) : Prop where
  /-- Every edge joins two names. -/
  apart : ∀ edge ∈ diagram.edges, edge.src ≠ edge.dst
  /-- No two edges have the same key. -/
  distinct : (diagram.edges.map Edge.key).Nodup
  /-- No two dependencies join the same names. -/
  single : diagram.edges.Pairwise fun left right =>
    left.kind = .dependency → right.kind = .dependency →
      ¬(left.src = right.src ∧ left.dst = right.dst)
  /-- No dependency joins names that a structural edge joins. -/
  needed : ∀ dependency ∈ diagram.edges, dependency.kind = .dependency →
    ∀ structural ∈ diagram.edges, structural.kind.isStructural = true →
      ¬(dependency.src = structural.src ∧ dependency.dst = structural.dst)

namespace Resolver

variable {resolver : Resolver} {edge : Edge}

/-- A dependency of the diagram leads from a type to something it uses, where no supertype or
association leads. -/
theorem mem_classify_dependencies (member : edge ∈ resolver.classify.dependencies) :
    (∃ declared ∈ resolver.index.types, ∃ ref ∈ resolver.usedRefs declared,
      edge = declared.edgeTo .dependency ref) ∧
    ¬resolver.classify.joins edge.src edge.dst = true := by
  rw [dependencies_by_type] at member
  obtain ⟨declared, listed, inside⟩ := List.mem_flatMap.1 member
  obtain ⟨ref, first, rfl⟩ := List.mem_map.1 inside
  obtain ⟨used, kept⟩ := List.mem_filter.1 ((firstOfEach_sublist _ _).subset first)
  refine ⟨⟨declared, listed, ref, used, rfl⟩, fun joined => ?_⟩
  rw [Bool.and_eq_true, Bool.not_eq_true'] at kept
  exact Bool.false_ne_true (kept.2.symm.trans joined)

/-- The dependencies among the edges of the diagram are those of the last pass. -/
theorem mem_dependencies_of_kind (member : edge ∈ resolver.classify.edges)
    (kind : edge.kind = .dependency) : edge ∈ resolver.classify.dependencies := by
  rcases List.mem_append.1 member with earlier | dependency
  · exact absurd kind (kind_ne_dependency earlier)
  · exact dependency

/-- The structural edges of the diagram are its supertypes and associations. -/
theorem mem_structural_of_kind (member : edge ∈ resolver.classify.edges)
    (structural : edge.kind.isStructural = true) :
    edge ∈ resolver.classify.supertypes ++ resolver.classify.associations := by
  rcases List.mem_append.1 member with earlier | dependency
  · rw [List.append_assoc] at earlier
    rcases List.mem_append.1 earlier with nesting | joining
    · rw [kind_of_mem_owns nesting] at structural
      exact absurd structural (by decide)
    · exact joining
  · obtain ⟨⟨declared, _, ref, _, rfl⟩, _⟩ := mem_classify_dependencies dependency
    exact absurd structural Bool.false_ne_true

/-- What the registry remembers when the passes are over is lawful. -/
theorem lawful_afterDependencies (resolver : Resolver) : resolver.afterDependencies.Lawful :=
  (((EdgeRegistry.lawful_empty.registerAll _).registerAll _).registerAll _).registerDependencies _

/-- Dependencies with the same ends have the same key. -/
theorem key_eq_of_ends_eq {left right : Edge} (first : left ∈ resolver.classify.dependencies)
    (second : right ∈ resolver.classify.dependencies) (sources : left.src = right.src)
    (targets : left.dst = right.dst) : left.key = right.key := by
  obtain ⟨⟨declared, _, ref, _, rfl⟩, _⟩ := mem_classify_dependencies first
  obtain ⟨⟨other, _, used, _, rfl⟩, _⟩ := mem_classify_dependencies second
  rw [Edge.key, Edge.key, sources, targets]
  rfl

/-- The edges of a classified diagram are lawful. -/
theorem classify_lawful (resolver : Resolver) : resolver.classify.Lawful := by
  have lawful := lawful_afterDependencies resolver
  have seen := seen_afterDependencies resolver
  have distinct : (resolver.classify.edges.map Edge.key).Nodup := by
    have reversed := lawful.distinct
    rw [seen] at reversed
    exact List.nodup_reverse.1 reversed
  refine ⟨?_, distinct, ?_, ?_⟩
  · intro edge member
    have remembered : edge.key ∈ resolver.afterDependencies.seen := by
      rw [seen, List.mem_reverse]
      exact List.mem_map_of_mem member
    exact lawful.apart edge.key remembered
  · refine (List.pairwise_map.1 distinct).imp_of_mem ?_
    rintro left right here there differ first second ⟨sources, targets⟩
    exact differ (key_eq_of_ends_eq (mem_dependencies_of_kind here first)
      (mem_dependencies_of_kind there second) sources targets)
  · rintro dependency member kind edge joining structural ⟨sources, targets⟩
    have drawn := mem_classify_dependencies (mem_dependencies_of_kind member kind)
    refine drawn.2 (ClassifiedDiagram.joins_iff.2 ⟨edge, ?_, sources.symm, targets.symm⟩)
    exact mem_structural_of_kind joining structural

end Resolver

/-- The edges of the diagram of a corpus are lawful, whatever the oracle says. And a usage of a
type that leads elsewhere is drawn as a dependency unless a structural edge leads there: that the
type owns the other one does not suppress it. -/
theorem generate_edges_lawful (units : List CompilationUnit) (choice : OracleChoice)
    (carried : List Diagnostic) :
    let generation := generate units choice carried
    let resolver := choice.resolver generation.index
    generation.classified.Lawful ∧
    ∀ declared ∈ generation.index.types, ∀ usage ∈ declared.declaration.dependencySites,
      ∀ site ∈ usage.sites,
        let target := (resolver.resolve site declared.context).displayName
        target ≠ declared.key →
        (∀ edge ∈ generation.classified.edges, edge.kind.isStructural = true →
          ¬(edge.src = declared.key ∧ edge.dst = target)) →
        ∃ edge ∈ generation.classified.edges,
          edge.kind = .dependency ∧ edge.src = declared.key ∧ edge.dst = target := by
  intro generation resolver
  refine ⟨resolver.classify_lawful, ?_⟩
  intro declared listed usage written site inside target elsewhere free
  have used : resolver.resolve site declared.context ∈ resolver.usedRefs declared :=
    List.mem_map_of_mem (List.mem_flatMap.2 ⟨usage, written, inside⟩)
  have apart : ¬resolver.classify.joins declared.key target = true := by
    intro joined
    obtain ⟨edge, member, ends⟩ := ClassifiedDiagram.joins_iff.1 joined
    have drawn : edge ∈ resolver.classify.edges := by
      rw [ClassifiedDiagram.edges, List.append_assoc resolver.classify.owns]
      exact List.mem_append_left _ (List.mem_append_right _ member)
    exact free edge drawn (Resolver.isStructural_of_mem member) ends
  obtain ⟨edge, member, ends⟩ := Resolver.exists_dependency listed used elsewhere apart
  obtain ⟨⟨_, _, _, _, rfl⟩, _⟩ := Resolver.mem_classify_dependencies member
  exact ⟨_, List.mem_append_right _ member, rfl, ends⟩

/-- A type whose method returns the type nested in it both owns it and depends on it. -/
theorem generate_owner_depends :
    let nested : TypeDeclaration := { name := "T" }
    let owner : TypeDeclaration :=
      { name := "S", nestedTypes := [nested]
        methods := [{ name := "make", returnType := .named "T" [] }] }
    let diagram := (generate [{ package := "p", types := [owner] }] .none []).classified
    (∃ edge ∈ diagram.edges, edge.kind = .owns ∧ edge.src = "p.S" ∧ edge.dst = "p.S$T") ∧
      ∃ edge ∈ diagram.edges,
        edge.kind = .dependency ∧ edge.src = "p.S" ∧ edge.dst = "p.S$T" := by
  intro nested owner diagram
  let generation := generate [{ package := "p", types := [owner] }] .none []
  let resolver := OracleChoice.none.resolver generation.index
  have owned : ∃ edge ∈ diagram.edges,
      edge.kind = .owns ∧ edge.src = "p.S" ∧ edge.dst = "p.S$T" := by decide +kernel
  have used : ∃ declared ∈ generation.index.types, declared.key = "p.S" ∧
      ∃ usage ∈ declared.declaration.dependencySites, ∃ site ∈ usage.sites,
        (resolver.resolve site declared.context).displayName = "p.S$T" := by decide +kernel
  have free : ∀ edge ∈ generation.classified.edges, edge.kind.isStructural = true →
      ¬(edge.src = "p.S" ∧ edge.dst = "p.S$T") := by decide +kernel
  obtain ⟨declared, listed, named, usage, written, site, inside, found⟩ := used
  have elsewhere : (resolver.resolve site declared.context).displayName ≠ declared.key := by
    rw [found, named]
    decide
  have apart : ∀ edge ∈ generation.classified.edges, edge.kind.isStructural = true →
      ¬(edge.src = declared.key ∧
        edge.dst = (resolver.resolve site declared.context).displayName) := by
    rw [found, named]
    exact free
  have lawful := generate_edges_lawful [{ package := "p", types := [owner] }] .none []
  obtain ⟨edge, member, kind, src, dst⟩ :=
    lawful.2 declared listed usage written site inside elsewhere apart
  exact ⟨owned, edge, member, kind, src.trans named, dst.trans found⟩

end ClassAtlas
