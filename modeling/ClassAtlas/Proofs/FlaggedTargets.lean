import ClassAtlas.Proofs.InputOrder
import ClassAtlas.Proofs.ReferentialIntegrity

/-!
# Flagged edges to declared names

An edge that is flagged for review is drawn towards a name as it is written, and that name may
happen to be a key. It never is one where the edge leads outside the corpus. It is one where a name
without a dot misses the type that has it as its key, because the last part of the name belongs to
several types and to none at the top of the package the name is used in; or where a supertype that
refers to no class type is spelled like a key.
-/
namespace ClassAtlas

namespace TypeDeclaration

/-- The class types that edges of a kind are drawn for: those of the clauses of that kind, and for
dependencies those that usages mention. -/
def classesFor (declaration : TypeDeclaration) : RelationshipKind → List ClassUsage
  | .dependency => declaration.dependencySites.flatMap (·.sites)
  | kind => (declaration.supertypeClauses.filter (·.1 == kind)).filterMap (·.2.head?)

/-- The class type of a supertype clause is one that edges of the clause's kind are drawn for. -/
theorem mem_classesFor {declaration : TypeDeclaration} {kind : RelationshipKind}
    {usage : TypeUsage} {used : ClassUsage}
    (clause : (kind, usage) ∈ declaration.supertypeClauses) (peeled : usage.head? = some used) :
    used ∈ declaration.classesFor kind := by
  have listed : used ∈ (declaration.supertypeClauses.filter (·.1 == kind)).filterMap
      (·.2.head?) :=
    List.mem_filterMap.2 ⟨_, List.mem_filter.2 ⟨clause, beq_self_eq_true kind⟩, peeled⟩
  rcases origin_of_mem_supertypeClauses clause with ⟨rfl, _⟩ | ⟨rfl, _⟩
  · exact listed
  · exact listed

end TypeDeclaration

namespace Resolver

/-- Whether a class type that a declared type uses is taken for none of the declared types with its
last name, though there are some. -/
structure Misses (resolver : Resolver) (declared : DeclaredType) (used : ClassUsage) : Prop where
  /-- The oracle does not know it. -/
  unknown : resolver.ask used declared.context = none
  /-- It is written without a dot. -/
  undotted : used.name.toList.contains '.' = false
  /-- No type at the top of the same package has its last name. -/
  absent : resolver.index.contains
    (Key.make (Key.simpleName used.name) declared.package none) = false
  /-- Several declared types have its last name. -/
  ambiguous : resolver.index.isAmbiguous (Key.simpleName used.name) = true

end Resolver

/-- The last name of a declared key leads to no key exactly when it is ambiguous. -/
theorem Index.uniqueKey?_eq_none_iff {index : Index} {key : Key}
    (known : index.contains key = true) :
    index.uniqueKey? (Key.simpleName key) = none ↔
      index.isAmbiguous (Key.simpleName key) = true := by
  have listed : key ∈ index.keysNamed (Key.simpleName key) := by
    refine List.mem_filter.2 ⟨List.mem_map.2 (contains_iff.1 known), ?_⟩
    exact beq_self_eq_true _
  unfold uniqueKey? isAmbiguous
  match keys : index.keysNamed (Key.simpleName key) with
  | [] =>
    rw [keys] at listed
    exact absurd listed List.not_mem_nil
  | [only] => simp
  | first :: second :: rest => simp

/-- A flagged reference under a declared name is one that is not resolved. -/
theorem Index.Grounds.unresolved_of_known {index : Index} {ref : TypeRef}
    (grounded : index.Grounds ref) (flagged : ref.review ≠ none)
    (known : index.contains ref.displayName = true) : ∃ name, ref = .unresolved name := by
  cases ref with
  | declared key => exact absurd rfl flagged
  | external name =>
    have unknown : index.contains name = false := grounded.1
    rw [TypeRef.displayName, unknown] at known
    exact absurd known Bool.false_ne_true
  | unresolved name => exact ⟨name, rfl⟩

namespace Resolver

variable {resolver : Resolver} {declared : DeclaredType}

/-- A spelling stays unresolved, as written, exactly when no look-up finds a key for it. -/
theorem resolveText_eq_unresolved_iff {index : Index} {name package written : String} :
    resolveText index name package = .unresolved written ↔
      (name.toList.contains '.' && index.contains name) = false ∧
        index.contains (Key.make (Key.simpleName name) package none) = false ∧
        index.uniqueKey? (Key.simpleName name) = none ∧ written = name := by
  have resolved (key : Key) : TypeRef.declared key ≠ .unresolved written := TypeRef.noConfusion
  simp only [resolveText]
  split
  · next known =>
    refine ⟨fun found => absurd found (resolved name), fun missing => ?_⟩
    exact absurd known (Bool.eq_false_iff.1 missing.1)
  · next undotted =>
    split
    · next known =>
      refine ⟨fun found => absurd found (resolved _), fun missing => ?_⟩
      exact absurd known (Bool.eq_false_iff.1 missing.2.1)
    · next absent =>
      split
      · next key only =>
        refine ⟨fun found => absurd found (resolved key), fun missing => ?_⟩
        exact absurd (only.symm.trans missing.2.2.1) (Option.some_ne_none key)
      · next several =>
        constructor
        · intro same
          have written := (TypeRef.unresolved.inj same).symm
          exact ⟨Bool.eq_false_iff.2 undotted, Bool.eq_false_iff.2 absent, several, written⟩
        · rintro ⟨_, _, _, rfl⟩
          rfl

/-- An answer is always resolved. -/
theorem settle_ne_unresolved (index : Index) (answer : OracleAnswer) (name : String) :
    settle index answer ≠ .unresolved name := by
  have byName : settle.byName index answer ≠ .unresolved name := by
    unfold settle.byName
    split
    · exact nofun
    · exact nofun
  unfold settle
  split
  · split
    · exact nofun
    · exact byName
  · exact byName

/-- A class type stays unresolved under a declared name exactly when it is written like that name
and missed. -/
theorem resolve_eq_unresolved_iff {used : ClassUsage} {name : String}
    (known : resolver.index.contains name = true) :
    resolver.resolve used declared.context = .unresolved name ↔
      used.name = name ∧ resolver.Misses declared used := by
  unfold resolve
  constructor
  · intro found
    split at found
    · exact absurd found (settle_ne_unresolved _ _ _)
    · next unknown =>
      obtain ⟨undotted, absent, several, rfl⟩ := resolveText_eq_unresolved_iff.1 found
      rw [known, Bool.and_true] at undotted
      exact ⟨rfl, unknown, undotted, absent, (Index.uniqueKey?_eq_none_iff known).1 several⟩
  · rintro ⟨rfl, unknown, undotted, absent, ambiguous⟩
    have several := (Index.uniqueKey?_eq_none_iff known).2 ambiguous
    rw [unknown]
    refine resolveText_eq_unresolved_iff.2 ⟨?_, absent, several, rfl⟩
    rw [undotted, Bool.false_and]

/-- A flagged edge to a declared type is drawn for a class type that is missed, or for a supertype
that refers to no class type and is spelled like the key. -/
theorem origin_of_flagged {edge : Edge} (member : edge ∈ resolver.classify.edges)
    (flagged : edge.review ≠ none) (known : resolver.index.contains edge.dst = true) :
    edge.review = some .unresolved ∧
      ∃ declared ∈ resolver.index.types, declared.key = edge.src ∧
        ((∃ used ∈ declared.declaration.classesFor edge.kind,
            used.name = edge.dst ∧ resolver.Misses declared used) ∨
          ∃ usage, (edge.kind, usage) ∈ declared.declaration.supertypeClauses ∧
            usage.head? = none ∧ usage.render = edge.dst) := by
  have plain := (classify_anchored member).unflagged
  simp only [ClassifiedDiagram.edges, List.mem_append, or_assoc] at member
  rcases member with nesting | supertype | association | dependency
  · exact absurd (plain (Or.inl (kind_of_mem_owns nesting))) flagged
  · obtain ⟨declared, listed, proposed⟩ := mem_classify_supertypes supertype
    obtain ⟨kind, usage, clause, rfl⟩ := mem_supertypeEdges.1 proposed
    cases peeled : usage.head? with
    | none =>
      have spelled : resolver.supertypeRef declared usage = .unresolved usage.render := by
        rw [supertypeRef, resolveUsage, peeled]
        rfl
      rw [spelled]
      exact ⟨rfl, declared, listed, rfl, Or.inr ⟨usage, clause, peeled, rfl⟩⟩
    | some used =>
      have resolved : resolver.supertypeRef declared usage =
          resolver.resolve used declared.context := by
        rw [supertypeRef, resolveUsage, peeled]
        rfl
      have grounded := resolver.resolve_grounded used declared.context
      rw [resolved] at flagged known ⊢
      obtain ⟨name, found⟩ := grounded.unresolved_of_known flagged known
      rw [found] at known ⊢
      obtain ⟨named, misses⟩ := (resolve_eq_unresolved_iff known).1 found
      have inside := TypeDeclaration.mem_classesFor clause peeled
      exact ⟨rfl, declared, listed, rfl, Or.inl ⟨used, inside, named, misses⟩⟩
  · exact absurd (plain (Or.inr (kind_of_mem_associations association))) flagged
  · obtain ⟨⟨declared, listed, ref, used, rfl⟩, _⟩ := mem_classify_dependencies dependency
    obtain ⟨name, rfl⟩ := (usedRefs_grounded used).unresolved_of_known flagged known
    obtain ⟨site, inside, found⟩ := List.mem_map.1 used
    obtain ⟨named, misses⟩ := (resolve_eq_unresolved_iff known).1 found
    exact ⟨rfl, declared, listed, rfl, Or.inl ⟨site, inside, named, misses⟩⟩

end Resolver

/-- In the diagram of a corpus a flagged edge ends at a declared type only if it is flagged as
unresolved, and is drawn for a class type that is missed and written like the key, or for a
supertype that refers to no class type and is spelled like the key. -/
theorem generate_flagged_edges (units : List CompilationUnit) (choice : OracleChoice)
    (carried : List Diagnostic) :
    let generation := generate units choice carried
    let resolver := choice.resolver generation.index
    ∀ edge ∈ generation.classified.edges, edge.review ≠ none →
      generation.index.contains edge.dst = true →
      edge.review = some .unresolved ∧
        ∃ declared ∈ generation.index.types, declared.key = edge.src ∧
          ((∃ used ∈ declared.declaration.classesFor edge.kind,
              used.name = edge.dst ∧ resolver.Misses declared used) ∨
            ∃ usage, (edge.kind, usage) ∈ declared.declaration.supertypeClauses ∧
              usage.head? = none ∧ usage.render = edge.dst) := by
  intro generation resolver edge member flagged known
  exact Resolver.origin_of_flagged member flagged known

/-- A type that extends `Foo` from another package than two types of that name extends neither: its
edge is flagged though it ends at the type of the default package, with and without imports. -/
theorem generate_default_package_target :
    let target : CompilationUnit := { types := [{ name := "Foo" }] }
    let user : CompilationUnit :=
      { package := "p", types := [{ name := "A", extending := [.named "Foo" []] }] }
    let rival : CompilationUnit := { package := "q", types := [{ name := "Foo" }] }
    ∀ choice ∈ [OracleChoice.none, .imports],
      let generation := generate [target, user, rival] choice []
      ∃ edge ∈ generation.classified.edges, edge.kind = .inheritance ∧ edge.src = "p.A" ∧
        edge.dst = "Foo" ∧ edge.review = some .unresolved ∧
        generation.index.contains edge.dst = true := by
  intro target user rival choice listed
  have index : Index.ofUnits [target, user, rival] [] =
      [target, user, rival].foldl (fun index unit => (index.acceptUnit unit).1) {} :=
    ofUnits_eq_of_sorted (List.Perm.refl _) (by decide +kernel) []
  simp only [generate, index]
  rcases List.mem_cons.1 listed with rfl | last
  · decide +kernel
  · obtain rfl := List.mem_singleton.1 last
    decide +kernel

/-- So flagged edges do end at declared types. -/
theorem generate_flagged_target_declared :
    ¬∀ units : List CompilationUnit, ∀ choice ∈ [OracleChoice.none, .imports],
      let generation := generate units choice []
      ∀ edge ∈ generation.classified.edges,
        edge.kind ∈ [RelationshipKind.inheritance, .realization, .dependency] →
        edge.review ≠ none → generation.index.contains edge.dst = false := by
  intro never
  obtain ⟨edge, member, kind, _, _, flag, known⟩ :=
    generate_default_package_target .none List.mem_cons_self
  have flagged : edge.review ≠ none := by
    rw [flag]
    exact Option.some_ne_none _
  have unknown := never _ .none List.mem_cons_self edge member (by simp [kind]) flagged
  exact Bool.false_ne_true (unknown.symm.trans known)

/-- The edge to `Foo` is drawn for a class type that is missed, which the import oracle does not
know either. -/
theorem generate_flagged_edges_default_package :
    let target : CompilationUnit := { types := [{ name := "Foo" }] }
    let user : CompilationUnit :=
      { package := "p", types := [{ name := "A", extending := [.named "Foo" []] }] }
    let rival : CompilationUnit := { package := "q", types := [{ name := "Foo" }] }
    let generation := generate [target, user, rival] .imports []
    let resolver := OracleChoice.imports.resolver generation.index
    generation.index.contains "Foo" = true ∧
      ∃ declared ∈ generation.index.types, declared.key = "p.A" ∧
        ((∃ used ∈ declared.declaration.classesFor .inheritance,
            used.name = "Foo" ∧ resolver.Misses declared used) ∨
          ∃ usage, (RelationshipKind.inheritance, usage) ∈ declared.declaration.supertypeClauses ∧
            usage.head? = none ∧ usage.render = "Foo") := by
  intro target user rival generation resolver
  obtain ⟨edge, member, kind, src, dst, flag, known⟩ :=
    generate_default_package_target .imports (List.mem_cons_of_mem _ List.mem_cons_self)
  have flagged : edge.review ≠ none := by
    rw [flag]
    exact Option.some_ne_none _
  have origin := generate_flagged_edges [target, user, rival] .imports [] edge member flagged known
  rw [kind, src, dst] at origin
  rw [dst] at known
  exact ⟨known, origin.2⟩

end ClassAtlas
