import Mathlib.Logic.Relation
import ClassAtlas.Proofs.ClassifiedEdges
import ClassAtlas.Proofs.Nesting

/-!
# Owners of declared types

Ingesting a corpus keeps one invariant: the owner of an entry is the entry that its declaration is
nested in, and both come from the same unit. The key of an owner is shorter than the keys of the
types it owns, also where the owner has no name and its types take the keys of top-level ones. So
the owners form a forest, and a diagram draws it whole: one edge for every type with an owner.
-/
namespace ClassAtlas

namespace Index

/-- Whether the owner of every entry is the entry that it is nested in. -/
def RecordsOwners (index : Index) : Prop :=
  ∀ inner ∈ index.entries, ∀ owner, inner.owner = some owner →
    ∃ outer, index.get? owner = some outer ∧ inner.NestedIn outer

/-- Whether following the owner of one type leads to another. -/
def OwnedBy (index : Index) (inner outer : DeclaredType) : Prop :=
  ∃ owner, inner.owner = some owner ∧ index.get? owner = some outer

variable {index : Index}

/-! ## The invariant -/

/-- An index without entries records every owner. -/
theorem recordsOwners_empty (diagnostics : List Diagnostic) :
    ({ diagnostics } : Index).RecordsOwners :=
  fun _ member => absurd member List.not_mem_nil

/-- Ingesting a corpus keeps recording every owner. -/
theorem RecordsOwners.acceptUnits (recorded : index.RecordsOwners)
    (units : List CompilationUnit) : (index.acceptUnits units).RecordsOwners := by
  have follows := index.acceptUnits_follows units
  intro inner member owner owned
  rw [follows.entries] at member
  rcases List.mem_append.1 member with early | late
  · obtain ⟨outer, found, nested⟩ := recorded inner early owner owned
    exact ⟨outer, follows.get?_of_some found, nested⟩
  · rcases Visit.origin_walkUnits index.taken (sortUnits units) inner late with
      ⟨unit, _, top, _, rfl⟩ | ⟨outer, kept, nested⟩
    · exact absurd owned (Option.some_ne_none owner).symm
    · have known : outer ∈ (index.acceptUnits units).entries := by
        rw [follows.entries]
        exact List.mem_append_right _ kept
      have key : outer.key = owner := Option.some.inj (nested.owner.symm.trans owned)
      exact ⟨outer, get?_eq_some_iff.2 ⟨known, key⟩, nested⟩

/-! ## Chains of owners -/

/-- A nested type has a longer key than its owner. -/
theorem owner_shorter {inner outer : DeclaredType} (first : inner ∈ index.entries)
    (second : outer ∈ index.entries) (nested : inner.NestedIn outer) :
    outer.key.length < inner.key.length := by
  have below := owner_lt_key first second nested
  by_cases unnamed : outer.key = ""
  · rw [unnamed] at below ⊢
    have filled : inner.key ≠ "" := fun same => String.lt_irrefl "" (same ▸ below)
    have longer : inner.key.length ≠ 0 := fun none => filled (String.length_eq_zero_iff.1 none)
    exact Nat.pos_of_ne_zero longer
  · rw [nested.key, Key.make, if_neg (by simpa using unnamed), String.length_append,
      String.length_append]
    have separator : "$".length = 1 := rfl
    omega

/-- Following an owner leads to an entry with a shorter key. -/
theorem RecordsOwners.of_ownedBy (recorded : index.RecordsOwners) {inner outer : DeclaredType}
    (member : inner ∈ index.entries) (owned : index.OwnedBy inner outer) :
    outer ∈ index.entries ∧ outer.key.length < inner.key.length := by
  obtain ⟨owner, named, found⟩ := owned
  obtain ⟨other, same, nested⟩ := recorded inner member owner named
  obtain rfl : other = outer := Option.some.inj (same.symm.trans found)
  have known := (get?_eq_some_iff.1 found).1
  exact ⟨known, owner_shorter member known nested⟩

/-- Following owners ends at a type without one. -/
theorem RecordsOwners.exists_root (recorded : index.RecordsOwners) (declared : DeclaredType)
    (member : declared ∈ index.entries) :
    ∃ root ∈ index.entries, root.owner = none ∧
      Relation.ReflTransGen index.OwnedBy declared root := by
  -- Each step shortens the key.
  induction length : declared.key.length using Nat.strongRecOn generalizing declared with
  | ind size shorter =>
    cases owned : declared.owner with
    | none => exact ⟨declared, member, owned, .refl⟩
    | some owner =>
      obtain ⟨outer, found, _⟩ := recorded declared member owner owned
      have step : index.OwnedBy declared outer := ⟨owner, owned, found⟩
      obtain ⟨known, less⟩ := recorded.of_ownedBy member step
      obtain ⟨root, listed, free, chain⟩ := shorter outer.key.length (length ▸ less) outer known rfl
      exact ⟨root, listed, free, .head step chain⟩

end Index

/-! ## The edges -/

/-- The edge that draws the owner of a type, if it has one. -/
def DeclaredType.owned? (declared : DeclaredType) : Option Edge :=
  declared.owner.map fun owner => { src := owner, dst := declared.key, kind := .owns }

namespace Resolver

variable {resolver : Resolver}

/-- Where every owner is recorded, a type proposes the edge of its owner. -/
theorem nestingEdges_eq (recorded : resolver.index.RecordsOwners) {declared : DeclaredType}
    (listed : declared ∈ resolver.index.types) :
    resolver.nestingEdges declared = declared.owned?.toList := by
  unfold nestingEdges DeclaredType.owned?
  cases owned : declared.owner with
  | none => rfl
  | some owner =>
    obtain ⟨outer, found, _⟩ := recorded declared (Index.mem_types_iff.1 listed) owner owned
    have known : resolver.index.contains owner = true :=
      Index.contains_iff.2 ⟨outer, Index.get?_eq_some_iff.1 found⟩
    simp [known]

/-- An edge that draws an owner leads from a key to a longer one. -/
theorem owned_longer (recorded : resolver.index.RecordsOwners) {edge : Edge}
    (drawn : edge ∈ resolver.index.types.filterMap (·.owned?)) :
    edge.src.length < edge.dst.length := by
  obtain ⟨declared, listed, made⟩ := List.mem_filterMap.1 drawn
  obtain ⟨owner, owned, rfl⟩ := Option.map_eq_some_iff.1 made
  have member := Index.mem_types_iff.1 listed
  obtain ⟨outer, found, nested⟩ := recorded declared member owner owned
  obtain ⟨known, rfl⟩ := Index.get?_eq_some_iff.1 found
  exact Index.owner_shorter member known nested

/-- No two edges that draw owners lead to the same type. -/
theorem owned_nodup (resolver : Resolver) :
    ((resolver.index.types.filterMap (·.owned?)).map (·.dst)).Nodup := by
  have listed : ((resolver.index.types.filterMap (·.owned?)).map (·.dst)).Sublist
      (resolver.index.types.map (·.key)) := by
    induction resolver.index.types with
    | nil => exact List.Sublist.refl _
    | cons declared types ih =>
      rw [List.filterMap_cons, List.map_cons]
      cases owned : declared.owned? with
      | none => exact ih.cons _
      | some edge =>
        obtain ⟨owner, _, rfl⟩ := Option.map_eq_some_iff.1 owned
        exact ih.cons_cons _
  exact listed.nodup resolver.index.types_nodup

/-- Where every owner is recorded, the nesting of the diagram is the edges of the owners, one for
each type that has one. -/
theorem classify_owns_eq (recorded : resolver.index.RecordsOwners) :
    resolver.classify.owns = resolver.index.types.filterMap (·.owned?) := by
  have proposed : resolver.index.types.flatMap resolver.nestingEdges =
      resolver.index.types.filterMap (·.owned?) := by
    rw [List.flatMap_congr fun _ listed => nestingEdges_eq recorded listed]
    exact (List.filterMap_eq_flatMap_toList _ _).symm
  have apart : (resolver.index.types.filterMap (·.owned?)).filter
      (fun edge => edge.src != edge.dst) = resolver.index.types.filterMap (·.owned?) :=
    List.filter_eq_self.2 fun edge drawn => by
      have differs : edge.src ≠ edge.dst := fun same =>
        Nat.lt_irrefl _ (same ▸ owned_longer recorded drawn)
      simpa using differs
  have distinct : ((resolver.index.types.filterMap (·.owned?)).map Edge.key).Nodup := by
    refine List.Nodup.of_map EdgeKey.dst ?_
    rw [List.map_map]
    exact owned_nodup resolver
  rw [classify_owns, proposed, EdgeRegistry.registerAll_fresh, apart,
    firstOfEach_of_nodup distinct]
  exact fun _ _ seen => absurd seen List.not_mem_nil

end Resolver

namespace IndexBuilder

/-- The builders that ingest whole corpora, one after the other, and nothing else. -/
inductive FromUnits : IndexBuilder → Prop where
  /-- One that has ingested nothing. -/
  | new : FromUnits {}
  /-- One that is given a report. -/
  | report {builder : IndexBuilder} (earlier : FromUnits builder) (diagnostic : Diagnostic) :
      FromUnits (builder.report diagnostic)
  /-- One that ingests a corpus. -/
  | ingest {builder next : IndexBuilder} (earlier : FromUnits builder)
      {units : List CompilationUnit} (ingested : builder.ingestUnits units = .ok next) :
      FromUnits next

/-- A builder that ingests whole corpora records every owner. -/
theorem FromUnits.recordsOwners {builder : IndexBuilder} (ingested : builder.FromUnits) :
    builder.index.RecordsOwners := by
  induction ingested with
  | new => exact Index.recordsOwners_empty []
  | report _ _ earlier => exact earlier
  | ingest _ ingested earlier =>
    rw [index_of_ingestUnits ingested]
    exact earlier.acceptUnits _

/-- In every index that is built from corpora the owner of a type is declared, comes from the same
unit, and has the type's declaration among those nested in its own. The diagram draws these owners
and no others, one edge for each type that has one, in the order of the index. So no type has two
owners, following owners ends at a type that has none, and the edges have no cycle. -/
theorem owners_form_forest {builder next : IndexBuilder} {index : Index}
    (ingested : builder.FromUnits) (built : builder.build = .ok (next, index))
    (oracle : Option TypeOracle) :
    let owns := ({ index, oracle } : Resolver).classify.owns
    (∀ inner ∈ index.types, ∀ owner, inner.owner = some owner →
      ∃ outer, index.get? owner = some outer ∧ inner.NestedIn outer) ∧
    owns = index.types.filterMap (·.owned?) ∧
    (∀ one ∈ owns, ∀ other ∈ owns, one.dst = other.dst → one = other) ∧
    (∀ declared ∈ index.types, ∃ root ∈ index.types,
      root.owner = none ∧ Relation.ReflTransGen index.OwnedBy declared root) ∧
    ∀ key, ¬Relation.TransGen
      (fun outer inner => ∃ edge ∈ owns, edge.src = outer ∧ edge.dst = inner) key key := by
  intro owns
  have recorded : index.RecordsOwners := by
    unfold build at built
    split at built
    · exact absurd built (by simp)
    · rw [← (Prod.mk.inj (Except.ok.inj built)).2]
      exact ingested.recordsOwners
  let resolver : Resolver := { index, oracle }
  have drawn : owns = index.types.filterMap (·.owned?) :=
    @Resolver.classify_owns_eq resolver recorded
  refine ⟨?_, drawn, ?_, ?_, ?_⟩
  · intro inner listed
    exact recorded inner (Index.mem_types_iff.1 listed)
  · rw [drawn]
    exact fun one here other there same =>
      List.inj_on_of_nodup_map resolver.owned_nodup here there same
  · intro declared listed
    obtain ⟨root, known, free, chain⟩ :=
      recorded.exists_root declared (Index.mem_types_iff.1 listed)
    exact ⟨root, Index.mem_types_iff.2 known, free, chain⟩
  · intro key cycle
    have longer {outer inner : Key} (chain : Relation.TransGen
        (fun outer inner => ∃ edge ∈ owns, edge.src = outer ∧ edge.dst = inner) outer inner) :
        outer.length < inner.length := by
      have step {outer inner : Key}
          (edge : ∃ edge ∈ owns, edge.src = outer ∧ edge.dst = inner) :
          outer.length < inner.length := by
        obtain ⟨edge, member, rfl, rfl⟩ := edge
        exact @Resolver.owned_longer resolver recorded edge (drawn ▸ member)
      induction chain with
      | single edge => exact step edge
      | tail _ edge shorter => exact shorter.trans (step edge)
    exact Nat.lt_irrefl _ (longer cycle)

/-- A type without a name at the top of the default package owns a type whose key does not show
it, and that one owns a type whose name has a separator in it. -/
theorem owners_form_forest_unnamed :
    let unit : CompilationUnit :=
      { types := [{ name := "", nestedTypes :=
          [{ name := "A", nestedTypes := [{ name := "B$C" }] }] }] }
    let index := ({} : Index).acceptUnits [unit]
    let owns := ({ index } : Resolver).classify.owns
    index.keys = ["", "A", "A$B$C"] ∧
      owns.map (fun edge => (edge.src, edge.dst)) = [("", "A"), ("A", "A$B$C")] ∧
      (∀ declared ∈ index.types, ∃ root ∈ index.types,
        root.owner = none ∧ Relation.ReflTransGen index.OwnedBy declared root) := by
  intro unit index owns
  have ingested : FromUnits { index } := @FromUnits.ingest {} { index } .new [unit] rfl
  have built : build { index } = .ok ({ index, sealed := true }, index) := rfl
  have keys : index.keys = ["", "A", "A$B$C"] := by decide +kernel
  obtain ⟨_, drawn, _, rooted, _⟩ := owners_form_forest ingested built none
  refine ⟨keys, ?_, rooted⟩
  have edges : owns = index.types.filterMap (·.owned?) := drawn
  rw [edges]
  decide +kernel

end IndexBuilder

end ClassAtlas
