import ClassAtlas.Proofs.MemberPartition
import ClassAtlas.Proofs.Ownership

/-!
# The order of the edges of a diagram

Every pass goes through the types in the order of the index. Supertypes, associations and
dependencies leave the type that is visited, so each of these lists stands in the order of its
sources. Nesting arrives at the type that is visited: its list stands in the order of its targets,
and an owner comes up again behind everything that is nested in between.
-/
namespace ClassAtlas

namespace Index

/-- The place of a key in the listing of the types of an index. -/
def place (index : Index) (key : Key) : Nat := (index.types.map (·.key)).idxOf key

/-- Whether edges stand in the order of the types that they leave. -/
def ListsBySource (index : Index) (edges : List Edge) : Prop :=
  edges.Pairwise fun earlier later => index.place earlier.src ≤ index.place later.src

/-- Whether edges stand in the order of the types that they arrive at, one edge for each. -/
def ListsByTarget (index : Index) (edges : List Edge) : Prop :=
  edges.Pairwise fun earlier later => index.place earlier.dst < index.place later.dst

/-- Whether an edge leaves an earlier type than another one and arrives at a later type. -/
def Spans (index : Index) (outer inner : Edge) : Prop :=
  index.place outer.src < index.place inner.src ∧ index.place inner.dst < index.place outer.dst

instance (index : Index) (edges : List Edge) : Decidable (index.ListsBySource edges) :=
  inferInstanceAs (Decidable (edges.Pairwise _))

variable {index : Index}

/-- Of two keys the one that is listed first has the smaller place. -/
theorem place_lt_of_sublist {first second : Key} (listed : [first, second].Sublist index.keys) :
    index.place first < index.place second := by
  obtain ⟨front, middle, parts, here, there⟩ := List.cons_sublist_iff.1 listed
  have before : first ∈ front := here
  have behind : second ∈ middle := List.singleton_sublist.1 there
  have distinct : (front ++ middle).Nodup := parts ▸ index.keys_nodup
  have apart : second ∉ front := fun early =>
    (List.nodup_append.1 distinct).2.2 second early second behind rfl
  have small : front.idxOf first < front.length := List.idxOf_lt_length_of_mem before
  rw [place, place, map_key_types, parts, List.idxOf_append_of_mem before,
    List.idxOf_append_of_notMem apart]
  omega

/-- The types of an index are listed by their places. -/
theorem types_by_place (index : Index) :
    index.types.Pairwise fun earlier later => index.place earlier.key < index.place later.key := by
  have keys : (index.types.map (·.key)).Pairwise fun first second =>
      index.place first < index.place second := by
    rw [map_key_types, List.pairwise_iff_forall_sublist]
    intro first second listed
    exact place_lt_of_sublist listed
  rwa [List.pairwise_map] at keys

/-- What leaves the types of an index, type by type, stands in the order of its sources. -/
theorem listsBySource_flatMap (index : Index) {block : DeclaredType → List Edge}
    (leaving : ∀ declared, ∀ edge ∈ block declared, edge.src = declared.key) :
    index.ListsBySource (index.types.flatMap block) := by
  apply List.pairwise_flatMap.2
  constructor
  · intro declared _
    apply List.pairwise_of_forall_mem_list
    intro earlier here later there
    rw [leaving declared earlier here, leaving declared later there]
  · apply index.types_by_place.imp
    intro first second before earlier here later there
    rw [leaving first earlier here, leaving second later there]
    exact Nat.le_of_lt before

/-- The edges of the owners stand in the order of the types that they arrive at. -/
theorem listsByTarget_owned (index : Index) :
    index.ListsByTarget (index.types.filterMap (·.owned?)) := by
  apply List.pairwise_filterMap.2
  apply index.types_by_place.imp
  intro first second before earlier made later also
  obtain ⟨_, _, rfl⟩ := Option.map_eq_some_iff.1 made
  obtain ⟨_, _, rfl⟩ := Option.map_eq_some_iff.1 also
  exact before

/-- Edges in the order of their targets stand in the order of their sources, too, exactly where none
of them spans another. -/
theorem listsBySource_iff_not_spans {edges : List Edge} (targets : index.ListsByTarget edges) :
    index.ListsBySource edges ↔
      ∀ outer ∈ edges, ∀ inner ∈ edges, ¬index.Spans outer inner := by
  constructor
  · rintro sources outer here inner there ⟨starts, ends⟩
    -- Whichever of the two edges is listed first, targets and sources agree on it.
    let agrees (left right : Edge) : Prop :=
      (index.place left.dst < index.place right.dst →
        index.place left.src ≤ index.place right.src) ∧
      (index.place right.dst < index.place left.dst →
        index.place right.src ≤ index.place left.src)
    have symmetric : Std.Symm agrees := ⟨fun _ _ => And.symm⟩
    have listed : edges.Pairwise agrees := by
      apply (targets.and sources).imp
      rintro earlier later ⟨before, ordered⟩
      exact ⟨fun _ => ordered, fun behind => absurd before (Nat.lt_asymm behind)⟩
    have agreed : agrees inner outer := by
      apply listed.forall_of_forall _ there here
      intro edge _
      exact ⟨fun _ => Nat.le_refl _, fun _ => Nat.le_refl _⟩
    have ordered := agreed.1 ends
    omega
  · intro unspanned
    apply List.Pairwise.imp_of_mem _ targets
    intro earlier later here there before
    have free := unspanned later there earlier here
    by_contra behind
    exact free ⟨Nat.lt_of_not_le behind, before⟩

end Index

namespace Resolver

/-- Supertypes stand in the order of their sources. -/
theorem supertypes_by_source (resolver : Resolver) :
    resolver.index.ListsBySource resolver.classify.supertypes := by
  rw [supertypes_by_type]
  apply resolver.index.listsBySource_flatMap
  intro declared edge member
  obtain ⟨_, _, rfl⟩ := List.mem_map.1 member
  rfl

/-- Associations stand in the order of their sources. -/
theorem associations_by_source (resolver : Resolver) :
    resolver.index.ListsBySource resolver.classify.associations := by
  rw [associations_by_type]
  apply resolver.index.listsBySource_flatMap
  intro declared edge member
  obtain ⟨_, _, rfl⟩ := List.mem_map.1 member
  rfl

/-- Dependencies stand in the order of their sources. -/
theorem dependencies_by_source (resolver : Resolver) :
    resolver.index.ListsBySource resolver.classify.dependencies := by
  rw [dependencies_by_type]
  apply resolver.index.listsBySource_flatMap
  intro declared edge member
  obtain ⟨_, _, rfl⟩ := List.mem_map.1 member
  rfl

end Resolver

/-- In the diagram of a corpus supertypes, associations and dependencies each stand in the order of
the types that they leave, whatever the oracle says. Nesting stands in the order of the types that
it arrives at, each behind its owner, and so it stands in the order of the owners exactly where no
owner and a type that it owns are both listed between another owner and a type of that one. -/
theorem generate_edges_by_place (units : List CompilationUnit) (choice : OracleChoice)
    (carried : List Diagnostic) :
    let generation := generate units choice carried
    let index := generation.index
    let diagram := generation.classified
    index.ListsBySource diagram.supertypes ∧
      index.ListsBySource diagram.associations ∧
      index.ListsBySource diagram.dependencies ∧
      index.ListsByTarget diagram.owns ∧
      (∀ edge ∈ diagram.owns, index.place edge.src < index.place edge.dst) ∧
      (index.ListsBySource diagram.owns ↔
        ∀ outer ∈ diagram.owns, ∀ inner ∈ diagram.owns, ¬index.Spans outer inner) := by
  intro generation index diagram
  let resolver := choice.resolver index
  have recorded : resolver.index.RecordsOwners :=
    (Index.recordsOwners_empty carried).acceptUnits units
  have owns : diagram.owns = index.types.filterMap (·.owned?) :=
    Resolver.classify_owns_eq recorded
  have targets : index.ListsByTarget diagram.owns := by
    rw [owns]
    exact index.listsByTarget_owned
  have downward : ∀ edge ∈ diagram.owns, index.place edge.src < index.place edge.dst := by
    intro edge member
    rw [owns] at member
    obtain ⟨declared, listed, made⟩ := List.mem_filterMap.1 member
    obtain ⟨owner, owned, rfl⟩ := Option.map_eq_some_iff.1 made
    apply Index.place_lt_of_sublist
    exact Index.owner_listed_before (Index.mem_types_iff.1 listed) owned
  exact ⟨resolver.supertypes_by_source, resolver.associations_by_source,
    resolver.dependencies_by_source, targets, downward,
    Index.listsBySource_iff_not_spans targets⟩

/-- The nesting of a type that owns another one comes between two edges of its own owner, so it does
not stand in the order of the owners. -/
theorem generate_owns_interrupted :
    let unit : CompilationUnit :=
      { types := [{ name := "A", nestedTypes :=
          [{ name := "B", nestedTypes := [{ name := "X" }] }, { name := "C" }] }] }
    let generation := generate [unit] .none []
    generation.classified.owns.map (fun edge => (edge.src, edge.dst)) =
        [("A", "A$B"), ("A$B", "A$B$X"), ("A", "A$C")] ∧
      generation.index.types.map (·.key) = ["A", "A$B", "A$B$X", "A$C"] ∧
      ¬generation.index.ListsBySource generation.classified.owns := by
  decide +kernel

end ClassAtlas
