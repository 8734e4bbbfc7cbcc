import ClassAtlas.Proofs.Ingestion
import ClassAtlas.Proofs.TextOrder

/-!
# Nested types in an index

An entry of the index of a corpus is that of a top-level declaration, or it is nested in another
entry: it has that entry's key as its owner, comes from the same unit, and its declaration is
written inside the other one. A nested type has a greater key than its owner.
-/
namespace ClassAtlas

/-- Whether an entry is that of a declaration written directly inside another entry's. -/
structure DeclaredType.NestedIn (inner outer : DeclaredType) : Prop where
  /-- Its declaration is one of those nested in the other. -/
  listed : inner.declaration ∈ outer.declaration.nestedTypes
  /-- The other entry owns it. -/
  owner : inner.owner = some outer.key
  /-- Its key continues that of the owner. -/
  key : inner.key = Key.make inner.declaration.name outer.package (some outer.key)
  /-- It lies in the owner's package. -/
  package : inner.package = outer.package
  /-- It sees the owner's imports. -/
  imports : inner.imports = outer.imports
  /-- It lies where the owner lies. -/
  path : inner.path = outer.path

namespace Visit

/-- An entry kept on the walk through declarations of one owner is that of one of them, or it is
nested in another entry kept on the walk. -/
theorem origin_walkAll (placement : Placement) (taken : List Key) (owner : Option Key)
    (declarations : List TypeDeclaration) :
    let visits := TypeDeclaration.walkAll placement taken owner declarations
    ∀ entry ∈ kept visits,
      (∃ declaration ∈ declarations, entry = placement.entry declaration owner) ∨
        ∃ outer ∈ kept visits, entry.NestedIn outer := by
  refine TypeDeclaration.walkAll_induction placement
    (motive := fun _ owner declarations visits => ∀ entry ∈ kept visits,
      (∃ declaration ∈ declarations, entry = placement.entry declaration owner) ∨
        ∃ outer ∈ kept visits, entry.NestedIn outer)
    ?nil ?refused ?accepted taken owner declarations
  case nil => exact fun _ _ _ member => absurd member List.not_mem_nil
  case refused =>
    intro taken owner declaration declarations rest _ later entry member
    refine (later entry member).imp ?_ id
    rintro ⟨other, listed, same⟩
    exact ⟨other, List.mem_cons_of_mem _ listed, same⟩
  case accepted =>
    intro taken owner declaration declarations nested rest _ inner later entry member
    rw [kept_accepted, kept_append] at member ⊢
    rcases List.mem_cons.1 member with rfl | member
    · exact Or.inl ⟨declaration, List.mem_cons_self, rfl⟩
    rcases List.mem_append.1 member with inside | after
    · rcases inner entry inside with ⟨child, listed, rfl⟩ | ⟨outer, known, within⟩
      · exact Or.inr ⟨_, List.mem_cons_self, ⟨listed, rfl, rfl, rfl, rfl, rfl⟩⟩
      · exact Or.inr ⟨outer, List.mem_cons_of_mem _ (List.mem_append_left _ known), within⟩
    · rcases later entry after with ⟨other, listed, same⟩ | ⟨outer, known, within⟩
      · exact Or.inl ⟨other, List.mem_cons_of_mem _ listed, same⟩
      · exact Or.inr ⟨outer, List.mem_cons_of_mem _ (List.mem_append_right _ known), within⟩

/-- An entry kept on the walk through a corpus is that of a top-level declaration, or it is nested
in another entry kept on the walk. -/
theorem origin_walkUnits (taken : List Key) (units : List CompilationUnit) :
    ∀ entry ∈ kept (walkUnits taken units),
      (∃ unit ∈ units, ∃ top ∈ unit.types, entry = unit.placement.entry top none) ∨
        ∃ outer ∈ kept (walkUnits taken units), entry.NestedIn outer := by
  induction units generalizing taken with
  | nil => exact fun _ member => absurd member List.not_mem_nil
  | cons unit units ih =>
    intro entry member
    rw [walkUnits, kept_append] at member ⊢
    rcases List.mem_append.1 member with here | later
    · rcases origin_walkAll unit.placement taken none unit.types entry here with
        ⟨top, listed, same⟩ | ⟨outer, known, within⟩
      · exact Or.inl ⟨unit, List.mem_cons_self, top, listed, same⟩
      · exact Or.inr ⟨outer, List.mem_append_left _ known, within⟩
    · rcases ih _ entry later with ⟨other, listed, same⟩ | ⟨outer, known, within⟩
      · exact Or.inl ⟨other, List.mem_cons_of_mem _ listed, same⟩
      · exact Or.inr ⟨outer, List.mem_append_right _ known, within⟩

end Visit

namespace Index

/-- The entries of the index of a corpus are those kept on the walk through it. -/
theorem entries_ofUnits (units : List CompilationUnit) (carried : List Diagnostic) :
    (ofUnits units carried).entries = Visit.kept (walkUnits [] (sortUnits units)) := by
  have follows := acceptUnits_follows { diagnostics := carried } units
  exact follows.entries

/-- An entry of the index of a corpus has no owner or is nested in another entry. -/
theorem nestedIn_of_owner {units : List CompilationUnit} {carried : List Diagnostic}
    {inner : DeclaredType} (member : inner ∈ (ofUnits units carried).entries) {owner : Key}
    (owned : inner.owner = some owner) :
    ∃ outer ∈ (ofUnits units carried).entries, outer.key = owner ∧ inner.NestedIn outer := by
  rw [entries_ofUnits] at member ⊢
  rcases Visit.origin_walkUnits [] (sortUnits units) inner member with
    ⟨unit, _, top, _, rfl⟩ | ⟨outer, known, within⟩
  · exact absurd owned (Option.some_ne_none owner).symm
  · exact ⟨outer, known, Option.some.inj (within.owner.symm.trans owned), within⟩

end Index

/-- A declaration nested in another one is smaller than it. -/
theorem TypeDeclaration.count_lt_of_nested {outer inner : TypeDeclaration}
    (listed : inner ∈ outer.nestedTypes) : inner.count < outer.count := by
  have included : ∀ declarations : List TypeDeclaration, inner ∈ declarations →
      inner.count ≤ countAll declarations := by
    intro declarations member
    induction declarations with
    | nil => exact absurd member List.not_mem_nil
    | cons first rest ih =>
      rw [countAll]
      rcases List.mem_cons.1 member with rfl | later
      · omega
      · have below := ih later
        omega
  have below := included outer.nestedTypes listed
  rw [outer.count_eq]
  omega

/-- A nested type has a greater key than its owner. -/
theorem Index.owner_lt_key {index : Index} {inner outer : DeclaredType}
    (first : inner ∈ index.entries) (second : outer ∈ index.entries)
    (nested : inner.NestedIn outer) : outer.key < inner.key := by
  have apart : inner.key ≠ outer.key := by
    intro same
    have smaller := TypeDeclaration.count_lt_of_nested nested.listed
    rw [entry_eq_of_key_eq first second same] at smaller
    omega
  by_cases unnamed : outer.key = ""
  · -- An owner without a name at the top of the default package has the least key of all.
    rw [unnamed] at apart ⊢
    exact (Text.empty_lt_iff inner.key).2 apart
  · have continued : inner.key = outer.key ++ ("$" ++ inner.declaration.name) := by
      rw [nested.key, Key.make, if_neg (by simpa using unnamed), String.append_assoc]
    rw [continued]
    exact Text.lt_append (by simp)

end ClassAtlas
