import Mathlib.Algebra.Order.Ring.Nat
import Mathlib.Data.List.Nodup
import ClassAtlas.Proofs.IndexLookup

/-!
# The walk through the declarations of a corpus

A walk visits each declaration before what is nested in it, and goes inside a declaration only if
no declaration before it has its key. It is held as the list of its visits. The first visit with a
key gets its entry, and nothing is lost: a declaration that gets no entry is refused one, or lies
inside a declaration that is.
-/
namespace ClassAtlas

/-- The entry that a declaration asks for in its place. -/
def Placement.entry (placement : Placement) (declaration : TypeDeclaration)
    (owner : Option Key) : DeclaredType :=
  { key := Key.make declaration.name placement.package owner
    package := placement.package, declaration, owner
    imports := placement.imports, path := placement.path }

/-- Whether an entry is that of a declaration inside another entry's, at any depth, or that entry
itself. -/
inductive Placement.Encloses (placement : Placement) : DeclaredType → DeclaredType → Prop where
  | self (entry : DeclaredType) : Encloses placement entry entry
  | inside {outer inner : DeclaredType} {declaration : TypeDeclaration}
      (listed : declaration ∈ outer.declaration.nestedTypes)
      (within : Encloses placement (placement.entry declaration (some outer.key)) inner) :
      Encloses placement outer inner

/-- A declaration met on a walk. -/
structure Visit where
  /-- The entry that it asks for. -/
  entry : DeclaredType
  /-- Whether it gets the entry, its key being free. -/
  accepted : Bool

namespace Visit

/-- The entries that the visits of a walk get, in order. -/
def kept (visits : List Visit) : List DeclaredType := (visits.filter (·.accepted)).map (·.entry)

/-- The entries that the visits of a walk are refused, in order. -/
def refused (visits : List Visit) : List DeclaredType :=
  (visits.filter (!·.accepted)).map (·.entry)

/-- The keys that the visits of a walk take, in order. -/
def keys (visits : List Visit) : List Key := (kept visits).map (·.key)

variable {entry : DeclaredType} {visits : List Visit}

/-- An accepted entry is kept. -/
@[simp]
theorem kept_accepted : kept (⟨entry, true⟩ :: visits) = entry :: kept visits := rfl

/-- A refused entry is not kept. -/
@[simp]
theorem kept_refused : kept (⟨entry, false⟩ :: visits) = kept visits := rfl

/-- An accepted entry is not refused. -/
@[simp]
theorem refused_accepted : refused (⟨entry, true⟩ :: visits) = refused visits := rfl

/-- A refused entry is. -/
@[simp]
theorem refused_refused : refused (⟨entry, false⟩ :: visits) = entry :: refused visits := rfl

/-- Visits one after the other keep what each of them keep. -/
@[simp]
theorem kept_append (left right : List Visit) : kept (left ++ right) = kept left ++ kept right := by
  rw [kept, List.filter_append, List.map_append]
  rfl

/-- Visits one after the other refuse what each of them refuse. -/
@[simp]
theorem refused_append (left right : List Visit) :
    refused (left ++ right) = refused left ++ refused right := by
  rw [refused, List.filter_append, List.map_append]
  rfl

/-- Visits one after the other have the keys that each of them have. -/
@[simp]
theorem keys_append (left right : List Visit) : keys (left ++ right) = keys left ++ keys right := by
  rw [keys, kept_append, List.map_append]
  rfl

end Visit

/-! ## The walk -/

namespace TypeDeclaration

mutual

/-- The visit of a declaration and, unless its key is taken, of what is nested in it. -/
def walk (placement : Placement) (taken : List Key) (owner : Option Key) :
    TypeDeclaration → List Visit
  | declaration@⟨_, _, _, _, _, _, _, _, _, _, _, _, _, nestedTypes, _, _⟩ =>
    let entry := placement.entry declaration owner
    if entry.key ∈ taken then [⟨entry, false⟩]
    else ⟨entry, true⟩ :: walkAll placement (taken ++ [entry.key]) (some entry.key) nestedTypes

/-- The visits of several declarations of one owner, one after the other. -/
def walkAll (placement : Placement) (taken : List Key) (owner : Option Key) :
    List TypeDeclaration → List Visit
  | [] => []
  | declaration :: declarations =>
    let first := walk placement taken owner declaration
    first ++ walkAll placement (taken ++ Visit.keys first) owner declarations

end

variable {placement : Placement} {taken : List Key} {owner : Option Key}
  {declaration : TypeDeclaration}

/-- A declaration whose key is taken is visited alone. -/
theorem walk_refused (occupied : (placement.entry declaration owner).key ∈ taken) :
    declaration.walk placement taken owner = [⟨placement.entry declaration owner, false⟩] := by
  cases declaration
  rw [walk, if_pos occupied]

/-- A declaration whose key is free is visited before what is nested in it. -/
theorem walk_accepted (free : (placement.entry declaration owner).key ∉ taken) :
    declaration.walk placement taken owner =
      ⟨placement.entry declaration owner, true⟩ ::
        walkAll placement (taken ++ [(placement.entry declaration owner).key])
          (some (placement.entry declaration owner).key) declaration.nestedTypes := by
  cases declaration
  rw [walk, if_neg free]

/-- What holds of every walk is proved along it: a refused declaration stands alone, and an
accepted one is followed by the walk through what is nested in it. -/
theorem walkAll_induction (placement : Placement)
    {motive : List Key → Option Key → List TypeDeclaration → List Visit → Prop}
    (nil : ∀ taken owner, motive taken owner [] [])
    (refused : ∀ taken owner declaration declarations rest,
      (placement.entry declaration owner).key ∈ taken →
      motive taken owner declarations rest →
      motive taken owner (declaration :: declarations)
        (⟨placement.entry declaration owner, false⟩ :: rest))
    (accepted : ∀ taken owner declaration declarations nested rest,
      (placement.entry declaration owner).key ∉ taken →
      motive (taken ++ [(placement.entry declaration owner).key])
        (some (placement.entry declaration owner).key) declaration.nestedTypes nested →
      motive (taken ++ (placement.entry declaration owner).key :: Visit.keys nested) owner
        declarations rest →
      motive taken owner (declaration :: declarations)
        (⟨placement.entry declaration owner, true⟩ :: (nested ++ rest))) :
    ∀ taken owner declarations,
      motive taken owner declarations (walkAll placement taken owner declarations)
  | taken, owner, [] => by
    rw [walkAll]
    exact nil taken owner
  | taken, owner, declaration :: declarations => by
    rw [walkAll]
    by_cases occupied : (placement.entry declaration owner).key ∈ taken
    · rw [walk_refused occupied]
      refine refused taken owner declaration declarations _ occupied ?_
      rw [show taken ++ Visit.keys [⟨placement.entry declaration owner, false⟩] = taken from
        List.append_nil taken]
      exact walkAll_induction placement nil refused accepted taken owner declarations
    · rw [walk_accepted occupied]
      exact accepted taken owner declaration declarations _ _ occupied
        (walkAll_induction placement nil refused accepted _ _ declaration.nestedTypes)
        (walkAll_induction placement nil refused accepted _ owner declarations)
termination_by _ _ declarations => countAll declarations
decreasing_by
  all_goals rw [countAll, count_eq]
  all_goals omega

end TypeDeclaration

/-- The walk through the declarations of a unit. -/
def CompilationUnit.walk (unit : CompilationUnit) (taken : List Key) : List Visit :=
  TypeDeclaration.walkAll unit.placement taken none unit.types

/-- The walk through the declarations of several units, one unit after the other. -/
def walkUnits (taken : List Key) : List CompilationUnit → List Visit
  | [] => []
  | unit :: units =>
    let first := unit.walk taken
    first ++ walkUnits (taken ++ Visit.keys first) units

/-! ## What a walk keeps and refuses -/

namespace Visit

/-- The first visit with each key that is not taken before gets its entry. -/
def FirstWins (taken : List Key) (visits : List Visit) : Prop :=
  ∀ key, key ∉ taken →
    (kept visits).find? (·.key == key) = (visits.map (·.entry)).find? (·.key == key)

/-- If the first visit wins on a walk and on its continuation, it wins on both together. -/
theorem FirstWins.append {taken : List Key} {left right : List Visit}
    (first : FirstWins taken left) (second : FirstWins (taken ++ keys left) right) :
    FirstWins taken (left ++ right) := by
  intro key free
  rw [kept_append, List.map_append, List.find?_append, List.find?_append, ← first key free]
  cases found : (kept left).find? (·.key == key) with
  | some entry => rfl
  | none =>
    have absent : key ∉ keys left := by simpa [keys] using found
    rw [second key (by simp [free, absent])]

/-- The first visit wins on the walk through declarations of one owner. -/
theorem firstWins_walkAll (placement : Placement) (taken : List Key) (owner : Option Key)
    (declarations : List TypeDeclaration) :
    FirstWins taken (TypeDeclaration.walkAll placement taken owner declarations) := by
  refine TypeDeclaration.walkAll_induction placement
    (motive := fun taken _ _ visits => FirstWins taken visits) ?nil ?refused ?accepted taken owner
    declarations
  case nil => exact fun _ _ _ _ => rfl
  case refused =>
    intro taken owner declaration declarations rest occupied later key free
    have other : ((placement.entry declaration owner).key == key) = false := by
      rw [beq_eq_false_iff_ne]
      rintro rfl
      exact free occupied
    rw [kept_refused, later key free, List.map_cons, List.find?_cons, other]
  case accepted =>
    intro taken owner declaration declarations nested rest _ inner later
    have here : FirstWins taken [⟨placement.entry declaration owner, true⟩] := fun _ _ => rfl
    refine here.append (inner.append ?_)
    rw [List.append_assoc]
    exact later

/-- The first visit wins on the walk through a corpus. -/
theorem firstWins_walkUnits (taken : List Key) (units : List CompilationUnit) :
    FirstWins taken (walkUnits taken units) := by
  induction units generalizing taken with
  | nil => exact fun _ _ => rfl
  | cons unit units ih => exact (firstWins_walkAll _ taken none unit.types).append (ih _)

/-- No declaration is lost on the walk through declarations of one owner: the entries that are
kept, and the declarations in those that are refused, are as many as there are declarations. -/
theorem count_walkAll (placement : Placement) (taken : List Key) (owner : Option Key)
    (declarations : List TypeDeclaration) :
    let visits := TypeDeclaration.walkAll placement taken owner declarations
    TypeDeclaration.countAll declarations =
      (kept visits).length + ((refused visits).map (·.declaration.count)).sum := by
  refine TypeDeclaration.walkAll_induction placement
    (motive := fun _ _ declarations visits => TypeDeclaration.countAll declarations =
      (kept visits).length + ((refused visits).map (·.declaration.count)).sum)
    ?nil ?refused ?accepted taken owner declarations
  case nil =>
    intro taken owner
    rw [TypeDeclaration.countAll]
    rfl
  case refused =>
    intro taken owner declaration declarations rest _ later
    have count : (placement.entry declaration owner).declaration.count = declaration.count := rfl
    rw [TypeDeclaration.countAll, later, kept_refused, refused_refused, List.map_cons,
      List.sum_cons, count]
    omega
  case accepted =>
    intro taken owner declaration declarations nested rest _ inner later
    rw [TypeDeclaration.countAll, TypeDeclaration.count_eq, inner, later, kept_accepted,
      refused_accepted, kept_append, refused_append, List.length_cons, List.length_append,
      List.map_append, List.sum_append]
    omega

/-- No declaration is lost on the walk through a corpus. -/
theorem count_walkUnits (taken : List Key) (units : List CompilationUnit) :
    (units.map fun unit => TypeDeclaration.countAll unit.types).sum =
      (kept (walkUnits taken units)).length +
        ((refused (walkUnits taken units)).map (·.declaration.count)).sum := by
  induction units generalizing taken with
  | nil => rfl
  | cons unit units ih =>
    have first := count_walkAll unit.placement taken none unit.types
    rw [List.map_cons, List.sum_cons, first, ih (taken ++ keys (unit.walk taken)), walkUnits,
      kept_append, refused_append, List.length_append, List.map_append, List.sum_append]
    simp only [CompilationUnit.walk]
    omega

/-- A declaration inside a walked one is kept, or lies inside a refused one. -/
theorem covered_walkAll (placement : Placement) (taken : List Key) (owner : Option Key)
    (declarations : List TypeDeclaration) :
    let visits := TypeDeclaration.walkAll placement taken owner declarations
    ∀ top ∈ declarations, ∀ inner, placement.Encloses (placement.entry top owner) inner →
      inner ∈ kept visits ∨ ∃ stopped ∈ refused visits,
        placement.Encloses (placement.entry top owner) stopped ∧
          placement.Encloses stopped inner := by
  refine TypeDeclaration.walkAll_induction placement
    (motive := fun _ owner declarations visits => ∀ top ∈ declarations, ∀ inner,
      placement.Encloses (placement.entry top owner) inner →
        inner ∈ kept visits ∨ ∃ stopped ∈ refused visits,
          placement.Encloses (placement.entry top owner) stopped ∧
            placement.Encloses stopped inner)
    ?nil ?refused ?accepted taken owner declarations
  case nil => exact fun _ _ _ member => absurd member List.not_mem_nil
  case refused =>
    intro taken owner declaration declarations rest _ later top member inner within
    rcases List.mem_cons.1 member with rfl | other
    · exact Or.inr ⟨_, List.mem_cons_self, .self _, within⟩
    · refine (later top other inner within).imp id ?_
      rintro ⟨stopped, listed, encloses⟩
      exact ⟨stopped, List.mem_cons_of_mem _ listed, encloses⟩
  case accepted =>
    intro taken owner declaration declarations nested rest _ inside later top member inner within
    rw [kept_accepted, kept_append, refused_accepted, refused_append]
    rcases List.mem_cons.1 member with rfl | other
    · cases within with
      | self => exact Or.inl List.mem_cons_self
      | inside listed deeper =>
        rcases inside _ listed inner deeper with found | ⟨stopped, found, above, below⟩
        · exact Or.inl (List.mem_cons_of_mem _ (List.mem_append_left _ found))
        · exact Or.inr ⟨stopped, List.mem_append_left _ found, .inside listed above, below⟩
    · rcases later top other inner within with found | ⟨stopped, found, encloses⟩
      · exact Or.inl (List.mem_cons_of_mem _ (List.mem_append_right _ found))
      · exact Or.inr ⟨stopped, List.mem_append_right _ found, encloses⟩

/-- A declaration of a corpus is kept on the walk through it, or lies inside a refused one. -/
theorem covered_walkUnits (taken : List Key) {units : List CompilationUnit}
    {unit : CompilationUnit} (member : unit ∈ units) {top : TypeDeclaration}
    (listed : top ∈ unit.types) {inner : DeclaredType}
    (within : unit.placement.Encloses (unit.placement.entry top none) inner) :
    inner ∈ kept (walkUnits taken units) ∨ ∃ stopped ∈ refused (walkUnits taken units),
      unit.placement.Encloses (unit.placement.entry top none) stopped ∧
        unit.placement.Encloses stopped inner := by
  induction units generalizing taken with
  | nil => exact absurd member List.not_mem_nil
  | cons first units ih =>
    rw [walkUnits, kept_append, refused_append]
    rcases List.mem_cons.1 member with rfl | later
    · rcases covered_walkAll unit.placement taken none unit.types top listed inner within with
        found | ⟨stopped, found, encloses⟩
      · exact Or.inl (List.mem_append_left _ found)
      · exact Or.inr ⟨stopped, List.mem_append_left _ found, encloses⟩
    · rcases ih _ later with found | ⟨stopped, found, encloses⟩
      · exact Or.inl (List.mem_append_right _ found)
      · exact Or.inr ⟨stopped, List.mem_append_right _ found, encloses⟩

end Visit

end ClassAtlas
