/-!
# Sets of names

A set of names is held as the strictly increasing list of its members, so that equal sets are
equal values and listing the members needs no further choice of order.
-/
namespace ClassAtlas

/-- Insert a name into a list at the place its order gives it, unless it stands there. -/
def insertName (name : String) : List String → List String
  | [] => [name]
  | first :: rest =>
    if name < first then name :: first :: rest
    else if name = first then first :: rest
    else first :: insertName name rest

/-- Inserting adds the name and no other. -/
theorem mem_insertName {name other : String} {names : List String} :
    other ∈ insertName name names ↔ other = name ∨ other ∈ names := by
  induction names with
  | nil => simp [insertName]
  | cons first rest ih =>
    simp only [insertName]
    split
    · simp
    · split
      · next same => subst same; simp
      · simp only [List.mem_cons, ih]
        constructor
        · rintro (here | here | here) <;> simp [here]
        · rintro (here | here | here) <;> simp [here]

/-- Inserting keeps a strictly increasing list strictly increasing. -/
theorem insertName_pairwise {name : String} {names : List String}
    (increasing : names.Pairwise (· < ·)) : (insertName name names).Pairwise (· < ·) := by
  induction names with
  | nil => simp [insertName]
  | cons first rest ih =>
    have ⟨below, tail⟩ := List.pairwise_cons.1 increasing
    simp only [insertName]
    split
    · next before =>
      refine List.pairwise_cons.2 ⟨fun other member => ?_, increasing⟩
      rcases List.mem_cons.1 member with rfl | member
      · exact before
      · exact String.lt_trans before (below other member)
    · next notBefore =>
      split
      · exact increasing
      · next differs =>
        refine List.pairwise_cons.2 ⟨fun other member => ?_, ih tail⟩
        rcases mem_insertName.1 member with rfl | member
        · rcases String.le_total first other with le | le
          · exact String.not_le.1 fun back => differs (String.le_antisymm back le)
          · have before := String.not_le.1 fun back => differs (String.le_antisymm le back)
            exact absurd before notBefore
        · exact below other member

/-- The distinct names of a list in increasing order. -/
def distinctNames (names : List String) : List String := names.foldr insertName []

/-- Sorting keeps the members. -/
@[simp]
theorem mem_distinctNames {name : String} {names : List String} :
    name ∈ distinctNames names ↔ name ∈ names := by
  induction names with
  | nil => simp [distinctNames]
  | cons first rest ih =>
    simp only [distinctNames, List.foldr_cons] at ih ⊢
    rw [mem_insertName, ih, List.mem_cons]

/-- The distinct names are strictly increasing. -/
theorem distinctNames_pairwise (names : List String) :
    (distinctNames names).Pairwise (· < ·) := by
  induction names with
  | nil => exact List.Pairwise.nil
  | cons first rest ih => exact insertName_pairwise ih

/-- Strictly increasing names are distinct. -/
theorem nodup_of_increasing {names : List String} (increasing : names.Pairwise (· < ·)) :
    names.Nodup :=
  increasing.imp fun below => String.ne_of_lt below

/-- A finite set of names. -/
structure NameSet where
  /-- The members in increasing order. -/
  names : List String
  /-- No member stands before a smaller or equal one. -/
  increasing : names.Pairwise (· < ·)
deriving DecidableEq

namespace NameSet

/-- The set without members. -/
def empty : NameSet := ⟨[], List.Pairwise.nil⟩

instance : Inhabited NameSet := ⟨empty⟩

/-- The set of the names of a list. -/
def ofList (names : List String) : NameSet := ⟨distinctNames names, distinctNames_pairwise names⟩

/-- Whether a name is a member. -/
def contains (set : NameSet) (name : String) : Bool := set.names.contains name

end NameSet

end ClassAtlas
