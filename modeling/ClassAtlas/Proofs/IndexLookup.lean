import Mathlib.Data.List.Nodup
import ClassAtlas.Corpus.Index

/-!
# Look-ups in an index

The entries of an index have different keys, so a key leads to one entry, and the listing of the
index by packages and keys has every entry once: packages split the keys without overlap. Whatever
a look-up by name finds is a declared key.
-/
namespace ClassAtlas

/-- The least name of a list is in it. -/
theorem leastName_mem {names : List String} {least : String}
    (found : leastName names = some least) : least ∈ names := by
  induction names generalizing least with
  | nil => exact absurd found (Option.some_ne_none _).symm
  | cons name names ih =>
    rw [leastName] at found
    split at found
    · rw [← Option.some.inj found]
      exact List.mem_cons_self
    · next other below =>
      rw [← Option.some.inj found]
      split
      · exact List.mem_cons_self
      · exact List.mem_cons_of_mem name (ih below)

/-- Only a list without names has no least name. -/
theorem leastName_eq_none_iff {names : List String} : leastName names = none ↔ names = [] := by
  cases names with
  | nil => simp [leastName]
  | cons name names =>
    rw [leastName]
    split
    · simp
    · simp

/-- No name of a list is less than its least name. -/
theorem leastName_le {names : List String} {least name : String}
    (found : leastName names = some least) (member : name ∈ names) : least ≤ name := by
  induction names generalizing least with
  | nil => exact absurd member List.not_mem_nil
  | cons first names ih =>
    rw [leastName] at found
    split at found
    · next none =>
      rw [leastName_eq_none_iff.1 none] at member
      obtain rfl := List.mem_singleton.1 member
      obtain rfl := Option.some.inj found
      exact String.le_refl name
    · next other below =>
      rw [← Option.some.inj found]
      split
      · next smaller =>
        rcases List.mem_cons.1 member with rfl | later
        · exact String.le_refl name
        · exact String.le_trans (String.not_lt.1 (String.lt_asymm smaller)) (ih below later)
      · next bigger =>
        rcases List.mem_cons.1 member with rfl | later
        · exact String.not_lt.1 bigger
        · exact ih below later

namespace Index

/-- Entries with the same key are the same. -/
theorem entry_eq_of_key_eq {index : Index} {left right : DeclaredType}
    (first : left ∈ index.entries) (second : right ∈ index.entries)
    (same : left.key = right.key) : left = right :=
  List.inj_on_of_nodup_map index.distinct first second same

/-- A key is declared when an entry has it. -/
theorem contains_iff {index : Index} {key : Key} :
    index.contains key = true ↔ ∃ declared ∈ index.entries, declared.key = key := by
  simp [contains]

/-- The key of an entry leads to the entry, and a key leads nowhere else. -/
theorem get?_eq_some_iff {index : Index} {key : Key} {declared : DeclaredType} :
    index.get? key = some declared ↔ declared ∈ index.entries ∧ declared.key = key := by
  constructor
  · intro found
    have named := List.find?_some found
    exact ⟨List.mem_of_find?_eq_some found, by simpa using named⟩
  · rintro ⟨member, rfl⟩
    cases found : index.get? declared.key with
    | none =>
      have absent := (index.get?_eq_none_iff declared.key).1 found
      exact absurd (List.mem_map_of_mem member) absent
    | some other =>
      have named := List.find?_some found
      have same : other.key = declared.key := by simpa using named
      rw [entry_eq_of_key_eq (List.mem_of_find?_eq_some found) member same]

/-- The keys of a package are those of its entries. -/
theorem mem_keysInPackage {index : Index} {package : String} {key : Key} :
    key ∈ index.keysInPackage package ↔
      ∃ declared ∈ index.entries, declared.package = package ∧ declared.key = key := by
  simp [keysInPackage, and_assoc]

/-- The listed keys are the declared ones. -/
theorem mem_keys_iff {index : Index} {key : Key} :
    key ∈ index.keys ↔ index.contains key = true := by
  rw [contains_iff, keys, List.mem_flatMap]
  constructor
  · rintro ⟨package, _, member⟩
    obtain ⟨declared, entry, _, named⟩ := mem_keysInPackage.1 member
    exact ⟨declared, entry, named⟩
  · rintro ⟨declared, entry, named⟩
    have listed : declared.package ∈ index.packages := by
      simpa [packages] using ⟨declared, entry, rfl⟩
    exact ⟨declared.package, listed, mem_keysInPackage.2 ⟨declared, entry, rfl, named⟩⟩

/-- No key is listed twice. -/
theorem keys_nodup (index : Index) : index.keys.Nodup := by
  have distinct (names : List String) : (distinctNames names).Nodup :=
    nodup_of_increasing (distinctNames_pairwise names)
  refine List.nodup_flatMap.2 ⟨fun package _ => distinct _, ?_⟩
  refine (distinct _).imp fun {one other} differ key here there => ?_
  obtain ⟨first, entry, inOne, named⟩ := mem_keysInPackage.1 here
  obtain ⟨second, member, inOther, alike⟩ := mem_keysInPackage.1 there
  have same := entry_eq_of_key_eq entry member (named.trans alike.symm)
  rw [← inOne, same] at differ
  exact differ inOther

/-- The listed types are the entries. -/
theorem mem_types_iff {index : Index} {declared : DeclaredType} :
    declared ∈ index.types ↔ declared ∈ index.entries := by
  rw [types, List.mem_filterMap]
  constructor
  · rintro ⟨key, _, found⟩
    exact (get?_eq_some_iff.1 found).1
  · intro member
    have listed := mem_keys_iff.2 (contains_iff.2 ⟨declared, member, rfl⟩)
    exact ⟨declared.key, listed, get?_eq_some_iff.2 ⟨member, rfl⟩⟩

/-- The entries of declared keys have these keys, one after the other. -/
theorem map_key_get? {index : Index} {keys : List Key}
    (known : ∀ key ∈ keys, index.contains key = true) :
    (keys.filterMap index.get?).map (·.key) = keys := by
  have listed : ∀ key ∈ keys, (index.get? key).map (·.key) = some key := by
    intro key member
    obtain ⟨declared, entry, rfl⟩ := contains_iff.1 (known key member)
    rw [get?_eq_some_iff.2 ⟨entry, rfl⟩]
    rfl
  rw [List.map_filterMap, List.filterMap_congr listed, List.filterMap_some]

/-- The listed types have the listed keys, one after the other. -/
theorem map_key_types (index : Index) : index.types.map (·.key) = index.keys :=
  map_key_get? fun _ member => mem_keys_iff.1 member

/-- No two listed types have the same key. -/
theorem types_nodup (index : Index) : (index.types.map (·.key)).Nodup := by
  rw [map_key_types]
  exact index.keys_nodup

/-- A key is declared when a listed type has it. -/
theorem contains_iff_types {index : Index} {key : Key} :
    index.contains key = true ↔ ∃ declared ∈ index.types, declared.key = key := by
  rw [contains_iff]
  simp only [mem_types_iff]

/-- The only key with a simple name is declared. -/
theorem contains_of_uniqueKey? {index : Index} {name : String} {key : Key}
    (found : index.uniqueKey? name = some key) : index.contains key = true := by
  unfold uniqueKey? at found
  split at found
  · next only listed =>
    have member : only ∈ index.keysNamed name := by
      rw [listed]
      exact List.mem_cons_self
    rw [← Option.some.inj found]
    exact contains_iff.2 (List.mem_map.1 (List.mem_filter.1 member).1)
  · exact absurd found (Option.some_ne_none _).symm

/-- The key that a name spells is declared. -/
theorem contains_of_keyForName? {index : Index} {name : String} {key : Key}
    (found : index.keyForName? name = some key) : index.contains key = true := by
  unfold keyForName? at found
  split at found
  · next known =>
    rw [← Option.some.inj found]
    exact known
  · exact contains_iff.2 (List.mem_map.1 (List.mem_filter.1 (leastName_mem found)).1)

/-- A name that spells no key neither is one nor is the source spelling of one. -/
theorem keyForName?_eq_none {index : Index} {name : String}
    (missing : index.keyForName? name = none) :
    index.contains name = false ∧
      ∀ key, index.contains key = true → Key.dotted key ≠ name := by
  unfold keyForName? at missing
  split at missing
  · exact absurd missing (Option.some_ne_none _)
  · next unknown =>
    refine ⟨Bool.eq_false_iff.2 unknown, fun key declared same => ?_⟩
    have listed : key ∈ index.entries.map (·.key) := List.mem_map.2 (contains_iff.1 declared)
    have spelled : key ∈ (index.entries.map (·.key)).filter (Key.dotted · == name) :=
      List.mem_filter.2 ⟨listed, by simpa using same⟩
    rw [leastName_eq_none_iff.1 missing] at spelled
    exact absurd spelled List.not_mem_nil

end Index

end ClassAtlas
