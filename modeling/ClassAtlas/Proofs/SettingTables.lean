import ClassAtlas.Proofs.KeyedEntries
import ClassAtlas.Toml.Value

/-!
# Look-ups in tables of settings

A table holds what was set last under each key. A table that is laid over another gives its own
keys their values and leaves the others, provided that it holds no key twice; what it gives a key
depends on what was there only where both are tables, which are then laid over one another.
-/
namespace ClassAtlas.Toml

variable {table base later entries : Table} {key other : String} {value : Value}

namespace Table

/-! ## Setting keys -/

/-- Setting a key puts an entry under it. -/
theorem set_eq_putEntry : table.set key value = putEntry table key value := rfl

/-- What was set under a key is found there, and the other keys keep their values. -/
theorem get?_set :
    (table.set key value).get? other = if other = key then some value else table.get? other := by
  unfold get?
  rw [set_eq_putEntry, find?_putEntry]
  by_cases same : other = key
  · rw [if_pos same, if_pos same]
    rfl
  · rw [if_neg same, if_neg same]

/-- A table contains the keys that have a value. -/
theorem contains_iff_exists : table.contains key = true ↔ ∃ value, table.get? key = some value := by
  unfold contains get?
  rw [← Option.isSome_iff_exists, Option.isSome_map, List.find?_isSome, List.any_eq_true]

/-- A table holds no key twice. -/
def Distinct (table : Table) : Prop := (table.map (·.1)).Nodup

/-- In a table without repeated keys an entry is found under its key. -/
theorem Distinct.get?_of_mem (distinct : table.Distinct) (listed : (key, value) ∈ table) :
    table.get? key = some value := by
  unfold get?
  rw [find?_of_mem_entries distinct listed]
  rfl

/-- What is found under a key is listed with it. -/
theorem mem_of_get? (found : table.get? key = some value) : (key, value) ∈ table := by
  unfold get? at found
  obtain ⟨entry, first, rfl⟩ := Option.map_eq_some_iff.1 found
  have here : entry.1 = key := by simpa using List.find?_some first
  rw [← here]
  exact List.mem_of_find?_eq_some first

/-- A key that no entry has is not found. -/
theorem get?_eq_none (missing : key ∉ table.map (·.1)) : table.get? key = none := by
  cases found : table.get? key with
  | none => rfl
  | some value => exact absurd (List.mem_map_of_mem (mem_of_get? found)) missing

end Table

/-! ## Laying tables over one another -/

/-- What is found under a key when a later layer is laid over an earlier one. -/
def overlaid (earlier later : Option Value) : Option Value :=
  match later with
  | none => earlier
  | some value => some (value.over earlier)

/-- Tables are laid over one another. -/
theorem over_table :
    (Value.table entries).over (some (.table base)) = .table (base.merge entries) := by
  rw [Value.over]
  rfl

/-- What is no table takes the place of anything. -/
theorem over_of_plain {earlier : Option Value} (plain : value.table? = none) :
    value.over earlier = value := by
  cases value with
  | table entries => contradiction
  | _ => rw [Value.over]; exact fun _ => Value.noConfusion

/-- Anything takes the place of what is no table. -/
theorem over_plain {earlier : Option Value} (plain : earlier.bind Value.table? = none) :
    value.over earlier = value := by
  cases value with
  | table entries =>
    rw [Value.over]
    rintro base rfl
    exact Option.some_ne_none base plain
  | _ => exact over_of_plain rfl

/-- A table is laid over another one entry by entry. -/
theorem Table.merge_cons {rest : Table} :
    base.merge ((key, value) :: rest) =
      Table.merge (base.set key (value.over (base.get? key))) rest := by
  rw [Table.merge, mergeEntries]
  rfl

/-- Under each key stands what the later table has there, laid over what the earlier one has. -/
theorem Table.get?_merge (distinct : later.Distinct) :
    (base.merge later).get? key = overlaid (base.get? key) (later.get? key) := by
  induction later generalizing base with
  | nil =>
    rw [Table.merge, mergeEntries]
    rfl
  | cons entry rest ih =>
    obtain ⟨first, value⟩ := entry
    have ⟨fresh, unique⟩ := List.nodup_cons.1 distinct
    rw [merge_cons, ih unique, get?_set]
    by_cases here : key = first
    · have missing : Table.get? rest key = none := get?_eq_none (here ▸ fresh)
      have found : Table.get? ((first, value) :: rest) key = some value := by
        simp [Table.get?, here]
      rw [missing, found, if_pos here, here]
      rfl
    · have passed : Table.get? ((first, value) :: rest) key = Table.get? rest key := by
        simp [Table.get?, Ne.symm here]
      rw [passed, if_neg here]

/-! ## Sections -/

/-- The table that stands under a key of a document, if one does. -/
def tableAt (found : Option Value) : Option Table := found.bind Value.table?

/-- What stands under a key of the table that is found. -/
def entryAt (found : Option Value) (key : String) : Option Value :=
  (tableAt found).bind fun entries => Table.get? entries key

/-- Whether what is found is something else than a table. -/
def isPlain (found : Option Value) : Bool := found.any fun value => value.table?.isNone

variable {earlier found : Option Value}

/-- A table is found exactly where it stands. -/
theorem tableAt_eq_some_iff : tableAt found = some entries ↔ found = some (.table entries) := by
  cases found with
  | none => exact ⟨fun table => by contradiction, fun table => by contradiction⟩
  | some value =>
    cases value with
    | table inner => simp [tableAt, Value.table?]
    | _ => simp [tableAt, Value.table?]

/-- What is no table has no table in it. -/
theorem tableAt_of_plain (plain : isPlain found = true) : tableAt found = none := by
  cases found with
  | none => rfl
  | some value => exact Option.isNone_iff_eq_none.1 plain

/-- What is found and not plain is a table. -/
theorem eq_table_of_not_plain (solid : isPlain (some value) = false) :
    ∃ entries, value = .table entries := by
  cases value with
  | table entries => exact ⟨entries, rfl⟩
  | _ => contradiction

/-- A plain value takes the place of anything. -/
theorem overlaid_of_plain (plain : isPlain found = true) : overlaid earlier found = found := by
  cases found with
  | none => contradiction
  | some value => exact congrArg some (over_of_plain (Option.isNone_iff_eq_none.1 plain))

/-- Over something plain, what is found later counts alone. -/
theorem overlaid_of_plain_earlier (plain : tableAt earlier = none) (given : found.isSome = true) :
    overlaid earlier found = found := by
  cases found with
  | none => contradiction
  | some value => exact congrArg some (over_plain plain)

/-- Over nothing, what is found later counts as it is. -/
theorem overlaid_none : overlaid none found = found := by
  cases found with
  | none => rfl
  | some value => exact congrArg some (over_plain rfl)

/-- Something is found where something was found before. -/
theorem isSome_overlaid (given : earlier.isSome = true) :
    (overlaid earlier found).isSome = true := by
  cases found with
  | none => exact given
  | some value => rfl

/-- A table stays one unless something plain is laid over it. -/
theorem isSome_tableAt_overlaid (solid : isPlain found = false)
    (table : (tableAt earlier).isSome = true) :
    (tableAt (overlaid earlier found)).isSome = true := by
  cases found with
  | none => exact table
  | some value =>
    obtain ⟨entries, rfl⟩ := eq_table_of_not_plain solid
    obtain ⟨base, stands⟩ := Option.isSome_iff_exists.1 table
    rw [tableAt_eq_some_iff.1 stands, overlaid, over_table]
    rfl

/-- Where no plain value is laid over a section, its keys are laid over one another. -/
theorem entryAt_overlaid (solid : isPlain found = false)
    (distinct : ∀ entries, found = some (.table entries) → Table.Distinct entries) :
    entryAt (overlaid earlier found) key = overlaid (entryAt earlier key) (entryAt found key) := by
  cases found with
  | none => rfl
  | some value =>
    obtain ⟨entries, rfl⟩ := eq_table_of_not_plain solid
    cases stands : tableAt earlier with
    | none =>
      have nothing : entryAt earlier key = none := by
        unfold entryAt
        rw [stands]
        rfl
      rw [overlaid_of_plain_earlier stands rfl, nothing, overlaid_none]
    | some base =>
      have merged : (base.merge entries).get? key =
          overlaid (base.get? key) (Table.get? entries key) :=
        Table.get?_merge (distinct entries rfl)
      rw [tableAt_eq_some_iff.1 stands, overlaid, over_table]
      exact merged

end ClassAtlas.Toml
