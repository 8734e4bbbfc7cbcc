import Mathlib.Data.List.Basic

/-!
# Entries under keys

A list of entries, each a key with a value, is changed by putting a value under a key: at the place
of the key if it has one, and at the end otherwise. File trees, tables of settings and drawn nodes
are kept in this way. Putting a value is seen under its own key only, and keeps keys distinct.
-/
namespace ClassAtlas

variable {α β : Type} [BEq α] {entries : List (α × β)} {key other : α} {value : β}

/-- Where keys are distinct, an entry is found under its key. -/
theorem find?_of_mem_entries [LawfulBEq α] (distinct : (entries.map (·.1)).Nodup)
    (listed : (key, value) ∈ entries) : entries.find? (·.1 == key) = some (key, value) := by
  obtain ⟨front, back, rfl⟩ := List.append_of_mem listed
  rw [List.map_append, List.nodup_append] at distinct
  have missed : front.find? (·.1 == key) = none := by
    rw [List.find?_eq_none]
    intro entry early here
    have same : entry.1 = key := by simpa using here
    exact distinct.2.2 _ (List.mem_map_of_mem early) _ List.mem_cons_self same
  rw [List.find?_append, missed, Option.none_or, List.find?_cons_of_pos (by simp)]

variable [DecidableEq α]

/-- Put a value under a key, in place of the one that was there. -/
def putEntry (entries : List (α × β)) (key : α) (value : β) : List (α × β) :=
  if entries.any (·.1 == key) then
    entries.map fun entry => if entry.1 = key then (key, value) else entry
  else entries ++ [(key, value)]

/-- An entry after a value was put under a key is the new one or an old one. -/
theorem mem_putEntry {entry : α × β} (listed : entry ∈ putEntry entries key value) :
    entry = (key, value) ∨ entry ∈ entries := by
  unfold putEntry at listed
  split at listed
  · obtain ⟨old, early, rfl⟩ := List.mem_map.1 listed
    by_cases here : old.1 = key
    · exact .inl (if_pos here)
    · exact .inr (if_neg here ▸ early)
  · rcases List.mem_append.1 listed with early | last
    · exact .inr early
    · exact .inl (List.mem_singleton.1 last)

variable [LawfulBEq α]

/-- Replaced entries are found in the places of the old ones. -/
theorem find?_replaced_entry :
    (entries.map fun entry => if entry.1 = key then (key, value) else entry).find?
        (·.1 == other) =
      if other = key then (entries.find? (·.1 == key)).map fun _ => (key, value)
      else entries.find? (·.1 == other) := by
  induction entries with
  | nil => simp
  | cons first rest ih =>
    rw [List.map_cons, List.find?_cons, ih]
    by_cases here : first.1 = key
    · by_cases same : other = key
      · simp [here, same]
      · have missed : (key == other) = false := by simpa using Ne.symm same
        simp [here, same, missed]
    · by_cases same : other = key
      · have missed : (first.1 == key) = false := by simpa using here
        simp [same, here, missed]
      · simp [here, same, List.find?_cons]

/-- A value is found under the key that it was put under, and the others are found as before. -/
theorem find?_putEntry :
    (putEntry entries key value).find? (·.1 == other) =
      if other = key then some (key, value) else entries.find? (·.1 == other) := by
  unfold putEntry
  split
  · next known =>
    have held := List.find?_isSome.2 (List.any_eq_true.1 known)
    obtain ⟨entry, found⟩ := Option.isSome_iff_exists.1 held
    rw [find?_replaced_entry, found]
    rfl
  · next unknown =>
    have fresh : entries.find? (·.1 == key) = none := by
      rw [List.find?_eq_none]
      exact fun entry listed here => unknown (List.any_eq_true.2 ⟨entry, listed, here⟩)
    rw [List.find?_append]
    by_cases same : other = key
    · rw [if_pos same, same, fresh]
      simp
    · have missed : (key == other) = false := by simpa using Ne.symm same
      rw [if_neg same]
      simp [missed]

/-- Distinct keys stay distinct. -/
theorem nodup_putEntry (distinct : (entries.map (·.1)).Nodup) :
    ((putEntry entries key value).map (·.1)).Nodup := by
  unfold putEntry
  split
  · have keys : (entries.map fun entry => if entry.1 = key then (key, value) else entry).map (·.1) =
        entries.map (·.1) := by
      rw [List.map_map]
      apply List.map_congr_left
      intro entry _
      by_cases here : entry.1 = key <;> simp [here]
    rw [keys]
    exact distinct
  · next unknown =>
    have fresh : key ∉ entries.map (·.1) := by
      intro listed
      obtain ⟨entry, early, same⟩ := List.mem_map.1 listed
      exact unknown (List.any_eq_true.2 ⟨entry, early, beq_iff_eq.2 same⟩)
    rw [List.map_append, List.nodup_append]
    refine ⟨distinct, List.pairwise_singleton _ _, ?_⟩
    rintro early listed late last rfl
    have here : early = key := List.mem_singleton.1 last
    exact fresh (here ▸ listed)

end ClassAtlas
