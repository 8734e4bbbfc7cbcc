import ClassAtlas.Proofs.ReadTables

/-!
# Merged tables, path by path

A path of keys leads from a table through the tables in it to a value. When a later table is laid
over an earlier one, every path is settled by what the two have along it: two tables that meet are
merged, anything else that the later one has takes its place, and what the earlier one has stays
where the later one lets the path through. So merging the same table a second time changes nothing.
-/
namespace ClassAtlas.Toml

variable {table base later inner entries : Table} {key : String} {value : Value}
  {earlier : Option Value} {path rest : List String}

/-! ## Paths -/

/-- The value that a path of keys leads to from a value. -/
def Value.at? (value : Value) : List String → Option Value
  | [] => some value
  | key :: path => value.table?.bind fun entries => (Table.get? entries key).bind (·.at? path)

namespace Table

/-- The value that a path of keys leads to from a table. -/
def at? (table : Table) (path : List String) : Option Value := (Value.table table).at? path

/-- A path leads through its first key and on from there. -/
theorem at?_cons : table.at? (key :: path) = (table.get? key).bind (·.at? path) := rfl

/-- A path of one key leads to what stands under it. -/
theorem at?_single : table.at? [key] = table.get? key := by
  rw [at?_cons]
  exact Option.bind_fun_some _

/-- A path that goes on leads on from where its front leads. -/
theorem at?_append : table.at? (path ++ rest) = (table.at? path).bind (·.at? rest) := by
  induction path generalizing table with
  | nil => rfl
  | cons key path ih =>
    rw [List.cons_append, at?_cons, at?_cons, Option.bind_assoc]
    cases table.get? key with
    | none => rfl
    | some value =>
      cases value with
      | table entries => exact ih
      | _ => cases path <;> cases rest <;> rfl

/-- A path into a table in a table goes on from there. -/
theorem at?_below (found : table.get? key = some (.table inner)) :
    table.at? (key :: path) = inner.at? path := by
  rw [at?_cons, found]
  rfl

/-- Whether both tables have a table at a path. -/
def MeetAt (base later : Table) (path : List String) : Prop :=
  ∃ inner entries, base.at? path = some (.table inner) ∧ later.at? path = some (.table entries)

/-- Whether a later table lets a path through to an earlier one: wherever it has something on the
way, both have a table. -/
def LetsThrough (base later : Table) (path : List String) : Prop :=
  ∀ front, front <+: path → front ≠ path → later.at? front ≠ none → MeetAt base later front

/-- How a table has at every path what a later table laid over an earlier one gives it. -/
structure LaidByPath (base later merged : Table) : Prop where
  /-- What the later table has stands there, unless both have tables. -/
  later_wins : ∀ path value, later.at? path = some value → ¬MeetAt base later path →
    merged.at? path = some value
  /-- Where both have tables, these are merged. -/
  tables_merge : ∀ path (inner entries : Table), base.at? path = some (.table inner) →
    later.at? path = some (.table entries) → merged.at? path = some (.table (inner.merge entries))
  /-- What the earlier table has stays where the later one has nothing and lets the path through. -/
  earlier_stays : ∀ path, later.at? path = none → LetsThrough base later path →
    merged.at? path = base.at? path
  /-- Anywhere else there is nothing. -/
  nothing_else : ∀ path, later.at? path = none → ¬LetsThrough base later path →
    merged.at? path = none

/-! ## Where tables meet -/

/-- Tables meet at the root. -/
theorem meetAt_root : MeetAt base later [] := ⟨base, later, rfl, rfl⟩

/-- Below a key where tables meet, they meet as these tables do. -/
theorem meetAt_below (first : base.get? key = some (.table inner))
    (second : later.get? key = some (.table entries)) :
    MeetAt base later (key :: path) ↔ MeetAt inner entries path := by
  rw [MeetAt, MeetAt, at?_below first, at?_below second]

/-- A key that the later table does not set is let through with all below it. -/
theorem letsThrough_unset (unset : later.get? key = none) :
    LetsThrough base later (key :: path) := by
  intro front ahead _ given
  cases front with
  | nil => exact meetAt_root
  | cons first front =>
    obtain ⟨rfl, _⟩ := List.cons_prefix_cons.1 ahead
    rw [at?_cons, unset] at given
    exact absurd rfl given

/-- Below a key where tables meet, a path is let through as these tables let it. -/
theorem letsThrough_below (first : base.get? key = some (.table inner))
    (second : later.get? key = some (.table entries)) :
    LetsThrough base later (key :: path) ↔ LetsThrough inner entries path := by
  constructor
  · intro through front ahead proper given
    rw [← meetAt_below first second]
    refine through (key :: front) (List.cons_prefix_cons.2 ⟨rfl, ahead⟩) (by simpa using proper) ?_
    rw [at?_below second]
    exact given
  · intro through front ahead proper given
    cases front with
    | nil => exact meetAt_root
    | cons other front =>
      obtain ⟨rfl, further⟩ := List.cons_prefix_cons.1 ahead
      rw [at?_below second] at given
      rw [meetAt_below first second]
      exact through front further (by simpa using proper) given

end Table

/-! ## What stands at a path -/

/-- A value takes the place of another one unless both are tables. -/
theorem over_of_apart
    (apart : ¬∃ inner entries, earlier = some (.table inner) ∧ value = .table entries) :
    value.over earlier = value := by
  cases stands : tableAt earlier with
  | none => exact over_plain stands
  | some inner =>
    cases value with
    | table entries => exact absurd ⟨inner, entries, tableAt_eq_some_iff.1 stands, rfl⟩ apart
    | _ => exact over_of_plain rfl

/-- A longer path leads nowhere from what is no table. -/
theorem at?_of_plain (plain : tableAt earlier = none) :
    (earlier.bind (·.at? (key :: path))) = none := by
  cases earlier with
  | none => rfl
  | some value =>
    have none : value.table? = none := plain
    rw [Option.bind_some, Value.at?, none]
    rfl

/-- What a path leads to in a lawful value is lawful. -/
theorem Value.Lawful.of_at? {outer : Value} (lawful : outer.Lawful)
    (found : outer.at? path = some value) : value.Lawful := by
  induction path generalizing outer with
  | nil => exact Option.some.inj found ▸ lawful
  | cons key path ih =>
    cases outer with
    | table entries =>
      obtain ⟨next, set, further⟩ :
          ∃ next, Table.get? entries key = some next ∧ next.at? path = some value :=
        Option.bind_eq_some_iff.1 found
      exact ih (lawful.of_get? set) further
    | _ => contradiction

/-- Where a later value has something at a path, that is laid over what the earlier one has. -/
theorem Value.Lawful.at?_over {later : Value} (lawful : later.Lawful)
    (found : later.at? path = some value) :
    (later.over earlier).at? path = some (value.over (earlier.bind (·.at? path))) := by
  induction path generalizing later earlier with
  | nil =>
    obtain rfl := Option.some.inj found
    cases earlier with
    | none => rfl
    | some value => rfl
  | cons key path ih =>
    cases later with
    | table entries =>
      have reached : Table.at? entries (key :: path) = some value := found
      obtain ⟨next, set, further⟩ :
          ∃ next, Table.get? entries key = some next ∧ next.at? path = some value :=
        Option.bind_eq_some_iff.1 (Table.at?_cons.symm.trans reached)
      cases stands : tableAt earlier with
      | none =>
        rw [over_plain stands, at?_of_plain stands, over_plain rfl]
        exact reached
      | some base =>
        rw [tableAt_eq_some_iff.1 stands, over_table]
        have here : Table.get? (base.merge entries) key =
            some (next.over (Table.get? base key)) := by
          rw [Table.get?_merge lawful.distinct_keys, set]
          rfl
        change (Table.get? (base.merge entries) key).bind (·.at? path) = _
        rw [here]
        exact ih (lawful.of_get? set) further
    | _ => contradiction

namespace Table

/-- Where the later table has something at a path, that is laid over what the earlier one has. -/
theorem Lawful.at?_merge_of_some (above : later.Lawful) (found : later.at? path = some value) :
    (base.merge later).at? path = some (value.over (base.at? path)) := by
  have reached : ((Value.table later).over (some (.table base))).at? path =
      some (value.over (base.at? path)) := Value.Lawful.at?_over above found
  rw [over_table] at reached
  exact reached

/-- Where the later table has nothing, there is what the earlier one has if the path is let through,
and otherwise nothing. -/
theorem Lawful.at?_merge_of_none (above : later.Lawful) (missing : later.at? path = none) :
    LetsThrough base later path ∧ (base.merge later).at? path = base.at? path ∨
      ¬LetsThrough base later path ∧ (base.merge later).at? path = none := by
  induction path generalizing base later with
  | nil => contradiction
  | cons key path ih =>
    have here : (base.merge later).get? key = overlaid (base.get? key) (later.get? key) :=
      get?_merge above.distinct_keys
    cases set : later.get? key with
    | none =>
      refine .inl ⟨letsThrough_unset set, ?_⟩
      rw [at?_cons, at?_cons, here, set]
      rfl
    | some value =>
      rw [at?_cons, set, Option.bind_some] at missing
      rw [set, overlaid] at here
      by_cases meet : ∃ inner entries, base.get? key = some (.table inner) ∧ value = .table entries
      · obtain ⟨inner, entries, stands, rfl⟩ := meet
        rw [stands, over_table] at here
        rw [letsThrough_below stands set, at?_below here, at?_below stands]
        exact ih (above.of_get? set) missing
      · refine .inr ⟨fun through => meet ?_, ?_⟩
        · -- The key is on the way, so the path would only be let through where tables meet.
          have proper : [key] ≠ key :: path := by
            rintro same
            obtain rfl := (List.cons.inj same).2
            contradiction
          have given : later.at? [key] ≠ none := by
            rw [at?_single, set]
            exact Option.some_ne_none value
          have ahead : [key] <+: key :: path := List.cons_prefix_cons.2 ⟨rfl, List.nil_prefix⟩
          obtain ⟨inner, entries, first, second⟩ := through [key] ahead proper given
          rw [at?_single] at first second
          exact ⟨inner, entries, first, Option.some.inj (set.symm.trans second)⟩
        · rw [at?_cons, here, over_of_apart meet]
          exact missing

/-- What a later table laid over an earlier one gives every path. -/
theorem laidByPath_merge (above : later.Lawful) : LaidByPath base later (base.merge later) where
  later_wins path value found apart := by
    rw [above.at?_merge_of_some found, over_of_apart]
    rintro ⟨inner, entries, first, rfl⟩
    exact apart ⟨inner, entries, first, found⟩
  tables_merge path inner entries first second := by
    rw [above.at?_merge_of_some second, first, over_table]
  earlier_stays path missing through := by
    rcases above.at?_merge_of_none missing with ⟨_, same⟩ | ⟨closed, _⟩
    · exact same
    · exact absurd through closed
  nothing_else path missing closed := by
    rcases above.at?_merge_of_none missing with ⟨through, _⟩ | ⟨_, nothing⟩
    · exact absurd through closed
    · exact nothing

/-- Beyond a path where tables meet, what the later one has under a key is laid over what the
earlier one has there. -/
theorem Lawful.at?_merge_beyond (above : later.Lawful) (meet : MeetAt base later path) :
    (base.merge later).at? (path ++ key :: rest) =
      (overlaid (base.at? (path ++ [key])) (later.at? (path ++ [key]))).bind (·.at? rest) := by
  obtain ⟨inner, entries, first, second⟩ := meet
  have lawful : Table.Lawful entries := above.of_at? second
  have stands := (laidByPath_merge above).tables_merge path inner entries first second
  have earlier : base.at? (path ++ [key]) = Table.get? inner key := by
    rw [at?_append, first]
    exact at?_single
  have later : later.at? (path ++ [key]) = Table.get? entries key := by
    rw [at?_append, second]
    exact at?_single
  rw [at?_append, stands, earlier, later, ← get?_merge lawful.distinct_keys]
  rfl

/-! ## Merging twice -/

/-- Setting a key to the value that it has changes nothing. -/
theorem set_of_get? (distinct : table.Distinct) (found : table.get? key = some value) :
    table.set key value = table := by
  have known : table.contains key = true := contains_iff_exists.2 ⟨value, found⟩
  have same : ∀ entry ∈ table, (if entry.1 = key then (key, value) else entry) = entry := by
    rintro ⟨other, held⟩ listed
    by_cases here : other = key
    · obtain rfl := here
      have there := distinct.get?_of_mem listed
      rw [if_pos rfl, Option.some.inj (found.symm.trans there)]
    · exact if_neg here
  rw [set, if_pos known, List.map_congr_left same, List.map_id'']
  exact fun _ => rfl

/-- Merging keeps keys distinct. -/
theorem distinct_merge (distinct : base.Distinct) (later : Table) :
    (base.merge later).Distinct := by
  induction later generalizing base with
  | nil =>
    rw [merge, mergeEntries]
    exact distinct
  | cons entry rest ih =>
    obtain ⟨key, value⟩ := entry
    rw [merge_cons]
    exact ih (nodup_putEntry distinct)

/-- Merging changes nothing where every value already stands as it would be laid over. -/
theorem merge_of_settled (distinct : table.Distinct)
    (settled : ∀ key value, (key, value) ∈ later →
      ∃ held, table.get? key = some held ∧ value.over (some held) = held) :
    table.merge later = table := by
  induction later with
  | nil =>
    rw [merge, mergeEntries]
  | cons entry rest ih =>
    obtain ⟨key, value⟩ := entry
    obtain ⟨held, found, same⟩ := settled key value List.mem_cons_self
    rw [merge_cons, found, same, set_of_get? distinct found]
    exact ih fun key value listed => settled key value (List.mem_cons_of_mem _ listed)

/-- Merging into a table that has none of the keys adds the entries at its end. -/
theorem merge_of_fresh (distinct : Table.Distinct (table ++ later)) :
    table.merge later = table ++ later := by
  induction later generalizing table with
  | nil =>
    rw [merge, mergeEntries, List.append_nil]
  | cons entry rest ih =>
    obtain ⟨key, value⟩ := entry
    have fresh : key ∉ table.map (·.1) := by
      intro listed
      unfold Distinct at distinct
      rw [List.map_append, List.nodup_append] at distinct
      exact distinct.2.2 key listed key List.mem_cons_self rfl
    have missing := get?_eq_none fresh
    have unknown : table.contains key = false := by
      rw [Bool.eq_false_iff, Ne, contains_iff_exists, missing]
      rintro ⟨_, found⟩
      contradiction
    have added : table.set key value = table ++ [(key, value)] := by
      rw [set, unknown]
      rfl
    rw [merge_cons, missing, over_plain rfl, added, ih, List.append_assoc]
    · rfl
    · rw [List.append_assoc]
      exact distinct

end Table

/-- A lawful value that was laid over something changes nothing when it is laid over the result. -/
theorem Value.Lawful.over_again (lawful : value.Lawful)
    (below : ∀ held, earlier = some held → held.Lawful) :
    value.over (some (value.over earlier)) = value.over earlier := by
  induction lawful generalizing earlier with
  | @table entries distinct each ih =>
    -- Under every key of the table stands its value laid over what was there before.
    have settles {held : Table} (unique : held.Distinct) (before : String → Option Value)
        (lawful : ∀ key value, before key = some value → value.Lawful)
        (stands : ∀ key value, Table.get? entries key = some value →
          held.get? key = some (value.over (before key))) :
        held.merge entries = held := by
      refine Table.merge_of_settled unique fun key value listed => ?_
      refine ⟨_, stands key value (distinct.get?_of_mem listed), ?_⟩
      exact ih (key, value) listed (lawful key)
    cases table : tableAt earlier with
    | none =>
      have alone := settles distinct (fun _ => none) (fun _ _ found => by contradiction)
        fun key value found => by rw [found, over_plain rfl]
      rw [over_plain table, over_table, alone]
    | some base =>
      obtain rfl := tableAt_eq_some_iff.1 table
      have base_lawful := below _ rfl
      have merged : (base.merge entries).merge entries = base.merge entries := by
        refine settles (Table.distinct_merge base_lawful.distinct_keys entries) base.get?
          (fun _ _ => base_lawful.of_get?) fun key value found => ?_
        rw [Table.get?_merge distinct, found]
        rfl
      rw [over_table, over_table, merged]
  | _ => rw [over_of_plain rfl, over_of_plain rfl]

namespace Table

/-- A lawful table is merged into an earlier one path by path. Where it has something, that stands,
or is merged with a table that meets it; the earlier table keeps what the later one lets through,
and nothing else stands anywhere. So a second merge changes nothing, nor does that of a table
without entries, on either side. Beyond a path where tables meet, a key that only one of them sets
leads on as it does there. -/
theorem merge_by_path (below : base.Lawful) (above : later.Lawful) :
    LaidByPath base later (base.merge later) ∧
      (base.merge later).merge later = base.merge later ∧
      base.merge [] = base ∧ Table.merge [] later = later ∧
      ∀ path key rest, MeetAt base later path →
        (later.at? (path ++ [key]) = none →
          (base.merge later).at? (path ++ key :: rest) = base.at? (path ++ key :: rest)) ∧
        (base.at? (path ++ [key]) = none →
          (base.merge later).at? (path ++ key :: rest) = later.at? (path ++ key :: rest)) := by
  refine ⟨laidByPath_merge above, ?_, ?_, merge_of_fresh above.distinct_keys,
    fun path key rest meet => ?_⟩
  · have known : ∀ held, some (Value.table base) = some held → held.Lawful :=
      fun _ same => Option.some.inj same ▸ below
    have again := Value.Lawful.over_again above known
    rw [over_table, over_table] at again
    exact Value.table.inj again
  · rw [merge, mergeEntries]
  · have parts (table : Table) :
        table.at? (path ++ key :: rest) = (table.at? (path ++ [key])).bind (·.at? rest) := by
      rw [List.append_cons, at?_append]
    rw [above.at?_merge_beyond meet, parts base, parts later]
    constructor
    · intro unset
      rw [unset]
      rfl
    · intro unset
      rw [unset, overlaid_none]

/-- Two documents that meet in one section and disagree on the shape of the other. -/
theorem merge_by_path_shapes :
    let base : Table :=
      [("diagram", .table [("title", .text "Mine"), ("theme", .text "plain")]),
        ("scan", .integer 1)]
    let later : Table :=
      [("diagram", .table [("title", .text "Ours")]),
        ("scan", .table [("output_dir", .text "out")])]
    let merged := base.merge later
    merged.at? ["diagram", "title"] = some (.text "Ours") ∧
      merged.at? ["diagram", "theme"] = some (.text "plain") ∧
      merged.at? ["scan", "output_dir"] = some (.text "out") ∧
      merged.at? ["diagram", "tag"] = none ∧ merged.merge later = merged := by
  intro base later merged
  have leaf {table : Table} (distinct : table.Distinct)
      (plain : ∀ entry ∈ table, ∃ words, entry.2 = .text words) : table.Lawful := by
    refine .table distinct fun entry listed => ?_
    obtain ⟨words, same⟩ := plain entry listed
    exact same ▸ .text words
  have below : base.Lawful := by
    refine .table (by unfold Distinct; decide) ?_
    simp only [base, List.forall_mem_cons]
    exact ⟨leaf (by unfold Distinct; decide) (by simp), .integer 1, List.forall_mem_nil _⟩
  have above : later.Lawful := by
    refine .table (by unfold Distinct; decide) ?_
    simp only [later, List.forall_mem_cons]
    exact ⟨leaf (by unfold Distinct; decide) (by simp), leaf (by unfold Distinct; decide) (by simp),
      List.forall_mem_nil _⟩
  obtain ⟨laid, again, _, _, beyond⟩ := merge_by_path below above
  have meet : MeetAt base later ["diagram"] := ⟨_, _, rfl, rfl⟩
  refine ⟨laid.later_wins _ _ rfl ?_, ?_, ?_, ?_, again⟩
  · rintro ⟨inner, entries, first, _⟩
    exact Value.noConfusion (Option.some.inj first)
  · exact (beyond ["diagram"] "theme" [] meet).1 rfl
  · refine laid.later_wins _ _ rfl ?_
    rintro ⟨inner, entries, _, second⟩
    exact Value.noConfusion (Option.some.inj second)
  · exact (beyond ["diagram"] "tag" [] meet).1 rfl

end Table

end ClassAtlas.Toml
