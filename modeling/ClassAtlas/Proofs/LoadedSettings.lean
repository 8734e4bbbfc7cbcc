import ClassAtlas.Proofs.ReadTables
import ClassAtlas.Settings

/-!
# Loaded settings

Settings are loaded in three layers, and whatever the files are, every default section has a value
in the end. It is a section with all its default keys, each with the value of the last layer that
sets it, unless a file gives its name something else than a table. A project's file that does so
spoils the section. A user's file that does so takes the defaults away, and only a project's file
that sets every default key brings the section back.
-/
namespace ClassAtlas.Settings

open Toml (Table Value overlaid tableAt entryAt isPlain)

variable {settings user project : Settings} {name key : String} {given entries : Table}
  {value : Value} {workspace : Workspace} {read : Toml.DocumentReader}

/-! ## Sections and their keys -/

/-- What a layer sets under a key of a section. -/
def setting? (settings : Settings) (name key : String) : Option Value :=
  entryAt (Table.get? settings name) key

/-- Whether a layer gives the name of a section something else than a table. -/
def overwrites (settings : Settings) (name : String) : Bool := isPlain (Table.get? settings name)

/-- A section is a table with every key of a given one. -/
def HasSection (settings : Settings) (name : String) (given : Table) : Prop :=
  ∃ entries, settings.optional name = .ok entries ∧
    ∀ key, given.contains key = true → Table.contains entries key = true

/-- A section can be asked for settings if it is a table. -/
theorem optional_eq_ok_iff :
    settings.optional name = .ok entries ↔ tableAt (Table.get? settings name) = some entries := by
  unfold optional sectionValue
  cases Table.get? settings name with
  | none => exact ⟨fun given => by contradiction, fun found => by contradiction⟩
  | some value =>
    cases value with
    | table inner =>
      exact ⟨fun given => congrArg some (Except.ok.inj given),
        fun found => congrArg Except.ok (Option.some.inj found)⟩
    | _ => exact ⟨fun given => by contradiction, fun found => by contradiction⟩

/-- A setting can be required if its section is a table that sets it. -/
theorem required_eq_ok_iff :
    settings.required name key = .ok value ↔ settings.setting? name key = some value := by
  unfold required sectionValue setting? entryAt tableAt
  cases Table.get? settings name with
  | none => exact ⟨fun given => by contradiction, fun found => by contradiction⟩
  | some found =>
    cases found with
    | table inner =>
      dsimp only [bind, Except.bind, Option.bind, Value.table?]
      cases Table.get? inner key with
      | none => exact ⟨fun given => by contradiction, fun found => by contradiction⟩
      | some value =>
        exact ⟨fun given => congrArg some (Except.ok.inj given),
          fun found => congrArg Except.ok (Option.some.inj found)⟩
    | _ => exact ⟨fun given => by contradiction, fun found => by contradiction⟩

/-- A section has every key of a given table if it is a table and sets each of them. -/
theorem hasSection_iff :
    settings.HasSection name given ↔ (tableAt (Table.get? settings name)).isSome = true ∧
      ∀ key, given.contains key = true → (settings.setting? name key).isSome = true := by
  unfold HasSection setting? entryAt
  simp only [optional_eq_ok_iff, Toml.Table.contains_iff_exists, Option.isSome_iff_exists]
  constructor
  · rintro ⟨entries, stands, whole⟩
    rw [stands]
    exact ⟨⟨entries, rfl⟩, whole⟩
  · rintro ⟨⟨entries, stands⟩, whole⟩
    rw [stands] at whole
    exact ⟨entries, stands, whole⟩

/-- What is no table is no section. -/
theorem not_hasSection (plain : tableAt (Table.get? settings name) = none) :
    ¬settings.HasSection name given := by
  rintro ⟨entries, asked, _⟩
  rw [optional_eq_ok_iff, plain] at asked
  contradiction

/-- Whether there is a section depends on what stands under its name. -/
theorem hasSection_congr (same : Table.get? settings name = Table.get? user name) :
    settings.HasSection name given ↔ user.HasSection name given := by
  rw [hasSection_iff, hasSection_iff]
  unfold setting?
  rw [same]

/-! ## The layers -/

/-- What is read from a settings file holds no key twice if no table that is read from a document
does. -/
theorem layer_lawful {path : Path}
    (lawful : ∀ document, Toml.Yields Table.Lawful (read document))
    (found : layer read workspace path = .ok settings) : Table.Lawful settings := by
  unfold layer at found
  split at found
  · next document _ =>
    unfold ofDocument at found
    split at found
    · next table told =>
      obtain rfl := Except.ok.inj found
      exact lawful document _ told
    · split at found
      · obtain rfl := Except.ok.inj found
        exact .nil
      · contradiction
  · obtain rfl := Except.ok.inj found
    exact .nil

/-- The layer of a settings file is the table that is read from its document. -/
theorem layer_of_read {path : Path} {document : String} (found : workspace.read path = .ok document)
    (told : read document = .ok entries) : layer read workspace path = .ok entries := by
  rw [layer, found]
  dsimp only
  rw [ofDocument, told]

/-- A settings file that cannot be read, or whose document is malformed, counts as empty. -/
theorem layer_empty {path : Path}
    (unread : ∀ document, workspace.read path = .ok document → read document = .error .malformed) :
    layer read workspace path = .ok [] := by
  unfold layer
  split
  · next document found =>
    unfold ofDocument
    rw [unread document found]
    rfl
  · rfl

/-- The keys of a default section have values that are no tables. -/
theorem defaults_plain (listed : (name, Value.table given) ∈ defaults)
    (set : given.get? key = some value) : value.table? = none := by
  have plain : defaults.all fun entry =>
      entry.2.table?.all fun given => given.all fun leaf => leaf.2.table?.isNone := by decide
  have leaves := List.all_eq_true.1 plain _ listed
  have leaf := List.all_eq_true.1 leaves _ (Toml.Table.mem_of_get? set)
  exact Option.isNone_iff_eq_none.1 leaf

/-- No default section is listed twice. -/
theorem get?_defaults (listed : (name, Value.table given) ∈ defaults) :
    Table.get? defaults name = some (.table given) := by
  have distinct : Toml.Table.Distinct defaults := by
    unfold Toml.Table.Distinct
    decide
  exact distinct.get?_of_mem listed

/-- A section of a layer holds no key twice. -/
theorem distinct_section (lawful : Table.Lawful settings) (entries : Table)
    (found : Table.get? settings name = some (.table entries)) : Toml.Table.Distinct entries :=
  (lawful.of_get? found).distinct_keys

/-- The settings of three layers. -/
def merged (user project : Settings) : Settings := (Table.merge defaults user).merge project

/-- What stands under a name when layers are laid over the defaults. -/
theorem get?_merged (lawful : Table.Lawful user) (above : Table.Lawful project)
    (listed : (name, Value.table given) ∈ defaults) :
    Table.get? (merged user project) name =
      overlaid (overlaid (some (.table given)) (Table.get? user name))
        (Table.get? project name) := by
  unfold merged
  rw [Toml.Table.get?_merge above.distinct_keys, Toml.Table.get?_merge lawful.distinct_keys,
    get?_defaults listed]

/-- A default section is complete exactly if the project's file gives its name no other value than a
table, and the user's file does not either or the project's file sets every default key. -/
theorem merged_hasSection_iff (lawful : Table.Lawful user) (above : Table.Lawful project)
    (listed : (name, Value.table given) ∈ defaults) :
    (merged user project).HasSection name given ↔ project.overwrites name = false ∧
      (user.overwrites name = false ∨ project.HasSection name given) := by
  have stands := get?_merged lawful above listed
  cases spoiled : project.overwrites name with
  | true =>
    rw [Toml.overlaid_of_plain spoiled] at stands
    have lost : ¬(merged user project).HasSection name given :=
      not_hasSection (by rw [stands]; exact Toml.tableAt_of_plain spoiled)
    exact ⟨fun whole => absurd whole lost, fun holds => absurd holds.1.symm Bool.false_ne_true⟩
  | false =>
    cases emptied : user.overwrites name with
    | true =>
      -- The defaults are gone, so the project's section has to be complete by itself.
      rw [Toml.overlaid_of_plain emptied] at stands
      have below := Toml.tableAt_of_plain emptied
      have alone : (merged user project).HasSection name given ↔
          project.HasSection name given := by
        cases found : Table.get? project name with
        | none =>
          rw [found] at stands
          have lost : ¬(merged user project).HasSection name given :=
            not_hasSection (by rw [stands]; exact below)
          have missed : tableAt (Table.get? project name) = none := found ▸ rfl
          exact ⟨fun whole => absurd whole lost, fun whole => absurd whole (not_hasSection missed)⟩
        | some value =>
          rw [found, Toml.overlaid_of_plain_earlier below rfl, ← found] at stands
          exact hasSection_congr stands
      simp [alone]
    | false =>
      have table : (tableAt (some (Value.table given))).isSome = true := rfl
      have whole : (merged user project).HasSection name given := by
        rw [hasSection_iff]
        unfold setting?
        rw [stands]
        refine ⟨Toml.isSome_tableAt_overlaid spoiled (Toml.isSome_tableAt_overlaid emptied table),
          fun key known => ?_⟩
        rw [Toml.entryAt_overlaid spoiled (distinct_section above),
          Toml.entryAt_overlaid emptied (distinct_section lawful)]
        obtain ⟨value, set⟩ := Toml.Table.contains_iff_exists.1 known
        have kept : (entryAt (some (Value.table given)) key).isSome = true :=
          Option.isSome_iff_exists.2 ⟨value, set⟩
        exact Toml.isSome_overlaid (Toml.isSome_overlaid kept)
      exact ⟨fun _ => ⟨rfl, .inl rfl⟩, fun _ => whole⟩

/-- In a complete section each default key has the value of the last layer that sets it. -/
theorem merged_required (lawful : Table.Lawful user) (above : Table.Lawful project)
    (listed : (name, Value.table given) ∈ defaults)
    (whole : (merged user project).HasSection name given) (known : given.contains key = true) :
    ∃ value, (merged user project).required name key = .ok value ∧
      some value = overlaid (overlaid (given.get? key) (user.setting? name key))
        (project.setting? name key) := by
  have stands := get?_merged lawful above listed
  obtain ⟨value, set⟩ := Option.isSome_iff_exists.1 ((hasSection_iff.1 whole).2 key known)
  refine ⟨value, required_eq_ok_iff.2 set, ?_⟩
  obtain ⟨solid, source⟩ := (merged_hasSection_iff lawful above listed).1 whole
  unfold setting? at set
  rw [stands, Toml.entryAt_overlaid solid (distinct_section above)] at set
  rw [← set]
  cases emptied : user.overwrites name with
  | false =>
    rw [Toml.entryAt_overlaid emptied (distinct_section lawful)]
    rfl
  | true =>
    -- Nothing is left of the defaults, and what the project's file sets is not laid over a table.
    have own := source.resolve_left (by simp [emptied])
    have sets := (hasSection_iff.1 own).2 key known
    have below : entryAt (Table.get? user name) key = none := by
      unfold entryAt
      rw [Toml.tableAt_of_plain emptied]
      rfl
    have leaf : tableAt (given.get? key) = none := by
      cases found : given.get? key with
      | none => rfl
      | some value => exact defaults_plain listed found
    have unset : user.setting? name key = none := below
    rw [Toml.overlaid_of_plain emptied, below, unset, Toml.overlaid_none]
    exact (Toml.overlaid_of_plain_earlier leaf sets).symm

/-- However documents are read, as long as no table read from one holds a key twice, and whatever
the files are, every default section has a value when the settings are loaded. It is a section with
all its default keys, each with the value of the last layer that sets it, exactly if the project's
file gives its name no other value than a table, and the user's file does not either or the
project's file sets every default key. A file counts as the table that is read from it, and as
empty if it cannot be read or is malformed. -/
theorem load_complete_iff (lawful : ∀ document, Toml.Yields Table.Lawful (read document))
    (userRead : layer read workspace workspace.userSettings = .ok user)
    (projectRead : layer read workspace projectSettings = .ok project) :
    (∀ (path : Path) (document : String) (entries : Table),
      workspace.read path = .ok document → read document = .ok entries →
        layer read workspace path = .ok entries) ∧
    (∀ path : Path, (∀ document, workspace.read path = .ok document →
      read document = .error .malformed) → layer read workspace path = .ok []) ∧
    ∃ settings, loadBy read workspace = .ok settings ∧
      ∀ (name : String) (given : Table), (name, Value.table given) ∈ defaults →
        (∃ value, settings.sectionValue name = .ok value) ∧
        (settings.HasSection name given ↔ project.overwrites name = false ∧
          (user.overwrites name = false ∨ project.HasSection name given)) ∧
        (settings.HasSection name given → ∀ key, given.contains key = true →
          ∃ value, settings.required name key = .ok value ∧
            some value = overlaid (overlaid (given.get? key) (user.setting? name key))
              (project.setting? name key)) := by
  have below := layer_lawful lawful userRead
  have above := layer_lawful lawful projectRead
  refine ⟨fun _ _ _ => layer_of_read, fun _ => layer_empty, merged user project, ?_,
    fun name given listed => ⟨?_, ?_, fun whole key known => ?_⟩⟩
  · unfold loadBy
    rw [userRead, projectRead]
    rfl
  · have stands := get?_merged below above listed
    have found : (Table.get? (merged user project) name).isSome = true := by
      rw [stands]
      exact Toml.isSome_overlaid (Toml.isSome_overlaid rfl)
    obtain ⟨value, here⟩ := Option.isSome_iff_exists.1 found
    refine ⟨value, ?_⟩
    unfold sectionValue
    rw [here]
  · exact merged_hasSection_iff below above listed
  · exact merged_required below above listed whole known

/-- A title of the project, a theme of the user and the direction of the defaults. -/
theorem load_complete_three_layers :
    let workspace : Workspace :=
      { tree := ⟨[(["config.toml"],
            .file "[diagram]\ntitle = \"Mine\"\ntheme = \"plain\"\nzoom = 1.5\nsince = 2024-02-29\n"),
          (["umlgraph.toml"], .file "[diagram]\ntitle = \"Ours\"\n")]⟩
        userSettings := Path.ofString "config.toml" }
    defaults.map (·.1) = ["diagram", "resolver", "scan", "logging"] ∧
      ∃ settings, load workspace = .ok settings ∧
      ∃ given : Table, ("diagram", Value.table given) ∈ defaults ∧
        settings.HasSection "diagram" given ∧
        (settings.required "diagram" "title").map (·.text?) = .ok (some "Ours") ∧
        (settings.required "diagram" "theme").map (·.text?) = .ok (some "plain") ∧
        (settings.required "diagram" "direction").map (·.text?) = .ok (some "left to right") := by
  intro workspace
  let told (path : Path) : Settings := (layer Toml.read workspace path).toOption.getD []
  have readable (path : Path) (ends : (layer Toml.read workspace path).isOk = true) :
      layer Toml.read workspace path = .ok (told path) := by
    dsimp only [told]
    cases found : layer Toml.read workspace path with
    | ok settings => rfl
    | error fault =>
      rw [found] at ends
      contradiction
  have userRead := readable workspace.userSettings (by decide +kernel)
  have projectRead := readable projectSettings (by decide +kernel)
  obtain ⟨_, _, settings, loaded, sections⟩ :=
    load_complete_iff Toml.read_lawful userRead projectRead
  obtain ⟨given, listed⟩ : ∃ given : Table, ("diagram", Value.table given) ∈ defaults :=
    ⟨_, List.mem_cons_self⟩
  obtain ⟨_, complete, values⟩ := sections "diagram" given listed
  have whole := complete.2 ⟨by decide +kernel, .inl (by decide +kernel)⟩
  have leaf (key : String) : given.get? key = entryAt (Table.get? defaults "diagram") key := by
    rw [get?_defaults listed]
    rfl
  have spelling {key word : String}
      (known : (entryAt (Table.get? defaults "diagram") key).isSome = true)
      (spelled : (overlaid (overlaid (entryAt (Table.get? defaults "diagram") key)
        (setting? (told workspace.userSettings) "diagram" key))
        (setting? (told projectSettings) "diagram" key)).bind (·.text?) = some word) :
      (settings.required "diagram" key).map (·.text?) = .ok (some word) := by
    rw [← leaf] at known spelled
    have held := Toml.Table.contains_iff_exists.2 (Option.isSome_iff_exists.1 known)
    obtain ⟨value, required, last⟩ := values whole key held
    rw [← last] at spelled
    rw [required]
    exact congrArg Except.ok spelled
  exact ⟨by decide, settings, loaded, given, listed, whole,
    spelling (by decide +kernel) (by decide +kernel),
    spelling (by decide +kernel) (by decide +kernel),
    spelling (by decide +kernel) (by decide +kernel)⟩

/-- A value in place of a section is all that is left of it, and a section over such a value lacks
the defaults. -/
theorem load_plain_section :
    let withUser (document : String) : Workspace :=
      { tree := ⟨[(["config.toml"], .file document),
          (["umlgraph.toml"], .file "[scan]\noutput_dir = \"out\"\n")]⟩
        userSettings := Path.ofString "config.toml" }
    (load (withUser "diagram = 5\n")).map (fun settings =>
        (settings.optional "diagram").map fun _ => ()) = .ok (.error .misusedSetting) ∧
      (load (withUser "diagram = 1.5\n")).map (fun settings =>
        (settings.optional "diagram").map fun _ => ()) = .ok (.error .misusedSetting) ∧
      (load (withUser "scan = 1\n")).map (fun settings =>
        (settings.required "scan" "source_roots").map fun _ => ()) =
          .ok (.error .missingSetting) := by
  decide +kernel

end ClassAtlas.Settings
