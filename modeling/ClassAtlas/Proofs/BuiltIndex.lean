import ClassAtlas.Proofs.EventStream
import ClassAtlas.Proofs.ImportedNames

/-!
# Look-ups in a built index

A builder takes any sequence of calls before it builds: single declarations with any owner and
package, whole units, whole corpora and reports. What the calls visit, in order, is a walk of its
own, and the entries that the walk keeps are those of the index. Every table of the index is told by
them alone: the listing by packages and keys, the packages and their keys, the simple names and the
source spellings. A key need not show the package or the owner that is recorded with it.
-/
namespace ClassAtlas

/-! ## Calls -/

/-- A call that a builder takes before it builds. -/
inductive BuilderCall where
  /-- Ingest one declaration. -/
  | ingest (declaration : TypeDeclaration) (owner : Option Key) (placement : Placement)
  /-- Ingest the declarations of a unit. -/
  | ingestUnit (unit : CompilationUnit)
  /-- Ingest the declarations of a corpus. -/
  | ingestUnits (units : List CompilationUnit)
  /-- Add a report. -/
  | report (diagnostic : Diagnostic)

namespace BuilderCall

/-- The builder after a call, and the keys that the call answers: those accepted from a declaration
or a unit. -/
def run (builder : IndexBuilder) : BuilderCall → Except Fault (IndexBuilder × List Key)
  | .ingest declaration owner placement => do
    let (next, key) ← builder.ingest declaration owner placement
    pure (next, key.toList)
  | .ingestUnit unit => builder.ingestUnit unit
  | .ingestUnits units => do
    let next ← builder.ingestUnits units
    pure (next, [])
  | .report diagnostic => pure (builder.report diagnostic, [])

/-- The builder after several calls, and what each of them answers. -/
def runAll (builder : IndexBuilder) :
    List BuilderCall → Except Fault (IndexBuilder × List (List Key))
  | [] => pure (builder, [])
  | call :: calls => do
    let (next, answer) ← call.run builder
    let (last, answers) ← runAll next calls
    pure (last, answer :: answers)

/-- The declarations that a call visits, where some keys are taken. -/
def visits (taken : List Key) : BuilderCall → List Visit
  | .ingest declaration owner placement =>
    let entry := placement.entry declaration owner
    [⟨entry, decide (entry.key ∉ taken)⟩]
  | .ingestUnit unit => unit.walk taken
  | .ingestUnits units => walkUnits taken (sortUnits units)
  | .report _ => []

/-- The declarations that several calls visit, one call after the other. -/
def visitsOfAll (taken : List Key) : List BuilderCall → List Visit
  | [] => []
  | call :: calls =>
    let first := call.visits taken
    first ++ visitsOfAll (taken ++ Visit.keys first) calls

/-- The keys that a call answers, where some keys are taken. -/
def answer (taken : List Key) : BuilderCall → List Key
  | call@(.ingest ..) | call@(.ingestUnit _) => Visit.keys (call.visits taken)
  | .ingestUnits _ | .report _ => []

/-- The keys that each of several calls answers. -/
def answers (taken : List Key) : List BuilderCall → List (List Key)
  | [] => []
  | call :: calls =>
    call.answer taken :: answers (taken ++ Visit.keys (call.visits taken)) calls

/-- The first visit wins on what a call visits. -/
theorem firstWins_visits (taken : List Key) (call : BuilderCall) :
    Visit.FirstWins taken (call.visits taken) := by
  cases call with
  | ingest declaration owner placement =>
    intro key free
    by_cases occupied : (placement.entry declaration owner).key ∈ taken
    · have other : ((placement.entry declaration owner).key == key) = false := by
        rw [beq_eq_false_iff_ne]
        rintro rfl
        exact free occupied
      simp [visits, occupied, Visit.kept, other]
    · simp [visits, occupied, Visit.kept]
  | ingestUnit unit => exact Visit.firstWins_walkAll unit.placement taken none unit.types
  | ingestUnits units => exact Visit.firstWins_walkUnits taken (sortUnits units)
  | report diagnostic => exact fun _ _ => rfl

/-- The first visit wins on what several calls visit. -/
theorem firstWins_visitsOfAll (taken : List Key) (calls : List BuilderCall) :
    Visit.FirstWins taken (visitsOfAll taken calls) := by
  induction calls generalizing taken with
  | nil => exact fun _ _ => rfl
  | cons call calls ih => exact (firstWins_visits taken call).append (ih _)

/-- A declaration is accepted or refused as its visit says. -/
theorem accept_visit (index : Index) (placement : Placement) (declaration : TypeDeclaration)
    (owner : Option Key) :
    let visits := visits index.taken (.ingest declaration owner placement)
    ∃ next key, index.accept placement declaration owner = (next, key) ∧
      key.toList = Visit.keys visits ∧ index.Follows next visits := by
  intro visits
  by_cases occupied : (placement.entry declaration owner).key ∈ index.taken
  · have refused : visits = [⟨placement.entry declaration owner, false⟩] := by
      simp [visits, BuilderCall.visits, occupied]
    obtain ⟨next, accepted, follows⟩ := Index.accept_refused occupied
    rw [refused]
    exact ⟨next, none, accepted, rfl, follows⟩
  · have kept : visits = [⟨placement.entry declaration owner, true⟩] := by
      simp [visits, BuilderCall.visits, occupied]
    obtain ⟨next, accepted, follows⟩ := Index.accept_kept occupied
    rw [kept]
    exact ⟨next, _, accepted, rfl, follows⟩

variable {builder : IndexBuilder}

/-- A builder that has not built takes every call: it answers the keys that the call accepts, adds
the entries that the call's visits get, and still has not built. -/
theorem run_unsealed (unsealed : builder.sealed = false) (call : BuilderCall) :
    ∃ next, call.run builder = .ok (next, call.answer builder.index.taken) ∧
      next.sealed = false ∧
      next.index.entries =
        builder.index.entries ++ Visit.kept (call.visits builder.index.taken) := by
  cases call with
  | ingest declaration owner placement =>
    obtain ⟨next, key, accepted, answered, follows⟩ :=
      accept_visit builder.index placement declaration owner
    refine ⟨{ builder with index := next }, ?_, unsealed, follows.entries⟩
    rw [run, IndexBuilder.ingest, if_neg (by simp [unsealed]), accepted, answer, ← answered]
    rfl
  | ingestUnit unit =>
    obtain ⟨follows, keys⟩ := builder.index.acceptUnit_follows unit
    refine ⟨{ builder with index := (builder.index.acceptUnit unit).1 }, ?_, unsealed,
      follows.entries⟩
    rw [run, IndexBuilder.ingestUnit, unsealed, answer, visits, ← keys]
    rfl
  | ingestUnits units =>
    refine ⟨{ builder with index := builder.index.acceptUnits units }, ?_, unsealed,
      (builder.index.acceptUnits_follows units).entries⟩
    rw [run, IndexBuilder.ingestUnits, unsealed]
    rfl
  | report diagnostic => exact ⟨builder.report diagnostic, rfl, unsealed, (List.append_nil _).symm⟩

/-- The same holds of several calls. -/
theorem runAll_unsealed (unsealed : builder.sealed = false) (calls : List BuilderCall) :
    ∃ last, runAll builder calls = .ok (last, answers builder.index.taken calls) ∧
      last.sealed = false ∧
      last.index.entries =
        builder.index.entries ++ Visit.kept (visitsOfAll builder.index.taken calls) := by
  induction calls generalizing builder with
  | nil => exact ⟨builder, rfl, unsealed, (List.append_nil _).symm⟩
  | cons call calls ih =>
    obtain ⟨next, ran, still, entries⟩ := run_unsealed unsealed call
    have taken : next.index.taken =
        builder.index.taken ++ Visit.keys (call.visits builder.index.taken) := by
      rw [Index.taken, entries, List.map_append]
      rfl
    obtain ⟨last, ranAll, unbuilt, further⟩ := ih still
    refine ⟨last, ?_, unbuilt, ?_⟩
    · rw [runAll, ran, answers, ← taken]
      change (runAll next calls >>= _) = _
      rw [ranAll]
      rfl
    · rw [further, entries, taken, visitsOfAll, Visit.kept_append, List.append_assoc]

end BuilderCall

/-! ## Tables -/

/-- How the tables of an index agree with the entries that were accepted. -/
structure Index.Tabulates (index : Index) (accepted : List DeclaredType) : Prop where
  /-- Every accepted entry is listed once. -/
  types_perm : index.types.Perm accepted
  /-- No key is listed twice. -/
  types_distinct : (index.types.map (·.key)).Nodup
  /-- The types are listed by package and, within a package, by key. -/
  types_increasing : index.types.Pairwise fun left right =>
    left.package < right.package ∨ left.package = right.package ∧ left.key < right.key
  /-- There are as many as the index has types. -/
  size : index.types.length = index.size
  /-- The packages stand in increasing order. -/
  packages_increasing : index.packages.Pairwise (· < ·)
  /-- They are those of the accepted entries. -/
  packages : ∀ package, package ∈ index.packages ↔
    ∃ declared ∈ accepted, declared.package = package
  /-- The keys of a package stand in increasing order. -/
  keys_increasing : ∀ package, (index.keysInPackage package).Pairwise (· < ·)
  /-- They are those of the accepted entries that are recorded in it. -/
  keysInPackage : ∀ package key, key ∈ index.keysInPackage package ↔
    ∃ declared ∈ accepted, declared.package = package ∧ declared.key = key
  /-- So every accepted key is in one of the packages, and in no other. -/
  partition : ∀ declared ∈ accepted,
    ∃! package, package ∈ index.packages ∧ declared.key ∈ index.keysInPackage package
  /-- A simple name is that of no key, of one, which it leads to, or of several. -/
  names : ∀ name,
    ((∀ declared ∈ accepted, declared.key.simpleName ≠ name) ∧
      index.uniqueKey? name = none ∧ index.isAmbiguous name = false) ∨
    (∃ only ∈ accepted, only.key.simpleName = name ∧
      (∀ other ∈ accepted, other.key.simpleName = name → other.key = only.key) ∧
      index.uniqueKey? name = some only.key ∧ index.isAmbiguous name = false) ∨
    ((∃ one ∈ accepted, ∃ other ∈ accepted, one.key ≠ other.key ∧
        one.key.simpleName = name ∧ other.key.simpleName = name) ∧
      index.uniqueKey? name = none ∧ index.isAmbiguous name = true)
  /-- A name that is a key leads to itself. -/
  spelled_key : ∀ declared ∈ accepted, index.keyForName? declared.key = some declared.key
  /-- Any other name leads to the least key that is spelled so. -/
  spelled : ∀ name, (∀ declared ∈ accepted, declared.key ≠ name) → ∀ key,
    index.keyForName? name = some key ↔
      (∃ declared ∈ accepted, declared.key = key) ∧ key.dotted = name ∧
        ∀ other ∈ accepted, other.key.dotted = name → key ≤ other.key
  /-- A name that is neither a key nor the spelling of one leads to none. -/
  unspelled : ∀ name, index.keyForName? name = none ↔
    ∀ declared ∈ accepted, declared.key ≠ name ∧ declared.key.dotted ≠ name

namespace Index

variable {index : Index}

/-- The listed types are the entries, each once. -/
theorem types_perm_entries (index : Index) : index.types.Perm index.entries :=
  (List.perm_ext_iff_of_nodup (List.Nodup.of_map _ index.types_nodup)
    (List.Nodup.of_map _ index.distinct)).2 fun _ => mem_types_iff

/-- The types are listed by package and, within a package, by key. -/
theorem types_increasing (index : Index) : index.types.Pairwise fun left right =>
    left.package < right.package ∨ left.package = right.package ∧ left.key < right.key := by
  rw [types_eq_flatMap, List.pairwise_flatMap]
  constructor
  · intro package _
    have keys : (index.typesIn package).Pairwise fun left right => left.key < right.key := by
      rw [← List.pairwise_map, map_key_typesIn]
      exact distinctNames_pairwise _
    refine keys.imp_of_mem fun {left right} here there less => Or.inr ⟨?_, less⟩
    rw [(mem_typesIn.1 here).2, (mem_typesIn.1 there).2]
  · refine (distinctNames_pairwise _).imp fun {one other} less left here right there => Or.inl ?_
    rw [(mem_typesIn.1 here).2, (mem_typesIn.1 there).2]
    exact less

/-- The key of an entry is among those of its package and of no other. -/
theorem existsUnique_package {declared : DeclaredType} (member : declared ∈ index.entries) :
    ∃! package, package ∈ index.packages ∧ declared.key ∈ index.keysInPackage package := by
  refine ⟨declared.package, ⟨mem_packages.2 ⟨declared, member, rfl⟩,
    mem_keysInPackage.2 ⟨declared, member, rfl, rfl⟩⟩, ?_⟩
  rintro package ⟨_, listed⟩
  obtain ⟨other, entry, placed, same⟩ := mem_keysInPackage.1 listed
  rw [← placed, entry_eq_of_key_eq entry member same]

/-- A simple name is that of no key, of one, which it leads to, or of several. -/
theorem name_cases (index : Index) (name : String) :
    ((∀ key, index.contains key = true → key.simpleName ≠ name) ∧
      index.uniqueKey? name = none ∧ index.isAmbiguous name = false) ∨
    (∃ only, index.OnlyNamed name only ∧
      index.uniqueKey? name = some only ∧ index.isAmbiguous name = false) ∨
    ((∃ one other, index.contains one = true ∧ index.contains other = true ∧ one ≠ other ∧
        one.simpleName = name ∧ other.simpleName = name) ∧
      index.uniqueKey? name = none ∧ index.isAmbiguous name = true) := by
  have distinct : (index.keysNamed name).Nodup := index.distinct.filter _
  have listed {key : Key} := @mem_keysNamed index name key
  match keys : index.keysNamed name with
  | [] =>
    refine Or.inl ⟨fun key known named => ?_, by simp [uniqueKey?, keys],
      by simp [isAmbiguous, keys]⟩
    have member := listed.2 ⟨known, named⟩
    rw [keys] at member
    exact absurd member List.not_mem_nil
  | [only] =>
    have found : index.uniqueKey? name = some only := by simp [uniqueKey?, keys]
    exact Or.inr (Or.inl ⟨only, uniqueKey?_eq_some_iff.1 found, found,
      by simp [isAmbiguous, keys]⟩)
  | one :: other :: rest =>
    rw [keys] at distinct listed
    have apart : one ≠ other := fun same => by simp [same] at distinct
    have first := listed.1 (List.mem_cons_self (a := one))
    have second := listed.1 (List.mem_cons_of_mem one (List.mem_cons_self (a := other)))
    exact Or.inr (Or.inr ⟨⟨one, other, first.1, second.1, apart, first.2, second.2⟩,
      by simp [uniqueKey?, keys], by simp [isAmbiguous, keys]⟩)

/-- A name that is no key leads to the least key that is spelled so. -/
theorem keyForName?_eq_some_iff {name : String} (unknown : index.contains name = false)
    {key : Key} : index.keyForName? name = some key ↔ index.Spells name key := by
  have listed {other : Key} : other ∈ (index.entries.map (·.key)).filter (Key.dotted · == name) ↔
      index.contains other = true ∧ other.dotted = name := by
    rw [List.mem_filter, List.mem_map, ← contains_iff, beq_iff_eq]
  rw [keyForName?, unknown, if_neg Bool.false_ne_true]
  constructor
  · intro found
    obtain ⟨known, spelled⟩ := listed.1 (leastName_mem found)
    exact ⟨known, spelled, fun other declared alike =>
      leastName_le found (listed.2 ⟨declared, alike⟩)⟩
  · intro spells
    have member := listed.2 ⟨spells.declared, spells.spelled⟩
    cases found : leastName ((index.entries.map (·.key)).filter (Key.dotted · == name)) with
    | none =>
      rw [leastName_eq_none_iff.1 found] at member
      exact absurd member List.not_mem_nil
    | some least =>
      obtain ⟨known, spelled⟩ := listed.1 (leastName_mem found)
      rw [String.le_antisymm (leastName_le found member) (spells.least least known spelled)]

/-- The tables of an index agree with its entries. -/
theorem tabulates_entries (index : Index) : index.Tabulates index.entries where
  types_perm := index.types_perm_entries
  types_distinct := index.types_nodup
  types_increasing := index.types_increasing
  size := index.types_perm_entries.length_eq
  packages_increasing := distinctNames_pairwise _
  packages _ := mem_packages
  keys_increasing _ := distinctNames_pairwise _
  keysInPackage _ _ := mem_keysInPackage
  partition _ := existsUnique_package
  names name := by
    have known {declared : DeclaredType} (member : declared ∈ index.entries) :
        index.contains declared.key = true := contains_iff.2 ⟨declared, member, rfl⟩
    rcases index.name_cases name with ⟨free, answers⟩ | ⟨key, only, answers⟩ |
      ⟨⟨first, second, one, other, apart, named, alike⟩, answers⟩
    · exact Or.inl ⟨fun declared member => free declared.key (known member), answers⟩
    · obtain ⟨declared, member, rfl⟩ := contains_iff.1 only.declared
      exact Or.inr (Or.inl ⟨declared, member, only.named,
        fun rival entry => only.only rival.key (known entry), answers⟩)
    · obtain ⟨left, here, rfl⟩ := contains_iff.1 one
      obtain ⟨right, there, rfl⟩ := contains_iff.1 other
      exact Or.inr (Or.inr ⟨⟨left, here, right, there, apart, named, alike⟩, answers⟩)
  spelled_key declared member := by
    rw [keyForName?, if_pos (contains_iff.2 ⟨declared, member, rfl⟩)]
  spelled name free key := by
    have unknown : index.contains name = false := by
      rw [Bool.eq_false_iff, Ne, contains_iff]
      rintro ⟨declared, member, same⟩
      exact free declared member same
    rw [keyForName?_eq_some_iff unknown]
    constructor
    · intro spells
      exact ⟨contains_iff.1 spells.declared, spells.spelled, fun other member =>
        spells.least other.key (contains_iff.2 ⟨other, member, rfl⟩)⟩
    · rintro ⟨declared, spelled, least⟩
      refine ⟨contains_iff.2 declared, spelled, fun other known alike => ?_⟩
      obtain ⟨rival, member, rfl⟩ := contains_iff.1 known
      exact least rival member alike
  unspelled name := by
    constructor
    · intro missing declared member
      have known : index.contains declared.key = true := contains_iff.2 ⟨declared, member, rfl⟩
      obtain ⟨unknown, free⟩ := keyForName?_eq_none missing
      refine ⟨?_, free declared.key known⟩
      rintro rfl
      exact Bool.false_ne_true (unknown.symm.trans known)
    · intro free
      cases found : index.keyForName? name with
      | none => rfl
      | some key =>
        have unknown : index.contains name = false := by
          rw [Bool.eq_false_iff, Ne, contains_iff]
          rintro ⟨declared, member, same⟩
          exact (free declared member).1 same
        have spells := (keyForName?_eq_some_iff unknown).1 found
        obtain ⟨declared, member, rfl⟩ := contains_iff.1 spells.declared
        exact absurd spells.spelled (free declared member).2

end Index

/-! ## Built indexes -/

/-- A fresh builder takes every sequence of calls and then builds an index. Each call answers the
keys that it accepts. The tables of the index agree with the entries accepted, and a key leads to
the first entry that a call asked for under it. -/
theorem IndexBuilder.build_tabulates (calls : List BuilderCall) :
    let visits := BuilderCall.visitsOfAll [] calls
    ∃ builder index, BuilderCall.runAll {} calls = .ok (builder, BuilderCall.answers [] calls) ∧
      builder.build = .ok ({ builder with sealed := true }, index) ∧
      index.Tabulates (Visit.kept visits) ∧
      ∀ key, index.get? key = (visits.map (·.entry)).find? (·.key == key) := by
  intro visits
  have fresh : ({} : IndexBuilder).sealed = false := rfl
  obtain ⟨builder, ran, unsealed, entries⟩ := BuilderCall.runAll_unsealed fresh calls
  have accepted : builder.index.entries = Visit.kept visits := entries
  refine ⟨builder, builder.index, ran, ?_, ?_, fun key => ?_⟩
  · rw [build, unsealed]
    rfl
  · rw [← accepted]
    exact builder.index.tabulates_entries
  · have first := BuilderCall.firstWins_visitsOfAll [] calls key List.not_mem_nil
    rw [← first, ← accepted]
    rfl

end ClassAtlas
