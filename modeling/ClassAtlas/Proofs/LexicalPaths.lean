import ClassAtlas.Proofs.DeclaredKeys

/-!
# Lexical paths

The lexical path of a declaration is its name and the names of those around it, innermost first. Its
key is made of its package and its path. Where names are not empty and hold no separator, the key
tells both, so a declaration is refused only if another one stands at its place: in a package of the
same name, at the same path. Cutting a key at its last separator then gives the name of the type and
its owner, or its package at the top of one that has a name.
-/
namespace ClassAtlas

/-! ## Keys of paths -/

namespace Key

/-- Whether a name is not empty and holds no separator. -/
structure IsPlain (name : String) : Prop where
  named : name ≠ ""
  simple : IsSimple name

/-- The key of a path of names in a package. -/
def ofPath (package : String) : List String → Key
  | [] => ""
  | name :: around => make name package (some (ofPath package around))

variable {name other package home : String} {around beyond : List String}

/-- The key of a name that stands alone is that of the name at the top of the package. -/
theorem ofPath_single : ofPath package [name] = make name package none := rfl

/-- The key of a name that is not empty is not empty. -/
theorem ofPath_ne_empty (named : name ≠ "") : ofPath package (name :: around) ≠ "" := by
  rw [ofPath, make, make.inPackage]
  split
  · split
    · exact named
    · simp
  · simp

/-- The key of a name inside others continues theirs. -/
theorem ofPath_nested (named : other ≠ "") :
    ofPath package (name :: other :: around) = ofPath package (other :: around) ++ "$" ++ name := by
  rw [ofPath, make_nested (ofPath_ne_empty named)]

/-- A key of plain names tells the package and the names. -/
theorem ofPath_injective (plain : ∀ part ∈ name :: around, IsPlain part)
    (others : ∀ part ∈ other :: beyond, IsPlain part)
    (same : ofPath package (name :: around) = ofPath home (other :: beyond)) :
    package = home ∧ name :: around = other :: beyond := by
  -- One name further out on both sides is one dollar sign less; a name at the top follows none.
  induction around generalizing name other beyond with
  | nil =>
    have own := (plain name List.mem_cons_self).simple
    have rival := (others other List.mem_cons_self).simple
    cases beyond with
    | nil =>
      obtain ⟨rfl, rfl⟩ := make_top_injective own rival same
      exact ⟨rfl, rfl⟩
    | cons outer beyond =>
      have outside := others outer (List.mem_cons_of_mem _ List.mem_cons_self)
      rw [ofPath_nested outside.named] at same
      exact absurd same (make_top_ne_nested own rival)
  | cons outer around ih =>
    obtain ⟨own, further⟩ := List.forall_mem_cons.1 plain
    obtain ⟨rival, beyondPlain⟩ := List.forall_mem_cons.1 others
    rw [ofPath_nested (further outer List.mem_cons_self).named] at same
    cases beyond with
    | nil => exact absurd same.symm (make_top_ne_nested rival.simple own.simple)
    | cons last beyond =>
      rw [ofPath_nested (beyondPlain last List.mem_cons_self).named] at same
      have names : name = other := by
        rw [← simpleName_nested own.simple, same, simpleName_nested rival.simple]
      subst names
      rw [String.append_left_inj, String.append_left_inj] at same
      obtain ⟨packages, paths⟩ := ih further beyondPlain same
      exact ⟨packages, congrArg (name :: ·) paths⟩

/-! ## Cutting off the name -/

/-- What encloses a nested key is the key that it continues. -/
theorem owner?_nested {outer : Key} (simple : IsSimple name) :
    owner? (outer ++ "$" ++ name) = some outer := by
  rw [owner?, Text.cutLast, toList_nested, Text.splitLast_append (by decide) simple]
  exact congrArg some String.ofList_toList

/-- What encloses a key at the top of a named package is the package. -/
theorem owner?_packaged (simple : IsSimple name) (named : package ≠ "") :
    owner? (make name package none) = some package := by
  rw [make_packaged named, owner?, Text.cutLast, toList_packaged,
    Text.splitLast_append (by decide) simple]
  exact congrArg some String.ofList_toList

/-- Nothing encloses a key at the top of the default package. -/
theorem owner?_default (simple : IsSimple name) : owner? (make name "" none) = none := by
  rw [make_default, owner?, Text.cutLast, (Text.splitLast_eq_none_iff _ _).2 simple]
  rfl

end Key

/-! ## Declarations at paths -/

/-- Whether the names of a declaration and of all that is nested in it are plain. -/
inductive TypeDeclaration.PlainlyNamed : TypeDeclaration → Prop where
  | intro {declaration : TypeDeclaration} (own : Key.IsPlain declaration.name)
      (nested : ∀ inner ∈ declaration.nestedTypes, PlainlyNamed inner) : PlainlyNamed declaration

namespace CompilationUnit

/-- Whether the names of all types in a unit are plain. -/
def PlainlyNamed (unit : CompilationUnit) : Prop := ∀ top ∈ unit.types, top.PlainlyNamed

/-- Whether a unit declares, at a path of names, a type that asks for an entry. -/
inductive Declares (unit : CompilationUnit) : List String → DeclaredType → Prop where
  /-- A top-level type stands alone. -/
  | top {declaration : TypeDeclaration} (listed : declaration ∈ unit.types) :
      Declares unit [declaration.name] (unit.placement.entry declaration none)
  /-- A nested type stands inside the path of the type around it. -/
  | nested {around : List String} {outer : DeclaredType} {declaration : TypeDeclaration}
      (inside : Declares unit around outer)
      (listed : declaration ∈ outer.declaration.nestedTypes) :
      Declares unit (declaration.name :: around)
        (unit.placement.entry declaration (some outer.key))

namespace Declares

variable {unit : CompilationUnit} {names : List String} {entry : DeclaredType}

/-- A declared type lies in the package of its unit. -/
theorem package_eq (declares : unit.Declares names entry) : entry.package = unit.package := by
  cases declares with
  | top listed => rfl
  | nested inside listed => rfl

/-- A path starts with the name of its type. Unless it ends there, it goes on with the path of a
type that the unit declares too, and that is the owner. -/
theorem exists_around (declares : unit.Declares names entry) :
    ∃ around, names = entry.declaration.name :: around ∧
      ((around = [] ∧ entry.owner = none) ∨
        ∃ outer, unit.Declares around outer ∧ entry.owner = some outer.key) := by
  cases declares with
  | top listed => exact ⟨[], rfl, .inl ⟨rfl, rfl⟩⟩
  | nested inside listed => exact ⟨_, rfl, .inr ⟨_, inside, rfl⟩⟩

/-- The key of a declared type is that of its path in the package. -/
theorem key_eq (declares : unit.Declares names entry) :
    entry.key = Key.ofPath unit.package names := by
  induction declares with
  | top listed => rfl
  | nested inside listed ih =>
    rw [Key.ofPath, ← ih]
    rfl

/-- What a plainly named unit declares is plainly named, and so is its path. -/
theorem plain (declares : unit.Declares names entry) (named : unit.PlainlyNamed) :
    entry.declaration.PlainlyNamed ∧ ∀ part ∈ names, Key.IsPlain part := by
  induction declares with
  | top listed =>
    obtain ⟨own, nested⟩ := named _ listed
    exact ⟨.intro own nested, by simpa using own⟩
  | nested inside listed ih =>
    obtain ⟨⟨_, inner⟩, around⟩ := ih
    obtain ⟨own, nested⟩ := inner _ listed
    exact ⟨.intro own nested, List.forall_mem_cons.2 ⟨own, around⟩⟩

/-- Plainly named types get one key exactly if they stand at one path in packages of one name. -/
theorem key_eq_iff {home : CompilationUnit} {others : List String} {rival : DeclaredType}
    (declares : unit.Declares names entry) (named : unit.PlainlyNamed)
    (declared : home.Declares others rival) (plain : home.PlainlyNamed) :
    entry.key = rival.key ↔ unit.package = home.package ∧ names = others := by
  have own := (declares.plain named).2
  have foreign := (declared.plain plain).2
  rw [declares.key_eq, declared.key_eq]
  constructor
  · intro same
    obtain ⟨around, rfl, _⟩ := declares.exists_around
    obtain ⟨beyond, rfl, _⟩ := declared.exists_around
    exact Key.ofPath_injective own foreign same
  · rintro ⟨packages, paths⟩
    rw [packages, paths]

/-- The key of a plainly named type ends with its name, and continues the key of its owner or else
the name of its package. -/
theorem cut_key (declares : unit.Declares names entry) (named : unit.PlainlyNamed) :
    Key.simpleName entry.key = entry.declaration.name ∧
      Key.owner? entry.key =
        match entry.owner with
        | some owner => some owner
        | none => if entry.package = "" then none else some entry.package := by
  have plain := (declares.plain named).2
  have key := declares.key_eq
  rw [declares.package_eq]
  obtain ⟨around, rfl, ⟨rfl, free⟩ | ⟨outer, inside, owned⟩⟩ := declares.exists_around
  · have simple := (plain entry.declaration.name List.mem_cons_self).simple
    rw [key, Key.ofPath_single, free]
    refine ⟨Key.simpleName_top simple, ?_⟩
    by_cases unnamed : unit.package = ""
    · rw [unnamed, Key.owner?_default simple]
      rfl
    · rw [Key.owner?_packaged simple unnamed]
      exact (if_neg unnamed).symm
  · obtain ⟨own, further⟩ := List.forall_mem_cons.1 plain
    obtain ⟨beyond, rfl, _⟩ := inside.exists_around
    rw [key, Key.ofPath_nested (further _ List.mem_cons_self).named, owned, inside.key_eq]
    exact ⟨Key.simpleName_nested own.simple, Key.owner?_nested own.simple⟩

end Declares

end CompilationUnit

/-! ## The run of a builder -/

namespace Visit

/-- What is visited on the walk through declarations of one owner is declared by their unit. -/
theorem declares_walkAll (unit : CompilationUnit) (taken : List Key) (owner : Option Key)
    (declarations : List TypeDeclaration) :
    (∀ declaration ∈ declarations,
      ∃ names, unit.Declares names (unit.placement.entry declaration owner)) →
    ∀ visit ∈ TypeDeclaration.walkAll unit.placement taken owner declarations,
      ∃ names, unit.Declares names visit.entry := by
  refine TypeDeclaration.walkAll_induction unit.placement
    (motive := fun _ owner declarations visits =>
      (∀ declaration ∈ declarations,
        ∃ names, unit.Declares names (unit.placement.entry declaration owner)) →
      ∀ visit ∈ visits, ∃ names, unit.Declares names visit.entry)
    ?nil ?refused ?accepted taken owner declarations
  case nil => exact fun _ _ _ _ member => absurd member List.not_mem_nil
  case refused =>
    intro taken owner declaration declarations rest _ later listed
    obtain ⟨here, after⟩ := List.forall_mem_cons.1 listed
    exact List.forall_mem_cons.2 ⟨here, later after⟩
  case accepted =>
    intro taken owner declaration declarations nested rest _ inner later listed
    obtain ⟨⟨names, here⟩, after⟩ := List.forall_mem_cons.1 listed
    refine List.forall_mem_cons.2 ⟨⟨names, here⟩, List.forall_mem_append.2 ⟨?_, later after⟩⟩
    exact inner fun child within => ⟨child.name :: names, here.nested within⟩

/-- What is visited on the walk through a corpus is declared by one of its units. -/
theorem declares_walkUnits (taken : List Key) (units : List CompilationUnit) :
    ∀ visit ∈ walkUnits taken units, ∃ unit ∈ units, ∃ names, unit.Declares names visit.entry := by
  induction units generalizing taken with
  | nil => exact fun _ member => absurd member List.not_mem_nil
  | cons unit units ih =>
    rw [walkUnits]
    refine List.forall_mem_append.2 ⟨fun visit here => ?_, fun visit later => ?_⟩
    · exact ⟨unit, List.mem_cons_self,
        declares_walkAll unit taken none unit.types (fun _ listed => ⟨_, .top listed⟩) visit here⟩
    · obtain ⟨other, member, declares⟩ := ih _ visit later
      exact ⟨other, List.mem_cons_of_mem _ member, declares⟩

end Visit

namespace Index

/-- Where the entries and the reports of an index come from. -/
structure DeclaredBy (index : Index) (units : List CompilationUnit) (reports : List Diagnostic) :
    Prop where
  /-- Every entry is that of a type in a unit. -/
  entries : ∀ entry ∈ index.entries, ∃ unit ∈ units, ∃ names, unit.Declares names entry
  /-- Every report is a given one, or says of a type in a unit that an entry has its key. -/
  diagnostics : ∀ diagnostic ∈ index.diagnostics, diagnostic ∈ reports ∨
    ∃ unit ∈ units, ∃ names entry, unit.Declares names entry ∧
      ∃ kept ∈ index.entries, kept.key = entry.key ∧
        diagnostic = duplicate entry.key entry.path kept.path

variable {index : Index} {units : List CompilationUnit} {reports : List Diagnostic}

/-- Nothing comes from no units and no reports. -/
theorem declaredBy_empty : ({} : Index).DeclaredBy [] [] :=
  ⟨fun _ member => absurd member List.not_mem_nil, fun _ member => absurd member List.not_mem_nil⟩

/-- A report from elsewhere is one of the given ones. -/
theorem DeclaredBy.report (known : index.DeclaredBy units reports) (diagnostic : Diagnostic) :
    ({ index with diagnostics := index.diagnostics ++ [diagnostic] } : Index).DeclaredBy units
      (reports ++ [diagnostic]) := by
  refine ⟨known.entries, List.forall_mem_append.2 ⟨fun other early => ?_, fun other last => ?_⟩⟩
  · exact (known.diagnostics other early).imp (List.mem_append_left _) id
  · exact .inl (List.mem_append_right _ last)

/-- What accepting a corpus adds comes from its units. -/
theorem DeclaredBy.acceptUnits (known : index.DeclaredBy units reports)
    (more : List CompilationUnit) :
    (index.acceptUnits more).DeclaredBy (units ++ more) reports := by
  have follows := index.acceptUnits_follows more
  have visited : ∀ visit ∈ walkUnits index.taken (sortUnits more),
      ∃ unit ∈ units ++ more, ∃ names, unit.Declares names visit.entry := by
    intro visit member
    obtain ⟨unit, sorted, declares⟩ := Visit.declares_walkUnits _ _ visit member
    exact ⟨unit, List.mem_append_right _ ((sortUnits_perm more).mem_iff.1 sorted), declares⟩
  constructor
  · rw [follows.entries]
    refine List.forall_mem_append.2 ⟨fun entry early => ?_, fun entry late => ?_⟩
    · obtain ⟨unit, member, declares⟩ := known.entries entry early
      exact ⟨unit, List.mem_append_left _ member, declares⟩
    · obtain ⟨visit, accepted, rfl⟩ := List.mem_map.1 late
      exact visited visit (List.mem_filter.1 accepted).1
  · rw [follows.diagnostics]
    refine List.forall_mem_append.2 ⟨fun diagnostic early => ?_, fun diagnostic late => ?_⟩
    · -- An earlier report still holds: its unit is given, and the entry it names is kept.
      refine (known.diagnostics diagnostic early).imp id ?_
      rintro ⟨unit, member, names, entry, declares, kept, listed, same⟩
      refine ⟨unit, List.mem_append_left _ member, names, entry, declares, kept, ?_, same⟩
      rw [follows.entries]
      exact List.mem_append_left _ listed
    · obtain ⟨entry, refused, rfl⟩ := List.mem_map.1 late
      obtain ⟨kept, listed, same⟩ := contains_iff.1 (follows.declared entry refused)
      obtain ⟨visit, stopped, rfl⟩ := List.mem_map.1 refused
      obtain ⟨unit, member, names, declares⟩ := visited visit (List.mem_filter.1 stopped).1
      refine .inr ⟨unit, member, names, visit.entry, declares, kept, listed, same, ?_⟩
      rw [refusal, get?_eq_some_iff.2 ⟨listed, same⟩]
      rfl

end Index

namespace IndexBuilder

/-- The builders that are given some units and some reports, in any order, and nothing else. -/
inductive Ingested : IndexBuilder → List CompilationUnit → List Diagnostic → Prop where
  /-- One that is given nothing. -/
  | new : Ingested {} [] []
  /-- One that is given a report. -/
  | report {builder : IndexBuilder} {units : List CompilationUnit} {reports : List Diagnostic}
      (earlier : Ingested builder units reports) (diagnostic : Diagnostic) :
      Ingested (builder.report diagnostic) units (reports ++ [diagnostic])
  /-- One that ingests a corpus. -/
  | ingest {builder next : IndexBuilder} {units more : List CompilationUnit}
      {reports : List Diagnostic} (earlier : Ingested builder units reports)
      (ingested : builder.ingestUnits more = .ok next) : Ingested next (units ++ more) reports

/-- What a builder holds comes from what it is given. -/
theorem Ingested.declaredBy {builder : IndexBuilder} {units : List CompilationUnit}
    {reports : List Diagnostic} (ingested : builder.Ingested units reports) :
    builder.index.DeclaredBy units reports := by
  induction ingested with
  | new => exact Index.declaredBy_empty
  | report _ diagnostic known => exact known.report diagnostic
  | ingest _ ingested known =>
    rw [index_of_ingestUnits ingested]
    exact known.acceptUnits _

/-- Where the names of all types are not empty and hold no separator, keys tell places, whatever
the packages are called. Two declarations of the ingested units get one key exactly if their
packages have one name and they stand at one path. So a declaration is reported as a duplicate only
of an entry at its own place. Every entry is a declaration of a unit, whose path starts with the
name that its key ends with; what its key has before that is the key of its owner, or at the top of
a package the name of the package if it has one. -/
theorem keys_tell_places {builder next : IndexBuilder} {index : Index}
    {units : List CompilationUnit} {reports : List Diagnostic}
    (ingested : builder.Ingested units reports) (built : builder.build = .ok (next, index))
    (plain : ∀ unit ∈ units, unit.PlainlyNamed) :
    (∀ unit ∈ units, ∀ home ∈ units, ∀ names others entry rival,
      unit.Declares names entry → home.Declares others rival →
        (entry.key = rival.key ↔ unit.package = home.package ∧ names = others)) ∧
    (∀ diagnostic ∈ index.diagnostics, diagnostic ∈ reports ∨
      ∃ unit ∈ units, ∃ home ∈ units, ∃ names entry kept,
        unit.Declares names entry ∧ home.Declares names kept ∧ unit.package = home.package ∧
          kept ∈ index.types ∧ diagnostic = Index.duplicate entry.key entry.path kept.path) ∧
    ∀ declared ∈ index.types,
      (∃ unit ∈ units, ∃ around,
        unit.Declares (declared.declaration.name :: around) declared ∧
          declared.package = unit.package ∧ (declared.owner = none ↔ around = [])) ∧
      Key.simpleName declared.key = declared.declaration.name ∧
      Key.owner? declared.key =
        match declared.owner with
        | some owner => some owner
        | none => if declared.package = "" then none else some declared.package := by
  have known : index.DeclaredBy units reports := index_of_build built ▸ ingested.declaredBy
  refine ⟨?_, ?_, ?_⟩
  · intro unit member home listed names others entry rival declares declared
    exact declares.key_eq_iff (plain unit member) declared (plain home listed)
  · intro diagnostic given
    refine (known.diagnostics diagnostic given).imp id ?_
    rintro ⟨unit, member, names, entry, declares, kept, listed, same, rfl⟩
    obtain ⟨home, other, others, declared⟩ := known.entries kept listed
    obtain ⟨packages, paths⟩ :=
      (declares.key_eq_iff (plain unit member) declared (plain home other)).1 same.symm
    exact ⟨unit, member, home, other, names, entry, kept, declares, paths ▸ declared, packages,
      Index.mem_types_iff.2 listed, rfl⟩
  · intro declared listed
    obtain ⟨unit, member, names, declares⟩ :=
      known.entries declared (Index.mem_types_iff.1 listed)
    refine ⟨?_, declares.cut_key (plain unit member)⟩
    obtain ⟨around, rfl, top | ⟨outer, inside, owned⟩⟩ := declares.exists_around
    · exact ⟨unit, member, around, declares, declares.package_eq,
        fun _ => top.1, fun _ => top.2⟩
    · obtain ⟨beyond, rfl, _⟩ := inside.exists_around
      exact ⟨unit, member, _, declares, declares.package_eq, by simp [owned]⟩

/-- A type inside another and a type of the same name in a package that is called like the other
have two keys, which are cut at the last dollar sign and at the last dot; of two types at one place
the second is reported. -/
theorem keys_tell_places_apart :
    let nested : TypeDeclaration := { name := "A", nestedTypes := [{ name := "B" }] }
    let first : CompilationUnit := { package := "p", types := [nested], path := "a/A.java" }
    let second : CompilationUnit := { package := "p", types := [nested], path := "b/A.java" }
    let other : CompilationUnit := { package := "p.A", types := [{ name := "B" }] }
    let index := ({} : Index).acceptUnits [first, second, other]
    index.taken = ["p.A", "p.A$B", "p.A.B"] ∧ index.diagnostics.map (·.subject) = ["p.A"] ∧
      (∀ entry rival, first.Declares ["B", "A"] entry → second.Declares ["B", "A"] rival →
        entry.key = rival.key) ∧
      (∀ entry rival, first.Declares ["B", "A"] entry → other.Declares ["B"] rival →
        entry.key ≠ rival.key) ∧
      ∀ declared ∈ index.types, Key.simpleName declared.key = declared.declaration.name := by
  intro nested first second other index
  have ingested : Ingested { index } [first, second, other] [] :=
    @Ingested.ingest {} { index } [] [first, second, other] [] .new rfl
  have built : build { index } = .ok ({ index, sealed := true }, index) := rfl
  have inner : TypeDeclaration.PlainlyNamed { name := "B" } :=
    .intro ⟨by decide, by decide⟩ fun _ member => absurd member List.not_mem_nil
  have outer : nested.PlainlyNamed :=
    .intro ⟨by decide, by decide⟩ (List.forall_mem_singleton.2 inner)
  have plain : ∀ unit ∈ [first, second, other], unit.PlainlyNamed := by
    simp [CompilationUnit.PlainlyNamed, first, second, other, inner, outer]
  obtain ⟨told, _, cut⟩ := keys_tell_places ingested built plain
  have sorted : sortUnits [first, second, other] = [first, second, other] :=
    sortUnits_eq_of_sorted (List.Perm.refl _) (by decide +kernel)
  have follows := ({} : Index).acceptUnits_follows [first, second, other]
  rw [sorted] at follows
  refine ⟨?_, ?_, ?_, ?_, fun declared listed => (cut declared listed).2.1⟩
  · rw [follows.taken]
    decide +kernel
  · have refused : (Visit.refused (walkUnits ({} : Index).taken
        [first, second, other])).map (·.key) = ["p.A"] := by decide +kernel
    rw [follows.diagnostics, ← refused, List.map_append, List.map_map]
    rfl
  · intro entry rival declares declared
    exact (told first (by simp) second (by simp) _ _ entry rival declares declared).2 ⟨rfl, rfl⟩
  · intro entry rival declares declared same
    have places := (told first (by simp) other (by simp) _ _ entry rival declares declared).1 same
    exact absurd places.1 (by decide)

end IndexBuilder

end ClassAtlas
