import ClassAtlas.Proofs.BoundNames
import ClassAtlas.Proofs.Ownership

/-!
# The names of declared types and of references

A key is made of the package and the names of the declarations around it, and what a name refers to
is drawn under a key, under the name itself or under a name that the oracle finds among keys and
imports. So the characters of all of these are known from those that the sources yield.

The names that are stretches of source are those of packages, imports and annotations and the
targets of calls. Where they stand on one line and hold no double quote, everything can be quoted.
-/
namespace ClassAtlas

open Text (Within Lenient Unquoted isInline isQuotable)

/-! ## Stretches of source -/

/-- The names in a usage site that are stretches of source. -/
def UsageSite.stretches (site : UsageSite) : List String :=
  if site.kind = .staticCall then site.type.names else []

/-- The names in a declaration that are stretches of source, what is nested in it apart. -/
def TypeDeclaration.stretches (declaration : TypeDeclaration) : List String :=
  declaration.annotations
    ++ declaration.fields.flatMap (·.annotations)
    ++ declaration.components.flatMap (·.annotations)
    ++ declaration.constructors.flatMap (·.annotations)
    ++ declaration.methods.flatMap (·.annotations)
    ++ declaration.usages.flatMap (·.stretches)

/-- The names that a declared type is drawn with and that are stretches of source. -/
def DeclaredType.stretches (declared : DeclaredType) : List String :=
  declared.package :: (declared.imports ++ declared.declaration.stretches)

/-- A usage site on one line can be quoted if its stretches of source can. -/
theorem UsageSite.Named.quotable {site : UsageSite} (named : site.Named isInline)
    (unquoted : Unquoted site.stretches) : site.Named isQuotable := by
  unfold UsageSite.Named UsageSite.stretches at *
  cases kind : site.kind with
  | staticCall =>
    rw [kind] at named
    rw [if_pos kind] at unquoted
    exact ⟨named.valid, unquoted.quotable named.names⟩
  | _ =>
    rw [kind] at named
    exact named

/-- A declaration on one line can be quoted if its stretches of source can. -/
theorem TypeDeclaration.Named.quotable {declaration : TypeDeclaration}
    (named : declaration.Named isInline) (unquoted : Unquoted declaration.stretches) :
    declaration.Named isQuotable := by
  simp only [TypeDeclaration.stretches, Text.unquoted_append, Text.unquoted_flatMap,
    and_assoc] at unquoted
  obtain ⟨annotations, fields, components, constructors, methods, usages⟩ := unquoted
  have field {decls : List FieldDecl} (each : ∀ field ∈ decls, field.Named isInline)
      (free : ∀ field ∈ decls, Unquoted field.annotations) :
      ∀ field ∈ decls, field.Named isQuotable := fun field member =>
    { each field member with
      annotations := (free field member).quotable (each field member).annotations }
  exact
    { named with
      annotations := annotations.quotable named.annotations
      fields := field named.fields fields
      components := field named.components components
      constructors := fun constructor member =>
        { named.constructors constructor member with
          annotations := (constructors constructor member).quotable
            (named.constructors constructor member).annotations }
      methods := fun method member =>
        { named.methods method member with
          annotations := (methods method member).quotable
            (named.methods method member).annotations }
      usages := fun site member => (named.usages site member).quotable (usages site member) }

/-! ## Declared types -/

/-- A declared type is named if its declaration is, and its key, package and imports pass the test
that stretches of source pass. -/
structure DeclaredType.Named (stretch : Char → Bool) (declared : DeclaredType) : Prop where
  key : Within stretch declared.key
  package : Within stretch declared.package
  imports : ∀ imported ∈ declared.imports, Within stretch imported
  declaration : declared.declaration.Named stretch

namespace Index

variable {units : List CompilationUnit} {carried : List Diagnostic}

/-- What holds of the top-level declarations of a corpus, and of an entry if it holds of the one
that it is nested in, holds of every entry. -/
theorem entries_induction {motive : DeclaredType → Prop}
    (top : ∀ unit ∈ units, ∀ declaration ∈ unit.types,
      unit.placement.entry declaration none ∈ (ofUnits units carried).entries →
        motive (unit.placement.entry declaration none))
    (nested : ∀ outer inner, inner ∈ (ofUnits units carried).entries → inner.NestedIn outer →
      motive outer → motive inner) :
    ∀ declared ∈ (ofUnits units carried).entries, motive declared := by
  intro declared member
  -- The key of an entry is longer than that of the entry around it.
  induction length : declared.key.length using Nat.strongRecOn generalizing declared with
  | ind size shorter =>
    have origin := Visit.origin_walkUnits [] (sortUnits units) declared
    rw [← entries_ofUnits units carried] at origin
    rcases origin member with ⟨unit, listed, declaration, written, rfl⟩ | ⟨outer, known, within⟩
    · exact top unit ((sortUnits_perm units).mem_iff.1 listed) declaration written member
    · have less := owner_shorter member known within
      exact nested outer declared member within (shorter _ (length ▸ less) outer known rfl)

/-- The key of an entry passes a test that packages and the names of declarations pass. -/
theorem within_key {allowed : Char → Bool} (lenient : Lenient allowed)
    (packages : ∀ declared ∈ (ofUnits units carried).entries, Within allowed declared.package)
    (names : ∀ declared ∈ (ofUnits units carried).entries,
      Within allowed declared.declaration.name) :
    ∀ declared ∈ (ofUnits units carried).entries, Within allowed declared.key := by
  refine entries_induction ?top ?nested
  case top =>
    intro unit _ declaration _ member
    exact Key.within_make lenient (names _ member) (packages _ member)
      fun key owned => absurd owned (Option.some_ne_none key).symm
  case nested =>
    intro outer inner member nested outermost
    rw [nested.key, ← nested.package]
    refine Key.within_make lenient (names inner member) (packages inner member) ?_
    exact fun key owned => Option.some.inj owned ▸ outermost

/-- The declared types of named units are named. -/
theorem named_ofUnits (named : ∀ unit ∈ units, unit.Named) :
    ∀ declared ∈ (ofUnits units carried).entries, declared.Named isInline := by
  have placed : ∀ declared ∈ (ofUnits units carried).entries,
      Within isInline declared.package ∧ (∀ imported ∈ declared.imports, Within isInline imported) ∧
        declared.declaration.NamedThroughout isInline := by
    refine entries_induction ?top ?nested
    case top =>
      intro unit listed declaration written _
      have given := named unit listed
      exact ⟨given.package, given.imports, given.types declaration written⟩
    case nested =>
      rintro outer inner _ nested ⟨package, imports, throughout⟩
      rw [nested.package, nested.imports]
      cases throughout with
      | intro own inside => exact ⟨package, imports, inside _ nested.listed⟩
  have own : ∀ declared ∈ (ofUnits units carried).entries,
      declared.declaration.Named isInline := by
    intro declared member
    cases (placed declared member).2.2 with
    | intro own _ => exact own
  have keys := within_key Text.lenient_isInline (fun declared member => (placed declared member).1)
    fun declared member => (own declared member).name.of_quotable Text.lenient_isInline
  exact fun declared member =>
    ⟨keys declared member, (placed declared member).1, (placed declared member).2.1,
      own declared member⟩

/-- Declared types on one line can be quoted if their stretches of source can. -/
theorem named_of_unquoted
    (named : ∀ declared ∈ (ofUnits units carried).entries, declared.Named isInline)
    (unquoted : ∀ declared ∈ (ofUnits units carried).entries, Unquoted declared.stretches) :
    ∀ declared ∈ (ofUnits units carried).entries, declared.Named isQuotable := by
  have parts : ∀ declared ∈ (ofUnits units carried).entries,
      '"' ∉ declared.package.toList ∧ Unquoted declared.imports ∧
        Unquoted declared.declaration.stretches := by
    intro declared member
    simpa [DeclaredType.stretches] using unquoted declared member
  have packages : ∀ declared ∈ (ofUnits units carried).entries,
      Within isQuotable declared.package := fun declared member =>
    (named declared member).package.quotable (parts declared member).1
  have keys := within_key Text.lenient_isQuotable packages
    fun declared member => (named declared member).declaration.name
  intro declared member
  obtain ⟨_, imports, inside⟩ := parts declared member
  exact ⟨keys declared member, packages declared member,
    imports.quotable (named declared member).imports,
    (named declared member).declaration.quotable inside⟩

end Index

/-! ## The import oracle -/

/-- The package that an import opens passes a test that the import passes. -/
theorem within_onDemandPackage {allowed : Char → Bool} {imported package : String}
    (passed : Within allowed imported) (opened : onDemandPackage? imported = some package) :
    Within allowed package := by
  unfold onDemandPackage? at opened
  split at opened
  · next rest backwards =>
    rw [← Option.some.inj opened, Text.within_ofList]
    intro c member
    refine passed c (List.mem_reverse.1 ?_)
    rw [backwards]
    exact List.mem_cons_of_mem _ (List.mem_cons_of_mem _ (List.mem_reverse.1 member))
  · exact absurd opened (Option.some_ne_none package).symm

namespace ImportOracle

/-- Whether all that an oracle knows in a context passes a test: the keys, the package and the
imports. -/
structure Passes (allowed : Char → Bool) (oracle : ImportOracle) (context : ResolutionContext) :
    Prop where
  keys : ∀ key ∈ oracle.keys, Within allowed key
  package : Within allowed context.package
  imports : ∀ imported ∈ context.imports, Within allowed imported

variable {allowed : Char → Bool} {oracle : ImportOracle} {context : ResolutionContext}
  {name : String} {answer : OracleAnswer}

/-- The identity of a simple name is spelled with characters that pass. -/
theorem Passes.resolveSimple (known : oracle.Passes allowed context) (lenient : Lenient allowed)
    (named : Within allowed name) (found : oracle.resolveSimple name context = some answer) :
    Within allowed answer.qualifiedName := by
  have dot : Within allowed "." := Within.of_quotable (by decide) lenient
  simp only [ImportOracle.resolveSimple, Option.orElse_eq_some] at found
  rcases found with member | ⟨_, single | ⟨_, neighbour | ⟨_, demanded | ⟨_, platform⟩⟩⟩⟩
  · obtain ⟨key, listed, rfl⟩ := Option.map_eq_some_iff.1 member
    have key := known.keys key (by simpa using List.find?_some listed)
    exact Key.within_dotted lenient key
  · obtain ⟨imported, listed, rfl⟩ := Option.map_eq_some_iff.1 single
    exact known.imports imported (List.mem_of_find?_eq_some listed)
  · obtain ⟨key, _, rfl⟩ := Option.map_eq_some_iff.1 neighbour
    exact Key.within_make lenient named known.package
      fun key owned => absurd owned (Option.some_ne_none key).symm
  · obtain ⟨imported, listed, spelled⟩ := List.exists_of_findSome?_eq_some demanded
    obtain ⟨package, opened, later⟩ := Option.bind_eq_some_iff.1 spelled
    obtain ⟨key, _, made⟩ := Option.bind_eq_some_iff.1 later
    rw [← Option.some.inj made]
    have inside := within_onDemandPackage (known.imports imported listed) opened
    exact Text.within_append.2 ⟨Text.within_append.2 ⟨inside, dot⟩, named⟩
  · unfold platform? at platform
    split at platform
    · rw [← Option.some.inj platform]
      have language : Within allowed "java.lang." := Within.of_quotable (by decide) lenient
      exact Text.within_append.2 ⟨language, named⟩
    · exact absurd platform (Option.some_ne_none answer).symm

/-- The identity of a dotted name is spelled with characters that pass. -/
theorem Passes.resolveQualified (known : oracle.Passes allowed context)
    (lenient : Lenient allowed) {head rest : String} (named : Within allowed name)
    (first : Within allowed head) (later : Within allowed rest)
    (found : oracle.resolveQualified name head rest context = some answer) :
    Within allowed answer.qualifiedName := by
  unfold ImportOracle.resolveQualified at found
  split at found
  · rw [← Option.some.inj found]
    exact named
  · split at found
    · split at found
      · rw [← Option.some.inj found]
        exact named
      · exact absurd found (Option.some_ne_none answer).symm
    · next outer resolved =>
      have dot : Within allowed "." := Within.of_quotable (by decide) lenient
      have front : Within allowed outer := known.resolveSimple lenient first resolved
      rw [← Option.some.inj found]
      exact Text.within_append.2 ⟨Text.within_append.2 ⟨front, dot⟩, later⟩
    · dsimp only at found
      split at found
      · next listed =>
        rw [← Option.some.inj found]
        exact Key.within_dotted lenient (known.keys _ (List.contains_iff_mem.1 listed))
      · exact absurd found (Option.some_ne_none answer).symm

/-- The identity of a usage is spelled with characters that pass. -/
theorem Passes.resolve (known : oracle.Passes allowed context) (lenient : Lenient allowed)
    {usage : ClassUsage} (named : Within allowed usage.name)
    (found : oracle.resolve usage context = some answer) :
    Within allowed answer.qualifiedName := by
  unfold ImportOracle.resolve at found
  split at found
  · next head rest cut =>
    obtain ⟨first, later⟩ := named.of_cutFirst cut
    exact known.resolveQualified lenient named first later found
  · exact known.resolveSimple lenient named found

end ImportOracle

/-! ## References -/

namespace Resolver

/-- Whether the names under which references are drawn pass a test: those of declared types do, and
the oracle's answers about passing names. -/
structure Named (stretch : Char → Bool) (resolver : Resolver) : Prop where
  types : ∀ declared ∈ resolver.index.types, declared.Named stretch
  answers : ∀ declared ∈ resolver.index.types, ∀ usage answer, Within stretch usage.name →
    resolver.ask usage declared.context = some answer → Within stretch answer.qualifiedName

variable {stretch : Char → Bool} {resolver : Resolver} {declared : DeclaredType}

/-- A declared key passes. -/
theorem Named.within_key (named : resolver.Named stretch) {key : Key}
    (known : resolver.index.contains key = true) : Within stretch key := by
  obtain ⟨declared, listed, rfl⟩ := Index.contains_iff_types.1 known
  exact (named.types declared listed).key

/-- The reference of a spelling is drawn under a key or as written. -/
theorem Named.within_resolveText (named : resolver.Named stretch) {name : String}
    (written : Within stretch name) (package : String) :
    Within stretch (resolveText resolver.index name package).displayName := by
  simp only [resolveText]
  split
  · exact written
  · split
    · next known => exact named.within_key known
    · split
      · next only => exact named.within_key (Index.contains_of_uniqueKey? only)
      · exact written

/-- The reference of an answer is drawn under a key or under the name in the answer. -/
theorem Named.within_settle (named : resolver.Named stretch) {answer : OracleAnswer}
    (answered : Within stretch answer.qualifiedName) :
    Within stretch (settle resolver.index answer).displayName := by
  have byName : Within stretch (settle.byName resolver.index answer).displayName := by
    unfold settle.byName
    split
    · next found => exact named.within_key (Index.contains_of_keyForName? found)
    · exact answered
  unfold settle
  split
  · split
    · next known => exact named.within_key known
    · exact byName
  · exact byName

/-- The reference of a class type is drawn under a name that passes if the type's name does. -/
theorem Named.within_resolve (named : resolver.Named stretch)
    (listed : declared ∈ resolver.index.types) {usage : ClassUsage}
    (written : Within stretch usage.name) :
    Within stretch (resolver.resolve usage declared.context).displayName := by
  unfold resolve
  split
  · next answer asked => exact named.within_settle (named.answers declared listed _ _ written asked)
  · exact named.within_resolveText written _

end Resolver

/-- With no oracle or the import oracle, references are drawn under passing names if declared types
are named. -/
theorem OracleChoice.named_resolver {stretch : Char → Bool} (lenient : Lenient stretch)
    {choice : OracleChoice} (plain : choice = .none ∨ choice = .imports) {index : Index}
    (types : ∀ declared ∈ index.types, declared.Named stretch) :
    (choice.resolver index).Named stretch := by
  refine ⟨types, fun declared listed usage answer written asked => ?_⟩
  rcases plain with rfl | rfl
  · exact absurd asked (Option.some_ne_none answer).symm
  · have known : (ImportOracle.ofIndex index).Passes stretch declared.context := by
      have own := types declared listed
      refine ⟨fun key member => ?_, own.package, own.imports⟩
      obtain ⟨other, entry, rfl⟩ := Index.contains_iff_types.1 (Index.mem_keys_iff.1 member)
      exact (types other entry).key
    exact known.resolve lenient written asked

end ClassAtlas
