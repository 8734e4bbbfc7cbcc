import ClassAtlas.Diagram.Generation
import ClassAtlas.Proofs.InputOrder
import ClassAtlas.Proofs.TextualResolution

/-!
# Names that the import oracle knows

The import oracle looks a simple name up in five places and takes the first that knows it. What it
calls declared it finds by source spelling, and of several keys with one spelling it takes the
least. A dotted name goes by its spelling as a whole before it goes by its first segment, and so a
key gives way where the spelling of a nested type is the same.
-/
namespace ClassAtlas

namespace Index

/-- Whether a key is what a source spelling stands for: the least of the declared keys that are
spelled so. -/
structure Spells (index : Index) (name : String) (key : Key) : Prop where
  declared : index.contains key = true
  spelled : key.dotted = name
  least : ∀ other, index.contains other = true → other.dotted = name → key ≤ other

/-- Whether no other declared key is spelled like this one. -/
def SpelledAlone (index : Index) (key : Key) : Prop :=
  ∀ other, index.contains other = true → other.dotted = key → other = key

variable {index : Index} {name : String} {key : Key}

/-- A source spelling stands for one key at most. -/
theorem Spells.unique {other : Key} (one : index.Spells name key) (two : index.Spells name other) :
    key = other :=
  String.le_antisymm (one.least other two.declared two.spelled)
    (two.least key one.declared one.spelled)

/-- A key without a dollar sign stands for itself exactly when no other is spelled like it. -/
theorem spells_self_iff (known : index.contains key = true) (free : '$' ∉ key.toList) :
    index.Spells key key ↔ index.SpelledAlone key := by
  constructor
  · intro itself other declared spelled
    by_contra apart
    have below : other < key := by
      rw [← spelled] at apart ⊢
      exact Key.lt_dotted (Ne.symm apart)
    exact String.not_lt.2 (itself.least other declared spelled) below
  · intro alone
    refine ⟨known, Key.dotted_of_free free, fun other declared spelled => ?_⟩
    rw [alone other declared spelled]

/-! ## What the places answer -/

/-- Whether an answer is a source spelling and the key that it stands for. -/
def Identifies (index : Index) (spelling : String) (answer : OracleAnswer) : Prop :=
  ∃ key, index.Spells spelling key ∧ answer = ⟨spelling, some key⟩

/-- Whether an answer is the member type of a name in the type with a key. -/
def MemberAs (index : Index) (name : String) (outer : Key) (answer : OracleAnswer) : Prop :=
  index.contains (outer ++ "$" ++ name) = true ∧
    answer = ⟨Key.dotted (outer ++ "$" ++ name), some (outer ++ "$" ++ name)⟩

/-- Whether an answer is that of an import of one type that ends in a name: the import as it is
written, with the key that it stands for if there is one. -/
structure ImportsAs (index : Index) (name imported : String) (answer : OracleAnswer) : Prop where
  single : ∀ package, imported ≠ package ++ ".*"
  ends : Text.afterLast (· == '.') imported = name
  qualified : answer.qualifiedName = imported
  declaring : ∀ key, answer.declaringKey = some key ↔ index.Spells imported key

/-- Whether an answer is that of an import on demand for a name. -/
def OpensAs (index : Index) (name imported : String) (answer : OracleAnswer) : Prop :=
  ∃ package, imported = package ++ ".*" ∧ index.Identifies (package ++ "." ++ name) answer

/-- The places where a simple name is looked up, member types first: single-type imports, the same
package, imports on demand and the platform. -/
def scopeRules (index : Index) (members : OracleAnswer → Prop) (package : String)
    (imports : List String) (name : String) : List (OracleAnswer → Prop) :=
  [members,
    FirstIn (index.ImportsAs name) imports,
    index.Identifies (Key.make name package none),
    FirstIn (index.OpensAs name) imports,
    fun answer => name ∈ platformTypes ∧ answer = ⟨"java.lang." ++ name, none⟩]

end Index

/-- An import opens a package exactly when it is the package with an asterisk. -/
theorem onDemandPackage?_eq_some_iff {imported package : String} :
    onDemandPackage? imported = some package ↔ imported = package ++ ".*" := by
  unfold onDemandPackage?
  split
  · next rest backwards =>
    have chars : imported.toList = rest.reverse ++ ['.', '*'] := by
      rw [← List.reverse_reverse imported.toList, backwards]
      simp
    rw [Option.some_inj, ← String.toList_inj, ← String.toList_inj, chars]
    simp
  · next other =>
    refine ⟨fun found => absurd found (Option.some_ne_none package).symm, fun parts => ?_⟩
    refine absurd ?_ (other package.toList.reverse)
    rw [parts]
    simp

namespace ImportOracle

variable {index : Index} {name : String} {context : ResolutionContext} {answer : OracleAnswer}

/-- The oracle over an index knows the declared keys. -/
theorem contains_ofIndex (key : Key) :
    (ofIndex index).keys.contains key = index.contains key := by
  rw [Bool.eq_iff_iff, List.contains_iff_mem]
  exact Index.mem_keys_iff

/-- The oracle finds the key that a source spelling stands for. -/
theorem keyOfDotted?_eq_some_iff {key : Key} :
    (ofIndex index).keyOfDotted? name = some key ↔ index.Spells name key := by
  have listed {other : Key} : other ∈ (ofIndex index).keys.filter (Key.dotted · == name) ↔
      index.contains other = true ∧ other.dotted = name := by
    rw [List.mem_filter, beq_iff_eq]
    exact and_congr_left' Index.mem_keys_iff
  constructor
  · intro found
    obtain ⟨declared, spelled⟩ := listed.1 (leastName_mem found)
    exact ⟨declared, spelled, fun other known alike => leastName_le found (listed.2 ⟨known, alike⟩)⟩
  · intro spells
    have member := listed.2 ⟨spells.declared, spells.spelled⟩
    cases found : (ofIndex index).keyOfDotted? name with
    | none =>
      rw [leastName_eq_none_iff.1 found] at member
      exact absurd member List.not_mem_nil
    | some other =>
      obtain ⟨declared, spelled⟩ := listed.1 (leastName_mem found)
      have least := leastName_le found member
      rw [String.le_antisymm least (spells.least other declared spelled)]

/-- A source spelling stands for a key exactly when some declared key is spelled so. -/
theorem keyOfDotted?_eq_none_iff :
    (ofIndex index).keyOfDotted? name = none ↔
      ∀ key, index.contains key = true → key.dotted ≠ name := by
  rw [keyOfDotted?, leastName_eq_none_iff, List.filter_eq_nil_iff]
  refine forall_congr' fun key => ?_
  rw [beq_iff_eq]
  exact imp_congr Index.mem_keys_iff Iff.rfl

/-- The member type that is found is that of the first enclosing key that has one. -/
theorem memberType?_eq_some_iff :
    (ofIndex index).memberType? name context = some answer ↔
      FirstIn (index.MemberAs name) (Key.enclosing (context.owner.getD "")) answer := by
  rw [memberType?, List.find?_map, Option.map_map, map_find?_eq_some_iff_firstIn]
  refine firstIn_congr fun outer member result => ?_
  have named : outer ≠ "" := by
    obtain ⟨part, filled, rfl⟩ := List.mem_map.1 member
    simpa using (List.mem_filter.1 filled).2
  simp only [Function.comp, Key.make_nested named, contains_ofIndex]
  rfl

/-- The single-type import that is found is the first that ends in the name. -/
theorem singleImport?_eq_some_iff :
    (ofIndex index).singleImport? name context = some answer ↔
      FirstIn (index.ImportsAs name) context.imports answer := by
  rw [singleImport?, map_find?_eq_some_iff_firstIn]
  refine firstIn_congr fun imported _ result => ?_
  have single : (onDemandPackage? imported).isNone = true ↔
      ∀ package, imported ≠ package ++ ".*" := by
    rw [Option.isNone_iff_eq_none, Option.eq_none_iff_forall_ne_some]
    simp only [Ne, onDemandPackage?_eq_some_iff]
  rw [Bool.and_eq_true, single, beq_iff_eq]
  constructor
  · rintro ⟨⟨alone, ends⟩, rfl⟩
    exact ⟨alone, ends, rfl, fun key => keyOfDotted?_eq_some_iff⟩
  · rintro ⟨alone, ends, rfl, declaring⟩
    refine ⟨⟨alone, ends⟩, ?_⟩
    have same : result.declaringKey = (ofIndex index).keyOfDotted? result.qualifiedName :=
      Option.ext fun key => (declaring key).trans keyOfDotted?_eq_some_iff.symm
    change result = ⟨result.qualifiedName, (ofIndex index).keyOfDotted? result.qualifiedName⟩
    rw [← same]

/-- The type of the same package that is found is the one that its spelling there stands for. -/
theorem samePackage?_eq_some_iff :
    (ofIndex index).samePackage? name context = some answer ↔
      index.Identifies (Key.make name context.package none) answer := by
  simp only [samePackage?, Option.map_eq_some_iff, keyOfDotted?_eq_some_iff, Index.Identifies,
    @eq_comm _ answer]

/-- The import on demand that is found is the first whose package has a type of the name. -/
theorem onDemandImport?_eq_some_iff :
    (ofIndex index).onDemandImport? name context = some answer ↔
      FirstIn (index.OpensAs name) context.imports answer := by
  rw [onDemandImport?, findSome?_eq_some_iff_firstIn]
  refine firstIn_congr fun imported _ result => ?_
  simp only [Option.bind_eq_bind, Option.bind_eq_some_iff, onDemandPackage?_eq_some_iff,
    keyOfDotted?_eq_some_iff, Option.pure_def, Option.some_inj, Index.OpensAs, Index.Identifies,
    @eq_comm _ result]

/-- The platform types are known by their names. -/
theorem platform?_eq_some_iff :
    platform? name = some answer ↔
      name ∈ platformTypes ∧ answer = ⟨"java.lang." ++ name, none⟩ := by
  unfold platform?
  split
  · next listed => simp [List.contains_iff_mem.1 listed, eq_comm]
  · next missing =>
    have unlisted : name ∉ platformTypes := fun member => missing (List.contains_iff_mem.2 member)
    simp [unlisted]

/-- What is no platform type is not known as one. -/
theorem platform?_eq_none_iff : platform? name = none ↔ name ∉ platformTypes := by
  rw [Option.eq_none_iff_forall_ne_some]
  simp only [Ne, platform?_eq_some_iff, not_and]
  constructor
  · intro unknown listed
    exact unknown _ listed rfl
  · intro unlisted _ listed
    exact absurd listed unlisted

/-- A simple name has the identity that the first place gives that knows it. -/
theorem resolveSimple_eq_some_iff :
    (ofIndex index).resolveSimple name context = some answer ↔
      FirstRule (index.scopeRules
        (FirstIn (index.MemberAs name) (Key.enclosing (context.owner.getD "")))
        context.package context.imports name) answer := by
  have last : ∀ result, platform? name = some result ↔
      FirstRule [fun answer => name ∈ platformTypes ∧ answer = ⟨"java.lang." ++ name, none⟩]
        result := by
    intro result
    rw [platform?_eq_some_iff, FirstRule, firstIn_cons]
    simp [not_firstIn_nil]
  exact orElse_eq_some_iff_firstRule (fun _ => memberType?_eq_some_iff)
    (orElse_eq_some_iff_firstRule (fun _ => singleImport?_eq_some_iff)
      (orElse_eq_some_iff_firstRule (fun _ => samePackage?_eq_some_iff)
        (orElse_eq_some_iff_firstRule (fun _ => onDemandImport?_eq_some_iff) last))) answer

/-- What the oracle calls declared is declared. -/
theorem contains_of_declaringKey {key : Key}
    (found : (ofIndex index).resolveSimple name context = some answer)
    (declaring : answer.declaringKey = some key) : index.contains key = true := by
  obtain ⟨before, rule, after, parts, given, _⟩ := resolveSimple_eq_some_iff.1 found
  have listed : rule ∈ before ++ rule :: after := by simp
  rw [← parts] at listed
  have spelled {spelling : String} (identified : index.Identifies spelling answer) :
      index.contains key = true := by
    obtain ⟨other, spells, rfl⟩ := identified
    exact Option.some.inj declaring ▸ spells.declared
  simp only [Index.scopeRules, List.mem_cons, List.not_mem_nil, or_false] at listed
  rcases listed with rfl | rfl | rfl | rfl | rfl
  · obtain ⟨_, outer, _, _, ⟨known, rfl⟩, _⟩ := given
    exact Option.some.inj declaring ▸ known
  · obtain ⟨_, imported, _, _, single, _⟩ := given
    exact ((single.declaring key).1 declaring).declared
  · exact spelled given
  · obtain ⟨_, imported, _, _, ⟨_, _, identified⟩, _⟩ := given
    exact spelled identified
  · rw [given.2] at declaring
    exact absurd declaring (Option.some_ne_none key).symm

/-! ## Dotted names -/

variable {oracle : ImportOracle} {arguments : List TypeUsage}

/-- A name without a dot is looked up as a simple one. -/
theorem resolve_undotted (free : '.' ∉ name.toList) :
    oracle.resolve ⟨name, arguments⟩ context = oracle.resolveSimple name context := by
  have uncut : Text.splitFirst (· == '.') name.toList = none := by
    rw [Text.splitFirst_eq_none_iff]
    exact fun c member => beq_eq_false_iff_ne.2 fun dot => free (dot ▸ member)
  rw [resolve, Text.cutFirst, uncut]
  rfl

/-- A name with a dot is looked up as a dotted one, with the part before the first dot as its
head. -/
theorem resolve_dotted {head rest : String} (free : '.' ∉ head.toList) :
    oracle.resolve ⟨head ++ "." ++ rest, arguments⟩ context =
      oracle.resolveQualified (head ++ "." ++ rest) head rest context := by
  have cut : Text.splitFirst (· == '.') (head ++ "." ++ rest).toList =
      some (head.toList, rest.toList) := by
    rw [Key.toList_packaged]
    refine Text.splitFirst_append rfl fun c member => beq_eq_false_iff_ne.2 fun dot => ?_
    exact free (dot ▸ member)
  rw [resolve, Text.cutFirst, cut]
  simp only [Option.map_some, String.ofList_toList]

/-- A dotted name that is spelled by a declared key is that key. -/
theorem resolve_spelled {key : Key} (dotted : '.' ∈ name.toList) (spells : index.Spells name key) :
    (ofIndex index).resolve ⟨name, arguments⟩ context = some ⟨name, some key⟩ := by
  have cut : Text.cutFirst (· == '.') name ≠ none := by
    rw [Text.cutFirst, Ne, Option.map_eq_none_iff, Text.splitFirst_eq_none_iff]
    exact fun free => absurd (free '.' dotted) (by decide)
  unfold resolve
  split
  · rw [resolveQualified, keyOfDotted?_eq_some_iff.2 spells]
  · next uncut => exact absurd uncut cut

/-- A dotted name that no declared key spells is the member of what its head is, if that is
declared and has it. -/
theorem resolveQualified_nested {head rest : String} {outer : Key}
    (unspelled : ∀ key, index.contains key = true → key.dotted ≠ name)
    (found : (ofIndex index).resolveSimple head context = some answer)
    (declaring : answer.declaringKey = some outer)
    (nested : index.contains (outer ++ "$" ++ Text.replaceChar '.' '$' rest) = true) :
    let key := outer ++ "$" ++ Text.replaceChar '.' '$' rest
    (ofIndex index).resolveQualified name head rest context = some ⟨Key.dotted key, some key⟩ := by
  intro key
  obtain ⟨qualified, _⟩ := answer
  subst declaring
  rw [resolveQualified, keyOfDotted?_eq_none_iff.2 unspelled, found]
  simp only [contains_ofIndex]
  exact if_pos nested

end ImportOracle

/-- Segments joined by dots become segments joined by dollar signs. -/
theorem Text.replaceChar_intercalate {segments : List String}
    (free : ∀ segment ∈ segments, '.' ∉ segment.toList) :
    replaceChar '.' '$' (".".intercalate segments) = "$".intercalate segments := by
  induction segments with
  | nil => rfl
  | cons first rest ih =>
    obtain ⟨here, later⟩ := List.forall_mem_cons.1 free
    cases rest with
    | nil =>
      rw [String.intercalate_singleton, String.intercalate_singleton, replaceChar_of_free here]
    | cons second rest =>
      rw [String.intercalate_cons_cons, String.intercalate_cons_cons, replaceChar_append,
        replaceChar_append, replaceChar_of_free here, ih later]
      rfl

namespace Resolver

variable {index : Index} {context : ResolutionContext} {usage : ClassUsage}

/-- A class type that the import oracle calls a declared type is that type. -/
theorem resolve_of_declaringKey {answer : OracleAnswer} {key : Key}
    (found : (ImportOracle.ofIndex index).resolve usage context = some answer)
    (declaring : answer.declaringKey = some key) (known : index.contains key = true) :
    (OracleChoice.imports.resolver index).resolve usage context = .declared key := by
  have asked : (OracleChoice.imports.resolver index).ask usage context = some answer := found
  have settled : settle index answer = .declared key := by
    rw [settle, declaring]
    exact if_pos known
  rw [resolve, asked]
  exact settled

end Resolver

/-- A dotted name whose head is a declared type for the import oracle, and whose further segments
lead to a type nested in that one, is this type unless the whole name is spelled by a declared key:
then it is the least such key. -/
theorem resolve_through_head (index : Index) (context : ResolutionContext) {head : String}
    {members : List String} {outer : Key} {answer : OracleAnswer}
    {arguments given : List TypeUsage} (simple : '.' ∉ head.toList) (further : members ≠ [])
    (segments : ∀ segment ∈ members, '.' ∉ segment.toList)
    (found : (ImportOracle.ofIndex index).resolve ⟨head, arguments⟩ context = some answer)
    (declaring : answer.declaringKey = some outer)
    (nested : index.contains ("$".intercalate (outer :: members)) = true) :
    let resolver := OracleChoice.imports.resolver index
    let name := ".".intercalate (head :: members)
    resolver.resolve ⟨head, arguments⟩ context = .declared outer ∧
      (∀ key, index.Spells name key → resolver.resolve ⟨name, given⟩ context = .declared key) ∧
      ((∀ key, index.contains key = true → key.dotted ≠ name) →
        resolver.resolve ⟨name, given⟩ context =
          .declared ("$".intercalate (outer :: members))) := by
  intro resolver name
  rw [ImportOracle.resolve_undotted simple] at found
  have known := ImportOracle.contains_of_declaringKey found declaring
  obtain ⟨first, rest, rfl⟩ := List.exists_cons_of_ne_nil further
  have parts : name = head ++ "." ++ ".".intercalate (first :: rest) := String.intercalate_cons_cons
  have key : "$".intercalate (outer :: first :: rest) =
      outer ++ "$" ++ Text.replaceChar '.' '$' (".".intercalate (first :: rest)) := by
    rw [Text.replaceChar_intercalate segments, String.intercalate_cons_cons]
  rw [key] at nested ⊢
  refine ⟨?_, fun spelled spells => ?_, fun unspelled => ?_⟩
  · rw [← ImportOracle.resolve_undotted simple] at found
    exact Resolver.resolve_of_declaringKey found declaring known
  · have dotted : '.' ∈ name.toList := by
      rw [parts, Key.toList_packaged]
      simp
    exact Resolver.resolve_of_declaringKey (ImportOracle.resolve_spelled dotted spells) rfl
      spells.declared
  · have qualified := ImportOracle.resolveQualified_nested unspelled found declaring nested
    rw [parts, ← ImportOracle.resolve_dotted simple] at qualified
    rw [parts]
    exact Resolver.resolve_of_declaringKey qualified rfl nested

/-- From another package a type nested in an imported one is found through two segments. -/
theorem resolve_through_head_imported :
    let unit : CompilationUnit :=
      { package := "app"
        types := [{ name := "Outer", nestedTypes :=
          [{ name := "Node", nestedTypes := [{ name := "Leaf" }] }] }] }
    let index := ({} : Index).acceptUnits [unit]
    let context : ResolutionContext := { package := "lib", imports := ["app.Outer"] }
    index.contains "app.Outer$Node$Leaf" = true ∧
      (OracleChoice.imports.resolver index).resolve ⟨"Outer.Node.Leaf", []⟩ context =
        .declared "app.Outer$Node$Leaf" := by
  intro unit index context
  have found : (ImportOracle.ofIndex index).resolve ⟨"Outer", []⟩ context =
      some ⟨"app.Outer", some "app.Outer"⟩ := by decide +kernel
  have nested : index.contains "app.Outer$Node$Leaf" = true := by decide +kernel
  have listed : ∀ key ∈ index.keys, Key.dotted key ≠ "Outer.Node.Leaf" := by decide +kernel
  have through := @resolve_through_head index context "Outer" ["Node", "Leaf"] _ _ [] []
    (by decide) (by decide) (by decide) found rfl nested
  exact ⟨nested, through.2.2 fun key known => listed key (Index.mem_keys_iff.2 known)⟩

/-- In a package with a type `Outer` of its own the name `Outer.Node` leads past it, to the type in
the default package that is spelled so. -/
theorem resolve_past_head :
    ¬∀ (index : Index) (context : ResolutionContext) (head : String) (members : List String)
      (qualified : String) (outer : Key), '.' ∉ head.toList → members ≠ [] →
      (∀ segment ∈ members, '.' ∉ segment.toList) →
      (ImportOracle.ofIndex index).resolve ⟨head, []⟩ context = some ⟨qualified, some outer⟩ →
      index.contains ("$".intercalate (outer :: members)) = true →
        (OracleChoice.imports.resolver index).resolve ⟨".".intercalate (head :: members), []⟩
          context = .declared ("$".intercalate (outer :: members)) := by
  intro follows
  let types : List TypeDeclaration := [{ name := "Outer", nestedTypes := [{ name := "Node" }] }]
  let plain : CompilationUnit := { types }
  let packaged : CompilationUnit := { package := "app", types }
  have index : Index.ofUnits [plain, packaged] [] =
      [plain, packaged].foldl (fun index unit => (index.acceptUnit unit).1) {} :=
    ofUnits_eq_of_sorted (List.Perm.refl _) (by decide +kernel) []
  have own := follows (Index.ofUnits [plain, packaged] []) { package := "app" } "Outer" ["Node"]
    "app.Outer" "app.Outer" (by decide) (by decide) (by decide)
  rw [index] at own
  exact absurd (own (by decide +kernel) (by decide +kernel)) (by decide +kernel)

/-! ## Exact keys -/

namespace ImportOracle

variable {index : Index} {name : String} {context : ResolutionContext}

/-- Where no enclosing type has a member of a name and no import of one type ends in it, the name is
looked up in the same package and then further away. -/
theorem resolveSimple_beyond
    (memberless : ∀ outer ∈ Key.enclosing (context.owner.getD ""),
      index.contains (outer ++ "$" ++ name) = false)
    (unimported : ∀ imported ∈ context.imports, (∀ package, imported ≠ package ++ ".*") →
      Text.afterLast (· == '.') imported ≠ name) :
    (ofIndex index).resolveSimple name context =
      ((ofIndex index).samePackage? name context
        <|> (ofIndex index).onDemandImport? name context
        <|> platform? name) := by
  have members : (ofIndex index).memberType? name context = none := by
    refine (eq_none_iff_of_firstIn fun _ => memberType?_eq_some_iff).2 ?_
    intro outer member _ given
    exact Bool.false_ne_true ((memberless outer member).symm.trans given.1)
  have singles : (ofIndex index).singleImport? name context = none := by
    refine (eq_none_iff_of_firstIn fun _ => singleImport?_eq_some_iff).2 ?_
    exact fun imported member _ given => unimported imported member given.single given.ends
  rw [resolveSimple, members, singles]
  rfl

/-- A key with a dollar sign is no source spelling. -/
theorem samePackage?_of_dollar (dollar : '$' ∈ context.package.toList) :
    (ofIndex index).samePackage? name context = none := by
  rw [Option.eq_none_iff_forall_ne_some]
  intro answer found
  obtain ⟨key, spells, _⟩ := samePackage?_eq_some_iff.1 found
  have named : context.package ≠ "" := by
    intro empty
    rw [empty] at dollar
    exact absurd dollar (by decide)
  have inside : '$' ∈ (Key.make name context.package none).toList := by
    rw [Key.make_packaged named, Key.toList_packaged]
    exact List.mem_append_left _ dollar
  rw [← spells.spelled] at inside
  exact Key.dollar_not_mem_dotted key inside

end ImportOracle

namespace Resolver

variable {index : Index} {context : ResolutionContext} {usage : ClassUsage} {key : Key}

/-- Where the import oracle goes by the spelling of a key, the key is found exactly when no other
is spelled like it. -/
theorem resolve_spelling_iff (known : index.contains key = true) (free : '$' ∉ key.toList)
    (answered : ∀ least, index.Spells key least →
      (OracleChoice.imports.resolver index).resolve usage context = .declared least) :
    (∃ least, index.Spells key least ∧
        (OracleChoice.imports.resolver index).resolve usage context = .declared least) ∧
      ((OracleChoice.imports.resolver index).resolve usage context = .declared key ↔
        index.SpelledAlone key) := by
  cases found : (ImportOracle.ofIndex index).keyOfDotted? key with
  | none =>
    have unspelled := ImportOracle.keyOfDotted?_eq_none_iff.1 found key known
    exact absurd (Key.dotted_of_free free) unspelled
  | some least =>
    have spells := ImportOracle.keyOfDotted?_eq_some_iff.1 found
    refine ⟨⟨least, spells, answered least spells⟩, ?_⟩
    rw [answered least spells, TypeRef.declared.injEq, ← Index.spells_self_iff known free]
    exact ⟨fun same => same ▸ spells, spells.unique⟩

/-- An answer without a key is the declared type that its qualified name leads to, if it does. -/
theorem settle_undeclared_iff {qualified : String} :
    settle index ⟨qualified, none⟩ = .declared key ↔ index.keyForName? qualified = some key := by
  cases found : index.keyForName? qualified with
  | none => simp [settle, settle.byName, found]
  | some other => simp [settle, settle.byName, found]

/-- A simple name that has a key in a package with a dollar sign is not found by spelling there. It
leads to the key exactly when an import on demand does, or none knows the name and, if the platform
does, its spelling there leads to the key. -/
theorem resolve_beyond_iff {name : String} {arguments : List TypeUsage}
    (simple : Key.IsSimple name)
    (known : index.contains (Key.make name context.package none) = true)
    (dollar : '$' ∈ context.package.toList)
    (memberless : ∀ outer ∈ Key.enclosing (context.owner.getD ""),
      index.contains (outer ++ "$" ++ name) = false)
    (unimported : ∀ imported ∈ context.imports, (∀ package, imported ≠ package ++ ".*") →
      Text.afterLast (· == '.') imported ≠ name) :
    let key := Key.make name context.package none
    (OracleChoice.imports.resolver index).resolve ⟨name, arguments⟩ context = .declared key ↔
      (∃ spelling, FirstIn (index.OpensAs name) context.imports ⟨spelling, some key⟩) ∨
        (∀ imported ∈ context.imports, ∀ answer, ¬index.OpensAs name imported answer) ∧
          (name ∈ platformTypes → index.keyForName? ("java.lang." ++ name) = some key) := by
  intro key
  have undotted : (ImportOracle.ofIndex index).resolve ⟨name, arguments⟩ context = _ :=
    ImportOracle.resolve_undotted simple.dot_not_mem
  rw [ImportOracle.resolveSimple_beyond memberless unimported,
    ImportOracle.samePackage?_of_dollar dollar] at undotted
  simp only [← ImportOracle.onDemandImport?_eq_some_iff]
  rw [← eq_none_iff_of_firstIn fun _ => ImportOracle.onDemandImport?_eq_some_iff]
  cases opened : (ImportOracle.ofIndex index).onDemandImport? name context with
  | some answer =>
    obtain ⟨_, _, _, _, ⟨_, _, least, spells, rfl⟩, _⟩ :=
      ImportOracle.onDemandImport?_eq_some_iff.1 opened
    rw [opened] at undotted
    rw [resolve_of_declaringKey undotted rfl spells.declared]
    simp
  | none =>
    rw [opened] at undotted
    by_cases listed : name ∈ platformTypes
    · rw [ImportOracle.platform?_eq_some_iff.2 ⟨listed, rfl⟩] at undotted
      have asked : (OracleChoice.imports.resolver index).ask ⟨name, arguments⟩ context =
        some ⟨"java.lang." ++ name, none⟩ := undotted
      rw [resolve, asked]
      refine settle_undeclared_iff.trans ?_
      simp [listed, OracleChoice.resolver]
    · rw [ImportOracle.platform?_eq_none_iff.2 listed] at undotted
      have silent : (OracleChoice.imports.resolver index).Silent ⟨name, arguments⟩ context :=
        Or.inr ⟨_, rfl, Or.inl (congrArg Except.ok undotted)⟩
      rw [silent.resolve_eq]
      exact iff_of_true (resolveText_neighbour simple known) (by simp [listed])

end Resolver

/-- Without an oracle a dotted name that is a key, and a simple name that has a key in the same
package, lead to that key. With the import oracle they lead to the least key that is spelled like
it, and so to the key itself exactly when no other key is. A simple name that has a key in a
package with a dollar sign is not found by spelling: it leads to the key only from farther away. -/
theorem resolve_exact_key (index : Index) (context : ResolutionContext)
    (arguments : List TypeUsage) :
    let asked := OracleChoice.imports.resolver index
    let unasked := OracleChoice.none.resolver index
    (∀ key, '.' ∈ key.toList → '$' ∉ key.toList → index.contains key = true →
      unasked.resolve ⟨key, arguments⟩ context = .declared key ∧
      (∃ least, index.Spells key least ∧
        asked.resolve ⟨key, arguments⟩ context = .declared least) ∧
      (asked.resolve ⟨key, arguments⟩ context = .declared key ↔ index.SpelledAlone key)) ∧
    ∀ name, Key.IsSimple name →
      let key := Key.make name context.package none
      index.contains key = true →
      (∀ outer ∈ Key.enclosing (context.owner.getD ""),
        index.contains (outer ++ "$" ++ name) = false) →
      (∀ imported ∈ context.imports, (∀ package, imported ≠ package ++ ".*") →
        Text.afterLast (· == '.') imported ≠ name) →
      unasked.resolve ⟨name, arguments⟩ context = .declared key ∧
      ('$' ∉ context.package.toList →
        (∃ least, index.Spells key least ∧
          asked.resolve ⟨name, arguments⟩ context = .declared least) ∧
        (asked.resolve ⟨name, arguments⟩ context = .declared key ↔ index.SpelledAlone key)) ∧
      ('$' ∈ context.package.toList →
        (asked.resolve ⟨name, arguments⟩ context = .declared key ↔
          (∃ spelling, FirstIn (index.OpensAs name) context.imports ⟨spelling, some key⟩) ∨
            (∀ imported ∈ context.imports, ∀ answer, ¬index.OpensAs name imported answer) ∧
              (name ∈ platformTypes →
                index.keyForName? ("java.lang." ++ name) = some key))) := by
  intro asked unasked
  have unanswered (usage : ClassUsage) : unasked.Silent usage context := Or.inl rfl
  constructor
  · intro key dotted free known
    refine ⟨?_, Resolver.resolve_spelling_iff known free fun least spells => ?_⟩
    · rw [(unanswered _).resolve_eq]
      exact Resolver.resolveText_exact dotted known context.package
    · exact Resolver.resolve_of_declaringKey (ImportOracle.resolve_spelled dotted spells) rfl
        spells.declared
  · intro name simple key known memberless unimported
    refine ⟨?_, fun free => ?_,
      fun dollar => Resolver.resolve_beyond_iff simple known dollar memberless unimported⟩
    · rw [(unanswered _).resolve_eq]
      exact Resolver.resolveText_neighbour simple known
    · have undollared := Key.dollar_not_mem_top simple free
      refine Resolver.resolve_spelling_iff known undollared fun least spells => ?_
      have undotted : (ImportOracle.ofIndex index).resolve ⟨name, arguments⟩ context = _ :=
        ImportOracle.resolve_undotted simple.dot_not_mem
      rw [ImportOracle.resolveSimple_beyond memberless unimported,
        ImportOracle.samePackage?_eq_some_iff.2 ⟨least, spells, rfl⟩] at undotted
      exact Resolver.resolve_of_declaringKey undotted rfl spells.declared

/-- Beside a nested type `p.A$B` and a type `p.A.B` of package `p.A` the name `p.A.B` leads to the
first with the oracle and to the second without, while `A` is found from its own package. -/
theorem resolve_exact_key_alone :
    let units : List CompilationUnit :=
      [{ package := "p", types := [{ name := "A", nestedTypes := [{ name := "B" }] }] },
        { package := "p.A", types := [{ name := "B" }] }]
    let index := Index.ofUnits units []
    let asked := OracleChoice.imports.resolver index
    index.keys = ["p.A", "p.A$B", "p.A.B"] ∧
      (OracleChoice.none.resolver index).resolve ⟨"p.A.B", []⟩ {} = .declared "p.A.B" ∧
      asked.resolve ⟨"p.A.B", []⟩ {} ≠ .declared "p.A.B" ∧
      asked.resolve ⟨"A", []⟩ { package := "p", owner := some "p.A" } = .declared "p.A" := by
  intro units index asked
  have folded : index = units.foldl (fun index unit => (index.acceptUnit unit).1) {} :=
    ofUnits_eq_of_sorted (List.Perm.refl _) (by decide +kernel) []
  have keys : index.keys = ["p.A", "p.A$B", "p.A.B"] := by
    rw [folded]
    decide +kernel
  have known {key : Key} : index.contains key = true ↔ key ∈ ["p.A", "p.A$B", "p.A.B"] := by
    rw [← keys, Index.mem_keys_iff]
  have dotted := (resolve_exact_key index {} []).1 "p.A.B" (by decide) (by decide)
    (known.2 (by decide))
  have simple := (resolve_exact_key index { package := "p", owner := some "p.A" } []).2 "A"
    (by decide) (known.2 (by decide)) (by rw [folded]; decide +kernel) (List.forall_mem_nil _)
  refine ⟨keys, dotted.1, fun found => ?_, (simple.2.1 (by decide)).2.2 fun other declared => ?_⟩
  · have alone := dotted.2.2.1 found "p.A$B" (known.2 (by decide)) (by decide +kernel)
    exact absurd alone (by decide)
  · have listed : ∀ key ∈ ["p.A", "p.A$B", "p.A.B"], Key.dotted key = "p.A" → key = "p.A" := by
      decide +kernel
    exact listed other (known.1 declared)

/-- The import oracle overrides an exact key: beside a nested type `p.A$B` neither the name `p.A.B`
nor the name `B` in package `p.A` leads to the type `p.A.B`. -/
theorem resolve_overrides_key :
    (¬∀ (units : List CompilationUnit) (key : Key) (context : ResolutionContext),
      let index := Index.ofUnits units []
      '.' ∈ key.toList → '$' ∉ key.toList → index.contains key = true →
        (OracleChoice.imports.resolver index).resolve ⟨key, []⟩ context = .declared key) ∧
    ¬∀ (units : List CompilationUnit) (name package : String), Key.IsSimple name →
      let index := Index.ofUnits units []
      index.contains (Key.make name package none) = true →
        (OracleChoice.imports.resolver index).resolve ⟨name, []⟩ { package } =
          .declared (Key.make name package none) := by
  let units : List CompilationUnit :=
    [{ package := "p", types := [{ name := "A", nestedTypes := [{ name := "B" }] }] },
      { package := "p.A", types := [{ name := "B" }] }]
  have index : Index.ofUnits units [] =
      units.foldl (fun index unit => (index.acceptUnit unit).1) {} :=
    ofUnits_eq_of_sorted (List.Perm.refl _) (by decide +kernel) []
  constructor
  · intro verbatim
    have own := verbatim units "p.A.B" {} (by decide) (by decide)
    rw [index] at own
    exact absurd (own (by decide +kernel)) (by decide +kernel)
  · intro nearby
    have own := nearby units "B" "p.A" (by decide)
    rw [index] at own
    exact absurd (own (by decide +kernel)) (by decide +kernel)

end ClassAtlas
