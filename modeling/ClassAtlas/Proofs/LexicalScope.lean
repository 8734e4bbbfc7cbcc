import ClassAtlas.Proofs.ImportedNames

/-!
# Lexical scope

An index records the owner of every type, while the import oracle cuts the key of the enclosing type
at its last dollar sign. Where names and packages are plain the two agree: the keys that the cutting
leaves are those of the owners, and what it finds in them are their member types. So the oracle
looks a simple name up in the scope that the corpus declares.
-/
namespace ClassAtlas

namespace Index

/-- The types around a declared type by the recorded owners, innermost first and the type itself
included. -/
inductive OwnerChain (index : Index) : DeclaredType → List DeclaredType → Prop where
  /-- A type without an owner is alone. -/
  | top {declared : DeclaredType} (free : declared.owner = none) :
      OwnerChain index declared [declared]
  /-- Around a type with an owner is what is around the owner. -/
  | nested {inner outer : DeclaredType} {owners : List DeclaredType}
      (owned : index.OwnedBy inner outer) (around : OwnerChain index outer owners) :
      OwnerChain index inner (inner :: owners)

/-- Whether an answer is the type of a name whose recorded owner has a key. -/
def DeclaresMember (index : Index) (name : String) (outer : Key) (answer : OracleAnswer) : Prop :=
  ∃ inner ∈ index.types, inner.owner = some outer ∧ inner.declaration.name = name ∧
    inner.key = outer ++ "$" ++ name ∧ answer = ⟨Key.dotted inner.key, some inner.key⟩

variable {index : Index} {declared : DeclaredType} {owners : List DeclaredType}

/-- Where every owner is recorded, every entry has a chain of owners. -/
theorem RecordsOwners.exists_chain (recorded : index.RecordsOwners)
    (member : declared ∈ index.entries) : ∃ owners, index.OwnerChain declared owners := by
  obtain ⟨root, _, free, path⟩ := recorded.exists_root declared member
  induction path using Relation.ReflTransGen.head_induction_on with
  | refl => exact ⟨[root], .top free⟩
  | head owned _ ih =>
    obtain ⟨owners, around⟩ := ih (recorded.of_ownedBy member owned).1
    exact ⟨_, .nested owned around⟩

/-- A type has one chain of owners at most. -/
theorem OwnerChain.unique {others : List DeclaredType} (chain : index.OwnerChain declared owners)
    (other : index.OwnerChain declared others) : others = owners := by
  induction chain generalizing others with
  | top free =>
    cases other with
    | top _ => rfl
    | nested owned _ =>
      obtain ⟨owner, named, _⟩ := owned
      exact absurd (free.symm.trans named) (Option.some_ne_none owner).symm
  | nested owned _ ih =>
    obtain ⟨owner, named, found⟩ := owned
    cases other with
    | top free => exact absurd (free.symm.trans named) (Option.some_ne_none owner).symm
    | nested owns around =>
      obtain ⟨again, alike, there⟩ := owns
      obtain rfl : owner = again := Option.some.inj (named.symm.trans alike)
      obtain rfl := Option.some.inj (found.symm.trans there)
      rw [ih around]

/-- Where packages hold no dollar sign, cutting a key at its last one leads through the keys of the
owners and ends. -/
theorem PlainKeys.enclosing_key (keys : index.PlainKeys)
    (plain : ∀ declared ∈ index.entries, '$' ∉ declared.package.toList)
    (chain : index.OwnerChain declared owners) (member : declared ∈ index.entries) :
    Key.enclosing declared.key = owners.map (·.key) := by
  -- One owner further out is one dollar sign less; at the top only that of a package could be left.
  induction chain with
  | @top declared free =>
    have simple := (keys.plain declared member).simple
    have undollared : '$' ∉ declared.key.toList := by
      rw [keys.key_top member free]
      exact Key.dollar_not_mem_top simple (plain declared member)
    exact Key.enclosing_of_free undollared (keys.key_ne_empty member)
  | @nested inner outer owners owned _ ih =>
    have around := ih (keys.recorded.of_ownedBy member owned).1
    have simple := (keys.plain inner member).simple
    rw [List.map_cons, ← around, keys.key_nested member owned]
    exact Key.enclosing_nested simple.dollar_not_mem

/-- A key that continues another by a simple name is that of a type recorded with the other as its
owner. -/
theorem PlainKeys.memberAs_iff (keys : index.PlainKeys) {name : String}
    (simple : Key.IsSimple name) {outer : Key} {answer : OracleAnswer} :
    index.MemberAs name outer answer ↔ index.DeclaresMember name outer answer := by
  constructor
  · rintro ⟨known, rfl⟩
    obtain ⟨inner, member, key⟩ := contains_iff.1 known
    have called : inner.declaration.name = name := by
      rw [← keys.simpleName_key member, key, Key.simpleName_nested simple]
    cases owned : inner.owner with
    | none =>
      rw [keys.key_top member owned, called] at key
      exact absurd key (Key.make_top_ne_nested simple simple)
    | some owner =>
      obtain ⟨around, _, rfl, inside⟩ := keys.exists_owner member owned
      have same : around.key = outer := by
        rw [keys.key_nested member inside, called, String.append_left_inj,
          String.append_left_inj] at key
        exact key
      exact ⟨inner, mem_types_iff.2 member, same ▸ owned, called, key, by rw [key]⟩
  · rintro ⟨inner, listed, _, _, key, rfl⟩
    rw [key]
    exact ⟨key ▸ contains_iff.2 ⟨inner, mem_types_iff.1 listed, rfl⟩, rfl⟩

end Index

/-- A builder that ingests one unit ingests the corpus of that unit. -/
theorem IndexBuilder.FromUnits.unit {builder next : IndexBuilder} (earlier : builder.FromUnits)
    {unit : CompilationUnit} {accepted : List Key}
    (ingested : builder.ingestUnit unit = .ok (next, accepted)) : next.FromUnits := by
  have sorted : sortUnits [unit] = [unit] :=
    sortUnits_eq_of_sorted (List.Perm.refl _) (List.pairwise_singleton _ _)
  have alone : builder.index.acceptUnits [unit] = (builder.index.acceptUnit unit).1 := by
    rw [Index.acceptUnits, sorted]
    rfl
  refine @FromUnits.ingest builder next earlier [unit] ?_
  unfold ingestUnit at ingested
  unfold ingestUnits
  split at ingested
  · exact absurd ingested (by simp)
  · next unsealed =>
    rw [if_neg (by simpa using unsealed), alone]
    exact congrArg Except.ok (Prod.mk.inj (Except.ok.inj ingested)).1

/-- Over corpora of plainly named types in packages without a dollar sign, the import oracle asked
from within a declared type knows a simple name from the first place that has it: the innermost of
the recorded owners, the type itself included, with a member of that name; then single-type imports,
the same package, imports on demand and the platform. It declines exactly when none has it. The keys
left by cutting the key of the type are those of the owners. -/
theorem resolve_in_scope {builder next : IndexBuilder} {index : Index}
    (ingested : builder.FromUnits) (built : builder.build = .ok (next, index))
    (plain : ∀ declared ∈ index.types, declared.PlainlyNamed)
    (packages : ∀ declared ∈ index.types, '$' ∉ declared.package.toList)
    {declared : DeclaredType} (listed : declared ∈ index.types) :
    ∃ owners, index.OwnerChain declared owners ∧
      (∀ other, index.OwnerChain declared other → other = owners) ∧
      Key.enclosing declared.key = owners.map (·.key) ∧
      ∀ (imports : List String) (name : String) (arguments : List TypeUsage), Key.IsSimple name →
        let oracle := ImportOracle.ofIndex index
        let context : ResolutionContext :=
          { package := declared.package, owner := some declared.key, imports }
        let rules := index.scopeRules
          (FirstIn (index.DeclaresMember name) (owners.map (·.key))) declared.package imports name
        (∀ answer, oracle.resolve ⟨name, arguments⟩ context = some answer ↔
          FirstRule rules answer) ∧
        (oracle.resolve ⟨name, arguments⟩ context = none ↔
          ∀ rule ∈ rules, ∀ answer, ¬rule answer) := by
  have keys := ingested.plainKeys built plain
  have member := Index.mem_types_iff.1 listed
  obtain ⟨owners, chain⟩ := keys.recorded.exists_chain member
  have undollared : ∀ other ∈ index.entries, '$' ∉ other.package.toList := fun other entry =>
    packages other (Index.mem_types_iff.2 entry)
  have around := keys.enclosing_key undollared chain member
  refine ⟨owners, chain, fun other another => chain.unique another, around, ?_⟩
  intro imports name arguments simple oracle context rules
  have members : FirstIn (index.MemberAs name) (Key.enclosing (context.owner.getD "")) =
      FirstIn (index.DeclaresMember name) (owners.map (·.key)) := by
    rw [← around]
    funext answer
    exact propext (firstIn_congr fun _ _ _ => keys.memberAs_iff simple)
  have answers (answer : OracleAnswer) :
      oracle.resolve ⟨name, arguments⟩ context = some answer ↔ FirstRule rules answer := by
    rw [ImportOracle.resolve_undotted simple.dot_not_mem, ImportOracle.resolveSimple_eq_some_iff,
      members]
  exact ⟨answers, eq_none_iff_of_firstIn answers⟩

/-- From a type nested two deep the name of the type around it is found in the outermost one and not
in the import that ends in it, and an imported name is known though nothing declares it. -/
theorem resolve_in_scope_nested :
    let unit : CompilationUnit :=
      { package := "app"
        types := [{ name := "Outer", nestedTypes :=
          [{ name := "Node", nestedTypes := [{ name := "Leaf" }] }] }] }
    let index := (({} : Index).acceptUnit unit).1
    let oracle := ImportOracle.ofIndex index
    let context : ResolutionContext :=
      { package := "app", owner := some "app.Outer$Node$Leaf", imports := ["lib.Node", "lib.Item"] }
    Key.enclosing "app.Outer$Node$Leaf" = ["app.Outer$Node$Leaf", "app.Outer$Node", "app.Outer"] ∧
      oracle.resolve ⟨"Node", []⟩ context = some ⟨"app.Outer.Node", some "app.Outer$Node"⟩ ∧
      oracle.resolve ⟨"Item", []⟩ context = some ⟨"lib.Item", none⟩ := by
  intro unit index oracle context
  have ingested : IndexBuilder.FromUnits { index } := IndexBuilder.FromUnits.new.unit rfl
  have built : IndexBuilder.build { index } = .ok ({ index, sealed := true }, index) := rfl
  have names : ∀ declared ∈ index.types, declared.declaration.name ≠ "" ∧
      Key.IsSimple declared.declaration.name ∧ '$' ∉ declared.package.toList := by decide +kernel
  have leaf : ∃ declared ∈ index.types, declared.key = "app.Outer$Node$Leaf" ∧
      declared.package = "app" := by decide +kernel
  obtain ⟨declared, listed, key, package⟩ := leaf
  obtain ⟨owners, chain, _, around, rules⟩ := resolve_in_scope ingested built
    (fun declared member => ⟨(names declared member).1, (names declared member).2.1⟩)
    (fun declared member => (names declared member).2.2) listed
  rw [key, package] at rules
  rw [key] at around
  have keys : owners.map (·.key) = ["app.Outer$Node$Leaf", "app.Outer$Node", "app.Outer"] := by
    rw [← around]
    decide +kernel
  rw [keys] at rules
  have absent {name : String} {outer : Key}
      (missing : ¬∃ inner ∈ index.types, inner.owner = some outer ∧ inner.declaration.name = name) :
      ∀ answer, ¬index.DeclaresMember name outer answer := by
    rintro _ ⟨inner, member, owned, called, _⟩
    exact missing ⟨inner, member, owned, called⟩
  refine ⟨around.trans keys, ?_, ?_⟩
  · refine ((rules context.imports "Node" [] (by decide)).1 _).2 (firstIn_cons.2 (Or.inl ?_))
    rw [firstIn_cons_of_none (absent (by decide +kernel)),
      firstIn_cons_of_none (absent (by decide +kernel)), firstIn_cons, Index.DeclaresMember]
    exact Or.inl (by decide +kernel)
  · have single : onDemandPackage? "lib.Item" = none := by decide +kernel
    have unspelled : oracle.keyOfDotted? "lib.Item" = none := by decide +kernel
    have imported : index.ImportsAs "Item" "lib.Item" ⟨"lib.Item", none⟩ := by
      refine ⟨fun package same => ?_, by decide +kernel, rfl, fun key => ?_⟩
      · exact absurd (single.symm.trans (onDemandPackage?_eq_some_iff.2 same)) nofun
      · rw [← ImportOracle.keyOfDotted?_eq_some_iff]
        exact Iff.of_eq (congrArg (· = some key) unspelled.symm)
    refine ((rules context.imports "Item" [] (by decide)).1 _).2 ?_
    rw [FirstRule, Index.scopeRules, firstIn_cons_of_none, firstIn_cons]
    · exact Or.inl (firstIn_cons.2 (Or.inr ⟨fun _ given => absurd given.ends (by decide +kernel),
        firstIn_cons.2 (Or.inl imported)⟩))
    · intro answer given
      rw [firstIn_cons_of_none (absent (by decide +kernel)),
        firstIn_cons_of_none (absent (by decide +kernel)),
        firstIn_cons_of_none (absent (by decide +kernel))] at given
      exact not_firstIn_nil given

end ClassAtlas
