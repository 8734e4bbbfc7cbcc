import ClassAtlas.Proofs.DeclaredKeys
import ClassAtlas.Resolution.Resolver

/-!
# Resolution by spelling

Where no oracle answers, a name is resolved by three look-ups, and the first that finds a key
decides. They see the declared keys and nothing else of an index, so indexes with the same keys
resolve every name alike. Where types are plainly named, a type at the top of a package is found by
its name from there, and a name that several types share is found from no other package.
-/
namespace ClassAtlas

/-! ## The first of several -/

section First

variable {α β : Type} {gives : α → β → Prop} {value : α} {values : List α} {result : β}

/-- Whether a result is given by the first value of a list that gives any. -/
def FirstIn (gives : α → β → Prop) (values : List α) (result : β) : Prop :=
  ∃ before value after, values = before ++ value :: after ∧ gives value result ∧
    ∀ earlier ∈ before, ∀ other, ¬gives earlier other

/-- Whether a result is that of the first rule of a list that has any. -/
def FirstRule (rules : List (β → Prop)) (result : β) : Prop :=
  FirstIn (fun rule result => rule result) rules result

/-- No value gives no result. -/
theorem not_firstIn_nil : ¬FirstIn gives [] result := by
  rintro ⟨before, value, after, parts, _⟩
  exact absurd parts.symm (by simp)

/-- The first value gives the result, or it gives none and a later one does. -/
theorem firstIn_cons :
    FirstIn gives (value :: values) result ↔
      gives value result ∨ (∀ other, ¬gives value other) ∧ FirstIn gives values result := by
  constructor
  · rintro ⟨before, first, after, parts, given, skipped⟩
    cases before with
    | nil =>
      obtain ⟨rfl, rfl⟩ := List.cons.inj parts
      exact Or.inl given
    | cons _ before =>
      obtain ⟨rfl, rfl⟩ := List.cons.inj parts
      obtain ⟨here, later⟩ := List.forall_mem_cons.1 skipped
      exact Or.inr ⟨here, before, first, after, rfl, given, later⟩
  · rintro (given | ⟨here, before, first, after, rfl, given, later⟩)
    · exact ⟨[], value, values, rfl, given, List.forall_mem_nil _⟩
    · exact ⟨value :: before, first, after, rfl, given, List.forall_mem_cons.2 ⟨here, later⟩⟩

/-- A value that gives nothing is passed over. -/
theorem firstIn_cons_of_none (none : ∀ other, ¬gives value other) :
    FirstIn gives (value :: values) result ↔ FirstIn gives values result := by
  rw [firstIn_cons]
  exact ⟨fun found => (found.resolve_left (none result)).2, fun later => Or.inr ⟨none, later⟩⟩

/-- A value that gives one result is not passed over. -/
theorem firstIn_cons_of_only {only : β} (given : ∀ other, gives value other ↔ other = only) :
    FirstIn gives (value :: values) result ↔ result = only := by
  rw [firstIn_cons, given]
  refine ⟨fun found => found.resolve_right fun passed => ?_, Or.inl⟩
  exact passed.1 only ((given only).2 rfl)

/-- There is a first result exactly when there is any. -/
theorem exists_firstIn_iff :
    (∃ result, FirstIn gives values result) ↔ ∃ value ∈ values, ∃ result, gives value result := by
  constructor
  · rintro ⟨result, before, value, after, rfl, given, _⟩
    exact ⟨value, by simp, result, given⟩
  · rintro ⟨value, member, given⟩
    induction values with
    | nil => exact absurd member List.not_mem_nil
    | cons first rest ih =>
      by_cases here : ∃ result, gives first result
      · obtain ⟨result, found⟩ := here
        exact ⟨result, firstIn_cons.2 (Or.inl found)⟩
      · have none : ∀ other, ¬gives first other := not_exists.1 here
        rcases List.mem_cons.1 member with rfl | later
        · exact absurd given here
        · obtain ⟨result, found⟩ := ih later
          exact ⟨result, firstIn_cons.2 (Or.inr ⟨none, found⟩)⟩

/-- A search for the first result finds nothing exactly when there is none. -/
theorem eq_none_iff_of_firstIn {found : Option β}
    (finds : ∀ result, found = some result ↔ FirstIn gives values result) :
    found = none ↔ ∀ value ∈ values, ∀ result, ¬gives value result := by
  rw [Option.eq_none_iff_forall_ne_some]
  simp only [Ne, finds]
  rw [← not_exists, exists_firstIn_iff]
  simp only [not_exists, not_and]

/-- Only what the values of the list give matters. -/
theorem firstIn_congr {other : α → β → Prop}
    (same : ∀ value ∈ values, ∀ result, gives value result ↔ other value result) :
    FirstIn gives values result ↔ FirstIn other values result := by
  induction values with
  | nil => exact iff_of_false not_firstIn_nil not_firstIn_nil
  | cons value values ih =>
    obtain ⟨here, later⟩ := List.forall_mem_cons.1 same
    rw [firstIn_cons, firstIn_cons, here, ih later]
    simp only [here]

/-- A search for the first value that has a result finds the first result. -/
theorem findSome?_eq_some_iff_firstIn {find : α → Option β} :
    values.findSome? find = some result ↔
      FirstIn (fun value result => find value = some result) values result := by
  rw [List.findSome?_eq_some_iff]
  simp only [FirstIn, Option.eq_none_iff_forall_ne_some]

/-- A search for the first value that passes a test finds the result of that value. -/
theorem map_find?_eq_some_iff_firstIn {test : α → Bool} {make : α → β} :
    (values.find? test).map make = some result ↔
      FirstIn (fun value result => test value = true ∧ result = make value) values result := by
  induction values with
  | nil => exact iff_of_false nofun not_firstIn_nil
  | cons value values ih =>
    rw [List.find?_cons]
    split
    · next passed =>
      rw [firstIn_cons_of_only fun other => and_iff_right passed, Option.map_some, Option.some_inj,
        eq_comm]
    · next failed =>
      rw [ih, firstIn_cons_of_none]
      exact fun other given => Bool.false_ne_true (failed.symm.trans given.1)

/-- Where one search fails and another is made, the first result is that of the first rule. -/
theorem orElse_eq_some_iff_firstRule {first rest : Option β} {rule : β → Prop}
    {rules : List (β → Prop)} (here : ∀ result, first = some result ↔ rule result)
    (later : ∀ result, rest = some result ↔ FirstRule rules result) (result : β) :
    (first <|> rest) = some result ↔ FirstRule (rule :: rules) result := by
  rw [Option.orElse_eq_some, FirstRule, firstIn_cons, here, later,
    Option.eq_none_iff_forall_ne_some]
  simp only [Ne, here]
  rfl

end First

/-! ## The look-ups -/

namespace Index

/-- Whether a key is the only declared one with a simple name. -/
structure OnlyNamed (index : Index) (name : String) (key : Key) : Prop where
  declared : index.contains key = true
  named : key.simpleName = name
  only : ∀ other, index.contains other = true → other.simpleName = name → other = key

/-- How a name used in a package is resolved by its spelling: a dotted name as a key; the key of
its last part in the same package; the only key with its last part. -/
def textRules (index : Index) (name package : String) : List (Key → Prop) :=
  let simple := Key.simpleName name
  let neighbour := Key.make simple package none
  [fun key => '.' ∈ name.toList ∧ index.contains name = true ∧ key = name,
    fun key => index.contains neighbour = true ∧ key = neighbour,
    index.OnlyNamed simple]

variable {index : Index}

/-- The keys listed for a simple name are the declared ones that have it. -/
theorem mem_keysNamed {name : String} {key : Key} :
    key ∈ index.keysNamed name ↔ index.contains key = true ∧ key.simpleName = name := by
  rw [keysNamed, List.mem_filter, List.mem_map, ← contains_iff, beq_iff_eq]

/-- A simple name leads to a key exactly when no other has it. -/
theorem uniqueKey?_eq_some_iff {name : String} {key : Key} :
    index.uniqueKey? name = some key ↔ index.OnlyNamed name key := by
  have distinct : (index.keysNamed name).Nodup := index.distinct.filter _
  have listed {key : Key} := @mem_keysNamed index name key
  unfold uniqueKey?
  split
  · next only keys =>
    rw [keys] at listed
    simp only [List.mem_singleton] at listed
    rw [Option.some_inj]
    constructor
    · rintro rfl
      obtain ⟨declared, named⟩ := listed.1 rfl
      exact ⟨declared, named, fun other known alike => listed.2 ⟨known, alike⟩⟩
    · intro alone
      exact (listed.2 ⟨alone.declared, alone.named⟩).symm
  · next several =>
    refine ⟨fun found => absurd found (Option.some_ne_none key).symm, fun alone => ?_⟩
    have each : ∀ other ∈ index.keysNamed name, other = key := fun other member =>
      alone.only other (listed.1 member).1 (listed.1 member).2
    have member := listed.2 ⟨alone.declared, alone.named⟩
    have single : index.keysNamed name = [key] :=
      List.perm_singleton.1 ((List.perm_ext_iff_of_nodup distinct (List.nodup_singleton key)).2
        fun other => ⟨fun here => List.mem_singleton.2 (each other here),
          fun here => List.mem_singleton.1 here ▸ member⟩)
    exact absurd single (several key)

/-- The look-ups by spelling see the declared keys and nothing else. -/
theorem textRules_congr {other : Index}
    (same : ∀ key, index.contains key = other.contains key) (name package : String) :
    index.textRules name package = other.textRules name package := by
  have alone (simple : String) : index.OnlyNamed simple = other.OnlyNamed simple := by
    funext key
    refine propext ⟨fun given => ?_, fun given => ?_⟩
    · exact ⟨same key ▸ given.declared, given.named, fun rival known =>
        given.only rival (same rival ▸ known)⟩
    · exact ⟨same key ▸ given.declared, given.named, fun rival known =>
        given.only rival (same rival ▸ known)⟩
  simp only [textRules, same, alone]

end Index

namespace Resolver

/-- Whether a resolver gets no answer to a class type: it has no oracle, or the oracle declines or
fails. -/
def Silent (resolver : Resolver) (usage : ClassUsage) (context : ResolutionContext) : Prop :=
  resolver.oracle = none ∨
    ∃ oracle, resolver.oracle = some oracle ∧
      (oracle usage context = .ok none ∨ ∃ message, oracle usage context = .error message)

variable {resolver : Resolver} {usage : ClassUsage} {context : ResolutionContext}

/-- Without an answer a class type is resolved by its spelling. -/
theorem Silent.resolve_eq (silent : resolver.Silent usage context) :
    resolver.resolve usage context = resolveText resolver.index usage.name context.package := by
  have unknown : resolver.ask usage context = none := by
    unfold ask
    rcases silent with absent | ⟨oracle, present, declined | ⟨message, failed⟩⟩
    · rw [absent]
    · simp only [present, declined]
    · simp only [present, failed]
  rw [resolve, unknown]

/-- A spelling is resolved to a key exactly when the first look-up that finds one finds it. -/
theorem resolveText_eq_declared_iff {index : Index} {name package : String} {key : Key} :
    resolveText index name package = .declared key ↔
      FirstRule (index.textRules name package) key := by
  simp only [FirstRule, Index.textRules, resolveText]
  split
  · next exact =>
    rw [Bool.and_eq_true, List.contains_iff_mem] at exact
    rw [TypeRef.declared.injEq, eq_comm]
    exact (firstIn_cons_of_only fun other => by simp [exact.1, exact.2]).symm
  · next inexact =>
    rw [Bool.and_eq_true, List.contains_iff_mem] at inexact
    rw [firstIn_cons_of_none fun other given => inexact ⟨given.1, given.2.1⟩]
    split
    · next known =>
      rw [TypeRef.declared.injEq, eq_comm]
      exact (firstIn_cons_of_only fun other => by simp [known]).symm
    · next absent =>
      rw [firstIn_cons_of_none fun other given => absent given.1, firstIn_cons,
        ← Index.uniqueKey?_eq_some_iff]
      split
      · next only found => simp [found, not_firstIn_nil]
      · next missing => simp [missing, not_firstIn_nil]

/-- A spelling that no look-up finds a key for stays as it is. -/
theorem resolveText_eq_unresolved {index : Index} {name package : String}
    (missed : ∀ key, ¬FirstRule (index.textRules name package) key) :
    resolveText index name package = .unresolved name := by
  have either : (∃ key, resolveText index name package = .declared key) ∨
      resolveText index name package = .unresolved name := by
    simp only [resolveText]
    split
    · exact Or.inl ⟨_, rfl⟩
    · split
      · exact Or.inl ⟨_, rfl⟩
      · split
        · exact Or.inl ⟨_, rfl⟩
        · exact Or.inr rfl
  refine either.resolve_left ?_
  rintro ⟨key, found⟩
  exact missed key (resolveText_eq_declared_iff.1 found)

/-- Indexes with the same keys resolve every spelling alike. -/
theorem resolveText_congr {index other : Index}
    (same : ∀ key, index.contains key = other.contains key) (name package : String) :
    resolveText index name package = resolveText other name package := by
  have rules := Index.textRules_congr same name package
  by_cases found : ∃ key, FirstRule (index.textRules name package) key
  · obtain ⟨key, first⟩ := found
    rw [resolveText_eq_declared_iff.2 first, resolveText_eq_declared_iff.2 (rules ▸ first)]
  · have missed := not_exists.1 found
    rw [resolveText_eq_unresolved missed, resolveText_eq_unresolved (rules ▸ missed)]

/-- A dotted name that is a key is found as such. -/
theorem resolveText_exact {index : Index} {key : Key} (dotted : '.' ∈ key.toList)
    (known : index.contains key = true) (package : String) :
    resolveText index key package = .declared key := by
  rw [resolveText_eq_declared_iff, FirstRule, Index.textRules]
  exact (firstIn_cons_of_only fun other => by simp [dotted, known]).2 rfl

/-- A simple name is found at the top of its package. -/
theorem resolveText_neighbour {index : Index} {name package : String} (simple : Key.IsSimple name)
    (known : index.contains (Key.make name package none) = true) :
    resolveText index name package = .declared (Key.make name package none) := by
  rw [resolveText_eq_declared_iff, FirstRule, Index.textRules, Key.simpleName_of_isSimple simple,
    firstIn_cons_of_none fun other given => simple.dot_not_mem given.1]
  exact (firstIn_cons_of_only fun other => by simp [known]).2 rfl

/-- A plainly named type at the top of a package is found by its name from there. -/
theorem resolveText_top {index : Index} (keys : index.PlainKeys) {declared : DeclaredType}
    (member : declared ∈ index.entries) (free : declared.owner = none) :
    resolveText index declared.declaration.name declared.package = .declared declared.key := by
  have known : index.contains declared.key = true := Index.contains_iff.2 ⟨declared, member, rfl⟩
  rw [keys.key_top member free] at known ⊢
  exact resolveText_neighbour (keys.plain declared member).simple known

/-- A simple name that several plainly named types share is found from no package without one at
its top. -/
theorem resolveText_shared {index : Index} (keys : index.PlainKeys) {name package : String}
    {one other : Key} (first : index.contains one = true) (second : index.contains other = true)
    (apart : one ≠ other) (named : one.simpleName = name) (alike : other.simpleName = name)
    (absent : ∀ declared ∈ index.entries, declared.owner = none → declared.package = package →
      declared.declaration.name ≠ name) :
    resolveText index name package = .unresolved name := by
  have simple : Key.IsSimple name := named ▸ Key.isSimple_simpleName one
  refine resolveText_eq_unresolved fun key => ?_
  rw [FirstRule, Index.textRules, Key.simpleName_of_isSimple simple,
    firstIn_cons_of_none fun other given => simple.dot_not_mem given.1,
    firstIn_cons_of_none, firstIn_cons_of_none]
  · exact not_firstIn_nil
  · intro only alone
    exact apart ((alone.only one first named).trans (alone.only other second alike).symm)
  · rintro _ ⟨known, _⟩
    obtain ⟨declared, member, key⟩ := Index.contains_iff.1 known
    obtain ⟨free, placed, called⟩ := keys.top_of_key member simple key
    exact absent declared member free placed called

/-- A resolver without an answer resolves a class type by the first look-up by spelling that finds
a key, and leaves it unresolved as written where none does. So resolvers over the same keys agree.
Over corpora of plainly named types, the key of a type at the top of a package is found by the
type's name from there, and a simple name of several keys is found from no package without a type of
that name at its top. -/
theorem resolve_by_spelling :
    (∀ (resolver : Resolver) (usage : ClassUsage) (context : ResolutionContext),
      resolver.Silent usage context →
        let rules := resolver.index.textRules usage.name context.package
        (∀ key, resolver.resolve usage context = .declared key ↔ FirstRule rules key) ∧
          ((∀ key, ¬FirstRule rules key) →
            resolver.resolve usage context = .unresolved usage.name)) ∧
    (∀ (one other : Resolver) (usage : ClassUsage) (context : ResolutionContext),
      one.Silent usage context → other.Silent usage context →
        (∀ key, one.index.contains key = other.index.contains key) →
          one.resolve usage context = other.resolve usage context) ∧
    ∀ (builder next : IndexBuilder) (resolver : Resolver), builder.FromUnits →
      builder.build = .ok (next, resolver.index) →
      (∀ declared ∈ resolver.index.types, declared.PlainlyNamed) →
      ∀ (usage : ClassUsage) (context : ResolutionContext), resolver.Silent usage context →
        (∀ declared ∈ resolver.index.types, declared.owner = none →
          declared.declaration.name = usage.name → declared.package = context.package →
            resolver.resolve usage context = .declared declared.key) ∧
        ∀ one other, resolver.index.contains one = true → resolver.index.contains other = true →
          one ≠ other → Key.simpleName one = usage.name → Key.simpleName other = usage.name →
          (∀ declared ∈ resolver.index.types, declared.owner = none →
            declared.package = context.package → declared.declaration.name ≠ usage.name) →
              resolver.resolve usage context = .unresolved usage.name := by
  refine ⟨?rules, ?keys, ?plain⟩
  case rules =>
    intro resolver usage context silent rules
    rw [silent.resolve_eq]
    exact ⟨fun _ => resolveText_eq_declared_iff, resolveText_eq_unresolved⟩
  case keys =>
    intro one other usage context first second same
    rw [first.resolve_eq, second.resolve_eq]
    exact resolveText_congr same usage.name context.package
  case plain =>
    intro builder next resolver ingested built plain usage context silent
    have keys := ingested.plainKeys built plain
    rw [silent.resolve_eq]
    constructor
    · intro declared listed free named placed
      rw [← named, ← placed]
      exact resolveText_top keys (Index.mem_types_iff.1 listed) free
    · intro one other first second apart named alike absent
      refine resolveText_shared keys first second apart named alike ?_
      exact fun declared member => absent declared (Index.mem_types_iff.2 member)

/-- Two nested types are called `Item`: from their own package the name is not resolved where the
oracle fails, while the types around them are found. -/
theorem resolve_by_spelling_shared :
    let unit : CompilationUnit :=
      { package := "p"
        types := [{ name := "A", nestedTypes := [{ name := "Item" }] },
          { name := "B", nestedTypes := [{ name := "Item" }] }] }
    let index := ({} : Index).acceptUnits [unit]
    let resolver : Resolver := { index, oracle := some fun _ _ => .error "out of reach" }
    let context : ResolutionContext := { package := "p" }
    index.keys = ["p.A", "p.A$Item", "p.B", "p.B$Item"] ∧
      resolver.resolve ⟨"B", []⟩ context = .declared "p.B" ∧
      resolver.resolve ⟨"Item", []⟩ context = .unresolved "Item" := by
  intro unit index resolver context
  have ingested : IndexBuilder.FromUnits { index } :=
    @IndexBuilder.FromUnits.ingest {} { index } .new [unit] rfl
  have built : IndexBuilder.build { index } = .ok ({ index, sealed := true }, index) := rfl
  have names : ∀ declared ∈ index.types,
      declared.declaration.name ≠ "" ∧ Key.IsSimple declared.declaration.name := by decide +kernel
  have plain : ∀ declared ∈ index.types, declared.PlainlyNamed := fun declared listed =>
    ⟨(names declared listed).1, (names declared listed).2⟩
  have silent (usage : ClassUsage) : resolver.Silent usage context :=
    Or.inr ⟨_, rfl, Or.inr ⟨_, rfl⟩⟩
  have corpus (usage : ClassUsage) :=
    resolve_by_spelling.2.2 { index } _ resolver ingested built plain usage context (silent usage)
  refine ⟨by decide +kernel, ?_, ?_⟩
  · have top : ∃ declared ∈ index.types, declared.owner = none ∧ declared.declaration.name = "B" ∧
        declared.package = "p" ∧ declared.key = "p.B" := by decide +kernel
    obtain ⟨declared, listed, free, named, placed, key⟩ := top
    rw [← key]
    exact (corpus ⟨"B", []⟩).1 declared listed free named placed
  · refine (corpus ⟨"Item", []⟩).2 "p.A$Item" "p.B$Item" ?_ ?_ ?_ ?_ ?_ ?_
    all_goals decide +kernel

end Resolver

end ClassAtlas
