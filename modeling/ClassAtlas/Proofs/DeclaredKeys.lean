import ClassAtlas.Proofs.Ownership

/-!
# Keys and their parts

A key is cut at its last separator into what encloses the type and its simple name. Where the names
of types hold no separator this undoes how keys are made: the simple name of a key is the name of
the type, a key at the top of a package is the key of no nested type, and cutting a nested key at
its last dollar sign leaves the key of the owner. The source spelling of a key is never less than
the key, since a dollar sign comes before a dot.
-/
namespace ClassAtlas

namespace Text

variable {separates : Char → Bool}

/-- A text is cut at a separator that none stands behind. -/
theorem splitLast_append {before after : List Char} {separator : Char}
    (accepted : separates separator = true) (free : ∀ c ∈ after, separates c = false) :
    splitLast separates (before ++ separator :: after) = some (before, after) := by
  induction before with
  | nil =>
    rw [List.nil_append, splitLast, (splitLast_eq_none_iff separates after).2 free]
    simp [accepted]
  | cons c before ih => rw [List.cons_append, splitLast, ih]

/-- A text is first cut at a separator that none stands before. -/
theorem splitFirst_append {before after : List Char} {separator : Char}
    (accepted : separates separator = true) (free : ∀ c ∈ before, separates c = false) :
    splitFirst separates (before ++ separator :: after) = some (before, after) := by
  induction before with
  | nil => simp [splitFirst, accepted]
  | cons c before ih =>
    obtain ⟨here, later⟩ := List.forall_mem_cons.1 free
    rw [List.cons_append, splitFirst, ih later]
    simp [here]

/-- A text without a separator is not cut at a first one. -/
theorem splitFirst_eq_none_iff (separates : Char → Bool) (chars : List Char) :
    splitFirst separates chars = none ↔ ∀ c ∈ chars, separates c = false := by
  induction chars with
  | nil => simp [splitFirst]
  | cons c rest ih =>
    rw [splitFirst, List.forall_mem_cons, ← ih]
    by_cases here : separates c = true
    · simp [here]
    · simp [here]

/-- A text without a separator stands behind its last one as a whole. -/
theorem afterLast_of_free {text : String} (free : ∀ c ∈ text.toList, separates c = false) :
    afterLast separates text = text := by
  rw [afterLast, cutLast, (splitLast_eq_none_iff separates text.toList).2 free]
  rfl

/-- What stands behind a separator is all that stands behind the last one if it has none itself. -/
theorem afterLast_append {text after : String} {before : List Char} {separator : Char}
    (accepted : separates separator = true) (free : ∀ c ∈ after.toList, separates c = false)
    (parts : text.toList = before ++ separator :: after.toList) :
    afterLast separates text = after := by
  rw [afterLast, cutLast, parts, splitLast_append accepted free]
  exact String.ofList_toList

/-- What stands behind the last separator holds none. -/
theorem afterLast_free (text : String) :
    ∀ c ∈ (afterLast separates text).toList, separates c = false := by
  unfold afterLast cutLast
  cases cut : splitLast separates text.toList with
  | none => exact (splitLast_eq_none_iff separates text.toList).1 cut
  | some parts =>
    obtain ⟨_, _, _, free⟩ := splitLast_eq_some cut
    simpa using free

/-! ## Replaced characters -/

variable {old new : Char}

/-- Replacing a character that a text does not hold leaves the text. -/
theorem replaceChar_of_free {text : String} (free : old ∉ text.toList) :
    replaceChar old new text = text := by
  have same : ∀ c ∈ text.toList, (if c = old then new else c) = id c := by
    intro c member
    have other : c ≠ old := fun replaced => free (replaced ▸ member)
    exact if_neg other
  rw [replaceChar, List.map_congr_left same, List.map_id, String.ofList_toList]

/-- Replacing characters goes through a concatenation. -/
theorem replaceChar_append (left right : String) :
    replaceChar old new (left ++ right) =
      replaceChar old new left ++ replaceChar old new right := by
  simp only [replaceChar, String.toList_append, List.map_append, String.ofList_append]

/-- Replacing a character by a greater one makes a list of characters greater. -/
theorem lt_map_replace (greater : old < new) {chars : List Char}
    (changed : chars.map (fun c => if c = old then new else c) ≠ chars) :
    chars < chars.map (fun c => if c = old then new else c) := by
  induction chars with
  | nil => exact absurd rfl changed
  | cons c rest ih =>
    rw [List.map_cons] at changed ⊢
    rw [List.cons_lt_cons_iff]
    by_cases replaced : c = old
    · rw [if_pos replaced, replaced]
      exact Or.inl greater
    · rw [if_neg replaced] at changed ⊢
      exact Or.inr ⟨rfl, ih fun same => changed (congrArg (c :: ·) same)⟩

end Text

namespace Key

/-- Whether a text holds no separator. -/
def IsSimple (name : String) : Prop := ∀ c ∈ name.toList, isSeparator c = false

instance (name : String) : Decidable (IsSimple name) :=
  List.decidableBAll (fun c => isSeparator c = false) name.toList

variable {key outer : Key} {name package : String}

/-- A simple name holds no dot. -/
theorem IsSimple.dot_not_mem (simple : IsSimple name) : '.' ∉ name.toList :=
  fun member => absurd (simple '.' member) (by decide)

/-- A simple name holds no dollar sign. -/
theorem IsSimple.dollar_not_mem (simple : IsSimple name) : '$' ∉ name.toList :=
  fun member => absurd (simple '$' member) (by decide)

/-! ## Making a key and cutting it -/

/-- The key of a name in an owner that has a key of its own. -/
theorem make_nested (named : outer ≠ "") :
    make name package (some outer) = outer ++ "$" ++ name := by
  rw [make, if_neg (by simpa using named)]

/-- The key of a name in the default package. -/
theorem make_default : make name "" none = name := rfl

/-- The key of a name in a named package. -/
theorem make_packaged (named : package ≠ "") : make name package none = package ++ "." ++ name := by
  rw [make, make.inPackage, if_neg (by simpa using named)]

/-- The characters of a nested key. -/
theorem toList_nested (outer name : String) :
    (outer ++ "$" ++ name).toList = outer.toList ++ '$' :: name.toList := by
  simp

/-- The characters of a key in a named package. -/
theorem toList_packaged (package name : String) :
    (package ++ "." ++ name).toList = package.toList ++ '.' :: name.toList := by
  simp

/-- The simple name of a key is simple. -/
theorem isSimple_simpleName (key : Key) : IsSimple key.simpleName := Text.afterLast_free key

/-- A simple name is its own simple name. -/
theorem simpleName_of_isSimple (simple : IsSimple name) : simpleName name = name :=
  Text.afterLast_of_free simple

/-- The simple name of a nested key is the name it is made of. -/
theorem simpleName_nested (simple : IsSimple name) : simpleName (outer ++ "$" ++ name) = name :=
  Text.afterLast_append (by decide) simple (toList_nested outer name)

/-- The simple name of a key at the top of a package is the name it is made of. -/
theorem simpleName_top (simple : IsSimple name) : simpleName (make name package none) = name := by
  by_cases unnamed : package = ""
  · rw [unnamed, make_default]
    exact simpleName_of_isSimple simple
  · rw [make_packaged unnamed]
    exact Text.afterLast_append (by decide) simple (toList_packaged package name)

/-- A key at the top of a package holds a dollar sign only if the package does. -/
theorem dollar_not_mem_top (simple : IsSimple name) (free : '$' ∉ package.toList) :
    '$' ∉ (make name package none).toList := by
  by_cases unnamed : package = ""
  · rw [unnamed, make_default]
    exact simple.dollar_not_mem
  · rw [make_packaged unnamed, toList_packaged]
    simpa [simple.dollar_not_mem] using free

/-- A key at the top of a package tells the package and the name. -/
theorem make_top_injective {other home : String} (simple : IsSimple name) (plain : IsSimple other)
    (same : make name package none = make other home none) : name = other ∧ package = home := by
  have names : name = other := by
    rw [← simpleName_top simple, same, simpleName_top plain]
  subst names
  refine ⟨rfl, ?_⟩
  have longer (front : String) : front ++ "." ++ name ≠ name := by
    intro shrunk
    have lengths := congrArg String.length shrunk
    have separator : ".".length = 1 := rfl
    simp only [String.length_append] at lengths
    omega
  by_cases unnamed : package = "" <;> by_cases nameless : home = ""
  · rw [unnamed, nameless]
  · rw [unnamed, make_default, make_packaged nameless] at same
    exact absurd same.symm (longer home)
  · rw [nameless, make_default, make_packaged unnamed] at same
    exact absurd same (longer package)
  · rw [make_packaged unnamed, make_packaged nameless, String.append_left_inj,
      String.append_left_inj] at same
    exact same

/-- A key at the top of a package is not that of a nested type. -/
theorem make_top_ne_nested {other : String} (simple : IsSimple name) (plain : IsSimple other) :
    make name package none ≠ outer ++ "$" ++ other := by
  intro same
  have names : name = other := by
    rw [← simpleName_top simple, same, simpleName_nested plain]
  subst names
  by_cases unnamed : package = ""
  · rw [unnamed, make_default] at same
    have inside : '$' ∈ name.toList := by
      rw [same, toList_nested]
      simp
    exact simple.dollar_not_mem inside
  · have chars := congrArg String.toList same
    rw [make_packaged unnamed, toList_packaged, toList_nested] at chars
    have ends : '.' :: name.toList = '$' :: name.toList :=
      List.append_inj_right' chars (by rw [List.length_cons, List.length_cons])
    exact absurd (List.cons.inj ends).1 (by decide)

/-! ## The keys around a key -/

/-- Without a dollar sign nothing is dropped. -/
theorem outerParts_of_free {chars : List Char} (free : '$' ∉ chars) : outerParts chars = [] := by
  induction chars with
  | nil => rfl
  | cons c rest ih =>
    obtain ⟨here, later⟩ := not_or.1 (fun found => free (List.mem_cons.2 found))
    rw [outerParts, if_neg (Ne.symm here), ih later]

/-- A first dollar sign drops what stands before it. -/
theorem outerParts_append {before after : List Char} (free : '$' ∉ before) :
    outerParts (before ++ '$' :: after) = after :: outerParts after := by
  induction before with
  | nil => rw [List.nil_append, outerParts, if_pos rfl]
  | cons c before ih =>
    obtain ⟨here, later⟩ := not_or.1 (fun found => free (List.mem_cons.2 found))
    rw [List.cons_append, outerParts, if_neg (Ne.symm here), ih later]

/-- Around a key without a dollar sign there is only itself. -/
theorem enclosing_of_free (free : '$' ∉ key.toList) (named : key ≠ "") : enclosing key = [key] := by
  have parts : outerParts key.toList.reverse = [] :=
    outerParts_of_free fun member => free (List.mem_reverse.1 member)
  have chars : key.toList.reverse.isEmpty = false := by simpa using named
  simp [enclosing, parts, chars]

/-- Around a nested key there is what is around the key of its owner. -/
theorem enclosing_nested (free : '$' ∉ name.toList) :
    enclosing (outer ++ "$" ++ name) = (outer ++ "$" ++ name) :: enclosing outer := by
  have backwards : (outer ++ "$" ++ name).toList.reverse =
      name.toList.reverse ++ '$' :: outer.toList.reverse := by simp
  have parts : outerParts (outer ++ "$" ++ name).toList.reverse =
      outer.toList.reverse :: outerParts outer.toList.reverse := by
    rw [backwards]
    exact outerParts_append fun member => free (List.mem_reverse.1 member)
  have chars : (outer ++ "$" ++ name).toList.reverse.isEmpty = false := by simp
  rw [enclosing, parts, List.filter_cons_of_pos (by rw [chars]; rfl), List.map_cons,
    List.reverse_reverse, String.ofList_toList]
  rfl

/-! ## Source spellings -/

/-- A key without a dollar sign is spelled as it is. -/
theorem dotted_of_free (free : '$' ∉ key.toList) : dotted key = key := Text.replaceChar_of_free free

/-- No source spelling holds a dollar sign. -/
theorem dollar_not_mem_dotted (key : Key) : '$' ∉ (dotted key).toList := by
  intro member
  rw [dotted, Text.replaceChar, String.toList_ofList] at member
  obtain ⟨c, _, replaced⟩ := List.mem_map.1 member
  split at replaced
  · exact absurd replaced (by decide)
  · next other => exact other replaced

/-- A key is its source spelling or less: a dollar sign comes before a dot. -/
theorem lt_dotted (differs : dotted key ≠ key) : key < dotted key := by
  rw [String.lt_iff, dotted, Text.replaceChar, String.toList_ofList]
  refine Text.lt_map_replace (by decide) fun same => differs ?_
  rw [dotted, Text.replaceChar, same, String.ofList_toList]

end Key

/-! ## The keys of an index -/

/-- Whether a declared type has a name, and one without a separator. -/
structure DeclaredType.PlainlyNamed (declared : DeclaredType) : Prop where
  named : declared.declaration.name ≠ ""
  simple : Key.IsSimple declared.declaration.name

namespace Index

/-- Whether every entry has the key that its name gets in its owner, or else in its package. -/
def MakesKeys (index : Index) : Prop :=
  ∀ declared ∈ index.entries,
    declared.key = Key.make declared.declaration.name declared.package declared.owner

variable {index : Index}

/-- An index without entries makes every key. -/
theorem makesKeys_empty (diagnostics : List Diagnostic) : ({ diagnostics } : Index).MakesKeys :=
  fun _ member => absurd member List.not_mem_nil

/-- Ingesting a corpus keeps making every key. -/
theorem MakesKeys.acceptUnits (made : index.MakesKeys) (units : List CompilationUnit) :
    (index.acceptUnits units).MakesKeys := by
  intro declared member
  rw [(index.acceptUnits_follows units).entries] at member
  rcases List.mem_append.1 member with early | late
  · exact made declared early
  · rcases Visit.origin_walkUnits index.taken (sortUnits units) declared late with
      ⟨unit, _, top, _, rfl⟩ | ⟨outer, _, nested⟩
    · rfl
    · rw [nested.key, nested.owner, nested.package]

/-- What is known of the keys of an index that is built from corpora of plainly named types. -/
structure PlainKeys (index : Index) : Prop where
  /-- Every key is made of its parts. -/
  made : index.MakesKeys
  /-- Every owner is recorded. -/
  recorded : index.RecordsOwners
  /-- Every type is plainly named. -/
  plain : ∀ declared ∈ index.entries, declared.PlainlyNamed

namespace PlainKeys

variable {declared inner outer : DeclaredType}

/-- No key is empty. -/
theorem key_ne_empty (keys : index.PlainKeys) (member : declared ∈ index.entries) :
    declared.key ≠ "" := by
  intro empty
  have made := keys.made declared member
  rw [empty] at made
  have named := (keys.plain declared member).named
  unfold Key.make Key.make.inPackage at made
  split at made
  · split at made
    · split at made
      · exact named made.symm
      · simp at made
    · simp at made
  · split at made
    · exact named made.symm
    · simp at made

/-- The key of a type without an owner stands at the top of its package. -/
theorem key_top (keys : index.PlainKeys) (member : declared ∈ index.entries)
    (free : declared.owner = none) :
    declared.key = Key.make declared.declaration.name declared.package none := by
  rw [← free]
  exact keys.made declared member

/-- The key of a type with an owner continues the owner's. -/
theorem key_nested (keys : index.PlainKeys) (member : inner ∈ index.entries)
    (owned : index.OwnedBy inner outer) :
    inner.key = outer.key ++ "$" ++ inner.declaration.name := by
  obtain ⟨owner, named, found⟩ := owned
  obtain ⟨known, rfl⟩ := get?_eq_some_iff.1 found
  rw [keys.made inner member, named, Key.make_nested (keys.key_ne_empty known)]

/-- An entry with an owner is owned by an entry. -/
theorem exists_owner (keys : index.PlainKeys) (member : inner ∈ index.entries) {owner : Key}
    (owned : inner.owner = some owner) :
    ∃ outer ∈ index.entries, outer.key = owner ∧ index.OwnedBy inner outer := by
  obtain ⟨outer, found, _⟩ := keys.recorded inner member owner owned
  obtain ⟨known, key⟩ := get?_eq_some_iff.1 found
  exact ⟨outer, known, key, owner, owned, found⟩

/-- The simple name of a key is the name of its type. -/
theorem simpleName_key (keys : index.PlainKeys) (member : declared ∈ index.entries) :
    Key.simpleName declared.key = declared.declaration.name := by
  have simple := (keys.plain declared member).simple
  cases owned : declared.owner with
  | none =>
    rw [keys.key_top member owned]
    exact Key.simpleName_top simple
  | some owner =>
    obtain ⟨outer, _, _, inside⟩ := keys.exists_owner member owned
    rw [keys.key_nested member inside]
    exact Key.simpleName_nested simple

/-- The key of a simple name at the top of a package is only that of the type declared there. -/
theorem top_of_key (keys : index.PlainKeys) (member : declared ∈ index.entries)
    {name package : String} (simple : Key.IsSimple name)
    (key : declared.key = Key.make name package none) :
    declared.owner = none ∧ declared.package = package ∧ declared.declaration.name = name := by
  have plain := (keys.plain declared member).simple
  cases owned : declared.owner with
  | none =>
    rw [keys.key_top member owned] at key
    obtain ⟨names, packages⟩ := Key.make_top_injective plain simple key
    exact ⟨rfl, packages, names⟩
  | some owner =>
    obtain ⟨outer, _, _, inside⟩ := keys.exists_owner member owned
    rw [keys.key_nested member inside] at key
    exact absurd key.symm (Key.make_top_ne_nested simple plain)

end PlainKeys

end Index

/-- A builder that ingests whole corpora makes every key. -/
theorem IndexBuilder.FromUnits.makesKeys {builder : IndexBuilder} (ingested : builder.FromUnits) :
    builder.index.MakesKeys := by
  induction ingested with
  | new => exact Index.makesKeys_empty []
  | report _ _ earlier => exact earlier
  | ingest _ ingested earlier =>
    rw [index_of_ingestUnits ingested]
    exact earlier.acceptUnits _

/-- The keys of an index that is built from corpora are plain if its types are plainly named. -/
theorem IndexBuilder.FromUnits.plainKeys {builder next : IndexBuilder} {index : Index}
    (ingested : builder.FromUnits) (built : builder.build = .ok (next, index))
    (plain : ∀ declared ∈ index.types, declared.PlainlyNamed) : index.PlainKeys := by
  obtain rfl := index_of_build built
  exact ⟨ingested.makesKeys, ingested.recordsOwners,
    fun declared member => plain declared (Index.mem_types_iff.2 member)⟩

end ClassAtlas
