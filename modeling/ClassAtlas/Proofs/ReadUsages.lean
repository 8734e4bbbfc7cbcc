import ClassAtlas.Java.Binding
import ClassAtlas.Java.Grammar.SourceFile
import ClassAtlas.Proofs.ReaderRuns
import ClassAtlas.Proofs.SpelledUsages

/-!
# Reading the tokens of a usage

The tokens of a usage that can be written are read as a type that is bound to that usage where no
type variable is in scope, whatever stands behind it that does not go on with a type. The grammar
reads an inner type with the readers of one level less; as every inner type takes fewer tokens than
the type around it, as many levels as there are tokens are enough.

The dimensions of an array are no part of the type before them in the grammar but are read all
together behind it, so the statement for a usage carries a number of further dimensions.
-/
namespace ClassAtlas.Java

open Reader

/-! ## Dimensions -/

variable {inner : Inner} {rest tokens : List Token}

/-- The symbols that would go on with a type. -/
def typeOpeners : List String := ["<", ".", "@", "["]

/-- The tokens of a number of dimensions, the first behind a number of spaces. -/
def bracketTokens (spaces : Nat) : Nat → List Token
  | 0 => []
  | depth + 1 => symbolToken spaces "[" :: symbolToken 0 "]" :: bracketTokens 0 depth

/-- No annotation is read where none starts. -/
theorem annotationUses_none (stops : Stops ["@"] tokens) :
    annotationUses inner tokens = some ([], tokens) := by
  have failed : annotationUse inner tokens = none := bind_of_none (stops "@" List.mem_cons_self)
  rw [annotationUses, bind_of_read (Repeats.stop failed).many_eq]
  rfl

/-- One pair of brackets. -/
def dimension (inner : Inner) : Reader (List Mention) := do
  let mentions ← annotationUses inner
  let _ ← symbol "["
  let _ ← symbol "]"
  pure mentions

/-- Every dimension is read where nothing goes on with them. -/
theorem repeats_dimension (stops : Stops typeOpeners rest) (spaces depth : Nat) :
    Repeats (dimension inner) (bracketTokens spaces depth ++ rest) (List.replicate depth [])
      rest := by
  induction depth generalizing spaces with
  | zero =>
    rw [bracketTokens, List.nil_append]
    apply Repeats.stop
    rw [dimension, bind_of_read (annotationUses_none (stops.mono (by decide)))]
    exact bind_of_none (stops "[" (by decide))
  | succ depth ih =>
    rw [bracketTokens, List.cons_append, List.cons_append]
    apply Repeats.step _ _ (ih 0)
    · have bare : Stops ["@"] (symbolToken spaces "[" ::
          symbolToken 0 "]" :: (bracketTokens 0 depth ++ rest)) := stops_symbol (by decide) _ _
      rw [dimension, bind_of_read (annotationUses_none bare), bind_of_read (symbol_cons _ _ _),
        bind_of_read (symbol_cons _ _ _)]
      rfl
    · rw [List.length_cons, List.length_cons]
      omega

/-- The texts of dimensions have as many opening brackets as there are. -/
theorem count_bracketTokens (spaces depth : Nat) :
    ((bracketTokens spaces depth).flatMap fun token => (token.gap ++ token.text).toList).count '['
      = depth := by
  induction depth generalizing spaces with
  | zero => rfl
  | succ depth ih =>
    have opening : (((symbolToken spaces "[").gap ++ "[").toList).count '[' = 1 := by
      rw [symbolToken, String.toList_append, String.toList_ofList, List.count_append,
        List.count_replicate]
      rfl
    have closing : (((symbolToken 0 "]").gap ++ "]").toList).count '[' = 0 := by decide
    rw [bracketTokens, List.flatMap_cons, List.flatMap_cons, List.count_append, List.count_append,
      ih]
    change List.count '[' ((symbolToken spaces "[").gap ++ "[").toList +
      (List.count '[' ((symbolToken 0 "]").gap ++ "]").toList + depth) = depth + 1
    rw [opening, closing]
    omega

/-- The source text of dimensions has as many opening brackets as there are. -/
theorem count_sourceText_bracketTokens (spaces depth : Nat) :
    (sourceText (bracketTokens spaces depth)).toList.count '[' = depth := by
  cases depth with
  | zero => rfl
  | succ depth =>
    -- the gap before the first bracket is no part of the source text
    have whole := count_bracketTokens 0 (depth + 1)
    rw [bracketTokens, List.flatMap_cons] at whole
    rw [bracketTokens, sourceText, String.toList_append, String.toList_join, List.flatMap_map]
    exact whole

/-- Dimensions are read with their number, none if there are none. -/
theorem maybe_dimensions (stops : Stops typeOpeners rest) (spaces depth : Nat) :
    ∃ found, maybe (dimensions inner) (bracketTokens spaces depth ++ rest) = some (found, rest) ∧
      (found = none ∧ depth = 0 ∨ ∃ mentions, found = some (depth, mentions)) := by
  have repeats : Repeats (dimension inner) (bracketTokens spaces depth ++ rest) _ rest :=
    repeats_dimension stops spaces depth
  cases depth with
  | zero =>
    cases repeats with
    | stop failed =>
      refine ⟨none, maybe_of_none ?_, .inl ⟨rfl, rfl⟩⟩
      apply bind_of_none
      have nothing : some1 (dimension inner) rest = none := bind_of_none failed
      change spanned (some1 (dimension inner)) rest = none
      rw [spanned, nothing]
  | succ depth =>
    cases repeats with
    | step read shorter later =>
      have all : some1 (dimension inner) (bracketTokens spaces (depth + 1) ++ rest) =
          some ([] :: List.replicate depth [], rest) := by
        rw [some1, bind_of_read read, bind_of_read later.many_eq]
        rfl
      have taken : spanned (some1 (dimension inner)) (bracketTokens spaces (depth + 1) ++ rest) =
          some (([] :: List.replicate depth [], bracketTokens spaces (depth + 1)), rest) := by
        rw [spanned, all]
        dsimp only
        rw [List.length_append, Nat.add_sub_cancel, List.take_left' rfl]
      refine ⟨some (depth + 1, ([] :: List.replicate depth []).flatten), ?_, .inr ⟨_, rfl⟩⟩
      refine (maybe_of_read (bind_of_read taken)).trans ?_
      rw [count_sourceText_bracketTokens]

/-- A type without dimensions and the dimensions behind it are an array type. -/
theorem plainType_of_simple {simple : TypePhrase} {spaces depth : Nat}
    (read : simpleType inner tokens = some (simple, bracketTokens spaces depth ++ rest))
    (stops : Stops typeOpeners rest) :
    ∃ phrase, plainType inner tokens = some (phrase, rest) ∧
      phrase.type.bind [] = (simple.type.bind []).arrays depth := by
  obtain ⟨found, dims, ⟨rfl, rfl⟩ | ⟨mentions, rfl⟩⟩ := maybe_dimensions stops spaces depth
  · refine ⟨simple, ?_, rfl⟩
    rw [plainType, bind_of_read read, bind_of_read dims]
    rfl
  · refine ⟨_, (bind_of_read read).trans (bind_of_read dims), ?_⟩
    dsimp only
    rw [WrittenType.bind]

/-- A type is read where annotations may stand before it and none does. -/
theorem anyType_of_plain {phrase : TypePhrase} (stops : Stops ["@"] tokens)
    (read : plainType inner tokens = some (phrase, rest)) :
    ∃ annotated, anyType inner tokens = some (annotated, rest) ∧
      annotated.type = phrase.type := by
  have line : Reader.line tokens = some ((tokens.head?.map (·.line)).getD 0, tokens) := rfl
  rw [anyType, bind_of_read line, bind_of_read (annotationUses_none stops), bind_of_read read]
  exact ⟨_, rfl, rfl⟩

/-! ## Class types -/

/-- A segment is read with what is read of its type arguments. -/
theorem typeSegment_of_read {reserved : List String} {name : String} (free : name ∉ reserved)
    {found : Option (List TypePhrase)}
    (read : maybe (typeArguments inner) tokens = some (found, rest)) (spaces : Nat) :
    ∃ segment, typeSegment inner reserved (wordToken spaces name :: tokens) =
        some (segment, rest) ∧
      segment.name = name ∧ segment.arguments = found.map (·.map (·.type)) := by
  rw [typeSegment, bind_of_read (identifier_cons free spaces tokens), bind_of_read read]
  exact ⟨_, rfl, rfl, rfl⟩

/-- No type arguments are read where none start. -/
theorem maybe_typeArguments_none (stops : Stops ["<"] tokens) :
    maybe (typeArguments inner) tokens = some (none, tokens) :=
  maybe_of_none (bind_of_none (stops "<" List.mem_cons_self))

/-- A segment behind a dot. -/
def laterSegment (inner : Inner) : Reader TypeSegment := do
  let _ ← symbol "."
  let mentions ← annotationUses inner
  let segment ← typeSegment inner ["class"]
  pure { segment with mentions := mentions ++ segment.mentions }

/-- A segment behind a dot is read with what is read of its type arguments. -/
theorem laterSegment_of_read {name : String} (free : name ≠ "class")
    {found : Option (List TypePhrase)}
    (read : maybe (typeArguments inner) tokens = some (found, rest)) :
    ∃ segment, laterSegment inner (symbolToken 0 "." :: wordToken 0 name :: tokens) =
        some (segment, rest) ∧
      segment.name = name ∧ segment.arguments = found.map (·.map (·.type)) := by
  obtain ⟨segment, segmentRead, named, applied⟩ :=
    typeSegment_of_read (List.mem_singleton.not.2 free) read 0
  have bare : Stops ["@"] (wordToken 0 name :: tokens) := stops_word _ _ _ _
  rw [laterSegment, bind_of_read (symbol_cons 0 "." _), bind_of_read (annotationUses_none bare),
    bind_of_read segmentRead]
  exact ⟨_, rfl, named, applied⟩

/-- The segments of a name behind the first are read, the last with what is read of its type
arguments. -/
theorem repeats_laterSegment {name : String} {names : List String}
    (free : ∀ segment ∈ name :: names, segment ≠ "class") {found : Option (List TypePhrase)}
    (read : maybe (typeArguments inner) tokens = some (found, rest))
    (shorter : rest.length ≤ tokens.length) (stops : Stops ["."] rest) :
    ∃ segments last, Repeats (laterSegment inner) (segmentTokens (name :: names) ++ tokens)
        segments rest ∧
      segments.map (·.name) = name :: names ∧ segments.getLast? = some last ∧
      last.arguments = found.map (·.map (·.type)) := by
  induction names generalizing name with
  | nil =>
    obtain ⟨segment, segmentRead, named, applied⟩ :=
      laterSegment_of_read (free name List.mem_cons_self) read
    have ended : laterSegment inner rest = none := bind_of_none (stops "." List.mem_cons_self)
    refine ⟨[segment], segment, .step segmentRead ?_ (.stop ended), ?_, rfl, applied⟩
    · change rest.length < tokens.length + 2
      omega
    · rw [List.map_singleton, named]
  | cons next names ih =>
    obtain ⟨here, later⟩ := List.forall_mem_cons.1 free
    obtain ⟨segments, last, repeats, spelled, ended, applied⟩ := ih later
    have plain : Stops ["<"] (segmentTokens (next :: names) ++ tokens) :=
      stops_symbol (by decide) 0 _
    obtain ⟨segment, segmentRead, named, _⟩ :=
      laterSegment_of_read here (@maybe_typeArguments_none inner _ plain)
    refine ⟨segment :: segments, last, .step segmentRead ?_ repeats, ?_, ?_, applied⟩
    · change (segmentTokens (next :: names) ++ tokens).length <
        (segmentTokens (next :: names) ++ tokens).length + 2
      omega
    · rw [List.map_cons, named, spelled]
    · rw [List.getLast?_cons, ended]
      rfl

/-- A class type is read with what is read of the type arguments of its last segment. -/
theorem classType_of_read {first : String} {later : List String} (free : first ∉ primitiveWords)
    (plain : ∀ segment ∈ later, segment ≠ "class") {found : Option (List TypePhrase)}
    (read : maybe (typeArguments inner) tokens = some (found, rest))
    (shorter : rest.length ≤ tokens.length) (stops : Stops ["."] rest) (spaces : Nat) :
    ∃ phrase, classType inner (nameTokens spaces (first :: later) ++ tokens) =
        some (phrase, rest) ∧
      phrase.type.bind [] = .named (".".intercalate (first :: later))
        (WrittenType.bindAll [] ((found.getD []).map (·.type))) := by
  have line : ∀ tokens, Reader.line tokens =
      some ((tokens.head?.map (·.line)).getD 0, tokens) := fun _ => rfl
  cases later with
  | nil =>
    obtain ⟨segment, segmentRead, named, applied⟩ := typeSegment_of_read free read spaces
    have ended : laterSegment inner rest = none := bind_of_none (stops "." List.mem_cons_self)
    have alone : many (laterSegment inner) rest = some ([], rest) := (Repeats.stop ended).many_eq
    refine ⟨_, (bind_of_read (line _)).trans
      ((bind_of_read segmentRead).trans (bind_of_read alone)), ?_⟩
    dsimp only [segmentsType]
    rw [List.getLast?_nil, String.intercalate_singleton, applied, named]
    cases found with
    | none => rfl
    | some phrases => rfl
  | cons next later =>
    have bare : Stops ["<"] (segmentTokens (next :: later) ++ tokens) :=
      stops_symbol (by decide) 0 _
    obtain ⟨segment, segmentRead, named, _⟩ :=
      typeSegment_of_read free (@maybe_typeArguments_none inner _ bare) spaces
    obtain ⟨segments, last, repeats, spelled, ended, applied⟩ :=
      repeats_laterSegment plain read shorter stops
    refine ⟨_, (bind_of_read (line _)).trans
      ((bind_of_read segmentRead).trans (bind_of_read repeats.many_eq)), ?_⟩
    dsimp only [segmentsType]
    rw [ended, List.map_cons, named, spelled]
    dsimp only
    rw [applied, WrittenType.bind]
    cases found with
    | none => rfl
    | some phrases => rfl

/-! ## What is read back -/

/-- A type argument: a wildcard or a type. -/
def typeArgument (inner : Inner) : Reader TypePhrase := wildcard inner <|> inner.type

/-- The tokens of a usage, and any dimensions behind them, are read as a type that is bound to the
usage with as many arrays around it. -/
def ReadsType (usage : TypeUsage) : Prop :=
  ∀ level spaces depth rest, (usageTokens spaces usage).length ≤ level → Stops typeOpeners rest →
    ∃ phrase, plainType (.level .strict level)
        (usageTokens spaces usage ++ (bracketTokens 0 depth ++ rest)) = some (phrase, rest) ∧
      phrase.type.bind [] = usage.arrays depth

/-- Tokens that may stand behind a type argument. -/
def Closes (tokens : List Token) : Prop :=
  ∃ text rest, text ∈ [",", ">"] ∧ tokens = symbolToken 0 text :: rest

/-- The tokens of a usage are read as a type argument that is bound to the usage. -/
def ReadsArgument (usage : TypeUsage) : Prop :=
  ∀ level spaces rest, (usageTokens spaces usage).length ≤ level → Closes rest →
    ∃ phrase, typeArgument (.level .strict (level + 1)) (usageTokens spaces usage ++ rest) =
        some (phrase, rest) ∧
      phrase.type.bind [] = usage

/-- What may stand behind a type argument does not go on with it. -/
theorem Closes.stops (closes : Closes rest) : Stops typeOpeners rest := by
  obtain ⟨text, rest, closing, rfl⟩ := closes
  have other : ∀ text ∈ [",", ">"], text ∉ typeOpeners := by decide
  exact stops_symbol (other text closing) 0 rest

/-- No word stands behind a type argument. -/
theorem Closes.word_none (closes : Closes rest) (text : String) : word text rest = none := by
  obtain ⟨text, rest, _, rfl⟩ := closes
  rfl

/-- Behind a type argument stand the later ones and the closing bracket. -/
theorem closes_later (arguments : List TypeUsage) (rest : List Token) :
    Closes (laterTokens arguments ++ symbolToken 0 ">" :: rest) := by
  cases arguments with
  | nil =>
    rw [laterTokens, List.nil_append]
    exact ⟨">", rest, by decide, rfl⟩
  | cons argument arguments =>
    rw [laterTokens, List.cons_append]
    exact ⟨",", _, by decide, rfl⟩

/-- Type arguments behind the first are read back. -/
theorem repeats_typeArgument {arguments : List TypeUsage}
    (inside : ∀ argument ∈ arguments, ReadsArgument argument) {level : Nat}
    (enough : (laterTokens arguments).length ≤ level) (rest : List Token) :
    ∃ phrases, Repeats (do let _ ← symbol ","; typeArgument (.level .strict (level + 1)))
        (laterTokens arguments ++ symbolToken 0 ">" :: rest) phrases
        (symbolToken 0 ">" :: rest) ∧
      WrittenType.bindAll [] (phrases.map (·.type)) = arguments := by
  induction arguments with
  | nil =>
    refine ⟨[], ?_, rfl⟩
    rw [laterTokens, List.nil_append]
    exact .stop (bind_of_none rfl)
  | cons argument arguments ih =>
    obtain ⟨here, later⟩ := List.forall_mem_cons.1 inside
    rw [laterTokens, List.length_cons, List.length_append] at enough
    obtain ⟨phrases, repeats, bound⟩ := ih later (by omega)
    obtain ⟨phrase, read, same⟩ := here level 1 _ (by omega) (closes_later arguments rest)
    rw [laterTokens, List.cons_append, List.append_assoc]
    refine ⟨phrase :: phrases, .step ?_ ?_ repeats, ?_⟩
    · rw [bind_of_read (symbol_cons 0 "," _), read]
    · simp only [List.length_cons, List.length_append]
      omega
    · rw [List.map_cons, WrittenType.bindAll, same, bound]

/-- Type arguments are read back, none where there are none. -/
theorem maybe_typeArguments {arguments : List TypeUsage}
    (inside : ∀ argument ∈ arguments, ReadsArgument argument) {level : Nat}
    (enough : (argumentTokens arguments).length ≤ level) (stops : Stops ["<"] rest) :
    ∃ found, maybe (typeArguments (.level .strict level)) (argumentTokens arguments ++ rest) =
        some (found, rest) ∧
      WrittenType.bindAll [] ((found.getD []).map (·.type)) = arguments := by
  cases arguments with
  | nil =>
    rw [argumentTokens, List.nil_append]
    exact ⟨none, maybe_typeArguments_none stops, rfl⟩
  | cons first later =>
    obtain ⟨here, behind⟩ := List.forall_mem_cons.1 inside
    rw [argumentTokens, List.length_cons, List.length_append, List.length_append] at enough
    obtain ⟨level, rfl⟩ : ∃ lower, level = lower + 1 := ⟨level - 1, by omega⟩
    obtain ⟨phrase, read, same⟩ := here level 0 _ (by omega) (closes_later later rest)
    have fewer : (laterTokens later).length ≤ level := by omega
    obtain ⟨phrases, repeats, bound⟩ := repeats_typeArgument behind fewer rest
    have items : sepBy (typeArgument (.level .strict (level + 1))) (symbol ",")
        (usageTokens 0 first ++ (laterTokens later ++ symbolToken 0 ">" :: rest)) =
          some (phrase :: phrases, symbolToken 0 ">" :: rest) :=
      orElse_of_read (sepBy1_of_read read repeats)
    have all : typeArguments (.level .strict (level + 1)) (symbolToken 0 "<" ::
        (usageTokens 0 first ++ (laterTokens later ++ symbolToken 0 ">" :: rest))) =
          some (phrase :: phrases, rest) := by
      rw [typeArguments, bind_of_read (symbol_cons 0 "<" _)]
      refine (bind_of_read items).trans ?_
      rw [bind_of_read (symbol_cons 0 ">" _)]
      rfl
    refine ⟨some (phrase :: phrases), ?_, ?_⟩
    · rw [argumentTokens, List.cons_append, List.append_assoc, List.append_assoc]
      exact maybe_of_read all
    · rw [Option.getD_some, List.map_cons, WrittenType.bindAll, same, bound]

/-- Dimensions stand in the way of type arguments and further segments. -/
theorem stops_bracketTokens {texts : List String} (other : "[" ∉ texts)
    (stops : Stops texts rest) (depth : Nat) : Stops texts (bracketTokens 0 depth ++ rest) := by
  cases depth with
  | zero => exact stops
  | succ depth => exact stops_symbol other 0 _

/-- A primitive type is read back. -/
theorem readsType_primitive {name : String} (known : name ∈ valueTypes) :
    ReadsType (.primitive name) := by
  intro level spaces depth rest _ stops
  have primitive : name ∈ primitiveWords := by
    have all : ∀ name ∈ valueTypes, name ∈ primitiveWords := by decide
    exact all name known
  have accepted : satisfy (fun token => token.kind == .word && primitiveWords.contains token.text)
      (wordToken spaces name :: (bracketTokens 0 depth ++ rest)) =
        some (wordToken spaces name, bracketTokens 0 depth ++ rest) := by
    simp [satisfy, wordToken, primitive]
  have simple : primitiveType (wordToken spaces name :: (bracketTokens 0 depth ++ rest)) =
      some ({ type := .primitive name, line := 1 }, bracketTokens 0 depth ++ rest) := by
    rw [primitiveType, bind_of_read accepted]
    rfl
  rw [usageTokens]
  exact plainType_of_simple (orElse_of_read simple) stops

/-- An ordinary name is none of some keywords. -/
theorem not_mem_of_isOrdinary {name : String} (ordinary : isOrdinary name = true)
    {words : List String} (reserved : words ⊆ keywords) : name ∉ words := by
  intro listed
  rw [isOrdinary, Bool.and_eq_true] at ordinary
  have known := List.contains_iff_mem.2 (reserved listed)
  rw [known] at ordinary
  exact absurd ordinary.2 Bool.false_ne_true

/-- A class type is read back if its arguments are. -/
theorem readsType_named {name : String} {arguments : List TypeUsage}
    (ordinary : ∀ segment ∈ Text.parts (· == '.') name, isOrdinary segment = true)
    (inside : ∀ argument ∈ arguments, ReadsArgument argument) :
    ReadsType (.named name arguments) := by
  intro level spaces depth rest enough stops
  have spelled := Text.intercalate_parts name
  obtain ⟨first, later, split, _⟩ := Text.exists_parts name
  rw [split] at ordinary spelled
  obtain ⟨here, behind⟩ := List.forall_mem_cons.1 ordinary
  rw [usageTokens, split, List.length_append] at enough
  have free : first ∉ primitiveWords := not_mem_of_isOrdinary here (by decide)
  have plain : ∀ segment ∈ later, segment ≠ "class" := by
    rintro segment listed rfl
    exact absurd (behind _ listed) (by decide)
  have fewer : (argumentTokens arguments).length ≤ level := by omega
  obtain ⟨found, read, bound⟩ := maybe_typeArguments inside fewer
    (stops_bracketTokens (by decide) (stops.mono (by decide)) depth)
  obtain ⟨simple, classRead, same⟩ := classType_of_read free plain read
    (by simp only [List.length_append]; omega)
    (stops_bracketTokens (by decide) (stops.mono (by decide)) depth) spaces
  have other : primitiveType (nameTokens spaces (first :: later) ++
      (argumentTokens arguments ++ (bracketTokens 0 depth ++ rest))) = none := by
    apply bind_of_none
    simp [nameTokens, satisfy, wordToken, free]
  obtain ⟨phrase, plainRead, wrapped⟩ :=
    plainType_of_simple ((orElse_of_none other).trans classRead) stops
  rw [usageTokens, split, List.append_assoc]
  refine ⟨phrase, plainRead, ?_⟩
  rw [wrapped, same, bound, spelled]

/-- An array is read back if its component is. -/
theorem readsType_array {component : TypeUsage} (inside : ReadsType component) :
    ReadsType (.array component) := by
  intro level spaces depth rest enough stops
  rw [usageTokens, List.length_append] at enough
  rw [usageTokens, List.append_assoc]
  exact inside level spaces (depth + 1) rest (by omega) stops

/-- The tokens of a usage that can be written as a type start with a word that is a primitive type
or an ordinary name, alone or before a symbol of the type. -/
theorem Writable.opens {usage : TypeUsage} :
    Writable .type usage → ∃ word behind, (word ∈ valueTypes ∨ isOrdinary word = true) ∧
      (∀ spaces, usageTokens spaces usage = wordToken spaces word :: behind) ∧
      (behind = [] ∨ ∃ text ∈ ["<", ".", "["], ∃ tail, behind = symbolToken 0 text :: tail)
  | .primitive known => ⟨_, [], .inl known, fun _ => by rw [usageTokens], .inl rfl⟩
  | @Writable.named name arguments ordinary _ => by
    obtain ⟨first, later, split, _⟩ := Text.exists_parts name
    rw [split] at ordinary
    refine ⟨first, segmentTokens later ++ argumentTokens arguments,
      .inr (ordinary first List.mem_cons_self), ?_, ?_⟩
    · intro spaces
      rw [usageTokens, split]
      rfl
    · cases later with
      | cons segment later => exact .inr ⟨".", by decide, _, rfl⟩
      | nil =>
        cases arguments with
        | nil =>
          rw [argumentTokens]
          exact .inl rfl
        | cons argument arguments =>
          rw [argumentTokens]
          exact .inr ⟨"<", by decide, _, rfl⟩
  | .array inside => by
    obtain ⟨word, behind, known, starts, continues⟩ := inside.opens
    refine ⟨word, behind ++ [symbolToken 0 "[", symbolToken 0 "]"], known, ?_, .inr ?_⟩
    · intro spaces
      rw [usageTokens, starts, List.cons_append]
    · rcases continues with rfl | ⟨text, listed, tail, rfl⟩
      · exact ⟨"[", by decide, _, rfl⟩
      · exact ⟨text, listed, _, rfl⟩

/-- A type is read back at one level more where annotations may stand before it. -/
theorem exists_read_type {usage : TypeUsage} (writable : Writable .type usage)
    (reads : ReadsType usage) {level spaces : Nat}
    (enough : (usageTokens spaces usage).length ≤ level) (stops : Stops typeOpeners rest) :
    ∃ phrase, (Inner.level .strict (level + 1)).type (usageTokens spaces usage ++ rest) =
        some (phrase, rest) ∧
      phrase.type.bind [] = usage := by
  obtain ⟨phrase, read, same⟩ := reads level spaces 0 rest enough stops
  have bare : Stops ["@"] (usageTokens spaces usage ++ rest) := by
    obtain ⟨word, behind, _, starts, _⟩ := writable.opens
    rw [starts]
    exact stops_word _ _ _ _
  obtain ⟨annotated, readAny, type⟩ := anyType_of_plain bare read
  exact ⟨annotated, readAny, by rw [type, same]; rfl⟩

/-- A type is read back as a type argument. -/
theorem readsArgument_type {usage : TypeUsage} (writable : Writable .type usage)
    (reads : ReadsType usage) : ReadsArgument usage := by
  intro level spaces rest enough closes
  obtain ⟨phrase, read, same⟩ := exists_read_type writable reads enough closes.stops
  have other : wildcard (.level .strict (level + 1)) (usageTokens spaces usage ++ rest) = none := by
    obtain ⟨word, behind, _, starts, _⟩ := writable.opens
    rw [starts]
    rfl
  exact ⟨phrase, (orElse_of_none other).trans read, same⟩

/-- The bound of a wildcard with whether it is an upper one. -/
def wildcardBound (inner : Inner) : Reader (Bool × TypePhrase) := do
  let upper ← (do let _ ← word "extends"; pure true) <|> (do let _ ← word "super"; pure false)
  let bound ← inner.type
  pure (upper, bound)

/-- The written wildcard of a bound. -/
def wildcardOf : Option (Bool × TypePhrase) → WrittenType
  | none => .anyWildcard
  | some (true, bound) => .upperWildcard bound.type
  | some (false, bound) => .lowerWildcard bound.type

/-- A wildcard is read with what is read of its bound. -/
theorem typeArgument_of_bound {found : Option (Bool × TypePhrase)}
    (read : maybe (wildcardBound inner) tokens = some (found, rest)) (spaces : Nat) :
    ∃ phrase, typeArgument inner (symbolToken spaces "?" :: tokens) = some (phrase, rest) ∧
      phrase.type = wildcardOf found := by
  have line : Reader.line (symbolToken spaces "?" :: tokens) =
      some (1, symbolToken spaces "?" :: tokens) := rfl
  have bare : Stops ["@"] (symbolToken spaces "?" :: tokens) := stops_symbol (by decide) _ _
  have run : wildcard inner (symbolToken spaces "?" :: tokens) = _ :=
    (bind_of_read line).trans ((bind_of_read (annotationUses_none bare)).trans
      ((bind_of_read (symbol_cons spaces "?" tokens)).trans (bind_of_read read)))
  match found with
  | none => exact ⟨_, orElse_of_read run, rfl⟩
  | some (true, bound) => exact ⟨_, orElse_of_read run, rfl⟩
  | some (false, bound) => exact ⟨_, orElse_of_read run, rfl⟩

/-- A wildcard without a bound is read back. -/
theorem readsArgument_any : ReadsArgument (.wildcard .unspecified .unspecified) := by
  intro level spaces rest _ closes
  have unbounded : wildcardBound (.level .strict (level + 1)) rest = none := by
    apply bind_of_none
    rw [orElse_of_none (bind_of_none (closes.word_none "extends"))]
    exact bind_of_none (closes.word_none "super")
  obtain ⟨phrase, read, type⟩ := typeArgument_of_bound (maybe_of_none unbounded) spaces
  rw [usageTokens]
  refine ⟨phrase, read, ?_⟩
  rw [type]
  rfl

/-- The word before an upper or a lower bound. -/
def boundWord : Bool → String
  | true => "extends"
  | false => "super"

/-- The word before a bound tells whether it is an upper one. -/
theorem boundWord_read (upper : Bool) (tokens : List Token) :
    ((do let _ ← word "extends"; pure true) <|> (do let _ ← word "super"; pure false) :
      Reader Bool) (wordToken 1 (boundWord upper) :: tokens) = some (upper, tokens) := by
  cases upper <;> rfl

/-- A wildcard with a bound is read with the bound. -/
theorem exists_read_bounded (upper : Bool) {bound : TypeUsage} (writable : Writable .type bound)
    (reads : ReadsType bound) {level : Nat} (enough : (usageTokens 1 bound).length ≤ level)
    (closes : Closes rest) (spaces : Nat) :
    ∃ phrase inside, typeArgument (.level .strict (level + 1)) (symbolToken spaces "?" ::
        wordToken 1 (boundWord upper) :: (usageTokens 1 bound ++ rest)) = some (phrase, rest) ∧
      phrase.type = wildcardOf (some (upper, inside)) ∧ inside.type.bind [] = bound := by
  obtain ⟨inside, boundRead, same⟩ := exists_read_type writable reads enough closes.stops
  have bounded : wildcardBound (.level .strict (level + 1))
      (wordToken 1 (boundWord upper) :: (usageTokens 1 bound ++ rest)) =
        some ((upper, inside), rest) := by
    rw [wildcardBound, bind_of_read (boundWord_read upper _), bind_of_read boundRead]
    rfl
  obtain ⟨phrase, read, type⟩ := typeArgument_of_bound (maybe_of_read bounded) spaces
  exact ⟨phrase, inside, read, type, same⟩

/-- A wildcard with an upper bound is read back if the bound is. -/
theorem readsArgument_upper {bound : TypeUsage} (writable : Writable .type bound)
    (reads : ReadsType bound) : ReadsArgument (.wildcard bound .unspecified) := by
  intro level spaces rest enough closes
  rw [usageTokens, if_pos writable.isSpecified] at enough ⊢
  rw [List.length_cons, List.length_cons] at enough
  have fewer : (usageTokens 1 bound).length ≤ level := by omega
  obtain ⟨phrase, inside, read, type, same⟩ :=
    exists_read_bounded true writable reads fewer closes spaces
  refine ⟨phrase, read, ?_⟩
  rw [type, wildcardOf, WrittenType.bind, same]

/-- A wildcard with a lower bound is read back if the bound is. -/
theorem readsArgument_lower {bound : TypeUsage} (writable : Writable .type bound)
    (reads : ReadsType bound) : ReadsArgument (.wildcard .unspecified bound) := by
  intro level spaces rest enough closes
  have unbounded : TypeUsage.unspecified.isSpecified = false := rfl
  rw [usageTokens, unbounded, if_neg Bool.false_ne_true, if_pos writable.isSpecified] at enough ⊢
  rw [List.length_cons, List.length_cons] at enough
  have fewer : (usageTokens 1 bound).length ≤ level := by omega
  obtain ⟨phrase, inside, read, type, same⟩ :=
    exists_read_bounded false writable reads fewer closes spaces
  refine ⟨phrase, read, ?_⟩
  rw [type, wildcardOf, WrittenType.bind, same]

/-- What reading back means in a place. -/
def ReadsBack : UsagePlace → TypeUsage → Prop
  | .type, usage => ReadsType usage
  | .argument, usage => ReadsArgument usage

/-- The tokens of a usage that can be written are read back. -/
theorem Writable.readsBack {place : UsagePlace} {usage : TypeUsage}
    (writable : Writable place usage) : ReadsBack place usage := by
  induction writable with
  | primitive known => exact readsType_primitive known
  | named ordinary _ ih => exact readsType_named ordinary ih
  | array _ ih => exact readsType_array ih
  | argument type ih => exact readsArgument_type type ih
  | anyWildcard => exact readsArgument_any
  | upperWildcard type ih => exact readsArgument_upper type ih
  | lowerWildcard type ih => exact readsArgument_lower type ih

end ClassAtlas.Java
