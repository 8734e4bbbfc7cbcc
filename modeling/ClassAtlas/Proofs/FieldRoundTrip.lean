import ClassAtlas.Java.Source
import ClassAtlas.Proofs.ReadUsages

/-!
# Fields of a spelled type

A class that declares fields of one type, the type in its own spelling and each name with dimensions
behind it, is parsed into these fields: the printer of usages and the reader of types undo each
other at every depth, and the dimensions behind a name are put around the type.

The one member of the class could start as several others do. A step for each of them says that it
fails on the tokens of a type and a name, before the last says that the fields are read.
-/
namespace ClassAtlas.Java

open Reader

/-! ## The source and its tokens -/

/-- A declared name with dimensions behind it, after a number of spaces. -/
structure PlainDeclarator where
  /-- The name. -/
  name : String
  /-- The number of spaces behind the name. -/
  gap : Nat := 0
  /-- The number of dimensions. -/
  depth : Nat := 0

namespace PlainDeclarator

/-- The spelling of a declarator. -/
def text (declared : PlainDeclarator) : String :=
  declared.name ++ String.ofList (List.replicate declared.gap ' ')
    ++ String.join (List.replicate declared.depth "[]")

/-- The number of spaces before what stands behind a declarator. -/
def trail (declared : PlainDeclarator) : Nat :=
  if declared.depth = 0 then declared.gap else 0

/-- The tokens of a declarator. -/
def tokens (declared : PlainDeclarator) : List Token :=
  wordToken 1 declared.name :: bracketTokens declared.gap declared.depth

end PlainDeclarator

/-- A class with fields of one type. -/
def fieldSource (usage : TypeUsage) (declared : List PlainDeclarator) : String :=
  "class X \x7b " ++ usage.render ++ " " ++ ", ".intercalate (declared.map (·.text)) ++ "; \x7d"

/-- The tokens of declarators and of the end of the class behind them. -/
def declaratorTokens (first : PlainDeclarator) : List PlainDeclarator → List Token
  | [] => first.tokens ++ [symbolToken first.trail ";", symbolToken 1 "\x7d"]
  | next :: later => first.tokens ++ symbolToken first.trail "," :: declaratorTokens next later

/-- Dimensions and a symbol behind them are scanned to their tokens. -/
theorem scan_brackets {c : Char} (closed : c ∈ closedSymbols) (rest : List Char)
    (spaces depth : Nat) :
    scan (List.replicate spaces ' ' ++ ((List.replicate depth ['[', ']']).flatten ++ c :: rest)) =
      bracketTokens spaces depth ++
        symbolToken (if depth = 0 then spaces else 0) (String.ofList [c]) :: scan rest := by
  induction depth generalizing spaces with
  | zero => exact scan_symbol spaces (scanPiece_closed closed rest)
  | succ depth ih =>
    let behind := (List.replicate depth ['[', ']']).flatten ++ c :: rest
    have opened := scan_symbol spaces (scanPiece_closed (c := '[') (by decide) (']' :: behind))
    have closing := scan_symbol 0 (scanPiece_closed (c := ']') (by decide) behind)
    have later := ih 0
    rw [List.replicate_zero, List.nil_append] at closing later
    rw [List.replicate_succ, List.flatten_cons, List.append_assoc]
    change scan (List.replicate spaces ' ' ++ '[' :: ']' :: behind) = _
    rw [opened, closing, later, ite_self, if_neg (Nat.succ_ne_zero depth)]
    rfl

/-- A declarator and a symbol behind it are scanned to their tokens. -/
theorem scan_declarator (declared : PlainDeclarator)
    (ordinary : isOrdinary declared.name = true) {c : Char} (closed : c ∈ closedSymbols)
    (rest : List Char) :
    scan (List.replicate 1 ' ' ++ (declared.text.toList ++ c :: rest)) =
      declared.tokens ++ symbolToken declared.trail (String.ofList [c]) :: scan rest := by
  let behind := List.replicate declared.gap ' ' ++
    ((List.replicate declared.depth ['[', ']']).flatten ++ c :: rest)
  have text : declared.text.toList ++ c :: rest = declared.name.toList ++ behind := by
    simp [PlainDeclarator.text, behind, String.toList_join, List.flatMap]
  -- a name goes on up to the first space, bracket or closing symbol behind it
  have broken : Breaks behind := by
    have symbols : closedSymbols.all (fun c => !Text.isIdentifierPart c) = true := by decide
    have apart := List.all_eq_true.1 symbols c closed
    rw [Bool.not_eq_true'] at apart
    by_cases spaced : declared.gap = 0
    · by_cases flat : declared.depth = 0
      · simp only [behind, spaced, flat]
        exact breaks_cons apart rest
      · obtain ⟨depth, deep⟩ := Nat.exists_eq_succ_of_ne_zero flat
        simp only [behind, spaced, deep]
        exact breaks_cons (by decide) _
    · obtain ⟨gap, wide⟩ := Nat.exists_eq_succ_of_ne_zero spaced
      simp only [behind, wide]
      exact breaks_cons (by decide) _
  have word := scan_word 1 (isIdentifier_of_isOrdinary ordinary) broken
  have brackets := scan_brackets closed rest declared.gap declared.depth
  rw [text, word, brackets]
  rfl

/-- Declarators and the end of the class are scanned to their tokens. -/
theorem scan_declarators {first : PlainDeclarator} {later : List PlainDeclarator}
    (ordinary : ∀ declared ∈ first :: later, isOrdinary declared.name = true) :
    scan (' ' :: ((", ".intercalate ((first :: later).map (·.text))).toList ++ "; \x7d".toList)) =
      declaratorTokens first later := by
  induction later generalizing first with
  | nil =>
    have here := ordinary first List.mem_cons_self
    have semicolon := scan_declarator first here (c := ';') (by decide) [' ', '\x7d']
    have brace := scan_symbol 1 (scanPiece_closed (c := '\x7d') (by decide) [])
    rw [List.map_singleton, String.intercalate_singleton, declaratorTokens]
    refine semicolon.trans ?_
    change first.tokens ++ symbolToken first.trail ";" ::
      scan (List.replicate 1 ' ' ++ ['\x7d']) = _
    rw [brace, scan, pieces]
    rfl
  | cons next later ih =>
    obtain ⟨here, behind⟩ := List.forall_mem_cons.1 ordinary
    have comma := scan_declarator first here (c := ',') (by decide)
      (' ' :: ((", ".intercalate ((next :: later).map (·.text))).toList ++ "; \x7d".toList))
    rw [ih behind] at comma
    rw [declaratorTokens, List.map_cons, List.map_cons, String.intercalate_cons_cons,
      ← List.map_cons, String.toList_append, String.toList_append, List.append_assoc,
      List.append_assoc]
    exact comma

/-- A class with fields of a type that can be written is scanned to its tokens. -/
theorem tokenize_fieldSource {usage : TypeUsage} (writable : Writable .type usage)
    {first : PlainDeclarator} {later : List PlainDeclarator}
    (ordinary : ∀ declared ∈ first :: later, isOrdinary declared.name = true) :
    tokenize (fieldSource usage (first :: later)) =
      wordToken 0 "class" :: wordToken 1 "X" :: symbolToken 1 "\x7b" ::
        (usageTokens 1 usage ++ declaratorTokens first later) := by
  let behind := ' ' ::
    ((", ".intercalate ((first :: later).map (·.text))).toList ++ "; \x7d".toList)
  let body := List.replicate 1 ' ' ++ (usage.render.toList ++ behind)
  have text : (fieldSource usage (first :: later)).toList =
      "class".toList ++ (List.replicate 1 ' ' ++ ("X".toList ++
        (List.replicate 1 ' ' ++ '\x7b' :: body))) := by
    simp only [fieldSource, String.toList_append, List.append_assoc]
    rfl
  have words : Text.isIdentifier "class" = true ∧ Text.isIdentifier "X" = true := by decide
  have keyword := scan_word 0 words.1
    (breaks_cons (c := ' ') (by decide) ("X".toList ++ (List.replicate 1 ' ' ++ '\x7b' :: body)))
  have name := scan_word 1 words.2 (breaks_cons (c := ' ') (by decide) ('\x7b' :: body))
  have brace := scan_symbol 1 (scanPiece_closed (c := '\x7b') (by decide) body)
  have type := writable.scans 1 behind (breaks_cons (by decide) _)
  rw [scan_declarators ordinary] at type
  change scan (withoutMark (fieldSource usage (first :: later)).toList) = _
  rw [text]
  exact keyword.trans (congrArg _ (name.trans (congrArg _ (brace.trans (congrArg _ type)))))

/-! ## Reading the fields -/

/-- Every level reads in the same mode. -/
theorem mode_level (mode : Mode) (level : Nat) : (Inner.level mode level).mode = mode := by
  induction level with
  | zero => rfl
  | succ level ih => exact ih

variable {inner : Inner} {rest : List Token}

/-- The name and the dimensions of a declarator are read, and no initial value. -/
theorem declarator_read (declared : PlainDeclarator) (stops : Stops ("=" :: typeOpeners) rest) :
    ∃ read, declarator inner [] (declared.tokens ++ rest) = some (read, rest) ∧
      read.name = declared.name ∧ read.depth = declared.depth ∧ read.value = [] := by
  obtain ⟨found, dims, number⟩ := @maybe_dimensions inner _
    (stops.mono (List.subset_cons_self _ _)) declared.gap declared.depth
  have counted : (found.getD (0, [])).1 = declared.depth := by
    obtain ⟨rfl, flat⟩ | ⟨mentions, rfl⟩ := number
    · exact flat.symm
    · rfl
  have name : identifier [] (declared.tokens ++ rest) =
      some (wordToken 1 declared.name, bracketTokens declared.gap declared.depth ++ rest) :=
    identifier_cons List.not_mem_nil 1 _
  have named : declaredName inner [] (declared.tokens ++ rest) =
      some ({ name := declared.name, depth := (found.getD (0, [])).1
              mentions := (found.getD (0, [])).2 }, rest) := by
    rw [declaredName, bind_of_read name, bind_of_read dims]
    rfl
  have unset : maybe (do let _ ← symbol "="; inner.initialValue) rest = some (none, rest) :=
    maybe_of_none (bind_of_none (stops "=" List.mem_cons_self))
  exact ⟨_, (bind_of_read named).trans (bind_of_read unset), rfl, counted, rfl⟩

/-- What is told of a field by its declarator. -/
def told (read : Declarator) : String × Nat × List Mention := (read.name, read.depth, read.value)

/-- A first declarator is read, and each later one behind a comma, up to the end of the member. -/
theorem exists_read_declarators (first : PlainDeclarator) (later : List PlainDeclarator) :
    ∃ read between names spaces,
      declarator inner [] (declaratorTokens first later) = some (read, between) ∧
      between.length ≤ (declaratorTokens first later).length ∧
      Repeats (do let _ ← symbol ","; declarator inner []) between names
        [symbolToken spaces ";", symbolToken 1 "\x7d"] ∧
      (read :: names).map told =
        (first :: later).map fun declared => (declared.name, declared.depth, []) := by
  induction later generalizing first with
  | nil =>
    have ended : Stops ("=" :: typeOpeners)
        [symbolToken first.trail ";", symbolToken 1 "\x7d"] := stops_symbol (by decide) _ _
    obtain ⟨read, here, name, depth, value⟩ := @declarator_read inner _ first ended
    refine ⟨read, _, [], first.trail, here, ?_, .stop (bind_of_none rfl), ?_⟩
    · rw [declaratorTokens, List.length_append]
      omega
    · rw [List.map_singleton, List.map_singleton, told, name, depth, value]
  | cons next later ih =>
    obtain ⟨following, between, names, spaces, behind, shorter, repeats, same⟩ := ih next
    have ended : Stops ("=" :: typeOpeners)
        (symbolToken first.trail "," :: declaratorTokens next later) := stops_symbol (by decide) _ _
    obtain ⟨read, here, name, depth, value⟩ := @declarator_read inner _ first ended
    refine ⟨read, _, following :: names, spaces, here, ?_, .step ?_ ?_ repeats, ?_⟩
    · rw [declaratorTokens, List.length_append]
      omega
    · rw [bind_of_read (symbol_cons _ "," _), behind]
    · rw [List.length_cons]
      omega
    · rw [List.map_cons, same, told, name, depth, value]
      rfl

/-- Declarators start with a word, and no opening parenthesis stands behind it. -/
theorem exists_declaratorTokens (first : PlainDeclarator) (later : List PlainDeclarator) :
    ∃ behind, declaratorTokens first later = wordToken 1 first.name :: behind ∧
      Stops ["("] behind := by
  have brackets {rest : List Token} (stops : Stops ["("] rest) :
      Stops ["("] (bracketTokens first.gap first.depth ++ rest) := by
    cases first.depth with
    | zero => exact stops
    | succ depth => exact stops_symbol (by decide) _ _
  cases later with
  | nil => exact ⟨_, rfl, brackets (stops_symbol (by decide) _ _)⟩
  | cons next later => exact ⟨_, rfl, brackets (stops_symbol (by decide) _ _)⟩

/-- The type of fields that can be written is read before their names. -/
theorem plainType_read {usage : TypeUsage} (writable : Writable .type usage)
    (first : PlainDeclarator) (later : List PlainDeclarator) {level : Nat}
    (enough : (usageTokens 1 usage).length ≤ level) :
    ∃ phrase, plainType (.level .strict level)
        (usageTokens 1 usage ++ declaratorTokens first later) =
          some (phrase, declaratorTokens first later) ∧
      phrase.type.bind [] = usage := by
  have stops : Stops typeOpeners (declaratorTokens first later) := by
    obtain ⟨behind, starts, _⟩ := exists_declaratorTokens first later
    rw [starts]
    exact stops_word _ _ _ _
  exact writable.readsBack level 1 0 _ enough stops

/-- A member is fields of a usage with given names and dimensions, and nothing else is told. -/
def Member.IsFields (usage : TypeUsage) (declared : List PlainDeclarator) (member : Member) :
    Prop :=
  ∃ phrase names, member = .fields {} phrase names ∧ phrase.type.bind [] = usage ∧
    names.map told = declared.map fun declared => (declared.name, declared.depth, [])

/-- Fields of a type that can be written are read. -/
theorem fieldsRest_read {usage : TypeUsage} (writable : Writable .type usage)
    (first : PlainDeclarator) (later : List PlainDeclarator) {level : Nat}
    (enough : (usageTokens 1 usage).length ≤ level) :
    ∃ member, fieldsRest (.level .strict level) {}
        (usageTokens 1 usage ++ declaratorTokens first later) =
          some (member, [symbolToken 1 "\x7d"]) ∧
      member.IsFields usage (first :: later) := by
  obtain ⟨phrase, type, same⟩ := plainType_read writable first later enough
  obtain ⟨read, between, names, spaces, here, _, repeats, listed⟩ :=
    @exists_read_declarators (.level .strict level) first later
  have all : declarators (.level .strict level) [] (declaratorTokens first later) =
      some (read :: names, [symbolToken spaces ";", symbolToken 1 "\x7d"]) :=
    sepBy1_of_read here repeats
  have ended : semicolon (.level .strict level)
      [symbolToken spaces ";", symbolToken 1 "\x7d"] = some ((), [symbolToken 1 "\x7d"]) := by
    rw [semicolon, mode_level]
    rfl
  have noCall : nextSymbol "(" [symbolToken spaces ";", symbolToken 1 "\x7d"] =
      some (false, [symbolToken spaces ";", symbolToken 1 "\x7d"]) := rfl
  have allowed : ensure true [symbolToken spaces ";", symbolToken 1 "\x7d"] =
      some ((), [symbolToken spaces ";", symbolToken 1 "\x7d"]) := rfl
  refine ⟨.fields {} phrase (read :: names), ?_, phrase, _, rfl, same, listed⟩
  rw [fieldsRest, bind_of_read type, bind_of_read all, bind_of_read noCall, Bool.not_false,
    bind_of_read allowed, bind_of_read ended]
  rfl

/-! ## Other members that start alike -/

section Alternatives

variable {word : String} {behind : List Token}

/-- The word that a type starts with is none of some keywords that are no primitive types. -/
theorem not_mem_of_known (known : word ∈ valueTypes ∨ isOrdinary word = true)
    {words : List String} (reserved : words ⊆ keywords)
    (foreign : ∀ type ∈ valueTypes, type ∉ words) : word ∉ words := by
  rcases known with value | ordinary
  · exact foreign word value
  · exact not_mem_of_isOrdinary ordinary reserved

/-- A word that a type starts with, behind which nothing makes a call, a block or a hyphenated word
of it. -/
structure StartsType (word : String) (behind : List Token) : Prop where
  /-- It is a primitive type or an ordinary name. -/
  known : word ∈ valueTypes ∨ isOrdinary word = true
  /-- None of the symbols stands behind it. -/
  stops : Stops ["(", "\x7b", "-"] behind

/-- A type starts with no modifier. -/
theorem modifierWord_none (starts : StartsType word behind) :
    modifierWord (wordToken 1 word :: behind) = none := by
  have free : word ∉ modifierWords ++ ["synchronized", "default", "sealed"] :=
    not_mem_of_known starts.known (by decide) (by decide)
  have plain : word ∉ modifierWords := fun listed => free (List.mem_append_left _ listed)
  have others : ∀ other ∈ ["synchronized", "default", "sealed"], word ≠ other :=
    fun other listed same => free (List.mem_append_right _ (same ▸ listed))
  have modifier : satisfy (fun token => token.kind == .word && modifierWords.contains token.text)
      (wordToken 1 word :: behind) = none := by
    simp [satisfy, wordToken, plain]
  have hyphen : adjoining "-" behind = none := adjoining_none (starts.stops "-" (by decide))
  rw [modifierWord, orElse_of_none (bind_of_none modifier),
    orElse_of_none (bind_of_none (word_cons_of_ne (others "synchronized" (by decide)) _ _)),
    orElse_of_none (bind_of_none (word_cons_of_ne (others "default" (by decide)) _ _)),
    orElse_of_none (bind_of_none (word_cons_of_ne (others "sealed" (by decide)) _ _))]
  -- `non` is an ordinary name, and a modifier only before a hyphen
  by_cases negated : word = "non"
  · rw [negated]
    exact (bind_of_read rfl).trans (bind_of_none hyphen)
  · exact bind_of_none (word_cons_of_ne negated _ _)

/-- A type starts without modifiers. -/
theorem modifiers_none (starts : StartsType word behind) :
    modifiers inner (wordToken 1 word :: behind) = some ({}, wordToken 1 word :: behind) := by
  have annotation : annotationUse inner (wordToken 1 word :: behind) = none := bind_of_none rfl
  have item : ((Sum.inl <$> annotationUse inner) <|> (Sum.inr <$> modifierWord) :
      Reader ((String × List Mention) ⊕ String)) (wordToken 1 word :: behind) = none := by
    rw [orElse_of_none (map_of_none annotation)]
    exact map_of_none (modifierWord_none starts)
  rw [modifiers, bind_of_read (Repeats.stop item).many_eq]
  rfl

/-- A type starts no declaration of a type. -/
theorem declaration_none (starts : StartsType word behind) :
    declaration inner (wordToken 1 word :: behind) = none := by
  have free : word ∉ declarationWords ++ ["record"] :=
    not_mem_of_known starts.known (by decide) (by decide)
  have other : ∀ wanted ∈ declarationWords ++ ["record"],
      Reader.word wanted (wordToken 1 word :: behind) = none := by
    intro wanted listed
    refine word_cons_of_ne ?_ _ _
    rintro rfl
    exact free listed
  have line : Reader.line (wordToken 1 word :: behind) = some (1, wordToken 1 word :: behind) := rfl
  have noClass : classRest inner {} 1 (wordToken 1 word :: behind) = none :=
    bind_of_none (other "class" (by decide))
  have noInterface : interfaceRest inner {} 1 (wordToken 1 word :: behind) = none :=
    bind_of_none (other "interface" (by decide))
  have noEnum : enumRest inner {} 1 (wordToken 1 word :: behind) = none :=
    bind_of_none (other "enum" (by decide))
  have noRecord : recordRest inner {} 1 (wordToken 1 word :: behind) = none :=
    bind_of_none (other "record" (by decide))
  rw [declaration, bind_of_read line, bind_of_read (modifiers_none starts),
    orElse_of_none noClass, orElse_of_none noInterface, orElse_of_none noEnum,
    orElse_of_none noRecord]
  exact bind_of_none rfl

/-- A name that could start a constructor is not followed by what one needs. -/
theorem identifier_bind_none {α : Type} (next : Token → Reader α)
    (failed : ∀ token, next token behind = none) :
    (identifier primitiveWords >>= next) (wordToken 1 word :: behind) = none := by
  by_cases primitive : word ∈ primitiveWords
  · apply bind_of_none
    simp [identifier, satisfy, wordToken, primitive]
  · rw [bind_of_read (identifier_cons primitive 1 behind)]
    exact failed _

/-- No type parameters are read where a word stands. -/
theorem maybe_typeParameters_none :
    maybe (typeParameters inner) (wordToken 1 word :: behind) =
      some (none, wordToken 1 word :: behind) :=
  maybe_of_none (bind_of_none rfl)

/-- A type starts no constructor. -/
theorem constructorRest_none (starts : StartsType word behind) (modifiers : Modifiers) :
    constructorRest inner modifiers (wordToken 1 word :: behind) = none := by
  rw [constructorRest, bind_of_read maybe_typeParameters_none]
  apply identifier_bind_none
  intro _
  exact bind_of_none (bind_of_none (starts.stops "(" (by decide)))

/-- A type starts no compact constructor. -/
theorem compactRest_none (starts : StartsType word behind) (modifiers : Modifiers) :
    compactRest inner modifiers (wordToken 1 word :: behind) = none := by
  rw [compactRest]
  apply identifier_bind_none
  intro _
  exact bind_of_none (bind_of_none (starts.stops "\x7b" (by decide)))

end Alternatives

/-- The type and the first name of fields start no method. -/
theorem methodRest_none {usage : TypeUsage} (writable : Writable .type usage)
    (first : PlainDeclarator) (later : List PlainDeclarator) {level : Nat}
    (enough : (usageTokens 1 usage).length ≤ level) (modifiers : Modifiers) :
    methodRest (.level .strict level) modifiers
      (usageTokens 1 usage ++ declaratorTokens first later) = none := by
  obtain ⟨phrase, type, _⟩ := plainType_read writable first later enough
  obtain ⟨behind, starts, stops⟩ := exists_declaratorTokens first later
  obtain ⟨opening, more, _, tokens, _⟩ := writable.opens
  have untyped : maybe (do
      let typed ← typeParameters (.level .strict level)
      let mentions ← annotationUses (.level .strict level)
      pure { typed with mentions := typed.mentions ++ mentions })
        (usageTokens 1 usage ++ declaratorTokens first later) =
          some (none, usageTokens 1 usage ++ declaratorTokens first later) := by
    rw [tokens]
    exact maybe_of_none (bind_of_none (bind_of_none rfl))
  rw [methodRest, bind_of_read untyped, bind_of_read type, starts,
    bind_of_read (identifier_cons List.not_mem_nil 1 behind)]
  exact bind_of_none (bind_of_none (stops "(" List.mem_cons_self))

/-! ## The class around the fields -/

section Class

variable {usage : TypeUsage} {level : Nat}

/-- A type and the declarators behind it start as a type does. -/
theorem exists_startsType (writable : Writable .type usage) (first : PlainDeclarator)
    (later : List PlainDeclarator) :
    ∃ word behind, usageTokens 1 usage ++ declaratorTokens first later =
      wordToken 1 word :: behind ∧ StartsType word behind := by
  obtain ⟨word, behind, known, tokens, continues⟩ := writable.opens
  refine ⟨word, behind ++ declaratorTokens first later, ?_, known, ?_⟩
  · rw [tokens, List.cons_append]
  · rcases continues with rfl | ⟨text, listed, tail, rfl⟩
    · obtain ⟨more, starts, _⟩ := exists_declaratorTokens first later
      rw [List.nil_append, starts]
      exact stops_word _ _ _ _
    · have other : ∀ text ∈ ["<", ".", "["], text ∉ ["(", "\x7b", "-"] := by decide
      exact stops_symbol (other text listed) _ _

/-- What starts with a type and is no method is a member that declares fields. -/
theorem classMember_of_fields {word : String} {behind : List Token}
    (starts : StartsType word behind)
    (noMethod : methodRest (.level .strict (level + 1)) {} (wordToken 1 word :: behind) = none)
    {member : Member} (fields : fieldsRest (.level .strict (level + 1)) {}
      (wordToken 1 word :: behind) = some (member, rest)) :
    classMember (.level .strict (level + 1)) (wordToken 1 word :: behind) =
      some ([member], rest) := by
  have free : word ∉ "static" :: declarationWords :=
    not_mem_of_known starts.known (by decide) (by decide)
  have notStatic := List.ne_of_not_mem_cons free
  have undeclared := List.not_mem_of_not_mem_cons free
  have noBlock : block (.level .strict (level + 1)) (wordToken 1 word :: behind) = none :=
    bind_of_none rfl
  have noInitializer : staticInitializer (.level .strict (level + 1))
      (wordToken 1 word :: behind) = none := bind_of_none (word_cons_of_ne notStatic _ _)
  have noType : (Inner.level .strict (level + 1)).declaration (wordToken 1 word :: behind) = none :=
    declaration_none starts
  have ahead : noDeclarationWord (wordToken 1 word :: behind) =
      some ((), wordToken 1 word :: behind) := by
    have other : (!declarationWords.contains word) = true := by simpa using undeclared
    change ensure (!declarationWords.contains word) (wordToken 1 word :: behind) = _
    rw [other]
    rfl
  have unread {reader : Reader Member} (failed : reader (wordToken 1 word :: behind) = none) :
      classMember.one reader (wordToken 1 word :: behind) = none := map_of_none failed
  rw [classMember, orElse_of_none (bind_of_none rfl),
    orElse_of_none (unread (map_of_none noBlock)), orElse_of_none (unread noInitializer),
    orElse_of_none (unread noType)]
  apply map_of_read
  rw [bind_of_read (modifiers_none starts), bind_of_read ahead,
    orElse_of_none (constructorRest_none starts _), orElse_of_none (compactRest_none starts _),
    orElse_of_none noMethod, fields]

/-- Declarators and the end of the class are more than one token. -/
theorem one_lt_length_declaratorTokens (first : PlainDeclarator) (later : List PlainDeclarator) :
    1 < (declaratorTokens first later).length := by
  cases later with
  | nil =>
    rw [declaratorTokens, List.length_append, List.length_cons, List.length_cons]
    omega
  | cons next later =>
    rw [declaratorTokens, PlainDeclarator.tokens, List.length_append, List.length_cons,
      List.length_cons]
    omega

/-- The body of the class is read as the fields in it. -/
theorem classBody_read (writable : Writable .type usage) (first : PlainDeclarator)
    (later : List PlainDeclarator) (enough : (usageTokens 1 usage).length ≤ level + 1) :
    ∃ member, classBody (.level .strict (level + 1)) (symbolToken 1 "\x7b" ::
        (usageTokens 1 usage ++ declaratorTokens first later)) = some ([member], []) ∧
      member.IsFields usage (first :: later) := by
  have noMethod := methodRest_none writable first later enough {}
  obtain ⟨member, fields, known⟩ := fieldsRest_read writable first later enough
  obtain ⟨word, behind, tokens, starts⟩ := exists_startsType writable first later
  rw [tokens] at noMethod fields
  have here := classMember_of_fields starts noMethod fields
  have ended : classMember (.level .strict (level + 1)) [symbolToken 1 "\x7d"] = none := rfl
  have shorter : [symbolToken 1 "\x7d"].length < (wordToken 1 word :: behind).length := by
    have several := one_lt_length_declaratorTokens first later
    rw [← tokens, List.length_append, List.length_singleton]
    omega
  have members : blockItems (.level .strict (level + 1)) (classMember (.level .strict (level + 1)))
      (wordToken 1 word :: behind) =
        some ([[member]], [symbolToken 1 "\x7d"]) := by
    rw [blockItems, mode_level]
    exact (Repeats.step here shorter (.stop ended)).many_eq
  have closed : closeBlock (.level .strict (level + 1)) [symbolToken 1 "\x7d"] =
      some ((), []) := by
    rw [closeBlock, mode_level]
    rfl
  refine ⟨member, ?_, known⟩
  rw [classBody, bind_of_read (symbol_cons 1 "\x7b" _), tokens, bind_of_read members,
    bind_of_read closed]
  rfl

/-- The class is the one item that is read. -/
theorem unitItem_read {body : List Token} {members : List Member}
    (read : classBody (.level .strict level) (symbolToken 1 "\x7b" :: body) =
      some (members, [])) :
    unitItem (.level .strict level) (wordToken 0 "class" :: wordToken 1 "X" ::
        symbolToken 1 "\x7b" :: body) =
      some (.declared { kind := .classType, name := "X", line := 1 } members, []) := by
  let tokens := wordToken 0 "class" :: wordToken 1 "X" :: symbolToken 1 "\x7b" :: body
  have noPackage : packageClause (.level .strict level) tokens = none := rfl
  have noImport : importClause (.level .strict level) tokens = none := rfl
  have noModule : moduleDeclaration (.level .strict level) tokens = none := rfl
  have line : Reader.line tokens = some (1, tokens) := rfl
  have unmodified : modifiers (.level .strict level) tokens = some ({}, tokens) := rfl
  have rest : classRest (.level .strict level) {} 1 tokens =
      some (.nested { kind := .classType, name := "X", line := 1 } members, []) := by
    have untyped : maybe (typeParameters (.level .strict level)) (symbolToken 1 "\x7b" :: body) =
        some (none, symbolToken 1 "\x7b" :: body) := rfl
    have noSuper : typeBehind (.level .strict level) "extends" (symbolToken 1 "\x7b" :: body) =
        some ([], symbolToken 1 "\x7b" :: body) := rfl
    have noTypes : ∀ clause, typesBehind (.level .strict level) clause
        (symbolToken 1 "\x7b" :: body) = some ([], symbolToken 1 "\x7b" :: body) := fun _ => rfl
    rw [classRest, bind_of_read rfl, bind_of_read (identifier_cons List.not_mem_nil 1 _),
      bind_of_read untyped, bind_of_read noSuper, bind_of_read (noTypes _),
      bind_of_read (noTypes _), bind_of_read read]
    rfl
  have declared : declaration (.level .strict level) tokens =
      some (.nested { kind := .classType, name := "X", line := 1 } members, []) := by
    rw [declaration, bind_of_read line, bind_of_read unmodified, orElse_of_read rest]
  rw [unitItem, orElse_of_none (map_of_none noPackage), orElse_of_none (bind_of_none noImport),
    orElse_of_none (bind_of_none noModule)]
  apply orElse_of_read
  rw [bind_of_read declared]
  rfl

/-- Fields without modifiers and values declare their names with the usage in arrays. -/
theorem Member.IsFields.bind_eq {member : Member} {declared : List PlainDeclarator}
    (fields : member.IsFields usage declared) :
    member.bind [] =
      { fields := declared.map fun name => { name := name.name, type := usage.arrays name.depth }
        : Contents } := by
  obtain ⟨phrase, names, rfl, same, listed⟩ := fields
  have types : names.map (fun name => ({ name := name.name, type := usage.arrays name.depth } :
      FieldDecl)) = declared.map fun name =>
        { name := name.name, type := usage.arrays name.depth } := by
    have mapped := congrArg (List.map fun (name, depth, _) =>
      ({ name, type := usage.arrays depth } : FieldDecl)) listed
    rw [List.map_map, List.map_map] at mapped
    exact mapped
  have values : names.flatMap (·.value) = [] := by
    have flat := congrArg (List.flatMap fun told => told.2.2) listed
    rw [List.flatMap_map, List.flatMap_map] at flat
    refine flat.trans ?_
    simp
  rw [Member.bind, same, values]
  exact congrArg (fun fields => ({ fields } : Contents)) types

/-- A class with such fields alone declares nothing else. -/
theorem Member.IsFields.unitOf_eq {member : Member} {declared : List PlainDeclarator}
    (fields : member.IsFields usage declared) (path : String) :
    unitOf [.declared { kind := .classType, name := "X", line := 1 } [member]] path =
      { types :=
          [{ name := "X", line := 1
             fields := declared.map fun name =>
              { name := name.name, type := usage.arrays name.depth } }]
        path } := by
  have unit : unitOf [.declared { kind := .classType, name := "X", line := 1 } [member]] path =
      { types := [bindTopLevel { kind := .classType, name := "X", line := 1 } [member]], path } :=
    rfl
  have outermost : TypeHeader.scope { kind := .classType, name := "X", line := 1 } [] = [] := rfl
  rw [unit, bindTopLevel, outermost, Member.bindAll, fields.bind_eq]
  simp only [TypeHeader.declare, Contents.append, Member.bindAll, List.append_nil]
  rfl

/-- The source is read as one class with the fields in it. -/
theorem readStrictly_fieldSource (writable : Writable .type usage) {first : PlainDeclarator}
    {later : List PlainDeclarator}
    (ordinary : ∀ declared ∈ first :: later, isOrdinary declared.name = true) :
    ∃ member, readStrictly (tokenize (fieldSource usage (first :: later))) =
        some [.declared { kind := .classType, name := "X", line := 1 } [member]] ∧
      member.IsFields usage (first :: later) := by
  have tokens := tokenize_fieldSource writable ordinary
  obtain ⟨level, deep⟩ : ∃ level, 2 * (tokenize (fieldSource usage (first :: later))).length + 2 =
      level + 1 := ⟨_, rfl⟩
  -- the type is a part of the source, which has two levels for each token
  have enough : (usageTokens 1 usage).length ≤ level + 1 := by
    rw [← deep, tokens]
    simp only [List.length_cons, List.length_append]
    omega
  obtain ⟨member, read, fields⟩ := classBody_read writable first later enough
  have item := unitItem_read read
  have ended : unitItem (.level .strict (level + 1)) [] = none := rfl
  refine ⟨member, ?_, fields⟩
  rw [readStrictly, deep, tokens, (Repeats.step item (Nat.succ_pos _) (.stop ended)).many_eq]

end Class

/-- **Round trip of type texts.** A class that declares fields of a usage in its own spelling, under
any names and with any numbers of dimensions behind them, is parsed without a report into one class
with these fields in order, each of the usage in as many arrays as there are dimensions. -/
theorem parse_fieldSource {usage : TypeUsage} (writable : Writable .type usage)
    {declared : List PlainDeclarator} (nonempty : declared ≠ [])
    (ordinary : ∀ name ∈ declared, isOrdinary name.name = true) (path : String) :
    parse (fieldSource usage declared) path =
      ({ types :=
          [{ name := "X", line := 1
             fields := declared.map fun name =>
              { name := name.name, type := usage.arrays name.depth } }]
         path }, []) := by
  obtain ⟨first, later, rfl⟩ := List.exists_cons_of_ne_nil nonempty
  obtain ⟨member, read, fields⟩ := readStrictly_fieldSource writable ordinary
  simp only [parse, read]
  rw [fields.unitOf_eq]

/-- The usage `Map.Entry<List<? extends int[]>, ? super Set<?>[]>[]`. -/
def nestedUsage : TypeUsage :=
  .array (.named "Map.Entry"
    [.named "List" [.wildcard (.array (.primitive "int")) .unspecified],
      .wildcard .unspecified (.array (.named "Set" [.wildcard .unspecified .unspecified]))])

/-- Each part of the usage can be written where it stands. -/
theorem writable_nestedUsage : Writable .type nestedUsage := by
  have numbers : Writable .type (.array (.primitive "int")) := .array (.primitive (by decide))
  have list : Writable .type (.named "List" [.wildcard (.array (.primitive "int")) .unspecified]) :=
    .named (by decide) (List.forall_mem_singleton.2 (.upperWildcard numbers))
  have sets : Writable .type (.array (.named "Set" [.wildcard .unspecified .unspecified])) :=
    .array (.named (by decide) (List.forall_mem_singleton.2 .anyWildcard))
  exact .array (.named (by decide)
    (List.forall_mem_cons.2 ⟨.argument list, List.forall_mem_singleton.2 (.lowerWildcard sets)⟩))

/-- The spelling of nested arguments, bounds and arrays is read back under two names, the second
with dimensions of its own. -/
theorem parse_fieldSource_nested :
    fieldSource nestedUsage [{ name := "plain" }, { name := "deep", gap := 1, depth := 2 }] =
        "class X \x7b Map.Entry<List<? extends int[]>, ? super Set<?>[]>[] plain, deep [][]; \x7d" ∧
      parse (fieldSource nestedUsage
          [{ name := "plain" }, { name := "deep", gap := 1, depth := 2 }]) "X.java" =
        ({ types :=
            [{ name := "X", line := 1
               fields := [{ name := "plain", type := nestedUsage },
                { name := "deep", type := .array (.array nestedUsage) }] }]
           path := "X.java" }, []) := by
  have names : ∀ name ∈ ([{ name := "plain" }, { name := "deep", gap := 1, depth := 2 }] :
      List PlainDeclarator), isOrdinary name.name = true := by decide
  exact ⟨by decide, parse_fieldSource writable_nestedUsage (List.cons_ne_nil _ _) names "X.java"⟩

end ClassAtlas.Java
