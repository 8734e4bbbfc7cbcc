import ClassAtlas.Java.Reader
import ClassAtlas.Java.Tree
import ClassAtlas.Text.Blank
import ClassAtlas.Text.Cut

/-!
# Names, annotations and types

The phrases that every declaration and expression is built from. Phrases contain each other
without bound, so each reader is given the readers of the inner phrases as `Inner`; the grammar
ties the knot by levels.

A word is read as an identifier wherever the grammar has no keyword of that spelling: each
reader names the words that are reserved at its place.
-/
namespace ClassAtlas.Java

open Reader

/-- Whether a source has to be well formed, or is read as far as it goes. -/
inductive Mode where
  /-- Every token is as the grammar wants it. -/
  | strict
  /-- Missing closers and stray tokens are passed over. -/
  | repairing
deriving DecidableEq, Inhabited

/-- Where an expression stands. -/
inductive Place where
  /-- In an ordinary place. -/
  | ordinary
  /-- In a switch label, where an arrow ends the expression. -/
  | label
deriving DecidableEq, Inhabited

/-- What an operand can be used for besides its value. -/
inductive Shape where
  /-- A name alone. -/
  | name
  /-- A member of something. -/
  | select
  /-- An element of an array. -/
  | element
  /-- Anything else. -/
  | other
deriving DecidableEq, Inhabited

/-- An operand: its mentions and its shape. -/
structure Operand where
  /-- The mentions in it. -/
  mentions : List Mention := []
  /-- Its shape. -/
  shape : Shape := .other
deriving Inhabited

/-- The readers of the phrases inside a phrase. -/
structure Inner where
  /-- Whether repairs are made. -/
  mode : Mode
  /-- A type with its annotations. -/
  type : Reader TypePhrase
  /-- A value in an annotation. -/
  elementValue : Reader (List Mention)
  /-- An initial value. -/
  initialValue : Reader (List Mention)
  /-- An expression. -/
  expression : Place → Reader (List Mention)
  /-- An operand. -/
  operand : Place → Reader Operand
  /-- A statement. -/
  statement : Reader (List Mention)
  /-- The body of a class. -/
  classBody : Reader (List Member)
  /-- A type declaration. -/
  declaration : Reader Member

/-- The primitive types. -/
def primitiveWords : List String :=
  ["byte", "short", "int", "long", "char", "float", "double", "boolean", "void"]

/-- The words that start a value where one may stand, and so no type there. -/
def valueWords : List String := ["new", "this", "super", "switch", "true", "false", "null"]

/-- Go on unless a word stands here that starts a value. -/
def noValueWord : Reader Unit := do
  ensure !(← nextIs fun token => token.kind == .word && valueWords.contains token.text)

/-- The words that start a type declaration where one may stand, and so no type there. -/
def declarationWords : List String := ["class", "interface", "enum"]

/-- Go on unless a word stands here that starts a type declaration. -/
def noDeclarationWord : Reader Unit := do
  ensure !(← nextIs fun token => token.kind == .word && declarationWords.contains token.text)

/-- The words that modify a declaration. -/
def modifierWords : List String :=
  ["public", "protected", "private", "abstract", "static", "final", "strictfp", "native",
    "transient", "volatile"]

/-- The end of a statement or member, which a repair may supply. -/
def semicolon (inner : Inner) : Reader Unit := do
  match inner.mode with
  | .strict => let _ ← symbol ";"
  | .repairing => let _ ← maybe (symbol ";")

/-- The end of an argument list, which a repair may supply. -/
def closeArguments (inner : Inner) : Reader Unit := do
  match inner.mode with
  | .strict => let _ ← symbol ")"
  | .repairing => let _ ← maybe (symbol ")")

/-- The end of a block, which a repair supplies at the end of the source. -/
def closeBlock (inner : Inner) : Reader Unit := do
  match inner.mode with
  | .strict => let _ ← symbol "\x7d"
  | .repairing =>
    match ← maybe (symbol "\x7d") with
    | some _ => pure ()
    | none => ensure (← aheadIs List.isEmpty)

/-- Items up to the end of a block; a repair passes over a token that starts none. -/
def blockItems {α : Type} (inner : Inner) (item : Reader α) : Reader (List α) := do
  match inner.mode with
  | .strict => many item
  | .repairing =>
    let passOver : Reader Token := satisfy fun token => token.text != "\x7d"
    let items ← many ((some <$> item) <|> ((fun _ => none) <$> passOver))
    pure (items.filterMap id)

/-- A dotted name, its source text without blanks. -/
def qualifiedName (reserved : List String) : Reader String := do
  let (_, tokens) ← spanned do
    let _ ← identifier reserved
    many do
      let _ ← symbol "."
      identifier []
  pure (Text.squeeze (sourceText tokens))

/-- A pair in an annotation. -/
def elementPair (inner : Inner) : Reader (List Mention) := do
  let _ ← identifier []
  let _ ← symbol "="
  inner.elementValue

/-- The arguments of an annotation: pairs, or one value. -/
def elementValues (inner : Inner) : Reader (List Mention) := do
  let _ ← symbol "("
  let values ←
    (do
      let pairs ← sepBy (elementPair inner) (symbol ",")
      let _ ← symbol ")"
      pure pairs)
    <|> (do
      let value ← inner.elementValue
      let _ ← symbol ")"
      pure [value])
  pure values.flatten

/-- An annotation where it is used: its name behind the last dot, and the mentions in it. -/
def annotationUse (inner : Inner) : Reader (String × List Mention) := do
  let _ ← symbol "@"
  let declares ← nextIs fun token => token.text == "interface" && token.gap.isEmpty
  ensure !declares
  let name ← qualifiedName []
  let values ← maybe (elementValues inner)
  pure (Text.afterLast (· == '.') name, values.getD [])

/-- Annotations in a row: the mentions in them. -/
def annotationUses (inner : Inner) : Reader (List Mention) := do
  let uses ← many (annotationUse inner)
  pure (uses.flatMap (·.2))

/-- Dimensions: their number and the mentions in their annotations. The number counts every
opening bracket of the source text, one inside an annotation too. -/
def dimensions (inner : Inner) : Reader (Nat × List Mention) := do
  let (mentions, tokens) ← spanned do
    some1 do
      let mentions ← annotationUses inner
      let _ ← symbol "["
      let _ ← symbol "]"
      pure mentions
  pure ((sourceText tokens).toList.count '[', mentions.flatten)

/-- A wildcard argument. -/
def wildcard (inner : Inner) : Reader TypePhrase := do
  let line ← line
  let mentions ← annotationUses inner
  let _ ← symbol "?"
  let bound ← maybe do
    let upper ← (do let _ ← word "extends"; pure true) <|> (do let _ ← word "super"; pure false)
    let bound ← inner.type
    pure (upper, bound)
  match bound with
  | none => pure { type := .anyWildcard, line, mentions }
  | some (true, bound) =>
    pure { type := .upperWildcard bound.type, line, mentions := mentions ++ bound.mentions }
  | some (false, bound) =>
    pure { type := .lowerWildcard bound.type, line, mentions := mentions ++ bound.mentions }

/-- Type arguments between angle brackets. -/
def typeArguments (inner : Inner) : Reader (List TypePhrase) := do
  let _ ← symbol "<"
  let arguments ← sepBy (wildcard inner <|> inner.type) (symbol ",")
  let _ ← symbol ">"
  pure arguments

/-- One segment of a class type: its name, its arguments if it has any, and the mentions. -/
structure TypeSegment where
  /-- The name. -/
  name : String
  /-- The type arguments. -/
  arguments : Option (List WrittenType)
  /-- The mentions in annotations. -/
  mentions : List Mention

/-- A segment of a class type. -/
def typeSegment (inner : Inner) (reserved : List String) : Reader TypeSegment := do
  let name ← identifier reserved
  let arguments ← maybe (typeArguments inner)
  pure
    { name := name.text
      arguments := arguments.map (·.map (·.type))
      mentions := (arguments.getD []).flatMap (·.mentions) }

/-- The type of segments in a row: the arguments are those of the last. -/
def segmentsType (first : TypeSegment) (rest : List TypeSegment) : WrittenType :=
  match rest.getLast? with
  | none =>
    match first.arguments with
    | none => .bare first.name
    | some arguments => .applied first.name arguments
  | some last =>
    .applied (".".intercalate ((first :: rest).map (·.name))) (last.arguments.getD [])

/-- A class type. -/
def classType (inner : Inner) : Reader TypePhrase := do
  let line ← line
  let first ← typeSegment inner primitiveWords
  let rest ← many do
    let _ ← symbol "."
    let mentions ← annotationUses inner
    let segment ← typeSegment inner ["class"]
    pure { segment with mentions := mentions ++ segment.mentions }
  pure
    { type := segmentsType first rest, line
      mentions := (first :: rest).flatMap (·.mentions) }

/-- A primitive type. -/
def primitiveType : Reader TypePhrase := do
  let token ← satisfy fun token => token.kind == .word && primitiveWords.contains token.text
  pure { type := .primitive token.text, line := token.line }

/-- A type without dimensions. -/
def simpleType (inner : Inner) : Reader TypePhrase := primitiveType <|> classType inner

/-- A type without annotations before it. -/
def plainType (inner : Inner) : Reader TypePhrase := do
  let simple ← simpleType inner
  match ← maybe (dimensions inner) with
  | none => pure simple
  | some (depth, mentions) =>
    pure { simple with type := .array simple.type depth, mentions := simple.mentions ++ mentions }

/-- A type with annotations before it. -/
def anyType (inner : Inner) : Reader TypePhrase := do
  let line ← line
  let mentions ← annotationUses inner
  let plain ← plainType inner
  pure { plain with line, mentions := mentions ++ plain.mentions }

/-- Types with commas between them. -/
def typeList (inner : Inner) : Reader (List TypePhrase) := sepBy1 (anyType inner) (symbol ",")

/-- A modifier word that stands before a declaration. Some words are modifiers only where what
follows them allows it. -/
def modifierWord : Reader String :=
  (do
    let token ← satisfy fun token => token.kind == .word && modifierWords.contains token.text
    pure token.text)
  <|> (do
    let token ← word "synchronized"
    ensure !(← nextSymbol "(")
    pure token.text)
  <|> (do
    let token ← word "default"
    ensure !((← nextSymbol ":") || (← nextSymbol "->"))
    pure token.text)
  <|> (do
    let token ← word "sealed"
    ensure (← nextIs fun next => next.kind == .word || next.text == "@")
    pure token.text)
  <|> (do
    let _ ← word "non"
    let _ ← adjoining "-"
    let token ← word "sealed"
    ensure token.gap.isEmpty
    pure "non-sealed")

/-- Modifiers and annotations in any order. -/
def modifiers (inner : Inner) : Reader Modifiers := do
  let items ← many ((Sum.inl <$> annotationUse inner) <|> (Sum.inr <$> modifierWord))
  pure
    { words := items.filterMap fun | .inr word => some word | .inl _ => none
      annotations := items.filterMap fun | .inl use => some use.1 | .inr _ => none
      mentions := items.flatMap fun | .inl use => use.2 | .inr _ => [] }

/-- Type parameters between angle brackets. -/
def typeParameters (inner : Inner) : Reader WrittenTypeParameters := do
  let _ ← symbol "<"
  let items ← sepBy1 (do
    let mentions ← annotationUses inner
    let name ← identifier []
    let bounds ← maybe do
      let _ ← word "extends"
      sepBy1 (anyType inner) (symbol "&")
    let bounds := bounds.getD []
    let parameter : WrittenTypeParameter := { name := name.text, bounds := bounds.map (·.type) }
    pure (parameter, mentions ++ bounds.flatMap (·.mentions))) (symbol ",")
  let _ ← symbol ">"
  pure { items := items.map (·.1), mentions := items.flatMap (·.2) }

/-- A receiver parameter, which declares nothing. -/
def receiver (inner : Inner) : Reader (List Mention) := do
  let mentions ← annotationUses inner
  let type ← plainType inner
  let _ ← many do
    let _ ← identifier ["this"]
    symbol "."
  let _ ← word "this"
  pure (mentions ++ type.mentions)

/-- A name with the dimensions written behind it. -/
def declaredName (inner : Inner) (reserved : List String) : Reader Declarator := do
  let name ← identifier reserved
  let dims ← maybe (dimensions inner)
  let (depth, mentions) := dims.getD (0, [])
  pure { name := name.text, depth, mentions }

/-- A declared name with its initial value. -/
def declarator (inner : Inner) (reserved : List String) : Reader Declarator := do
  let declared ← declaredName inner reserved
  let value ← maybe do
    let _ ← symbol "="
    inner.initialValue
  pure { declared with value := value.getD [] }

/-- A parameter. -/
def parameter (inner : Inner) : Reader (WrittenParameter × List Mention) := do
  let modifiers ← modifiers inner
  let type ← plainType inner
  let lead := modifiers.mentions ++ type.mentions
  (do
    let _ ← symbol "..."
    let mentions ← annotationUses inner
    let declared ← declarator inner []
    pure
      ({ name := declared.name, type := type.type, annotations := modifiers.annotations
         varargs := true }, lead ++ mentions ++ declared.mentions ++ declared.value))
  <|> (do
    let declared ← declaredName inner ["this"]
    let type := if declared.depth = 0 then type.type else .array type.type declared.depth
    pure
      ({ name := declared.name, type, annotations := modifiers.annotations },
        lead ++ declared.mentions))

/-- Parameters between parentheses. -/
def parameters (inner : Inner) : Reader WrittenParameters := do
  let _ ← symbol "("
  let first ← maybe do
    let mentions ← receiver inner
    ensure ((← nextSymbol ")") || (← nextSymbol ","))
    pure mentions
  let items ←
    match first with
    | none => sepBy (parameter inner) (symbol ",")
    | some _ => many do
      let _ ← symbol ","
      parameter inner
  let _ ← symbol ")"
  pure
    { items := items.map (·.1)
      mentions := first.getD [] ++ items.flatMap (·.2) }

end ClassAtlas.Java
