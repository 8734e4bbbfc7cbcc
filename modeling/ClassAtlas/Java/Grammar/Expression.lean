import ClassAtlas.Java.Grammar.Phrase
import ClassAtlas.Java.TypeName

/-!
# Expressions

Of an expression only the types it mentions are kept: those of creations, casts, instance tests
and class literals, and the targets of calls that look like types. They come in the order of
the syntax tree read from its root, so a call's target and a creation's type stand before what
is inside them, and the type of an instance test before those of its left operand.

That is the only place where the precedence of operators shows: an instance test takes as its
left operand everything back to the last operator that binds more loosely than a comparison.
-/
namespace ClassAtlas.Java

open Reader

/-- The words that cannot be identifiers where an expression starts. -/
def expressionWords : List String :=
  primitiveWords ++ valueWords

/-- An operator that binds more loosely than a comparison. -/
def looseOperator : Reader Unit := do
  let _ ← satisfy fun token =>
    token.kind == .symbol && ["||", "&&", "|", "^", "&", "==", "!="].contains token.text

/-- A comparison, shift or arithmetic operator. Neighbouring closing angle brackets are one
operator. -/
def tightOperator : Reader Unit :=
  (do
    let _ ← satisfy fun token =>
      token.kind == .symbol && ["<", "<=", "<<", "+", "-", "*", "/", "%"].contains token.text)
  <|> (do
    let _ ← symbol ">"
    match ← maybe (adjoining ">") with
    | none => let _ ← maybe (adjoining "=")
    | some _ =>
      let _ ← maybe (adjoining ">")
      ensure !(← nextIs fun token => token.text == "=" && token.gap.isEmpty))

/-- An operator that assigns. -/
def assignmentOperator : Reader Unit :=
  (do
    let _ ← satisfy fun token =>
      token.kind == .symbol
        && ["=", "+=", "-=", "*=", "/=", "%=", "&=", "|=", "^=", "<<="].contains token.text)
  <|> (do
    let _ ← symbol ">"
    let _ ← adjoining ">"
    let _ ← maybe (adjoining ">")
    let _ ← adjoining "=")

/-- Arguments between parentheses. -/
def arguments (inner : Inner) : Reader (List Mention) := do
  let _ ← symbol "("
  let items ← sepBy (inner.expression .ordinary) (symbol ",")
  closeArguments inner
  pure items.flatten

/-- An expression between parentheses. -/
def parenthesized (inner : Inner) : Reader (List Mention) := do
  let _ ← symbol "("
  let mentions ← inner.expression .ordinary
  let _ ← symbol ")"
  pure mentions

/-- A block of statements. -/
def block (inner : Inner) : Reader (List Mention) := do
  let _ ← symbol "\x7b"
  let statements ← blockItems inner inner.statement
  closeBlock inner
  pure statements.flatten

/-- Items between braces with commas between them and possibly one behind them. -/
def bracedList (item : Reader (List Mention)) : Reader (List Mention) := do
  let _ ← symbol "\x7b"
  let items ← sepBy item (symbol ",")
  let _ ← maybe (symbol ",")
  let _ ← symbol "\x7d"
  pure items.flatten

/-- The initial value of a variable. -/
def initialValue (inner : Inner) : Reader (List Mention) :=
  bracedList inner.initialValue <|> inner.expression .ordinary

/-- A value in an annotation. -/
def elementValue (inner : Inner) : Reader (List Mention) :=
  bracedList inner.elementValue
    <|> ((·.2) <$> annotationUse inner)
    <|> inner.expression .ordinary

/-- A record pattern: its type if that has type arguments, and the mentions in it. Nested
patterns are passed over by their parentheses' own items. -/
def recordPattern (inner : Inner) : Nat → Reader (Option TypePhrase × List Mention)
  | 0 => failure
  | depth + 1 => do
    let line ← line
    let segment ← typeSegment inner primitiveWords
    let phrase : TypePhrase := { type := segmentsType segment [], line }
    let _ ← symbol "("
    let items ← sepBy
      (((·.2) <$> recordPattern inner depth)
        <|> (do
          let type ← plainType inner
          let _ ← identifier []
          pure type.mentions)
        <|> (do
          let _ ← word "_"
          pure [])) (symbol ",")
    let _ ← symbol ")"
    pure (if segment.arguments.isSome then some phrase else none,
      segment.mentions ++ items.flatten)

/-- A record pattern of any depth. -/
def anyRecordPattern (inner : Inner) : Reader (Option TypePhrase × List Mention) :=
  fun tokens => recordPattern inner tokens.length tokens

/-- What an instance test tests for: the mention it makes, and the mentions inside it. -/
def testedType (inner : Inner) : Reader (List Mention × List Mention) := do
  let _ ← word "instanceof"
  let _ ← maybe (word "final")
  (do
    let (phrase, mentions) ← anyRecordPattern inner
    pure (phrase.toList.map (·.mention .instanceof), mentions))
  <|> (do
    let type ← anyType inner
    let _ ← maybe (identifier ["instanceof"])
    pure ([type.mention .instanceof], type.mentions))

/-- A link of an operand chain. -/
inductive Link where
  /-- An operator that binds more loosely than a comparison, and its right operand. -/
  | loose (right : List Mention)
  /-- Any other operator, and its right operand. -/
  | tight (right : List Mention)
  /-- An instance test: its own mention, and those inside its type. -/
  | test (own inside : List Mention)

/-- The mentions of a chain: `before` those up to the last loose operator, `left` those of the
operand that an instance test would take. -/
def chainMentions (before left : List Mention) : List Link → List Mention
  | [] => before ++ left
  | .loose right :: links => chainMentions (before ++ left) right links
  | .tight right :: links => chainMentions before (left ++ right) links
  | .test own inside :: links => chainMentions before (own ++ left ++ inside) links

/-- Operands with binary operators and instance tests between and behind them. -/
def operandChain (operand : Reader Operand) (tested : Reader (List Mention × List Mention)) :
    Reader (List Mention) := do
  let first ← operand
  let links ← many
    ((do
      let (own, inside) ← tested
      pure (Link.test own inside))
    <|> (do
      looseOperator
      let right ← operand
      pure (Link.loose right.mentions))
    <|> (do
      tightOperator
      let right ← operand
      pure (Link.tight right.mentions)))
  pure (chainMentions [] first.mentions links)

/-- What follows `new`: the mention of a created object if it is one, and the mentions inside. -/
def creation (inner : Inner) : Reader (List Mention × List Mention) := do
  let _ ← word "new"
  let leading ← annotationUses inner
  let typed ← maybe (typeArguments inner)
  let trailing ← annotationUses inner
  let type ← simpleType inner
  let lead := leading ++ (typed.getD []).flatMap (·.mentions) ++ trailing ++ type.mentions
  (do
    let values ← arguments inner
    let body ← maybe inner.classBody
    pure ([type.mention .creation], lead ++ values ++ (body.getD []).flatMap (·.mentions)))
  <|> (do
    let sizes ← some1 do
      let mentions ← annotationUses inner
      let _ ← symbol "["
      let size ← inner.expression .ordinary
      let _ ← symbol "]"
      pure (mentions ++ size)
    let dims ← maybe (dimensions inner)
    pure ([], lead ++ sizes.flatten ++ (dims.map (·.2)).getD []))
  <|> (do
    let (_, mentions) ← dimensions inner
    let values ← bracedList inner.initialValue
    pure ([], lead ++ mentions ++ values))

/-- The parameters of a lambda expression and its arrow. -/
def lambdaParameters (inner : Inner) : Reader (List Mention) := do
  let mentions ←
    (do
      let _ ← symbol "("
      let _ ← sepBy1 (identifier []) (symbol ",")
      let _ ← symbol ")"
      pure [])
    <|> ((·.mentions) <$> parameters inner)
  let _ ← symbol "->"
  pure mentions

/-- The body of a lambda expression. -/
def lambdaBody (inner : Inner) : Reader (List Mention) :=
  block inner <|> inner.expression .ordinary

/-- Whether a type could also be an expression. -/
def couldBeExpression : WrittenType → Bool
  | .bare _ => true
  | .applied _ arguments => arguments.isEmpty
  | _ => false

/-- Whether a token starts an operand other than by a sign. -/
def startsOperand (token : Token) : Bool :=
  match token.kind with
  | .word => token.text != "instanceof"
  | .number | .text | .character => true
  | .symbol => ["(", "!", "~"].contains token.text
  | .stray => false

/-- Whether the tokens behind `(name)` make it a cast and not an operand: a sign does not. -/
def continuesCast : List Token → Bool
  | token :: next :: _ =>
    startsOperand token || (["++", "--"].contains token.text && startsOperand next)
  | [token] => startsOperand token
  | [] => false

/-- A cast. -/
def cast (inner : Inner) (place : Place) : Reader Operand := do
  let _ ← symbol "("
  noValueWord
  let ((types, plain), tokens) ← spanned do
    let types ← sepBy1 inner.type (symbol "&")
    pure (types, types.all (couldBeExpression ·.type))
  let _ ← symbol ")"
  let ambiguous := plain && !tokens.any fun token => token.text == "<" || token.text == "@"
  ensure (!ambiguous || (← aheadIs continuesCast))
  let operand ← inner.operand place
  pure
    { mentions := types.map (·.mention .cast) ++ types.flatMap (·.mentions) ++ operand.mentions }

/-- A switch label. -/
def switchLabel (inner : Inner) : Reader (List Mention) :=
  (do
    let _ ← word "default"
    pure [])
  <|> (do
    let _ ← word "case"
    let values ←
      (do
        let mentions ←
          ((·.2) <$> anyRecordPattern inner)
          <|> (do
            let type ← plainType inner
            let _ ← identifier []
            pure type.mentions)
        ensure ((← nextSymbol ":") || (← nextSymbol "->") || (← nextWord "when"))
        pure mentions)
      <|> (do
        let values ← sepBy1 (inner.expression .label) (symbol ",")
        pure values.flatten)
    let guarded ← maybe do
      let _ ← word "when"
      inner.expression .label
    pure (values ++ guarded.getD []))

/-- A rule of a switch: a label, an arrow and what it leads to. -/
def switchRule (inner : Inner) : Reader (List Mention) := do
  let label ← switchLabel inner
  let _ ← symbol "->"
  let body ←
    block inner
    <|> (do
      let _ ← word "throw"
      let mentions ← inner.expression .ordinary
      semicolon inner
      pure mentions)
    <|> (do
      let mentions ← inner.expression .ordinary
      semicolon inner
      pure mentions)
  pure (label ++ body)

/-- A group of a switch: labels with colons and the statements behind them. -/
def switchGroup (inner : Inner) : Reader (List Mention) := do
  let labels ← some1 do
    let label ← switchLabel inner
    let _ ← symbol ":"
    pure label
  let statements ← many inner.statement
  pure (labels.flatten ++ statements.flatten)

/-- A switch, by rules or by groups. -/
def switch (inner : Inner) : Reader (List Mention) := do
  let _ ← word "switch"
  let selector ← parenthesized inner
  let _ ← symbol "\x7b"
  let items ← some1 (switchRule inner) <|> many (switchGroup inner)
  closeBlock inner
  pure (selector ++ items.flatten)

/-- The mention of a call on a target that looks like a type: `start` are the tokens from the
target on, `rest` those behind it. -/
def callMention (start rest : List Token) (target : Operand) : List Mention :=
  if target.shape = .name ∨ target.shape = .select then
    let name := Text.squeeze (sourceText (start.take (start.length - rest.length)))
    if looksLikeType name then
      [{ kind := .staticCall, type := .applied name []
         line := (start.head?.map (·.line)).getD 0 }]
    else []
  else []

/-- What extends an operand on its right: given the tokens from the operand on, a function of
the operand before it. -/
abbrev Suffix := List Token → Operand → Operand

/-- A member access or call behind a dot. -/
def memberSuffix (inner : Inner) (rest : List Token) : Reader Suffix := do
  let _ ← symbol "."
  (do
    let (own, inside) ← creation inner
    pure fun _ operand => { mentions := own ++ operand.mentions ++ inside })
  <|> (do
    let _ ← maybe do
      let _ ← word "super"
      symbol "."
    let typed ← maybe (typeArguments inner)
    let _ ← identifier ["new", "super", "this"]
    let values ← arguments inner
    pure fun start operand =>
      { mentions := callMention start rest operand ++ operand.mentions
          ++ (typed.getD []).flatMap (·.mentions) ++ values })
  <|> (do
    let _ ← maybe do
      let _ ← word "super"
      symbol "."
    let _ ← identifier ["new", "super"]
    pure fun _ operand => { operand with shape := .select })
  <|> (do
    let _ ← satisfy (·.kind == .text)
    pure fun _ operand => { operand with shape := .other })

/-- An index behind an operand. -/
def indexSuffix (inner : Inner) : Reader Suffix := do
  let _ ← symbol "["
  let index ← inner.expression .ordinary
  let _ ← symbol "]"
  pure fun _ operand => { mentions := operand.mentions ++ index, shape := .element }

/-- A method reference behind an operand or a type. -/
def methodReference (inner : Inner) : Reader (List Mention) := do
  let _ ← symbol "::"
  let typed ← maybe (typeArguments inner)
  let _ ← identifier []
  pure ((typed.getD []).flatMap (·.mentions))

/-- Anything that extends an operand on its right. -/
def suffix (inner : Inner) : Reader Suffix := fun tokens =>
  (memberSuffix inner tokens
    <|> indexSuffix inner
    <|> (do
      let mentions ← methodReference inner
      pure fun _ operand => { mentions := operand.mentions ++ mentions })) tokens

/-- A class literal or a method reference that starts with a type. -/
def typeOperand (inner : Inner) : Reader Operand := do
  noValueWord
  let type ← anyType inner
  (do
    let _ ← symbol "."
    let _ ← word "class"
    pure { mentions := type.mention .classLiteral :: type.mentions })
  <|> (do
    let mentions ← methodReference inner
    pure { mentions := type.mentions ++ mentions })

/-- A name, a call without a target, or a lambda expression of one parameter. -/
def nameOperand (inner : Inner) (place : Place) : Reader Operand := do
  let _ ← identifier expressionWords
  (do
    ensure (place = .ordinary)
    let _ ← symbol "->"
    let body ← lambdaBody inner
    pure { mentions := body })
  <|> (do
    let values ← arguments inner
    pure { mentions := values })
  <|> pure { shape := .name }

/-- A literal value. -/
def literal : Reader Operand := do
  let _ ← satisfy fun token =>
    token.kind == .number || token.kind == .text || token.kind == .character
      || (token.kind == .word && ["true", "false", "null", "this"].contains token.text)
  pure {}

/-- The target of a member of the superclass. -/
def superTarget : Reader Operand := do
  let _ ← word "super"
  ensure ((← nextSymbol ".") || (← nextSymbol "::"))
  pure {}

/-- An operand that is created. -/
def createdOperand (inner : Inner) : Reader Operand := do
  let (own, inside) ← creation inner
  pure { mentions := own ++ inside }

/-- An operand between parentheses. -/
def groupedOperand (inner : Inner) : Reader Operand := do
  let mentions ← parenthesized inner
  pure { mentions }

/-- An operand before its suffixes. -/
def primaryHead (inner : Inner) (place : Place) : Reader Operand :=
  createdOperand inner
    <|> typeOperand inner
    <|> literal
    <|> superTarget
    <|> groupedOperand inner
    <|> nameOperand inner place

/-- An operand that suffixes may extend. -/
def primary (inner : Inner) (place : Place) : Reader Operand := fun tokens =>
  (do
    let head ← primaryHead inner place
    let suffixes ← many (suffix inner)
    pure (suffixes.foldl (fun operand (extend : Suffix) => extend tokens operand) head)) tokens

/-- An assignment to an operand that can be assigned to. -/
def assignment (inner : Inner) (place : Place) (target : Operand) : Reader Operand := do
  ensure (target.shape != .other)
  assignmentOperator
  let value ← inner.expression place
  pure { mentions := target.mentions ++ value }

/-- An operand without the signs behind it. -/
def unsignedOperand (inner : Inner) (place : Place) : Reader Operand :=
  (do
    let _ ← satisfy fun token =>
      token.kind == .symbol && ["+", "-", "!", "~", "++", "--"].contains token.text
    let operand ← inner.operand place
    pure { mentions := operand.mentions })
  <|> (do
    ensure (place = .ordinary)
    let mentions ← lambdaParameters inner
    let body ← lambdaBody inner
    pure { mentions := mentions ++ body })
  <|> cast inner place
  <|> (do
    let mentions ← switch inner
    pure { mentions })
  <|> (do
    let target ← primary inner place
    assignment inner place target <|> pure target)

/-- An operand of binary operators. -/
def operand (inner : Inner) (place : Place) : Reader Operand := do
  let unsigned ← unsignedOperand inner place
  let signs ← many (symbol "++" <|> symbol "--")
  pure (if signs.isEmpty then unsigned else { mentions := unsigned.mentions })

/-- An expression. -/
def expression (inner : Inner) (place : Place) : Reader (List Mention) := do
  let condition ← operandChain (operand inner place) (testedType inner)
  let branches ← maybe do
    let _ ← symbol "?"
    let yes ← inner.expression .ordinary
    let _ ← symbol ":"
    let no ← inner.expression place
    pure (yes ++ no)
  pure (condition ++ branches.getD [])

end ClassAtlas.Java
