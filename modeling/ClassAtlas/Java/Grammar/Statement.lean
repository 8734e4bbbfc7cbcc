import ClassAtlas.Java.Grammar.Expression

/-!
# Statements

A statement is kept as the mentions in it. A declaration of a local type mentions nothing: what
is inside it belongs to the local type.
-/
namespace ClassAtlas.Java

open Reader

/-- The words that start a statement of their own and so no expression or variable. -/
def statementWords : List String :=
  modifierWords ++ declarationWords ++ ["default", "synchronized", "package", "import", "if",
    "while", "for", "do", "return", "break", "continue", "throw", "try", "assert", "case"]

/-- The words that cannot name a local variable. -/
def variableWords : List String := ["instanceof"]

/-- Variables declared together behind their type. -/
def declarators (inner : Inner) (reserved : List String) : Reader (List Declarator) :=
  sepBy1 (declarator inner reserved) (symbol ",")

/-- The mentions in declarators. -/
def declaratorMentions (declarators : List Declarator) : List Mention :=
  declarators.flatMap fun declarator => declarator.mentions ++ declarator.value

/-- A declaration of local variables without its end. -/
def localVariables (inner : Inner) : Reader (List Mention) := do
  noValueWord
  let modifiers ← modifiers inner
  noDeclarationWord
  let type ← plainType inner
  let names ← declarators inner variableWords
  pure (modifiers.mentions ++ type.mentions ++ declaratorMentions names)

/-- A statement that ends in a semicolon. -/
def ended (inner : Inner) (reader : Reader (List Mention)) : Reader (List Mention) := do
  let mentions ← reader
  semicolon inner
  pure mentions

/-- A conditional statement. -/
def ifStatement (inner : Inner) : Reader (List Mention) := do
  let _ ← word "if"
  let condition ← parenthesized inner
  let yes ← inner.statement
  let no ← maybe do
    let _ ← word "else"
    inner.statement
  pure (condition ++ yes ++ no.getD [])

/-- A loop with its condition in front. -/
def whileStatement (inner : Inner) : Reader (List Mention) := do
  let _ ← word "while"
  let condition ← parenthesized inner
  let body ← inner.statement
  pure (condition ++ body)

/-- A loop with its condition behind it. -/
def doStatement (inner : Inner) : Reader (List Mention) := do
  let _ ← word "do"
  let body ← inner.statement
  let _ ← word "while"
  let condition ← parenthesized inner
  semicolon inner
  pure (body ++ condition)

/-- The head of a loop over a collection. -/
def eachHead (inner : Inner) : Reader (List Mention) := do
  noValueWord
  let modifiers ← modifiers inner
  let type ← plainType inner
  let name ← declaredName inner variableWords
  let _ ← symbol ":"
  let items ← expression inner .ordinary
  pure (modifiers.mentions ++ type.mentions ++ name.mentions ++ items)

/-- The head of a counting loop. -/
def countingHead (inner : Inner) : Reader (List Mention) := do
  let start ← localVariables inner <|> do
    let items ← sepBy (expression inner .ordinary) (symbol ",")
    pure items.flatten
  let _ ← symbol ";"
  let condition ← maybe (expression inner .ordinary)
  let _ ← symbol ";"
  let steps ← sepBy (expression inner .ordinary) (symbol ",")
  pure (start ++ condition.getD [] ++ steps.flatten)

/-- A loop with a head. -/
def forStatement (inner : Inner) : Reader (List Mention) := do
  let _ ← word "for"
  let _ ← symbol "("
  let head ←
    (do
      let head ← eachHead inner
      let _ ← symbol ")"
      pure head)
    <|> (do
      let head ← countingHead inner
      let _ ← symbol ")"
      pure head)
  let body ← inner.statement
  pure (head ++ body)

/-- A resource of a try statement: a declared one, or a variable that is one already. -/
def resource (inner : Inner) : Reader (List Mention) :=
  (do
    noValueWord
    let modifiers ← modifiers inner
    let type ← plainType inner
    let name ← declaredName inner variableWords
    let _ ← symbol "="
    let value ← expression inner .ordinary
    pure (modifiers.mentions ++ type.mentions ++ name.mentions ++ value))
  <|> (do
    let target ← primary inner .ordinary
    ensure (target.shape = .name ∨ target.shape = .select)
    pure target.mentions)

/-- The resources of a try statement. -/
def resources (inner : Inner) : Reader (List Mention) := do
  let _ ← symbol "("
  let items ← sepBy1 (resource inner) (symbol ";")
  let _ ← maybe (symbol ";")
  let _ ← symbol ")"
  pure items.flatten

/-- A catch clause. -/
def catchClause (inner : Inner) : Reader (List Mention) := do
  let _ ← word "catch"
  let _ ← symbol "("
  let modifiers ← modifiers inner
  let types ← sepBy1 (plainType inner) (symbol "|")
  let name ← declaredName inner variableWords
  let _ ← symbol ")"
  let body ← block inner
  pure (modifiers.mentions ++ types.flatMap (·.mentions) ++ name.mentions ++ body)

/-- A try statement; without resources it has to catch something or do something finally. -/
def tryStatement (inner : Inner) : Reader (List Mention) := do
  let _ ← word "try"
  let opened ← maybe (resources inner)
  let body ← block inner
  let clauses ← many (catchClause inner)
  let last ← maybe do
    let _ ← word "finally"
    block inner
  ensure (opened.isSome || !clauses.isEmpty || last.isSome)
  pure (opened.getD [] ++ body ++ clauses.flatten ++ last.getD [])

/-- A statement that holds a lock. -/
def synchronizedStatement (inner : Inner) : Reader (List Mention) := do
  let _ ← word "synchronized"
  let lock ← parenthesized inner
  let body ← block inner
  pure (lock ++ body)

/-- A statement that leaves a loop or goes on with it. -/
def jumpStatement (inner : Inner) : Reader (List Mention) :=
  ended inner do
    let _ ← word "break" <|> word "continue"
    let _ ← maybe (identifier [])
    pure []

/-- A statement that returns. -/
def returnStatement (inner : Inner) : Reader (List Mention) :=
  ended inner do
    let _ ← word "return"
    let value ← maybe (expression inner .ordinary)
    pure (value.getD [])

/-- A statement that throws, or yields the value of a switch. -/
def raisingStatement (inner : Inner) : Reader (List Mention) :=
  ended inner do
    let _ ← word "throw" <|> word "yield"
    expression inner .ordinary

/-- A statement that asserts. -/
def assertStatement (inner : Inner) : Reader (List Mention) :=
  ended inner do
    let _ ← word "assert"
    let condition ← expression inner .ordinary
    let detail ← maybe do
      let _ ← symbol ":"
      expression inner .ordinary
    pure (condition ++ detail.getD [])

/-- A statement with a label. -/
def labeledStatement (inner : Inner) : Reader (List Mention) := do
  let _ ← identifier (statementWords ++ expressionWords)
  let _ ← symbol ":"
  inner.statement

/-- The package that a source belongs to. -/
def packageClause (inner : Inner) : Reader String := do
  let _ ← annotationUses inner
  let _ ← word "package"
  let name ← qualifiedName []
  semicolon inner
  pure name

/-- An import: the name it brings in, none if it brings in static members. -/
def importClause (inner : Inner) : Reader (Option String) := do
  let _ ← word "import"
  let static ← maybe (word "static")
  let name ← qualifiedName []
  let onDemand ← maybe do
    let _ ← symbol "."
    symbol "*"
  semicolon inner
  pure <|
    if static.isSome then none else some (if onDemand.isSome then name ++ ".*" else name)

/-- A directive of a module. -/
def moduleDirective (inner : Inner) : Reader Unit := do
  let _ ←
    (do
      let _ ← word "requires"
      let _ ← many (word "transitive" <|> word "static")
      let _ ← qualifiedName [])
    <|> (do
      let _ ← word "exports" <|> word "opens"
      let _ ← qualifiedName ["to"]
      let _ ← maybe do
        let _ ← word "to"
        sepBy1 (qualifiedName []) (symbol ","))
    <|> (do
      let _ ← word "uses"
      let _ ← qualifiedName [])
    <|> (do
      let _ ← word "provides"
      let _ ← qualifiedName ["with"]
      let _ ← word "with"
      let _ ← sepBy1 (qualifiedName []) (symbol ","))
  semicolon inner

/-- A module declaration. -/
def moduleDeclaration (inner : Inner) : Reader Unit := do
  let _ ← annotationUses inner
  let _ ← maybe (word "open")
  let _ ← word "module"
  let _ ← qualifiedName []
  let _ ← symbol "\x7b"
  let _ ← many (moduleDirective inner)
  let _ ← symbol "\x7d"

/-- A statement. -/
def statement (inner : Inner) : Reader (List Mention) :=
  (do
    let _ ← symbol ";"
    pure [])
  <|> block inner
  <|> ifStatement inner
  <|> whileStatement inner
  <|> doStatement inner
  <|> forStatement inner
  <|> tryStatement inner
  <|> synchronizedStatement inner
  <|> switch inner
  <|> jumpStatement inner
  <|> returnStatement inner
  <|> raisingStatement inner
  <|> assertStatement inner
  <|> (do
    let _ ← inner.declaration
    pure [])
  <|> (do
    let _ ← packageClause inner
    pure [])
  <|> (do
    let _ ← importClause inner
    pure [])
  <|> (do
    moduleDeclaration inner
    pure [])
  <|> labeledStatement inner
  <|> plainStatement
where
  /-- A declaration of local variables, or an expression. -/
  plainStatement : Reader (List Mention) := do
    let ownWord ← nextIs fun token =>
      token.kind == .word && !modifierWords.contains token.text
        && statementWords.contains token.text
    ensure !ownWord
    ended inner (localVariables inner) <|> do
      ensure !(← nextIs fun token => modifierWords.contains token.text)
      ended inner (expression inner .ordinary)

end ClassAtlas.Java
