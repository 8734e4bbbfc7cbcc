import ClassAtlas.Java.Grammar.Member

/-!
# Source files

The grammar's knot is tied by levels: a reader of level `n + 1` reads the phrases inside its
own with the readers of level `n`. Every step to an inner level but one takes a token first, so
twice as many levels as tokens are enough for any source.

A well-formed source is read strictly. Where that fails, the source is read once more with
repairs, which keeps every declaration that can still be told.
-/
namespace ClassAtlas.Java

open Reader

/-- The readers that read no inner phrase. -/
def Inner.none (mode : Mode) : Inner where
  mode
  type := failure
  elementValue := failure
  initialValue := failure
  expression _ := failure
  operand _ := failure
  statement := failure
  classBody := failure
  declaration := failure

/-- The readers of one level more. -/
def Inner.deepen (inner : Inner) : Inner where
  mode := inner.mode
  type := anyType inner
  elementValue := Java.elementValue inner
  initialValue := Java.initialValue inner
  expression := Java.expression inner
  operand := Java.operand inner
  statement := Java.statement inner
  classBody := Java.classBody inner
  declaration := Java.declaration inner

/-- The readers of a level. -/
def Inner.level (mode : Mode) : Nat → Inner
  | 0 => .none mode
  | depth + 1 => (Inner.level mode depth).deepen

/-- An item at the top of a source file. Statements and methods may stand there too. -/
def unitItem (inner : Inner) : Reader UnitItem :=
  (UnitItem.package <$> packageClause inner)
  <|> (do
    match ← importClause inner with
    | some name => pure (.imported name)
    | none => pure .other)
  <|> (do
    moduleDeclaration inner
    pure .other)
  <|> (do
    match ← declaration inner with
    | .nested header members => pure (.declared header members)
    | _ => failure)
  <|> (do
    let _ ← statement inner
    pure .other)
  <|> (do
    let modifiers ← modifiers inner
    noDeclarationWord
    let _ ← methodRest inner modifiers
    pure .other)

/-- The items of a well-formed source, none if it is not. -/
def readStrictly (tokens : List Token) : Option (List UnitItem) :=
  match many (unitItem (.level .strict (2 * tokens.length + 2))) tokens with
  | some (items, []) => some items
  | _ => none

/-- The items that a malformed source still shows: a token that starts none is passed over. -/
def readRepairing (tokens : List Token) : List UnitItem :=
  let tokens := tokens.filter (·.kind != .stray)
  let item := unitItem (.level .repairing (2 * tokens.length + 2))
  match many ((some <$> item) <|> ((fun _ => Option.none) <$> satisfy fun _ => true)) tokens with
  | some (items, _) => items.filterMap id
  | none => []

end ClassAtlas.Java
