import ClassAtlas.Java.Token

/-!
# Readers of token lists

A reader takes a value from the front of a token list and leaves the tokens behind it, or fails
and leaves the choice to another reader. Readers are total: a repetition stops when its item
fails, and takes no more items than there are tokens.
-/
namespace ClassAtlas.Java

/-- A reader of a value from the front of a token list. -/
abbrev Reader := StateT (List Token) Option

namespace Reader

variable {α β : Type}

/-- The next token, if it is accepted. -/
def satisfy (accepts : Token → Bool) : Reader Token := fun tokens =>
  match tokens with
  | token :: rest => if accepts token then some (token, rest) else none
  | [] => none

/-- Whether the next token is accepted, leaving it. -/
def nextIs (accepts : Token → Bool) : Reader Bool := fun tokens =>
  some ((tokens.head?.map accepts).getD false, tokens)

/-- Whether the tokens ahead are accepted, leaving them. -/
def aheadIs (accepts : List Token → Bool) : Reader Bool := fun tokens =>
  some (accepts tokens, tokens)

/-- Fail unless a condition holds. -/
def ensure (condition : Bool) : Reader Unit := if condition then pure () else failure

/-- The line of the next token. -/
def line : Reader Nat := fun tokens => some ((tokens.head?.map (·.line)).getD 0, tokens)

/-- The value of a reader with the tokens it took. -/
def spanned (reader : Reader α) : Reader (α × List Token) := fun tokens =>
  match reader tokens with
  | some (value, rest) => some ((value, tokens.take (tokens.length - rest.length)), rest)
  | none => none

/-- The value of a reader, or none where it fails. -/
def maybe (reader : Reader α) : Reader (Option α) := (some <$> reader) <|> pure none

/-- At most so many items, as many as there are. -/
def upTo (item : Reader α) : Nat → Reader (List α)
  | 0 => pure []
  | limit + 1 =>
    (do
      let first ← item
      let rest ← upTo item limit
      pure (first :: rest)) <|> pure []

/-- As many items as there are. -/
def many (item : Reader α) : Reader (List α) := fun tokens => upTo item tokens.length tokens

/-- One or more items. -/
def some1 (item : Reader α) : Reader (List α) := do
  let first ← item
  let rest ← many item
  pure (first :: rest)

/-- One or more items with separators between them. -/
def sepBy1 (item : Reader α) (separator : Reader β) : Reader (List α) := do
  let first ← item
  let rest ← many (do let _ ← separator; item)
  pure (first :: rest)

/-- Items with separators between them, if any. -/
def sepBy (item : Reader α) (separator : Reader β) : Reader (List α) :=
  sepBy1 item separator <|> pure []

/-- A given symbol. -/
def symbol (text : String) : Reader Token :=
  satisfy fun token => token.kind == .symbol && token.text == text

/-- A given word. -/
def word (text : String) : Reader Token :=
  satisfy fun token => token.kind == .word && token.text == text

/-- Any word that is not reserved where it stands. -/
def identifier (reserved : List String) : Reader Token :=
  satisfy fun token => token.kind == .word && !reserved.contains token.text

/-- Whether the next token is a given symbol. -/
def nextSymbol (text : String) : Reader Bool :=
  nextIs fun token => token.kind == .symbol && token.text == text

/-- Whether the next token is a given word. -/
def nextWord (text : String) : Reader Bool :=
  nextIs fun token => token.kind == .word && token.text == text

/-- A symbol that follows the token before it without a gap. -/
def adjoining (text : String) : Reader Token :=
  satisfy fun token => token.kind == .symbol && token.text == text && token.gap.isEmpty

end Reader

end ClassAtlas.Java
