import ClassAtlas.Text.Blank
import ClassAtlas.Text.Identifier

/-!
# Lines of a configuration document

A document is cut into lines before anything in it is read: comments become blanks, and so does a
line break inside brackets of a value. The cut also refuses a document whose keys are not followed
by an equals sign, or whose quotes do not close on their line though they are not tripled. A text
between tripled quotes stays divided into its lines, except that a break behind the opening ones
disappears.
-/
namespace ClassAtlas.Toml

/-- Where a scan stands in its line. -/
inductive Spot where
  /-- Before the first character of a line. -/
  | lineStart
  /-- In the bare part of a key. -/
  | bareKey (afterDot dotted : Bool)
  /-- Behind a part of a key. -/
  | keyGap (dotted : Bool)
  /-- Inside a quoted part of a key. -/
  | quotedKey (quote : Char) (dotted escaped : Bool)
  /-- Inside a header, which ends at its brackets. -/
  | header (double : Bool) (quote : Option Char) (last : Char)
  /-- Behind an equals sign or a header, inside so many brackets and perhaps inside quotes, and
  whether between tripled ones. -/
  | content (depth : Nat) (quote : Option Char) (tripled : Bool)
  /-- In a comment, inside so many brackets, and whether between tripled quotes. -/
  | comment (depth : Nat) (tripled : Bool)
deriving DecidableEq, Repr

/-- What becomes of a character. -/
inductive Mark where
  | keep
  | blank
  | endLine
  /-- A quote like the one before it stands for the character. -/
  | requote
deriving DecidableEq, Repr

/-- Whether a character starts or ends a quoted text. -/
def isQuote (c : Char) : Bool := c == '"' || c == '\''

/-- Whether a character may stand in the bare part of a key. -/
def isKeyChar (c : Char) : Bool :=
  c.isAlphanum || c == '_' || c == '-' || (0x80 ≤ c.toNat && Text.isIdentifierPart c)

/-- Whether the character ahead continues a key behind a gap. -/
def continuesKey (ahead : Option Char) : Bool :=
  (ahead.map fun c => !Text.isBlank c && c != '.').getD false

/-- Start a line. -/
def startLine (c : Char) (ahead : Option Char) : Option (Spot × Mark) :=
  if c = '\n' then some (.lineStart, .endLine)
  else if c = ' ' ∨ c = '\t' then some (.lineStart, .keep)
  else if c = '#' then some (.comment 0 false, .blank)
  else if c = '=' ∨ c = ']' then none
  else if c = '[' then some (.header (ahead == some '[') none ' ', .keep)
  else if isQuote c then some (.quotedKey c false false, .keep)
  else some (.bareKey false false, .keep)

/-- Go on in the bare part of a key. -/
def inBareKey (afterDot dotted : Bool) (c : Char) : Option (Spot × Mark) :=
  if c = '\n' then none
  else if Text.isBlank c then some (.keyGap dotted, .keep)
  else if c = '.' then some (.bareKey true true, .keep)
  else if isKeyChar c then some (.bareKey false dotted, .keep)
  else if isQuote c && afterDot then some (.quotedKey c dotted false, .keep)
  else if c = '=' then some (.content 0 none false, .keep)
  else none

/-- Go on in a quoted part of a key, which a quote behind a backslash does not end. -/
def inQuotedKey (quote : Char) (dotted escaped : Bool) (c : Char) : Option (Spot × Mark) :=
  if c = '\n' then none
  else if c = quote ∧ escaped = false then some (.keyGap dotted, .keep)
  else some (.quotedKey quote dotted (c == '\\' && !escaped), .keep)

/-- Go on behind a part of a key. -/
def inKeyGap (dotted : Bool) (c : Char) (ahead : Option Char) : Option (Spot × Mark) :=
  if c = '\n' then none
  else if Text.isBlank c then
    some (if dotted && continuesKey ahead then .bareKey false true else .keyGap dotted, .keep)
  else if c = '.' then
    some (if continuesKey ahead then .bareKey true true else .keyGap true, .keep)
  else if c = '=' then some (.content 0 none false, .keep)
  else none

/-- Go on in a header. -/
def inHeader (double : Bool) (quote : Option Char) (last c : Char) : Option (Spot × Mark) :=
  match quote with
  | some opener =>
    if c = '\n' then none
    else some (.header double (if c = opener then none else quote) c, .keep)
  | none =>
    if c = '\n' then none
    else if isQuote c then some (.header double (some c) c, .keep)
    else if c = ']' ∧ (double = false ∨ last = ']') then some (.content 0 none false, .keep)
    else some (.header double none c, .keep)

/-- End a line, or go on where brackets are open. -/
def breakLine (depth : Nat) : Spot × Mark :=
  if depth = 0 then (.lineStart, .endLine) else (.content depth none false, .blank)

/-- How many of the last two characters of a line, which is held from its end, are a quote. -/
def quotesBefore (quote : Char) (line : List Char) : Nat :=
  ((line.take 2).takeWhile (· == quote)).length

/-- Whether a double quote is kept from opening or closing a text by a backslash; the second of
three is not. -/
def isEscapedQuote (quote : Char) (line : List Char) : Bool :=
  let before := quotesBefore quote line
  quote == '"' && before != 1
    && ((line.drop before).takeWhile (· == '\\')).length % 2 == 1

/-- What is open behind a quote. The third of three opens or closes a text between tripled ones. -/
def throughQuote (quote : Option Char) (tripled : Bool) (c : Char) (line : List Char) :
    Option Char × Bool :=
  if quote.isSome && quote != some c || isEscapedQuote c line then (quote, tripled)
  else if quotesBefore c line = 2 then (if tripled then none else some c, !tripled)
  else (if quote.isSome then none else some c, tripled)

/-- Break a line inside quotes, which have to be tripled. Behind two quotes the break is another. -/
def breakText (depth : Nat) (quote : Option Char) (tripled : Bool) (line : List Char) :
    Option (Spot × Mark) :=
  if !tripled then none
  else
    match line with
    | first :: second :: _ =>
      some (.content depth quote tripled,
        if isQuote first && second == first then .requote else .endLine)
    | _ => some (.content depth quote tripled, .endLine)

/-- Go on in a value. -/
def inContent (depth : Nat) (quote : Option Char) (tripled : Bool) (c : Char)
    (line : List Char) : Option (Spot × Mark) :=
  if c = '\n' then
    if quote.isSome || tripled then breakText depth quote tripled line else some (breakLine depth)
  else if isQuote c then
    let (next, triple) := throughQuote quote tripled c line
    some (.content depth next triple, .keep)
  else if quote.isSome then some (.content depth quote tripled, .keep)
  else if c = '#' then some (.comment depth tripled, .blank)
  else if c = '[' then some (.content (depth + 1) none tripled, .keep)
  else if c = ']' then
    if depth = 0 then none else some (.content (depth - 1) none tripled, .keep)
  else some (.content depth none tripled, .keep)

/-- Read one character, knowing what is kept of its line and the character ahead; none if the
document is malformed. -/
def advance (spot : Spot) (line : List Char) (c : Char) (ahead : Option Char) :
    Option (Spot × Mark) :=
  match spot with
  | .lineStart => startLine c ahead
  | .bareKey afterDot dotted => inBareKey afterDot dotted c
  | .keyGap dotted => inKeyGap dotted c ahead
  | .quotedKey quote dotted escaped => inQuotedKey quote dotted escaped c
  | .header double quote last => inHeader double quote last c
  | .content depth quote tripled => inContent depth quote tripled c line
  | .comment depth tripled =>
    if c = '\n' then inContent depth none tripled c line else some (.comment depth tripled, .blank)

/-- Whether a document may end at a spot. -/
def Spot.isEnd : Spot → Bool
  | .lineStart | .comment _ _ | .content _ none _ => true
  | _ => false

/-- A line, held from its end, with one more of the quotes that it ends in; of three others the
first is a blank then. -/
def requoted : List Char → List Char
  | first :: second :: third :: rest =>
    first :: first :: second :: (if third = first then ' ' else third) :: rest
  | first :: rest => first :: first :: rest
  | [] => []

/-- The lines from a spot on, `line` being what is kept of the line that is open, from its end. -/
def linesFrom (spot : Spot) (line : List Char) : List Char → Option (List (List Char))
  | [] => if spot.isEnd then some [line.reverse] else none
  | c :: rest =>
    match advance spot line c rest.head? with
    | none => none
    | some (next, .keep) => linesFrom next (c :: line) rest
    | some (next, .blank) => linesFrom next (' ' :: line) rest
    | some (next, .endLine) => (linesFrom next [] rest).map (line.reverse :: ·)
    | some (next, .requote) => linesFrom next (requoted line) rest

/-- Line ends as line feeds: a carriage return, with or without a line feed, is one. -/
def lineFeeds : List Char → List Char
  | '\r' :: '\n' :: rest => '\n' :: lineFeeds rest
  | '\r' :: rest => '\n' :: lineFeeds rest
  | c :: rest => c :: lineFeeds rest
  | [] => []

/-- The lines of a document. -/
def documentLines (document : String) : Option (List (List Char)) :=
  linesFrom .lineStart [] (lineFeeds document.toList)

end ClassAtlas.Toml
