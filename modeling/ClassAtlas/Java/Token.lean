import ClassAtlas.Text.Identifier
import ClassAtlas.Text.Pattern

/-!
# Tokens of Java source

A source text is cut into pieces without loss: blanks, comments and tokens. A token keeps the
gap before it, so the text between any two tokens can be recovered, and the line it starts on,
counted by line feeds.

Words are not told apart into keywords and identifiers here: what a word is depends on where it
stands. A closing angle bracket is always a token of its own, because two of them close two
argument lists as well as they shift; the reader joins neighbouring ones where it wants an
operator.
-/
namespace ClassAtlas.Java

/-- The kinds of tokens. -/
inductive TokenKind where
  /-- A keyword or identifier. -/
  | word
  /-- A number. -/
  | number
  /-- A string or a text block. -/
  | text
  /-- A character in quotes. -/
  | character
  /-- A separator or operator. -/
  | symbol
  /-- A character that starts no token. -/
  | stray
deriving DecidableEq, Inhabited, Repr

/-- The kinds of pieces of a source text. -/
inductive PieceKind where
  /-- Blanks. -/
  | blank
  /-- A comment. -/
  | comment
  /-- A token. -/
  | token (kind : TokenKind)
deriving DecidableEq, Inhabited, Repr

/-- A piece of a source text. -/
structure Piece where
  /-- Its kind. -/
  kind : PieceKind
  /-- Its characters. -/
  chars : List Char
deriving DecidableEq, Inhabited, Repr

/-- A token in its place. -/
structure Token where
  /-- Its kind. -/
  kind : TokenKind
  /-- Its text. -/
  text : String
  /-- The blanks and comments before it. -/
  gap : String := ""
  /-- The line it starts on. -/
  line : Nat := 1
deriving DecidableEq, Inhabited, Repr

/-- Whether a character is a blank of the source. -/
def isGapChar (c : Char) : Bool := (0x9 ≤ c.toNat && c.toNat ≤ 0xD) || c == ' '

/-- Whether a character is a hexadecimal digit. -/
def isHexDigit (c : Char) : Bool :=
  c.isDigit || ('a' ≤ c && c ≤ 'f') || ('A' ≤ c && c ≤ 'F')

section Number

open Text (Pattern)

/-- A decimal digit. -/
def digit : Pattern := .one Char.isDigit

/-- A hexadecimal digit. -/
def hexadecimal : Pattern := .one isHexDigit

/-- Digits in groups divided by underscores. -/
def grouped (digits : Pattern) : Pattern := .separated (.oneOrMore digits) (.char '_')

/-- A decimal number without a leading zero, or zero. -/
def decimal : Pattern :=
  .alt (.char '0') <| .seq (.one fun c => '1' ≤ c && c ≤ '9') <| .maybe <|
    .seq (.maybe (.char '_')) (.separated (.oneOrMore digit) (.oneOrMore (.char '_')))

/-- The suffix of a long number. -/
def longSuffix : Pattern := .maybe (.anyOf ['l', 'L'])

/-- The suffix of a floating-point number. -/
def floatSuffix : Pattern := .anyOf ['f', 'F', 'd', 'D']

/-- A decimal exponent. -/
def exponent : Pattern :=
  .inOrder [.anyOf ['e', 'E'], .maybe (.anyOf ['+', '-']), grouped digit]

/-- A whole number: decimal, hexadecimal, octal or binary. -/
def wholeNumber : Pattern :=
  .choice
    [.seq decimal longSuffix,
      .inOrder [.char '0', .anyOf ['x', 'X'], grouped hexadecimal, longSuffix],
      .inOrder [.char '0', .maybe (.anyOf ['o', 'O']),
        grouped (.one fun c => '0' ≤ c && c ≤ '7'), longSuffix],
      .inOrder [.char '0', .anyOf ['b', 'B'], grouped (.anyOf ['0', '1']), longSuffix]]

/-- A floating-point number, decimal or hexadecimal. -/
def floatingNumber : Pattern :=
  .choice
    [.inOrder [grouped digit, .char '.', .maybe (grouped digit), .maybe exponent,
        .maybe floatSuffix],
      .inOrder [.char '.', grouped digit, .maybe exponent, .maybe floatSuffix],
      .inOrder [decimal, exponent, .maybe floatSuffix],
      .inOrder [decimal, .maybe exponent, floatSuffix],
      .inOrder [.char '0', .anyOf ['x', 'X'],
        .alt (.seq (grouped hexadecimal) (.maybe (.char '.')))
          (.inOrder [.maybe (grouped hexadecimal), .char '.', grouped hexadecimal]),
        .maybe (.inOrder [.anyOf ['p', 'P'], .maybe (.anyOf ['+', '-']), decimal,
          .maybe floatSuffix])]]

/-- A number. -/
def numberPattern : Pattern := .alt wholeNumber floatingNumber

end Number

/-- The symbols of more than one character, a longer one before its fronts. -/
def longSymbols : List String :=
  ["<<=", "...", "->", "::", "++", "--", "&&", "||", "==", "!=", "<=", "<<", "+=", "-=", "*=",
    "/=", "&=", "|=", "^=", "%="]

/-- The symbols of one character. -/
def shortSymbols : List Char :=
  ['(', ')', '\x7b', '\x7d', '[', ']', ';', ',', '.', '@', '=', '<', '>', '+', '-', '*', '/', '%',
    '&', '|', '^', '!', '~', '?', ':']

/-- The length of a block comment behind its opening, its end included. -/
def commentLength : List Char → Option Nat
  | '*' :: '/' :: _ => some 2
  | _ :: rest => (commentLength rest).map (· + 1)
  | [] => none

/-- The length of a string behind its opening quote, its closing quote included, if so many
hexadecimal digits come first: those that an escaped code point still needs. -/
def stringLength : Nat → List Char → Option Nat
  | _, [] => none
  | needed + 1, c :: rest =>
    if isHexDigit c then (stringLength needed rest).map (· + 1) else none
  | 0, '"' :: _ => some 1
  | 0, '\\' :: 'x' :: rest => (stringLength 2 rest).map (· + 2)
  | 0, '\\' :: 'u' :: '\x7b' :: rest => (stringLength 0 rest).map (· + 3)
  | 0, '\\' :: 'u' :: rest => (stringLength 4 rest).map (· + 2)
  | 0, '\\' :: _ :: rest => (stringLength 0 rest).map (· + 2)
  | 0, _ :: rest => (stringLength 0 rest).map (· + 1)

/-- The length of a text block behind its opening quotes, its closing quotes included. -/
def blockLength : List Char → Option Nat
  | '"' :: '"' :: '"' :: _ => some 3
  | '\\' :: _ :: rest => (blockLength rest).map (· + 2)
  | _ :: rest => (blockLength rest).map (· + 1)
  | [] => none

/-- The length of a quoted character behind its opening quote, its closing quote included;
`started` says whether anything stands between them yet. -/
def characterLength (started : Bool) : List Char → Option Nat
  | '\'' :: _ => if started then some 1 else none
  | '\n' :: _ => none
  | '\\' :: _ :: rest => (characterLength true rest).map (· + 2)
  | _ :: rest => (characterLength true rest).map (· + 1)
  | [] => none

/-- The kind of the piece that starts with a symbol, and its length behind its first character. -/
def symbolPiece (c : Char) (rest : List Char) : PieceKind × Nat :=
  match longSymbols.find? fun symbol => symbol.toList.isPrefixOf (c :: rest) with
  | some symbol => (.token .symbol, symbol.length - 1)
  | none => if shortSymbols.contains c then (.token .symbol, 0) else (.token .stray, 0)

/-- A number that starts here, else a symbol. -/
def numberPiece (c : Char) (rest : List Char) : PieceKind × Nat :=
  match numberPattern.longest (c :: rest) with
  | some (length + 1) => (.token .number, length)
  | _ => symbolPiece c rest

/-- A piece that ends where it is closed, or a stray opening. -/
def closedPiece (kind : TokenKind) (opening : Nat) (length : Option Nat) : PieceKind × Nat :=
  match length with
  | some length => (.token kind, opening + length)
  | none => (.token .stray, 0)

/-- The kind of the piece that starts with a character, and its length behind it. -/
def scanPiece (c : Char) (rest : List Char) : PieceKind × Nat :=
  if isGapChar c then (.blank, (rest.takeWhile isGapChar).length)
  else if Text.isIdentifierStart c then
    (.token .word, (rest.takeWhile Text.isIdentifierPart).length)
  else if c.isDigit then numberPiece c rest
  else
    match c, rest with
    | '/', '/' :: comment => (.comment, 1 + (comment.takeWhile (· != '\n')).length)
    | '/', '*' :: comment =>
      match commentLength comment with
      | some length => (.comment, 1 + length)
      | none => symbolPiece c rest
    | '.', _ => numberPiece c rest
    | '"', '"' :: '"' :: block => closedPiece .text 2 (blockLength block)
    | '"', string => closedPiece .text 0 (stringLength 0 string)
    | '\'', quoted => closedPiece .character 0 (characterLength false quoted)
    | _, _ => symbolPiece c rest

/-- The pieces of a source text. -/
def pieces : List Char → List Piece
  | [] => []
  | c :: rest =>
    let (kind, length) := scanPiece c rest
    ⟨kind, c :: rest.take length⟩ :: pieces (rest.drop length)
termination_by source => source.length
decreasing_by
  rw [List.length_drop, List.length_cons]
  omega

/-- The pieces of a text are the text. -/
theorem pieces_flatten (source : List Char) : (pieces source).flatMap (·.chars) = source := by
  fun_induction pieces source with
  | case1 => rfl
  | case2 c rest kind length scanned ih => simp [ih]

/-- The number of line feeds among characters. -/
def lineFeeds (chars : List Char) : Nat := chars.count '\n'

/-- The tokens of pieces, `gap` being what stands before them since the last token and `line`
the line they start on. -/
def tokensOf (gap : List Char) (line : Nat) : List Piece → List Token
  | [] => []
  | ⟨.token kind, chars⟩ :: rest =>
    { kind, text := String.ofList chars, gap := String.ofList gap, line }
      :: tokensOf [] (line + lineFeeds chars) rest
  | ⟨_, chars⟩ :: rest => tokensOf (gap ++ chars) (line + lineFeeds chars) rest

/-- The source without a byte order mark at its start. -/
def withoutMark : List Char → List Char
  | c :: rest => if c.toNat = 0xFEFF then rest else c :: rest
  | [] => []

/-- The tokens of a source text. -/
def tokenize (source : String) : List Token :=
  tokensOf [] 1 (pieces (withoutMark source.toList))

/-- The source from the first token of a run to its last, without the gap before the run. -/
def sourceText : List Token → String
  | [] => ""
  | token :: rest => token.text ++ String.join (rest.map fun next => next.gap ++ next.text)

end ClassAtlas.Java
