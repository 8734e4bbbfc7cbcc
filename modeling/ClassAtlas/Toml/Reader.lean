import ClassAtlas.Text.Cut
import ClassAtlas.Toml.Line
import ClassAtlas.Toml.Value

/-!
# Reading configuration documents

A document is read line by line. A header line opens a table, or adds one to an array of
tables; any other line sets a key of the open table, or begins a text between tripled quotes that
the lines behind it continue. Headers and keys may be dotted, and their parts quoted. Values are
texts, integers, numbers with a point, truth values, days and times, arrays of one kind and tables.
A key is set once and a table opened once, except that a header may open a table that an earlier,
longer header brought along.

A malformed document is told apart from one that treats a value as something it is not. Digits are
those of ASCII. Two kinds of malformed documents that a laxer reader would take are refused: those
in which brackets close that are not open, and those in which a text inside an inline table runs
over lines.
-/
namespace ClassAtlas.Toml

/-- Why a document has no reading. -/
inductive ReadFault where
  /-- The document is malformed, or says something twice. -/
  | malformed
  /-- A header or key leads through a value that is no table. -/
  | notATable
  /-- A table is added to a value that is no array. -/
  | notAnArray
  /-- A key of an inline table has no value, or a text of an array no end, or an array of texts
  breaks off, at a comma or at a line of a text that is empty. -/
  | valueMissing
deriving DecidableEq, Repr

/-- A reading, or why there is none. -/
abbrev Reading := Except ReadFault

/-- A way to read documents. -/
abbrev DocumentReader := String → Reading Table

/-- A reading that fails for a malformed document. -/
def orMalformed {α : Type} : Option α → Reading α
  | some value => .ok value
  | none => .error .malformed

/-- The characters without so many at either end. -/
def dropEnds (count : Nat) (chars : List Char) : List Char :=
  (chars.drop count).take (chars.length - 2 * count)

/-! ## Texts -/

/-- The value of a hexadecimal digit. -/
def hexValue? (c : Char) : Option Nat :=
  if c.isDigit then some (c.toNat - 0x30)
  else if 'a' ≤ c ∧ c ≤ 'f' then some (c.toNat - 0x57)
  else if 'A' ≤ c ∧ c ≤ 'F' then some (c.toNat - 0x37)
  else none

/-- The value of digits in a base. -/
def digitsValue? (base : Nat) (chars : List Char) : Option Nat :=
  if chars.isEmpty then none
  else
    chars.foldlM (fun value c => do
      let digit ← hexValue? c
      if digit < base then some (value * base + digit) else none) 0

/-- The character of a code point in hexadecimal digits. -/
def escapedPoint? (digits : List Char) : Option Char := do
  let code ← digitsValue? 16 digits
  if h : code.isValidChar then some (Char.ofNatAux code h) else none

/-- The character that a letter stands for behind a backslash. -/
def escapedLetter? : Char → Option Char
  | '0' => some '\x00'
  | 'b' => some '\x08'
  | 'f' => some '\x0c'
  | 'n' => some '\n'
  | 'r' => some '\r'
  | 't' => some '\t'
  | '"' => some '"'
  | '\\' => some '\\'
  | _ => none

/-- The characters that a text with escapes stands for. -/
def unescape : List Char → Option (List Char)
  | '\\' :: 'u' :: a :: b :: c :: d :: rest => do
    let point ← escapedPoint? [a, b, c, d]
    (point :: ·) <$> unescape rest
  | '\\' :: 'U' :: a :: b :: c :: d :: e :: f :: g :: h :: rest => do
    let point ← escapedPoint? [a, b, c, d, e, f, g, h]
    (point :: ·) <$> unescape rest
  | '\\' :: c :: rest => do
    let meant ← escapedLetter? c
    (meant :: ·) <$> unescape rest
  | c :: rest => (c :: ·) <$> unescape rest
  | [] => some []

/-- The characters that a quoted key stands for; code points stay as they are written. -/
def unescapeKey : List Char → Option (List Char)
  | '\\' :: c :: rest =>
    if c = 'u' ∨ c = 'U' then ('\\' :: c :: ·) <$> unescapeKey rest
    else do
      let meant ← escapedLetter? c
      (meant :: ·) <$> unescapeKey rest
  | c :: rest => (c :: ·) <$> unescapeKey rest
  | [] => some []

/-- Whether characters end in an odd number of backslashes. -/
def endsEscaped (chars : List Char) : Bool :=
  (chars.reverse.takeWhile (· == '\\')).length % 2 == 1

/-- Whether nothing follows the closing quote, given the pieces between the quotes. -/
def closesLast (triple : Bool) (quotes : Nat) (closed : Bool) : List (List Char) → Bool
  | [] => true
  | piece :: pieces =>
    if piece.isEmpty then
      closesLast triple (if triple then quotes + 1 else quotes) (!triple || closed) pieces
    else if endsEscaped piece then closesLast triple quotes closed pieces
    else if closed then false
    else if triple && quotes ≤ 1 then closesLast triple 0 closed pieces
    else closesLast triple quotes true pieces

/-- Whether a quoted text ends with its closing quote. -/
def isClosed (quote : Char) (chars : List Char) : Bool :=
  match Text.splitAll (· == quote) chars.tail with
  | [] :: [] :: pieces => closesLast true 0 false pieces
  | pieces => closesLast false 0 false pieces

/-- The text between quotes, which may be tripled; escapes are resolved first. -/
def readText (quote : Char) (chars : List Char) : Option String := do
  if !isClosed quote chars then none
  let resolved ← if quote = '"' then unescape chars else some chars
  let single :=
    match resolved with
    | [_, second] => if second = quote then dropEnds 2 resolved else resolved
    | _ :: second :: third :: _ =>
      if second = quote ∧ third = quote then dropEnds 2 resolved else resolved
    | _ => resolved
  some (String.ofList (dropEnds 1 single))

/-! ## Numbers -/

/-- Whether characters hold two neighbours. -/
def holdsPair (first second : Char) (chars : List Char) : Bool :=
  (chars.zip chars.tail).contains (first, second)

/-- Whether a number has no leading zero and its underscores stand between digits. -/
def isTidyNumber (chars : List Char) : Bool :=
  match chars with
  | [] => false
  | [c] => c != '_'
  | first :: second :: rest =>
    let unsigned := if first = '+' ∨ first = '-' then second :: rest else chars
    let leadingZero :=
      match first, unsigned with
      | '0', _ => !(['.', 'o', 'b', 'x'].contains second)
      | _, '0' :: next :: _ => next != '.'
      | _, _ => false
    first != '_' && chars.getLast? != some '_' && !holdsPair '_' '.' chars
      && !holdsPair '.' '_' chars && !leadingZero && !holdsPair '_' '_' unsigned

/-- The value of digits, in the base that a leading zero and a letter name. -/
def readNatural (chars : List Char) : Option Nat :=
  match chars with
  | '0' :: 'x' :: digits | '0' :: 'X' :: digits => digitsValue? 16 digits
  | '0' :: 'o' :: digits | '0' :: 'O' :: digits => digitsValue? 8 digits
  | '0' :: 'b' :: digits | '0' :: 'B' :: digits => digitsValue? 2 digits
  | '0' :: digits => if digits.all (· == '0') then some 0 else none
  | digits => digitsValue? 10 digits

/-- The value of an integer. -/
def readInteger (chars : List Char) : Option Int :=
  match chars with
  | '-' :: digits => (readNatural digits).map fun number => -(number : Int)
  | '+' :: digits => (readNatural digits).map Int.ofNat
  | digits => (readNatural digits).map Int.ofNat

/-- Whether digits have no underscores but between them. -/
def isTidyUnderscored (digits : List Char) : Bool :=
  digits.head? != some '_' && digits.getLast? != some '_' && !holdsPair '_' '_' digits

/-- The sign in front of a number, and what stands behind it. -/
def splitSign : List Char → Bool × List Char
  | '-' :: rest => (true, rest)
  | '+' :: rest => (false, rest)
  | rest => (false, rest)

/-- The value of decimal digits with a sign, underscores between them and blanks around them. -/
def readDecimalInteger (chars : List Char) : Option Int :=
  let (negative, digits) := splitSign (Text.trimEnds chars)
  if isTidyUnderscored digits then do
    let value ← digitsValue? 10 (digits.filter (· != '_'))
    some (if negative then -(value : Int) else value)
  else none

/-- A decimal number as written. -/
structure WrittenDecimal where
  /-- The digits before the point. -/
  whole : List Char
  /-- The digits behind it. -/
  behind : List Char
  /-- The power of ten that it is multiplied by. -/
  exponent : Int

/-- A decimal number without a sign, with underscores between its digits. -/
def readDecimal? (chars : List Char) : Option WrittenDecimal := do
  let isDigit (c : Char) := c.isDigit || c == '_'
  let whole := chars.takeWhile isDigit
  let (behind, rest) :=
    match chars.dropWhile isDigit with
    | '.' :: rest => (rest.takeWhile isDigit, rest.dropWhile isDigit)
    | rest => ([], rest)
  let exponent ←
    match rest with
    | [] => some 0
    | e :: power =>
      if (e == 'e' || e == 'E') && !(power.head?.map Text.isBlank).getD true then
        readDecimalInteger power
      else none
  if (whole ++ behind).isEmpty || !isTidyUnderscored whole || !isTidyUnderscored behind then none
  else
    some { whole := whole.filter (· != '_'), behind := behind.filter (· != '_'), exponent }

/-- Characters with capital letters of ASCII as small ones. -/
def lowered (chars : List Char) : List Char := chars.map Char.toLower

/-- Whether characters are a number that may have a point, an exponent or blanks around it. -/
def isNumber (chars : List Char) : Bool :=
  let (_, number) := splitSign (Text.trimEnds chars)
  ["inf".toList, "infinity".toList, "nan".toList].contains (lowered number)
    || (readDecimal? number).isSome

/-- Whether characters without a sign and underscores have a point or an exponent. -/
def isPointed (chars : List Char) : Bool :=
  chars.contains '.' || (!chars.contains 'x' && (lowered chars).contains 'e')

/-- The number with a point that characters without a sign and underscores spell. Digits stand in
front of its point and behind it. -/
def readDouble (chars : List Char) : Option Double := do
  let missing :=
    match Text.splitFirst (· == '.') chars with
    | some (_, behind) => behind.isEmpty
    | none => false
  if missing || !(chars.head?.map (·.isDigit)).getD false then none
  else
    let written ← readDecimal? chars
    let digits ← digitsValue? 10 (written.whole ++ written.behind)
    some (.ofDecimal digits (written.exponent - written.behind.length))

/-- The number that characters spell, a pointed one or else an integer. -/
def readNumber (chars : List Char) : Option Value :=
  let (negative, signed) := splitSign chars
  let number := signed.filter (· != '_')
  let double (value : Double) : Value := .double (if negative then value.opposite else value)
  if isPointed number then double <$> readDouble number
  else if lowered number = "inf".toList then some (double (.infinite false))
  else if lowered number = "nan".toList then some (double .nan)
  else
    (readInteger (Text.trimEnds number)).map fun value =>
      .integer (if negative then -value else value)

/-! ## Days and times -/

/-- The integer in a stretch of characters, which is not negative. -/
def stretch? (chars : List Char) (start stop : Nat) : Option Nat := do
  let value ← readDecimalInteger ((chars.drop start).take (stop - start))
  if 0 ≤ value then some value.toNat else none

/-- Whether characters start with a time of day. -/
def startsTime : List Char → Bool
  | a :: b :: ':' :: c :: d :: ':' :: e :: f :: _ => [a, b, c, d, e, f].all (·.isDigit)
  | _ => false

/-- The time of day that characters start with: up to six digits behind its point are millionths. -/
def readTime? (chars : List Char) : Option Clock := do
  let behind :=
    match chars.drop 8 with
    | '.' :: rest => (rest.takeWhile (·.isDigit)).take 6
    | _ => []
  let parts ← if behind.length < 3 then some 0 else digitsValue? 10 behind
  Clock.of? (← stretch? chars 0 2) (← stretch? chars 3 5) (← stretch? chars 6 8) parts

/-- The minutes that a zone is ahead. -/
def readZone? (chars : List Char) : Option Int := do
  if chars = ['Z'] then some 0
  else
    let hours ← readDecimalInteger ((chars.drop 1).take 2)
    let minutes ← readDecimalInteger ((chars.drop 4).take 2)
    let ahead := hours * 60 + minutes
    some (if chars.head? = some '-' then -ahead else ahead)

/-- The characters before a zone and the zone, which a sign begins. -/
def splitZone (chars : List Char) : List Char × Option (List Char) :=
  if chars.getLast? = some 'Z' ∨ chars.getLast? = some 'z' then (chars.dropLast, some ['Z'])
  else
    let sign := if chars.contains '+' then '+' else '-'
    match Text.splitFirst (· == sign) chars with
    | some (before, zone) => (before, some (sign :: zone))
    | none => (chars, none)

/-- The millionths that stand behind the point of a second. -/
def readFraction? (chars : List Char) : Option Int := do
  let value ← readDecimalInteger chars
  if chars.length ≤ 6 then some (value * Double.powerOfTen (6 - chars.length))
  else some (value.tdiv (Double.powerOfTen (chars.length - 6)))

/-- The millionths of a second and the zone behind a time; what is no such is left out. -/
def readTail (chars : List Char) : Int × Option Int :=
  match chars with
  | [] => (0, none)
  | '.' :: rest =>
    let (fraction, zone) := splitZone rest
    let read := do
      let ahead ← zone.mapM readZone?
      let parts ← readFraction? fraction
      some (parts, ahead)
    read.getD (0, none)
  | zone => (0, readZone? zone)

/-- The day that characters are, or the day and the time, with or without a zone. Their parts stand
at fixed places. -/
def readMoment? (chars : List Char) : Option Moment :=
  if !chars.tail.contains '-' then none
  else do
    let day ← Day.of? (← stretch? chars 0 4) (← stretch? chars 5 7) (← stretch? chars 8 10)
    if chars.length = 10 then some (.day day)
    else
      let (parts, zone) := readTail (chars.drop 19)
      if parts < 0 then none
      else
        let clock ← Clock.of? (← stretch? chars 11 13) (← stretch? chars 14 16)
          (← stretch? chars 17 19) parts.toNat
        some (.both day clock zone)

/-! ## Arrays and inline tables -/

/-- The pieces between commas outside brackets. -/
def splitOutsideBrackets (depth : Int) : List Char → List (List Char)
  | [] => [[]]
  | c :: rest =>
    if c = ',' ∧ depth = 0 then [] :: splitOutsideBrackets depth rest
    else
      let next := if c = '[' then depth + 1 else if c = ']' then depth - 1 else depth
      match splitOutsideBrackets next rest with
      | [] => [[c]]
      | piece :: pieces => (c :: piece) :: pieces

/-- Whether a piece that starts with a quote also ends with it. -/
def isBounded (piece : List Char) : Bool :=
  match piece with
  | [] => true
  | first :: rest =>
    piece.getLast? == some first && !(endsEscaped rest.dropLast)

/-- Whether a piece begins with three quotes and ends in less. -/
def isOpenTriple (piece : List Char) : Bool :=
  match piece, piece.reverse with
  | first :: second :: third :: _, _ :: before :: earlier :: _ =>
    first == second && first == third && before != first && earlier != first
  | _, _ => false

/-- Pieces of texts put together again where a comma inside quotes divided them, `open?` being
the text that is not complete. The last piece stands as it is unless it completes a text. -/
def joinTexts (open? : Option (List Char)) : List (List Char) → Reading (List (List Char))
  | [] => if open?.isSome then .error .valueMissing else .ok []
  | piece :: pieces =>
    let whole := (open?.map (· ++ ',' :: piece)).getD piece
    let bounded := isBounded (Text.trimEnds whole) && !isOpenTriple (Text.trimEnds whole)
    if bounded || (open?.isNone && pieces.isEmpty) then
      (whole :: ·) <$> joinTexts none pieces
    else joinTexts (some whole) pieces

/-- The groups in braces, `group` being the open one from its end; what lies between groups is
skipped. -/
def braceGroups (depth : Nat) (inText escaped : Bool) (group : List Char) :
    List Char → List (List Char)
  | [] => []
  | c :: rest =>
    if isQuote c ∧ 0 < depth then
      braceGroups depth (if inText && escaped then inText else !inText) false (c :: group) rest
    else if c = '\x7b' ∧ inText = false then
      braceGroups (depth + 1) false false (c :: group) rest
    else if c = '\x7d' ∧ inText = false ∧ depth = 1 then
      (c :: group).reverse :: braceGroups 0 false false [] rest
    else if c = '\x7d' ∧ inText = false ∧ 1 < depth then
      braceGroups (depth - 1) false false (c :: group) rest
    else if depth = 0 then braceGroups 0 false false [] rest
    else braceGroups depth inText (c == '\\' && !escaped) (c :: group) rest

/-- The items of an array as written. -/
def arrayItems (chars : List Char) : Reading (List (List Char)) := do
  let inner := dropEnds 1 chars
  let nested :=
    match Text.splitFirst (· == '[') inner with
    | some (before, _) => (Text.trimEnds before).isEmpty
    | none => false
  let pieces ←
    if nested then pure (splitOutsideBrackets 0 inner)
    else
      match Text.trimEnds inner with
      | '\x7b' :: _ => pure (braceGroups 0 false false [] inner)
      | first :: _ =>
        let pieces := Text.splitAll (· == ',') inner
        if isQuote first then joinTexts none pieces else pure pieces
      | [] => pure []
  pure ((pieces.map Text.trimEnds).filter (!·.isEmpty))

/-- Whether the value of an entry of an inline table is complete. -/
def isWholeValue (value : List Char) : Bool :=
  match value.head?, value.getLast? with
  | some first, some last =>
    (first == last && isQuote first) || first == '-' || first.isDigit
      || value == "true".toList || value == "false".toList || (first == '[' && last == ']')
      || (first == '\x7b' && last == '\x7d')
  | _, _ => false

/-- The entries of an inline table as written, from the pieces between commas. -/
def inlineEntries : Nat → List (List Char) → Reading (List (List Char))
  | steps + 1, piece :: pieces =>
    match Text.splitFirst (· == '=') piece with
    | none => .error .malformed
    | some (_, value) =>
      let value := Text.trimEnds value
      if value.isEmpty then .error .valueMissing
      else if isWholeValue value then (piece :: ·) <$> inlineEntries steps pieces
      else
        match pieces with
        | next :: rest => inlineEntries steps ((piece ++ ',' :: next) :: rest)
        | [] => .error .malformed
  | _, _ => .ok []

/-! ## Keys -/

/-- The pieces outside and inside quotes in turn, outside first. -/
def quoteSegments (quote : Option Char) : List Char → List (List Char)
  | [] => [[]]
  | c :: rest =>
    match quote with
    | none =>
      if isQuote c then [] :: quoteSegments (some c) rest else extend c (quoteSegments none rest)
    | some opener =>
      if c = opener then [] :: quoteSegments none rest
      else extend c (quoteSegments quote rest)
where
  /-- A character in front of the first piece. -/
  extend (c : Char) : List (List Char) → List (List Char)
    | [] => [[c]]
    | piece :: pieces => (c :: piece) :: pieces

/-- The characters before and after the first accepted one outside quotes. -/
def splitOutsideQuotes (accepts : Char → Bool) (quote : Option Char) :
    List Char → Option (List Char × List Char)
  | [] => none
  | c :: rest =>
    if quote.isNone && accepts c then some ([], rest)
    else
      let next :=
        match quote with
        | none => if isQuote c then some c else none
        | some opener => if c = opener then none else quote
      (splitOutsideQuotes accepts next rest).map fun (before, after) => (c :: before, after)

/-- The key and the value of an entry as written: what stands before and after its first equals
sign outside quotes, which a backslash keeps from closing. -/
def splitEntry (quote : Option Char) (escaped : Bool) :
    List Char → Option (List Char × List Char)
  | [] => none
  | c :: rest =>
    if quote.isNone && c == '=' then some ([], rest)
    else
      let next :=
        match quote with
        | none => if isQuote c then some c else none
        | some opener => if c = opener && !escaped then none else quote
      let after := splitEntry next (quote.isSome && c == '\\' && !escaped) rest
      after.map fun (key, value) => (c :: key, value)

/-- The levels of a dotted key that has quoted parts. -/
def quotedLevels : Bool → List (List Char) → List (List Char)
  | _, [] => []
  | false, segment :: segments =>
    (Text.splitAll (· == '.') segment).map Text.trimEnds ++ quotedLevels true segments
  | true, segment :: segments => segment :: quotedLevels false segments

/-- The tables that a key leads through, and its last part. -/
def keyLevels (key : List Char) : Option (List String × String) :=
  if key.contains '.' then do
    let levels :=
      if key.any isQuote then quotedLevels false (quoteSegments none key)
      else Text.splitAll (· == '.') key
    let levels := (levels.reverse.dropWhile (·.isEmpty)).reverse
    let last ← levels.getLast?
    some ((levels.dropLast.filter (!·.isEmpty)).map String.ofList,
      String.ofList (Text.trimEnds last))
  else do
    let first ← key.head?
    if isQuote first && key.getLast? == some first then
      (([], ·) ∘ String.ofList) <$> unescapeKey (dropEnds 1 key)
    else some ([], String.ofList key)

/-- Set a key below levels of tables, or only open the levels if there is no value yet. The key is
not set before. -/
def assign (key : String) (value : Option Value) : List String → Table → Reading Table
  | [], table =>
    if table.contains key then .error .malformed
    else .ok ((value.map (table.set key)).getD table)
  | level :: levels, table =>
    match table.get? level with
    | none => do
      let inner ← assign key value levels []
      pure (table.set level (.table inner))
    | some (.table inner) => do
      let inner ← assign key value levels inner
      pure (table.set level (.table inner))
    | some _ => .error (if levels.isEmpty then .malformed else .notATable)

/-! ## Values and entries -/

/-- The kinds of values, which the items of one array share. -/
def Value.kind : Value → Nat
  | .text _ => 0
  | .integer _ => 1
  | .boolean _ => 2
  | .array _ => 3
  | .table _ => 4
  | .double _ => 5
  | .moment (.time _) => 6
  | .moment _ => 7

/-- Whether all values have the kind of the first. -/
def haveOneKind : List Value → Bool
  | [] => true
  | first :: rest => rest.all (·.kind == first.kind)

/-- Whether a value as written may follow its equals sign: what touches it is quoted, in
brackets, a truth value, a number or a moment. -/
def mayFollow (value : List Char) : Bool :=
  match value with
  | [] => true
  | first :: _ =>
    let bare := Text.trimEnds value
    first == ' ' || first == '\t' || isQuote first || first == '[' || first == '\x7b'
      || bare == "true".toList || bare == "false".toList || isNumber value
      || (readMoment? value).isSome || startsTime value

/-- An entry divided at its first equals sign that a value may follow, so many being tried; what
stands before it belongs to the key. -/
def settleEntry (key value : List Char) : Nat → Option (List Char × List Char)
  | 0 => none
  | steps + 1 =>
    if mayFollow value then some (key, value)
    else
      match Text.splitFirst (· == '=') value with
      | some (before, after) => settleEntry (key ++ '=' :: before) after steps
      | none => none

/-- A text between tripled quotes, or an array of such texts, that its line does not end. -/
structure OpenText where
  /-- The key of the value. -/
  key : String
  /-- What is read of the value. -/
  read : List Char
  /-- Whether the next line goes on without a break and without the blanks in front of it. -/
  joined : Bool

/-- A text that is open behind the characters of a line: a backslash at the end of the line takes
the break away. -/
def OpenText.behind (key : String) (read : List Char) : OpenText :=
  if endsEscaped read then { key, read := read.dropLast, joined := true }
  else { key, read := read ++ ['\n'], joined := false }

/-- Whether an array as written has texts, its last character aside. -/
def isTextArray (value : List Char) : Bool :=
  value.head? == some '[' && ((Text.trimEnds (dropEnds 1 value)).head?.map isQuote).getD false

/-- The last text of an array as written, given the pieces between commas from the last one. -/
def lastText : List (List Char) → Reading (List Char)
  | piece :: before :: pieces =>
    match piece.head? with
    | none => .error .valueMissing
    | some c =>
      if isQuote c then .ok piece else lastText ((before ++ ',' :: piece) :: pieces)
  | [piece] => .ok piece
  | [] => .ok []
termination_by pieces => pieces.length

/-- Whether characters begin with three quotes and end in less than three others. -/
def opensText : List Char → Reading Bool
  | first :: second :: rest =>
    if !isQuote first || second != first then .ok false
    else
      match rest with
      | [] => .error .valueMissing
      | third :: more =>
        .ok (third == first
          && !(3 ≤ more.length && (more.reverse.take 3).all (· == first)))
  | [first] => if isQuote first then .error .valueMissing else .ok false
  | [] => .error .valueMissing

/-- Whether a value as written is open at the end of its line. -/
def isOpenValue (value : List Char) : Reading Bool :=
  if value.length < 3 then .ok false
  else if isTextArray value && value.getLast? != some ']' then do
    let last ← lastText (Text.splitAll (· == ',') (Text.trimEnds value.tail)).reverse
    opensText last
  else opensText value

mutual

/-- The value that trimmed characters spell, a number only if it is `tidy`. -/
def readValue (tidy : Bool) (chars : List Char) : Nat → Reading Value
  | 0 => .error .malformed
  | fuel + 1 =>
    match chars with
    | [] => .error .malformed
    | first :: _ =>
      if chars = "true".toList then .ok (.boolean true)
      else if chars = "false".toList then .ok (.boolean false)
      else if isQuote first then .text <$> orMalformed (readText first chars)
      else if first = '[' then do
        let written ← arrayItems chars
        let items ← readItems written fuel
        if haveOneKind items then pure (.array items) else .error .malformed
      else if first = '\x7b' then .table <$> readInline [] (dropEnds 1 chars) fuel
      else if startsTime chars then
        (fun clock => .moment (.time clock)) <$> orMalformed (readTime? chars)
      else
        match readMoment? chars with
        | some moment => .ok (.moment moment)
        | none => if tidy then orMalformed (readNumber chars) else .error .malformed

/-- The values of the items of an array. -/
def readItems (items : List (List Char)) : Nat → Reading (List Value)
  | 0 => .error .malformed
  | fuel + 1 =>
    match items with
    | [] => .ok []
    | item :: rest => do
      let value ← readValue true item fuel
      let values ← readItems rest fuel
      pure (value :: values)

/-- A table with the entries of an inline table set. -/
def readInline (table : Table) (inner : List Char) : Nat → Reading Table
  | 0 => .error .malformed
  | fuel + 1 => do
    let pieces := if (Text.trimEnds inner).isEmpty then [] else Text.splitAll (· == ',') inner
    let entries ← inlineEntries pieces.length pieces
    readEntries table entries fuel

/-- A table with entries set one after the other, up to one that is open at its end. -/
def readEntries (table : Table) (entries : List (List Char)) : Nat → Reading Table
  | 0 => .error .malformed
  | fuel + 1 =>
    match entries with
    | [] => .ok table
    | entry :: rest => do
      let (next, opened) ← readEntry table entry fuel
      if opened.isSome then pure next else readEntries next rest fuel

/-- A table with the key of an entry set, or with its levels open and the text that it begins. -/
def readEntry (table : Table) (entry : List Char) : Nat → Reading (Table × Option OpenText)
  | 0 => .error .malformed
  | fuel + 1 => do
    let (key, value) ← orMalformed (splitEntry none false entry)
    let (key, value) ← orMalformed (settleEntry key value entry.length)
    let (levels, last) ← orMalformed (keyLevels (Text.trimEnds key))
    let value := Text.trimEnds value
    if ← isOpenValue value then
      let opened ← assign last none levels table
      pure (opened, some (OpenText.behind last value))
    else
      let read ← readValue (isTidyNumber value) value fuel
      let next ← assign last (some read) levels table
      pure (next, none)

end

/-- The steps that reading an entry takes at most: each consumes a character or opens a
level. -/
def readingSteps (entry : List Char) : Nat := 5 * entry.length + 5

/-! ## Headers -/

/-- The table under a value, the last one of an array of tables, with the way back to the value
and whether it stands in an array. -/
def tableWithin? : Value → Option (Table × (Table → Value) × Bool)
  | .table entries => some (entries, .table, false)
  | .array items =>
    match items.getLast? with
    | some (.table entries) =>
      some (entries, fun table => .array (items.dropLast ++ [.table table]), true)
    | _ => none
  | _ => none

/-- Open the table that a header names inside a value, given the names of tables that earlier
headers brought along and have not opened. -/
def openTable (double : Bool) :
    List String → List String → Value → Reading (Value × List String)
  | [], brought, here => .ok (here, brought)
  | name :: names, brought, here =>
    match tableWithin? here with
    | none => .error .notATable
    | some (table, back, inArray) =>
      let opening := names.isEmpty
      let lenient := inArray && !double
      match table.get? name with
      | none =>
        if opening then
          .ok (back (table.set name (if double then .array [.table []] else .table [])), brought)
        else do
          let brought := if lenient then brought else brought ++ [name]
          let (inner, brought) ← openTable double names brought (.table [])
          pure (back (table.set name inner), brought)
      | some inner =>
        if !opening then do
          let (inner, brought) ← openTable double names brought inner
          pure (back (table.set name inner), brought)
        else if lenient then .ok (here, brought)
        else if brought.contains name then
          if double then .error .malformed else .ok (here, brought.erase name)
        else if double then
          match inner with
          | .array items => .ok (back (table.set name (.array (items ++ [.table []]))), brought)
          | _ => .error .notAnArray
        else .error .malformed

/-- Change the table that names lead to inside a value, and tell what the change tells; an array of
tables is changed in its last one if its header is `double`. -/
def changeAt {α : Type} (double : Bool) (change : Table → Reading (Table × α)) :
    List String → Value → Reading (Value × α)
  | names, here =>
    match names, tableWithin? here with
    | _, none => .error .malformed
    | [], some (table, back, inArray) =>
      if inArray && !double then .error .malformed
      else do
        let (next, told) ← change table
        pure (back next, told)
    | name :: names, some (table, back, _) => do
      let (inner, told) ← changeAt double change names ((table.get? name).getD (.table []))
      pure (back (table.set name inner), told)

/-- The characters before the end of a header, which nothing may follow. -/
def headerBody? (double : Bool) (chars : List Char) : Option (List Char) := do
  let (before, after) ← splitOutsideQuotes (· == ']') none chars
  if double then
    match after with
    | ']' :: rest => if (Text.trimEnds rest).isEmpty then some before else none
    | _ => none
  else if (Text.trimEnds after).isEmpty then some before
  else none

/-- The parts of a header between dots outside quotes. -/
def headerParts : Nat → List Char → List (List Char)
  | 0, chars => [chars]
  | steps + 1, chars =>
    match splitOutsideQuotes (· == '.') none chars with
    | some (before, after) => before :: headerParts steps after
    | none => [chars]

/-- The name that a part of a header gives. -/
def headerName? (part : List Char) : Option String :=
  let part := Text.trimEnds part
  match part with
  | [] => none
  | first :: rest =>
    if isQuote first then
      if rest.getLast? == some first && 1 < rest.length then some (String.ofList rest.dropLast)
      else none
    else if part.all fun c => c.isAlphanum || c == '_' || c == '-' then some (String.ofList part)
    else none

/-- The header that a line is: whether it adds to an array, and the names it leads through. -/
def readHeader? (line : List Char) : Option (Bool × List String) :=
  match line with
  | '[' :: '[' :: rest => do
    let body ← headerBody? true rest
    let names ← (headerParts body.length body).mapM headerName?
    some (true, names)
  | '[' :: rest => do
    let body ← headerBody? false rest
    let names ← (headerParts body.length body).mapM headerName?
    some (false, names)
  | _ => none

/-! ## Documents -/

/-- A document as far as it is read. -/
structure Draft where
  /-- The table of the whole document. -/
  root : Value := .table []
  /-- The names that lead to the open table. -/
  place : List String := []
  /-- Whether its header added it to an array. -/
  double : Bool := false
  /-- The names of tables that headers brought along and none opened. -/
  brought : List String := []
  /-- The text that the next line continues. -/
  opened : Option OpenText := none

/-- Change the open table. -/
def Draft.change (draft : Draft) (change : Table → Reading (Table × Option OpenText)) :
    Reading Draft := do
  let (root, opened) ← changeAt draft.double change draft.place draft.root
  pure { draft with root, opened }

/-- Whether a value is closed by a line, the last of its own. -/
def closesText (value line : List Char) : Reading Bool :=
  match value.head? with
  | none => .ok false
  | some '[' => if line.isEmpty then .error .valueMissing else .ok (line.getLast? == some ']')
  | some quote => .ok (2 < line.length && (line.reverse.take 3).all (· == quote))

/-- Continue an open text with a line: a key whose text is closed is set, even if it was before. -/
def Draft.continueText (draft : Draft) (text : OpenText) (line : List Char) : Reading Draft := do
  let line := if text.joined || !text.read.contains '\n' then Text.trimEnds line else line
  if line.isEmpty && text.joined then pure draft
  else
    let value := text.read ++ line
    if ← closesText value line then
      let read ← readValue true value (readingSteps value)
      draft.change fun table => .ok (table.set text.key read, none)
    else pure { draft with opened := some (OpenText.behind text.key value) }

/-- Read a line that does not continue a text, without blanks at its ends. One without an equals
sign says nothing. -/
def Draft.readEntryLine (draft : Draft) (line : List Char) : Reading Draft := do
  match line.head? with
  | none => pure draft
  | some '[' =>
    let (double, names) ← orMalformed (readHeader? line)
    let (root, brought) ← openTable double names draft.brought draft.root
    pure { root, place := names, double, brought }
  | some '\x7b' =>
    if line.getLast? = some '\x7d' then
      draft.change fun table => do
        pure (← readInline table (dropEnds 1 line) (readingSteps line), none)
    else .error .malformed
  | some _ =>
    if line.contains '=' then
      draft.change fun table => readEntry table line (readingSteps line)
    else pure draft

/-- Read one line. -/
def Draft.readLine (draft : Draft) (line : List Char) : Reading Draft :=
  match draft.opened with
  | some text => draft.continueText text line
  | none => draft.readEntryLine (Text.trimEnds line)

/-- The table that a document describes. A text that no line closes is left out. -/
def read : DocumentReader := fun document => do
  let lines ← orMalformed (documentLines document)
  let draft ← lines.foldlM Draft.readLine {}
  pure (draft.root.table?.getD [])

example : (read "half = 1.5\nleap = 2024-02-29\nnote = \"\"\"\none\ntwo\"\"\"\n").toOption.map
    (fun table => (Value.table table).spelled) =
      some "\x7b'half': 1.5, 'leap': datetime.date(2024, 2, 29), 'note': 'one\\ntwo'\x7d" := by
  decide +kernel

end ClassAtlas.Toml
