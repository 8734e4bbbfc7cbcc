import ClassAtlas.Toml.Value

/-!
# Writing configuration documents

A table is written as its plain values, one line each, then its arrays of tables as blocks with
doubled brackets, then its tables as blocks in brackets, level by level: the tables inside
tables come behind all tables of the level above. A blank line divides blocks, and a table that
holds nothing but tables has no block of its own.
-/
namespace ClassAtlas.Toml

/-- The pieces between the places where a backslash and an x meet. -/
def hexPieces : List Char → List (List Char)
  | [] => [[]]
  | '\\' :: 'x' :: rest => [] :: hexPieces rest
  | c :: rest =>
    match hexPieces rest with
    | [] => [[c]]
    | piece :: pieces => (c :: piece) :: pieces

/-- Single backslashes for double ones. -/
def halveBackslashes : List Char → List Char
  | '\\' :: '\\' :: rest => '\\' :: halveBackslashes rest
  | c :: rest => c :: halveBackslashes rest
  | [] => []

/-- What joins a text and the piece behind it: an x alone, or a code point behind a backslash
that is still open. -/
def hexJoint (written : List Char) : List Char :=
  let slashes := (written.reverse.takeWhile (· == '\\')).length
  let counted := if slashes < written.length then slashes else slashes - 1
  if (slashes == 0) == (counted % 2 == 0) then ['x'] else ['u', '0', '0']

/-- Pieces put together; backslashes before a joint are single. -/
def joinHex (written : List Char) : List (List Char) → List Char
  | [] => written
  | piece :: pieces =>
    let halved := halveBackslashes written
    joinHex (halved ++ hexJoint halved ++ piece) pieces

/-- A text between double quotes. -/
def writtenText (text : String) : String :=
  let body :=
    match hexPieces (text.toList.flatMap (Text.quotedChar '"')) with
    | [] :: piece :: pieces => joinHex piece pieces
    | piece :: pieces => joinHex piece pieces
    | [] => []
  "\"" ++ String.ofList body ++ "\""

/-- Whether a key is written without quotes. -/
def isBareKey (key : String) : Bool :=
  !key.isEmpty && key.toList.all fun c => c.isAlphanum || c == '_' || c == '-'

/-- A key as written. -/
def writtenKey (key : String) : String := if isBareKey key then key else writtenText key

/-- A number with a point as written: its exponent has no zero in front. -/
def writtenDouble (number : Double) : String :=
  String.ofList (bareExponent number.spelled.toList)
where
  /-- The characters without a zero in front of an exponent. -/
  bareExponent : List Char → List Char
    | 'e' :: sign :: '0' :: rest => 'e' :: sign :: rest
    | c :: rest => c :: bareExponent rest
    | [] => []

/-- Items between brackets, each with a comma behind it. -/
def bracketed (items : List String) : String :=
  "[" ++ String.join (items.map fun item => " " ++ item ++ ",") ++ "]"

mutual

/-- A value as written behind its key. A table inside an array shows its keys only. -/
def writtenValue : Value → String
  | .text text => writtenText text
  | .integer number => toString number
  | .double number => writtenDouble number
  | .boolean flag => if flag then "true" else "false"
  | .moment instant => instant.render
  | .array items => bracketed (writtenItems items)
  | .table entries => bracketed (entries.map fun entry => writtenText entry.1)

/-- Items as written. -/
def writtenItems : List Value → List String
  | [] => []
  | item :: items => writtenValue item :: writtenItems items

end

/-- Whether a value is an array that holds a table. -/
def isTableArray : Value → Bool
  | .array items => items.any fun item => item.table?.isSome
  | _ => false

/-- The lines of a table's plain values. -/
def plainLines (table : Table) : String :=
  String.join (table.filterMap fun (key, value) =>
    if value.table?.isSome || isTableArray value then none
    else some (writtenKey key ++ " = " ++ writtenValue value ++ "\n"))

/-- The block of a table. -/
structure Block where
  /-- The name in its header. -/
  name : String
  /-- Its plain values and arrays of tables as written. -/
  body : String
  /-- Whether it has tables inside it. -/
  hasTables : Bool

/-- Whether a block is written: not if it would be a header alone and its tables speak for it. -/
def Block.isWritten (block : Block) : Bool := !(block.body.isEmpty && block.hasTables)

/-- Levels of blocks side by side. -/
def besideLevels : List (List Block) → List (List Block) → List (List Block)
  | [], right => right
  | left, [] => left
  | first :: left, second :: right => (first ++ second) :: besideLevels left right

/-- Whether a table has tables inside it. -/
def hasTables (table : Table) : Bool := table.any fun entry => entry.2.table?.isSome

mutual

/-- The blocks of the arrays of tables among entries, each name behind a leading text. -/
def arrayBlocks (leading : String) : List (String × Value) → String
  | [] => ""
  | (key, .array items) :: entries =>
    (if isTableArray (.array items) then itemBlocks (leading ++ writtenKey key) items else "")
      ++ arrayBlocks leading entries
  | _ :: entries => arrayBlocks leading entries

/-- The blocks of the tables of an array. -/
def itemBlocks (name : String) : List Value → String
  | [] => ""
  | item :: items => "[[" ++ name ++ "]]\n" ++ itemBody name item ++ itemBlocks name items

/-- What follows the header of a table in an array: its values, a blank line, and the blocks of
the tables inside it that have a value. -/
def itemBody (name : String) : Value → String
  | .table entries =>
    let plain := plainLines entries
    let arrays := arrayBlocks (name ++ ".") entries
    let own := if plain.isEmpty then "\n" ++ arrays else plain ++ arrays ++ "\n"
    own ++ String.join ((blockLevels (name ++ ".") entries).flatten.map fun block =>
      if block.body.isEmpty then "" else "[" ++ block.name ++ "]\n" ++ block.body)
  | _ => "\n"

/-- The blocks of the tables inside entries, level by level, each name behind a leading text. -/
def blockLevels (leading : String) : List (String × Value) → List (List Block)
  | [] => []
  | (key, .table inner) :: entries =>
    let name := leading ++ writtenKey key
    let block : Block :=
      { name, body := plainLines inner ++ arrayBlocks (name ++ ".") inner
        hasTables := hasTables inner }
    besideLevels ([block] :: blockLevels (name ++ ".") inner) (blockLevels leading entries)
  | _ :: entries => blockLevels leading entries

end

/-- A text with a block behind it. -/
def appendBlock (written : String) (block : Block) : String :=
  let divided := written.isEmpty || ['\n', '\n'].isSuffixOf written.toList
  (if divided then written else written ++ "\n") ++ "[" ++ block.name ++ "]\n" ++ block.body

/-- The document that describes a table. -/
def Table.render (table : Table) : String :=
  ((blockLevels "" table).flatten.filter (·.isWritten)).foldl appendBlock
    (plainLines table ++ arrayBlocks "" table)

end ClassAtlas.Toml
