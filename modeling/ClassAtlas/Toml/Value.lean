import ClassAtlas.Text.Quoted
import ClassAtlas.Toml.Moment

/-!
# Values of configuration documents

A document is a table: keys with values, in the order they were set. Values are texts, integers,
numbers with a point, truth values, days and times, arrays and tables. Layers of documents are
merged key by key: where both sides have a table the tables are merged, elsewhere the later side
wins.
-/
namespace ClassAtlas.Toml

/-- A value of a configuration document. -/
inductive Value where
  | text (text : String)
  | integer (number : Int)
  | double (number : Double)
  | boolean (flag : Bool)
  | moment (instant : Moment)
  | array (items : List Value)
  | table (entries : List (String × Value))
deriving Inhabited

/-- A table: keys with values, in the order they were set. -/
abbrev Table := List (String × Value)

namespace Table

/-- The value of a key. -/
def get? (table : Table) (key : String) : Option Value :=
  (table.find? (·.1 == key)).map (·.2)

/-- Whether a key has a value. -/
def contains (table : Table) (key : String) : Bool := table.any (·.1 == key)

/-- Set the value of a key, at its place if it has one and at the end otherwise. -/
def set (table : Table) (key : String) (value : Value) : Table :=
  if table.contains key then table.map fun entry => if entry.1 = key then (key, value) else entry
  else table ++ [(key, value)]

end Table

mutual

/-- A value laid over an earlier one. -/
def Value.over (earlier : Option Value) (later : Value) : Value :=
  match later with
  | .table entries =>
    match earlier with
    | some (.table base) => .table (mergeEntries base entries)
    | _ => .table entries
  | other => other

/-- Entries laid over a table one after the other. -/
def mergeEntries (base : Table) (entries : List (String × Value)) : Table :=
  match entries with
  | [] => base
  | (key, value) :: rest =>
    mergeEntries (Table.set base key (Value.over (Table.get? base key) value)) rest

end

/-- A table with a later one laid over it. -/
def Table.merge (base later : Table) : Table := mergeEntries base later

namespace Value

/-- Whether a value stands for yes: an empty or zero one does not. -/
def isTruthy : Value → Bool
  | .text words => !words.isEmpty
  | .integer number => number ≠ 0
  | .double number => !number.isZero
  | .boolean flag => flag
  | .moment _ => true
  | .array items => !items.isEmpty
  | .table entries => !entries.isEmpty

/-- The entries of a table. -/
def table? : Value → Option Table
  | .table entries => some entries
  | _ => none

/-- The parts of a value one after the other: characters, items or keys. -/
def parts? : Value → Option (List Value)
  | .text words => some (words.toList.map fun c => .text c.toString)
  | .array items => some items
  | .table entries => some (entries.map fun entry => .text entry.1)
  | .integer _ | .double _ | .boolean _ | .moment _ => none

/-- The text of a text value. -/
def text? : Value → Option String
  | .text words => some words
  | _ => none

/-- Whether a character is in a text, or stands alone as an item or a key; numbers, truth values
and moments hold nothing. -/
def holds? (value : Value) (c : Char) : Option Bool :=
  match value with
  | .text words => some (words.toList.contains c)
  | other => other.parts?.map (·.any fun part => part.text? == some c.toString)

mutual

/-- The spelling of a value in running text. -/
def spelled : Value → String
  | .text words => Text.quoted words
  | .integer number => toString number
  | .double number => number.spelled
  | .boolean flag => if flag then "True" else "False"
  | .moment instant => instant.spelled
  | .array items => "[" ++ ", ".intercalate (spelledItems items) ++ "]"
  | .table entries => "\x7b" ++ ", ".intercalate (spelledEntries entries) ++ "\x7d"

/-- The spellings of items. -/
def spelledItems : List Value → List String
  | [] => []
  | item :: items => item.spelled :: spelledItems items

/-- The spellings of entries. -/
def spelledEntries : List (String × Value) → List String
  | [] => []
  | (key, value) :: entries =>
    (Text.quoted key ++ ": " ++ value.spelled) :: spelledEntries entries

end

/-- A value as a text: a text as it is, and the spelling of any other. -/
def asText : Value → String
  | .text words => words
  | other => other.spelled

end Value

end ClassAtlas.Toml
