import ClassAtlas.Text.Printable

/-!
# Quoted texts

A quoted text stands between single quotes, or between double quotes when it holds a single
quote and no double quote. Backslashes and the surrounding quote are escaped, tabs and line
ends have letters, and every other character without a printed form is written by its code
point in two, four or eight hexadecimal digits.
-/
namespace ClassAtlas.Text

/-- The hexadecimal digit of a number below sixteen. -/
def hexDigit (value : Nat) : Char :=
  if value < 10 then Char.ofNat (0x30 + value) else Char.ofNat (0x57 + value)

/-- The last `width` hexadecimal digits of a number. -/
def hexDigits : Nat → Nat → List Char
  | 0, _ => []
  | width + 1, value => hexDigits width (value / 16) ++ [hexDigit (value % 16)]

/-- The quote that surrounds a text. -/
def quoteFor (chars : List Char) : Char :=
  if chars.contains '\'' && !chars.contains '"' then '"' else '\''

/-- One character inside a quoted text. -/
def quotedChar (quote c : Char) : List Char :=
  if c = '\\' ∨ c = quote then ['\\', c]
  else if c = '\t' then ['\\', 't']
  else if c = '\n' then ['\\', 'n']
  else if c = '\r' then ['\\', 'r']
  else if isPrintable c then [c]
  else if c.toNat < 0x100 then '\\' :: 'x' :: hexDigits 2 c.toNat
  else if c.toNat < 0x10000 then '\\' :: 'u' :: hexDigits 4 c.toNat
  else '\\' :: 'U' :: hexDigits 8 c.toNat

/-- The characters of a quoted text. -/
def quotedChars (chars : List Char) : List Char :=
  let quote := quoteFor chars
  quote :: (chars.flatMap (quotedChar quote) ++ [quote])

/-- A text between quotes, on one line and free of characters without a printed form. -/
def quoted (text : String) : String := String.ofList (quotedChars text.toList)

end ClassAtlas.Text
