/-!
# Reading bytes as text

Bytes are read as UTF-8. Where they are not, the longest run that starts a character without
completing it, or else the single byte, is read as the replacement character.
-/
namespace ClassAtlas.Text

/-- The character that stands for bytes that are no text. -/
def replacement : Char := '�'

/-- How a lead byte continues: the number of bytes that follow, its payload, and the bounds
of the byte after it. -/
def leadByte (byte : Nat) : Option (Nat × Nat × Nat × Nat) :=
  if 0xC2 ≤ byte ∧ byte ≤ 0xDF then some (1, byte - 0xC0, 0x80, 0xBF)
  else if byte = 0xE0 then some (2, 0, 0xA0, 0xBF)
  else if byte = 0xED then some (2, 0xD, 0x80, 0x9F)
  else if 0xE1 ≤ byte ∧ byte ≤ 0xEF then some (2, byte - 0xE0, 0x80, 0xBF)
  else if byte = 0xF0 then some (3, 0, 0x90, 0xBF)
  else if 0xF1 ≤ byte ∧ byte ≤ 0xF3 then some (3, byte - 0xF0, 0x80, 0xBF)
  else if byte = 0xF4 then some (3, 4, 0x80, 0x8F)
  else none

/-- A character that is being read: the bytes it still needs, its payload so far, and the
bounds of the next byte. -/
structure Pending where
  /-- Bytes still needed. -/
  needed : Nat
  /-- The payload read so far. -/
  payload : Nat
  /-- Least next byte. -/
  low : Nat
  /-- Greatest next byte. -/
  high : Nat

/-- Read the first byte of a character. -/
def startByte (byte : Nat) : List Char × Option Pending :=
  if byte < 0x80 then ([Char.ofNat byte], none)
  else
    match leadByte byte with
    | some (needed, payload, low, high) => ([], some ⟨needed, payload, low, high⟩)
    | none => ([replacement], none)

/-- Read bytes, `pending` being the character that they continue. -/
def decodeFrom (pending : Option Pending) : List UInt8 → List Char
  | [] => if pending.isSome then [replacement] else []
  | byte :: bytes =>
    match pending with
    | none =>
      let (chars, next) := startByte byte.toNat
      chars ++ decodeFrom next bytes
    | some character =>
      if character.low ≤ byte.toNat ∧ byte.toNat ≤ character.high then
        let payload := character.payload * 0x40 + (byte.toNat - 0x80)
        if character.needed ≤ 1 then Char.ofNat payload :: decodeFrom none bytes
        else decodeFrom (some ⟨character.needed - 1, payload, 0x80, 0xBF⟩) bytes
      else
        let (chars, next) := startByte byte.toNat
        replacement :: (chars ++ decodeFrom next bytes)

/-- The text that bytes spell. -/
def decodeUtf8 (bytes : List UInt8) : String := String.ofList (decodeFrom none bytes)

end ClassAtlas.Text
