import Mathlib.Algebra.Group.Nat.Defs
import ClassAtlas.Text.Quoted

/-!
# Reading quoted texts back

Quoting loses nothing: the surrounding quote is the first character, and behind it every
character is read back from its escape, whatever follows. The reader needs no table of printable
characters, since a backslash alone decides whether a character stands for itself.
-/
namespace ClassAtlas.Text

/-- The value of a hexadecimal digit. -/
def hexDigitValue (digit : Char) : Nat :=
  if digit.toNat < 0x57 then digit.toNat - 0x30 else digit.toNat - 0x57

/-- The number that hexadecimal digits spell. -/
def hexValue (digits : List Char) : Nat :=
  digits.foldl (fun value digit => 16 * value + hexDigitValue digit) 0

/-- The character that stands for the first of some quoted characters, and what follows it. -/
def readQuotedChar : List Char → Option (Char × List Char)
  | [] => none
  | '\\' :: mark :: rest =>
    if mark = 't' then some ('\t', rest)
    else if mark = 'n' then some ('\n', rest)
    else if mark = 'r' then some ('\r', rest)
    else if mark = 'x' then some (Char.ofNat (hexValue (rest.take 2)), rest.drop 2)
    else if mark = 'u' then some (Char.ofNat (hexValue (rest.take 4)), rest.drop 4)
    else if mark = 'U' then some (Char.ofNat (hexValue (rest.take 8)), rest.drop 8)
    else some (mark, rest)
  | c :: rest => some (c, rest)

/-- Every hexadecimal digit has the value it was written for. -/
theorem hexDigitValue_hexDigit : ∀ value < 16, hexDigitValue (hexDigit value) = value := by
  decide

/-- No hexadecimal digit is a backslash or a quote. -/
theorem hexDigit_plain : ∀ value < 16,
    hexDigit value ≠ '\\' ∧ hexDigit value ≠ '\'' ∧ hexDigit value ≠ '"' := by
  decide

/-- A width of digits is as long as it says. -/
@[simp]
theorem length_hexDigits (width value : Nat) : (hexDigits width value).length = width := by
  induction width generalizing value with
  | zero => rfl
  | succ width ih => simp [hexDigits, ih]

/-- Digits of a width spell the number they were taken from, as far as the width reaches. -/
theorem hexValue_hexDigits (width value : Nat) (fits : value < 16 ^ width) :
    hexValue (hexDigits width value) = value := by
  induction width generalizing value with
  | zero =>
    have zero : value = 0 := by simpa using fits
    subst zero
    rfl
  | succ width ih =>
    have high : value / 16 < 16 ^ width := by
      rw [Nat.pow_succ] at fits
      omega
    have low := hexDigitValue_hexDigit (value % 16) (Nat.mod_lt _ (by decide))
    have front := ih (value / 16) high
    unfold hexValue at front ⊢
    rw [hexDigits, List.foldl_append, front, List.foldl_cons, List.foldl_nil, low]
    omega

/-- Each character of a width of digits is a digit. -/
theorem mem_hexDigits {width value : Nat} {c : Char} (member : c ∈ hexDigits width value) :
    ∃ digit < 16, c = hexDigit digit := by
  induction width generalizing value with
  | zero => simp [hexDigits] at member
  | succ width ih =>
    rcases List.mem_append.1 member with front | last
    · exact ih front
    · exact ⟨value % 16, Nat.mod_lt _ (by decide), List.mem_singleton.1 last⟩

/-- A code point written in a sufficient width is read back. -/
theorem ofNat_hexValue (c : Char) (width : Nat) (fits : c.toNat < 16 ^ width) :
    Char.ofNat (hexValue (hexDigits width c.toNat)) = c := by
  rw [hexValue_hexDigits width c.toNat fits]
  exact Char.ofNat_toNat c

/-- A code point fits eight hexadecimal digits. -/
theorem toNat_lt_width (c : Char) : c.toNat < 16 ^ 8 := by
  have small := c.val.toNat_lt
  exact small

/-- The quotes that surround a text are the single and the double one. -/
theorem quoteFor_eq (chars : List Char) : quoteFor chars = '"' ∨ quoteFor chars = '\'' := by
  unfold quoteFor
  split
  · exact Or.inl rfl
  · exact Or.inr rfl

/-- The first of quoted characters is read back before any text. -/
theorem readQuotedChar_quotedChar {quote : Char} (isQuote : quote = '"' ∨ quote = '\'')
    (c : Char) (rest : List Char) :
    readQuotedChar (quotedChar quote c ++ rest) = some (c, rest) := by
  unfold quotedChar
  split
  · -- An escaped backslash or quote: its mark is none of the letters.
    next escaped =>
    rcases escaped with rfl | rfl
    · rfl
    · rcases isQuote with rfl | rfl <;> rfl
  split
  · next tab => subst tab; rfl
  split
  · next newline => subst newline; rfl
  split
  · next carriage => subst carriage; rfl
  split
  · -- A character that stands for itself: it is no backslash.
    next notEscaped _ _ _ _ =>
    have plain : c ≠ '\\' := fun same => notEscaped (Or.inl same)
    simp [readQuotedChar, plain]
  split
  · next small =>
    have read := ofNat_hexValue c 2 small
    simp [readQuotedChar, read]
  split
  · next small =>
    have read := ofNat_hexValue c 4 small
    simp [readQuotedChar, read]
  · have read := ofNat_hexValue c 8 (toNat_lt_width c)
    simp [readQuotedChar, read]

/-- Characters quoted by one quote are determined by the quoted text. -/
theorem eq_of_quoted_body_eq {quote : Char} (isQuote : quote = '"' ∨ quote = '\'')
    {left right : List Char}
    (same : left.flatMap (quotedChar quote) = right.flatMap (quotedChar quote)) :
    left = right := by
  induction left generalizing right with
  | nil =>
    cases right with
    | nil => rfl
    | cons c rest =>
      have read := readQuotedChar_quotedChar isQuote c (rest.flatMap (quotedChar quote))
      rw [← List.flatMap_cons, ← same] at read
      contradiction
  | cons c rest ih =>
    have read := readQuotedChar_quotedChar isQuote c (rest.flatMap (quotedChar quote))
    rw [← List.flatMap_cons, same] at read
    cases right with
    | nil => contradiction
    | cons other later =>
      rw [List.flatMap_cons, readQuotedChar_quotedChar isQuote, Option.some.injEq,
        Prod.mk.injEq] at read
      rw [read.1, ih read.2.symm]

/-- No two texts are quoted alike. -/
theorem quoted_injective {left right : String} (same : quoted left = quoted right) :
    left = right := by
  have chars := String.ofList_injective same
  simp only [quotedChars, List.cons.injEq] at chars
  obtain ⟨quote, body⟩ := chars
  rw [quote] at body
  have inner := List.append_cancel_right body
  exact String.toList_injective (eq_of_quoted_body_eq (quoteFor_eq right.toList) inner)

end ClassAtlas.Text
