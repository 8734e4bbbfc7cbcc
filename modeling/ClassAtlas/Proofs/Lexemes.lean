import ClassAtlas.Java.Token
import Mathlib.Tactic.Common

/-!
# Scanning written tokens

A token is written as some spaces and its own text. Scanning a text that starts so gives that token
and the tokens of what is behind it, as long as that does not continue the token: no character of
an identifier behind a word, nothing behind a dot or an opening angle bracket that would make a
number or a longer symbol of it.
-/
namespace ClassAtlas

namespace Text

/-- What holds of every code point of ASCII holds of every character of it. -/
theorem forall_ascii (holds : Char → Bool) (check : ∀ code < 128, holds (Char.ofNat code) = true)
    {c : Char} (ascii : c.toNat < 128) : holds c = true := by
  have here := check c.toNat ascii
  rwa [Char.ofNat_toNat] at here

/-- A character that may start an identifier is no blank of a source and no digit. -/
theorem apart_of_isIdentifierStart {c : Char} (start : isIdentifierStart c = true) :
    Java.isGapChar c = false ∧ c.isDigit = false := by
  by_cases ascii : c.toNat < 128
  · have check := forall_ascii
      (fun c => !isIdentifierStart c || (!Java.isGapChar c && !c.isDigit)) (by decide) ascii
    simpa [start] using check
  · constructor
    · have space : c ≠ ' ' := by
        rintro rfl
        exact ascii (by decide)
      simp only [Java.isGapChar, Bool.or_eq_false_iff, Bool.and_eq_false_iff,
        decide_eq_false_iff_not, beq_eq_false_iff_ne]
      exact ⟨Or.inr (by omega), space⟩
    · have high : ¬ c.toNat ≤ 57 := by omega
      simp only [Char.isDigit, Bool.and_eq_false_iff, decide_eq_false_iff_not]
      exact Or.inr high

/-- An identifier starts with a character that may start one. -/
theorem head?_of_isIdentifier {word : String} (identifier : isIdentifier word = true) :
    ∃ c, word.toList.head? = some c ∧ isIdentifierStart c = true := by
  unfold isIdentifier at identifier
  split at identifier
  · exact absurd identifier Bool.false_ne_true
  · next c tail spelled =>
    rw [Bool.and_eq_true] at identifier
    rw [spelled]
    exact ⟨c, rfl, identifier.1⟩

/-- A character that may start an identifier is none that may not. -/
theorem ne_of_isIdentifierStart {c other : Char} (start : isIdentifierStart c = true)
    (different : isIdentifierStart other = false) : c ≠ other := by
  rintro rfl
  exact Bool.false_ne_true (different.symm.trans start)

end Text

namespace Java

/-! ## Symbols -/

/-- A short symbol stands alone before a character that continues no long symbol behind it. -/
theorem symbolPiece_alone {c next : Char} (short : shortSymbols.contains c = true)
    {continuing : List Char}
    (long : ∀ symbol ∈ longSymbols, symbol.toList.head? = some c →
      symbol.toList[1]? ∈ continuing.map some)
    (alone : next ∉ continuing) (rest : List Char) :
    symbolPiece c (next :: rest) = (.token .symbol, 0) := by
  have lengths : ∀ symbol ∈ longSymbols, 2 ≤ symbol.toList.length := by decide
  have none : longSymbols.find? (fun symbol => symbol.toList.isPrefixOf (c :: next :: rest)) =
      none := by
    apply List.find?_eq_none.2
    intro symbol listed found
    have front := List.isPrefixOf_iff_prefix.1 found
    have length := lengths symbol listed
    have behind := long symbol listed
    cases spelled : symbol.toList with
    | nil =>
      rw [spelled] at length
      exact absurd length (by decide)
    | cons first tail =>
      cases tail with
      | nil =>
        rw [spelled, List.length_singleton] at length
        exact absurd length (by decide)
      | cons second tail =>
        rw [spelled, List.cons_prefix_cons, List.cons_prefix_cons] at front
        obtain ⟨rfl, rfl, _⟩ := front
        rw [spelled] at behind
        obtain ⟨other, listed, same⟩ := List.mem_map.1 (behind rfl)
        obtain rfl := Option.some.inj same
        exact alone listed
  rw [symbolPiece, none, short]
  rfl

/-- No number starts with a dot and the start of an identifier. -/
theorem longest_dot {next : Char} (start : Text.isIdentifierStart next = true) (rest : List Char) :
    numberPattern.longest ('.' :: next :: rest) = none := by
  have digits := (Text.apart_of_isIdentifierStart start).2
  let behind : Text.Pattern := .inOrder [grouped digit, .maybe exponent, .maybe floatSuffix]
  have first : numberPattern.derivative '.' = behind := rfl
  have second : behind.derivative next = .never := by
    simp [behind, Text.Pattern.inOrder, Text.Pattern.derivative, Text.Pattern.isNullable, grouped,
      Text.Pattern.separated, Text.Pattern.oneOrMore, digit, digits, Text.Pattern.andThen]
  have stuck : behind.longest (next :: rest) = none := by
    rw [Text.Pattern.longest, second]
    rfl
  rw [Text.Pattern.longest, first, stuck]
  rfl

/-- The symbols that no character behind them continues. -/
def closedSymbols : List Char := ['\x7b', '\x7d', '[', ']', ';', ',', '>', '?']

/-- A symbol that nothing continues is scanned alone. -/
theorem scanPiece_closed {c : Char} (closed : c ∈ closedSymbols) (rest : List Char) :
    scanPiece c rest = (.token .symbol, 0) := by
  simp only [closedSymbols, List.mem_cons, List.not_mem_nil, or_false] at closed
  rcases closed with rfl | rfl | rfl | rfl | rfl | rfl | rfl | rfl <;> rfl

/-- An opening angle bracket is scanned alone before an identifier or a wildcard. -/
theorem scanPiece_angle {next : Char} {rest : List Char} (first : rest.head? = some next)
    (start : Text.isIdentifierStart next = true ∨ next = '?') :
    scanPiece '<' rest = (.token .symbol, 0) := by
  obtain ⟨rest, rfl⟩ := List.head?_eq_some_iff.1 first
  have alone : next ∉ ['<', '='] := by
    rcases start with start | rfl
    · have symbols : ['<', '='].all (fun c => !Text.isIdentifierStart c) = true := by decide
      intro listed
      have other := List.all_eq_true.1 symbols next listed
      rw [start] at other
      exact Bool.false_ne_true other
    · decide
  have long : ∀ symbol ∈ longSymbols, symbol.toList.head? = some '<' →
      symbol.toList[1]? ∈ ['<', '='].map some := by decide
  exact symbolPiece_alone (by decide) long alone rest

/-- A dot is scanned alone before an identifier. -/
theorem scanPiece_dot {next : Char} {rest : List Char} (first : rest.head? = some next)
    (start : Text.isIdentifierStart next = true) : scanPiece '.' rest = (.token .symbol, 0) := by
  obtain ⟨rest, rfl⟩ := List.head?_eq_some_iff.1 first
  have alone : next ∉ ['.'] := by
    intro listed
    exact Text.ne_of_isIdentifierStart start (by decide) (List.mem_singleton.1 listed)
  have long : ∀ symbol ∈ longSymbols, symbol.toList.head? = some '.' →
      symbol.toList[1]? ∈ ['.'].map some := by decide
  have symbol := symbolPiece_alone (c := '.') (by decide) long alone rest
  change numberPiece '.' (next :: rest) = _
  rw [numberPiece, longest_dot start]
  exact symbol

/-! ## Tokens -/

/-- A word behind a number of spaces. -/
def wordToken (spaces : Nat) (text : String) : Token :=
  { kind := .word, text, gap := String.ofList (List.replicate spaces ' ') }

/-- A symbol behind a number of spaces. -/
def symbolToken (spaces : Nat) (text : String) : Token :=
  { kind := .symbol, text, gap := String.ofList (List.replicate spaces ' ') }

/-- The tokens of characters on the first line. -/
def scan (chars : List Char) : List Token := tokensOf [] 1 (pieces chars)

/-- Spaces before a character that is no blank are the gap before it. -/
theorem scan_spaces (spaces : Nat) {c : Char} (visible : isGapChar c = false)
    (rest : List Char) :
    scan (List.replicate spaces ' ' ++ c :: rest) =
      tokensOf (List.replicate spaces ' ') 1 (pieces (c :: rest)) := by
  cases spaces with
  | zero => rfl
  | succ spaces =>
    have taken : ((List.replicate spaces ' ' ++ c :: rest).takeWhile isGapChar).length =
        spaces := by
      rw [List.takeWhile_append_of_pos, List.takeWhile_cons_of_neg, List.append_nil,
        List.length_replicate]
      · rw [visible]
        exact Bool.false_ne_true
      · intro blank listed
        rw [List.eq_of_mem_replicate listed]
        rfl
    have scanned : scanPiece ' ' (List.replicate spaces ' ' ++ c :: rest) = (.blank, spaces) := by
      change (PieceKind.blank, _) = _
      rw [taken]
    have feeds : lineFeeds (' ' :: List.replicate spaces ' ') = 0 := by
      rw [lineFeeds, List.count_eq_zero]
      intro listed
      exact absurd (List.eq_of_mem_replicate (n := spaces + 1) listed) (by decide)
    rw [scan, List.replicate_succ, List.cons_append, pieces, scanned]
    dsimp only
    rw [List.take_left' List.length_replicate, List.drop_left' List.length_replicate]
    change tokensOf (' ' :: List.replicate spaces ' ') (1 + lineFeeds _) _ = _
    rw [feeds]

/-- A symbol that is scanned alone behind spaces is a token. -/
theorem scan_symbol (spaces : Nat) {c : Char} {rest : List Char}
    (scanned : scanPiece c rest = (.token .symbol, 0)) :
    scan (List.replicate spaces ' ' ++ c :: rest) =
      symbolToken spaces (String.ofList [c]) :: scan rest := by
  have visible : isGapChar c = false := by
    by_contra blank
    unfold scanPiece at scanned
    rw [if_pos (by simpa using blank)] at scanned
    exact absurd (Prod.mk.inj scanned).1 (by decide)
  have feeds : lineFeeds [c] = 0 := by
    rw [lineFeeds, List.count_eq_zero]
    intro feed
    rw [← List.mem_singleton.1 feed] at visible
    exact absurd visible (by decide)
  rw [scan_spaces spaces visible, pieces, scanned]
  dsimp only
  rw [List.take_zero, List.drop_zero, tokensOf, feeds]
  rfl

/-- No identifier has a line feed. -/
theorem lineFeeds_identifier {c : Char} {tail : List Char}
    (start : Text.isIdentifierStart c = true) (parts : tail.all Text.isIdentifierPart = true) :
    lineFeeds (c :: tail) = 0 := by
  rw [lineFeeds, List.count_eq_zero]
  intro feed
  rcases List.mem_cons.1 feed with rfl | inside
  · exact absurd start (by decide)
  · exact absurd (List.all_eq_true.1 parts _ inside) (by decide)

/-- An identifier behind spaces is a token, unless what is behind it goes on with it. -/
theorem scan_word (spaces : Nat) {word : String} (identifier : Text.isIdentifier word = true)
    {rest : List Char} (ended : ∀ c ∈ rest.head?, Text.isIdentifierPart c = false) :
    scan (List.replicate spaces ' ' ++ (word.toList ++ rest)) =
      wordToken spaces word :: scan rest := by
  unfold Text.isIdentifier at identifier
  split at identifier
  · exact absurd identifier Bool.false_ne_true
  · next c tail spelled =>
    rw [Bool.and_eq_true] at identifier
    obtain ⟨start, parts⟩ := identifier
    have visible := (Text.apart_of_isIdentifierStart start).1
    have stopped : rest.takeWhile Text.isIdentifierPart = [] := by
      cases rest with
      | nil => rfl
      | cons next rest =>
        apply List.takeWhile_cons_of_neg
        rw [ended next rfl]
        exact Bool.false_ne_true
    have taken : ((tail ++ rest).takeWhile Text.isIdentifierPart).length = tail.length := by
      rw [List.takeWhile_append_of_pos (List.all_eq_true.1 parts), stopped, List.append_nil]
    have scanned : scanPiece c (tail ++ rest) = (.token .word, tail.length) := by
      unfold scanPiece
      rw [if_neg (by rw [visible]; exact Bool.false_ne_true), if_pos start, taken]
    rw [spelled, List.cons_append, scan_spaces spaces visible, pieces, scanned]
    dsimp only
    rw [List.take_left' rfl, List.drop_left' rfl, tokensOf, lineFeeds_identifier start parts,
      ← spelled, String.ofList_toList]
    rfl

end Java

end ClassAtlas
