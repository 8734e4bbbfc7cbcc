import ClassAtlas.Java.Reader
import ClassAtlas.Proofs.Lexemes

/-!
# Runs of readers

What a reader does on given tokens follows from what its parts do: one after the other, the first
that does not fail, again and again until it fails. A token stands in the way of a reader that wants
another one; such readers are passed over.
-/
namespace ClassAtlas.Java

namespace Reader

variable {α β : Type} {reader other : Reader α} {next : α → Reader β} {tokens rest : List Token}
  {value : α}

/-! ## Parts in a row and in a choice -/

/-- A reader goes on with what its first part leaves. -/
theorem bind_of_read (read : reader tokens = some (value, rest)) :
    (reader >>= next) tokens = next value rest := by
  change (reader tokens).bind _ = _
  rw [read]
  rfl

/-- A reader whose first part fails, fails. -/
theorem bind_of_none (failed : reader tokens = none) : (reader >>= next) tokens = none := by
  change (reader tokens).bind _ = _
  rw [failed]
  rfl

/-- A value is made of what is read. -/
theorem map_of_read {make : α → β} (read : reader tokens = some (value, rest)) :
    (make <$> reader) tokens = some (make value, rest) := by
  change (reader tokens).bind _ = _
  rw [read]
  rfl

/-- No value is made where nothing is read. -/
theorem map_of_none {make : α → β} (failed : reader tokens = none) :
    (make <$> reader) tokens = none := by
  change (reader tokens).bind _ = _
  rw [failed]
  rfl

/-- A choice is its first reader where that reads. -/
theorem orElse_of_read (read : reader tokens = some (value, rest)) :
    (reader <|> other) tokens = some (value, rest) := by
  change (reader tokens <|> other tokens) = _
  rw [read]
  rfl

/-- A choice is its second reader where the first fails. -/
theorem orElse_of_none (failed : reader tokens = none) :
    (reader <|> other) tokens = other tokens := by
  change (reader tokens <|> other tokens) = _
  rw [failed]
  rfl

/-- What may be missing is read where it stands. -/
theorem maybe_of_read (read : reader tokens = some (value, rest)) :
    maybe reader tokens = some (some value, rest) :=
  orElse_of_read (map_of_read read)

/-- What may be missing is none where it does not stand. -/
theorem maybe_of_none (failed : reader tokens = none) : maybe reader tokens = some (none, tokens) :=
  orElse_of_none (map_of_none failed)

/-! ## Repetitions -/

/-- A reader reads values again and again and fails on the rest, taking a token each time. -/
inductive Repeats (item : Reader α) : List Token → List α → List Token → Prop where
  /-- It fails at once. -/
  | stop {tokens : List Token} (failed : item tokens = none) : Repeats item tokens [] tokens
  /-- It reads a value and then more. -/
  | step {tokens between rest : List Token} {value : α} {values : List α}
      (read : item tokens = some (value, between)) (shorter : between.length < tokens.length)
      (later : Repeats item between values rest) : Repeats item tokens (value :: values) rest

/-- A repetition reads the values if it may take as many as there are tokens. -/
theorem Repeats.upTo_eq {item : Reader α} {values : List α}
    (repeats : Repeats item tokens values rest) {limit : Nat} (enough : tokens.length ≤ limit) :
    upTo item limit tokens = some (values, rest) := by
  induction repeats generalizing limit with
  | stop failed =>
    cases limit with
    | zero => rfl
    | succ limit =>
      rw [upTo, orElse_of_none (bind_of_none failed)]
      rfl
  | step read shorter later ih =>
    cases limit with
    | zero => exact absurd (Nat.lt_of_lt_of_le shorter enough) (Nat.not_lt_zero _)
    | succ limit =>
      have remaining := @ih limit (by omega)
      apply orElse_of_read
      rw [bind_of_read read, bind_of_read remaining]
      rfl

/-- As many items are read as the reader repeats. -/
theorem Repeats.many_eq {item : Reader α} {values : List α}
    (repeats : Repeats item tokens values rest) : many item tokens = some (values, rest) :=
  repeats.upTo_eq (Nat.le_refl _)

/-- Items with separators are the first and each later one behind a separator. -/
theorem sepBy1_of_read {item : Reader α} {separator : Reader β} {between : List Token}
    {values : List α} (first : item tokens = some (value, between))
    (later : Repeats (do let _ ← separator; item) between values rest) :
    sepBy1 item separator tokens = some (value :: values, rest) := by
  rw [sepBy1, bind_of_read first, bind_of_read later.many_eq]
  rfl

/-! ## Tokens in the way -/

/-- None of some symbols stands here. -/
def Stops (texts : List String) (tokens : List Token) : Prop :=
  ∀ text ∈ texts, symbol text tokens = none

variable {texts : List String} {text : String} {spaces : Nat}

/-- A symbol is read where it stands. -/
theorem symbol_cons (spaces : Nat) (text : String) (rest : List Token) :
    symbol text (symbolToken spaces text :: rest) = some (symbolToken spaces text, rest) := by
  simp [symbol, satisfy, symbolToken]

/-- A word is read as a name where it is not reserved. -/
theorem identifier_cons {reserved : List String} (free : text ∉ reserved) (spaces : Nat)
    (rest : List Token) :
    identifier reserved (wordToken spaces text :: rest) =
      some (wordToken spaces text, rest) := by
  simp [identifier, satisfy, wordToken, free]

/-- Another word is not the wanted one. -/
theorem word_cons_of_ne {wanted : String} (other : text ≠ wanted) (spaces : Nat)
    (rest : List Token) : word wanted (wordToken spaces text :: rest) = none := by
  simp [word, satisfy, wordToken, other]

/-- No symbol stands where a word does. -/
theorem stops_word (texts : List String) (spaces : Nat) (text : String) (rest : List Token) :
    Stops texts (wordToken spaces text :: rest) := fun _ _ => rfl

/-- Where a symbol stands, no other one does. -/
theorem stops_symbol (other : text ∉ texts) (spaces : Nat) (rest : List Token) :
    Stops texts (symbolToken spaces text :: rest) := by
  intro wanted listed
  have different : text ≠ wanted := fun same => other (same ▸ listed)
  simp [symbol, satisfy, symbolToken, different]

/-- Where a symbol does not stand, it does not adjoin. -/
theorem adjoining_none (failed : symbol text tokens = none) : adjoining text tokens = none := by
  cases tokens with
  | nil => rfl
  | cons token rest =>
    have other : (token.kind == .symbol && token.text == text) = false := by
      by_contra same
      rw [Bool.not_eq_false] at same
      rw [symbol, satisfy, if_pos same] at failed
      exact absurd failed (Option.some_ne_none _)
    rw [adjoining, satisfy, other]
    rfl

/-- What stops some symbols stops fewer. -/
theorem Stops.mono (stops : Stops texts tokens) {fewer : List String} (within : fewer ⊆ texts) :
    Stops fewer tokens := fun text listed => stops text (within listed)

end Reader

end ClassAtlas.Java
