/-!
# Patterns of characters

A pattern describes a set of texts. `Pattern.longest` finds the longest front of a text that a
pattern describes, by taking the pattern's derivative for one character after the other.
-/
namespace ClassAtlas.Text

/-- A regular set of texts. -/
inductive Pattern where
  /-- No text. -/
  | never
  /-- The empty text. -/
  | empty
  /-- Any one accepted character. -/
  | one (accepts : Char → Bool)
  /-- A text of the first set followed by one of the second. -/
  | seq (first second : Pattern)
  /-- A text of either set. -/
  | alt (left right : Pattern)
  /-- Any number of texts of the set, one after the other. -/
  | many (item : Pattern)

namespace Pattern

/-- Whether the empty text is described. -/
def isNullable : Pattern → Bool
  | .never => false
  | .empty => true
  | .one _ => false
  | .seq first second => first.isNullable && second.isNullable
  | .alt left right => left.isNullable || right.isNullable
  | .many _ => true

/-- A sequence, shortened where a part is trivial. -/
def andThen : Pattern → Pattern → Pattern
  | .never, _ => .never
  | .empty, second => second
  | first, second => .seq first second

/-- A choice, shortened where a part is trivial. -/
def orElse : Pattern → Pattern → Pattern
  | .never, right => right
  | left, .never => left
  | left, right => .alt left right

/-- What may follow a character in the described texts. -/
def derivative (c : Char) : Pattern → Pattern
  | .never => .never
  | .empty => .never
  | .one accepts => if accepts c then .empty else .never
  | .seq first second =>
    let kept := (first.derivative c).andThen second
    if first.isNullable then kept.orElse (second.derivative c) else kept
  | .alt left right => (left.derivative c).orElse (right.derivative c)
  | .many item => (item.derivative c).andThen (.many item)

/-- Whether no text is described, as far as the form of the pattern shows it. -/
def isNever : Pattern → Bool
  | .never => true
  | _ => false

/-- The length of the longest described front, if any front is described. -/
def longest (pattern : Pattern) : List Char → Option Nat
  | [] => if pattern.isNullable then some 0 else none
  | c :: rest =>
    let next := pattern.derivative c
    match if next.isNever then none else next.longest rest with
    | some length => some (length + 1)
    | none => if pattern.isNullable then some 0 else none

/-- One given character. -/
def char (c : Char) : Pattern := .one (· == c)

/-- One of some characters. -/
def anyOf (chars : List Char) : Pattern := .one chars.contains

/-- A text or nothing. -/
def maybe (item : Pattern) : Pattern := .alt .empty item

/-- One or more texts. -/
def oneOrMore (item : Pattern) : Pattern := .seq item (.many item)

/-- One or more texts with separators between them. -/
def separated (item separator : Pattern) : Pattern := .seq item (.many (.seq separator item))

/-- The patterns one after the other. -/
def inOrder : List Pattern → Pattern
  | [] => .empty
  | [last] => last
  | first :: rest => .seq first (inOrder rest)

/-- Any of the patterns. -/
def choice : List Pattern → Pattern
  | [] => .never
  | [last] => last
  | first :: rest => .alt first (choice rest)

end Pattern

end ClassAtlas.Text
