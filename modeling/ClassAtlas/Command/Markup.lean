import ClassAtlas.Text.Blank
import ClassAtlas.Text.Cut

/-!
# Console markup

Text for the console may carry tags in brackets: `[red]` styles what follows up to `[/red]`,
or up to `[/]`, which closes the latest open tag. A bracket opens a tag only before a small
letter, a slash, a number sign or an at sign, and a backslash before a tag makes it plain text.
Plain output drops the tags. A closing tag has to close something.
-/
namespace ClassAtlas.Markup

/-- A stretch of marked-up text. -/
inductive Piece where
  | plain (c : Char)
  | tag (name : String)
deriving DecidableEq, Repr

/-- Whether a character starts the name of a tag. -/
def startsTag (c : Char) : Bool :=
  ('a' ≤ c && c ≤ 'z') || c == '#' || c == '/' || c == '@'

/-- The name of the tag that characters behind a bracket give. -/
def tagName? (chars : List Char) : Option (List Char) := do
  let first ← chars.head?
  let (name, _) ← Text.splitFirst (· == ']') chars
  if startsTag first && !name.contains '[' then some name else none

/-- The pieces of characters, leaving out the first `skip` of them. -/
def pieces (skip : Nat) : List Char → List Piece
  | [] => []
  | c :: rest =>
    match skip with
    | skip + 1 => pieces skip rest
    | 0 =>
      let slashes := ((c :: rest).takeWhile (· == '\\')).length
      match (c :: rest).drop slashes with
      | '[' :: behind =>
        match tagName? behind with
        | some name =>
          let literal := List.replicate (slashes / 2) (Piece.plain '\\')
          if slashes % 2 = 0 then
            literal ++ .tag (String.ofList name) :: pieces (slashes + name.length + 1) rest
          else
            literal ++ ('[' :: name ++ [']']).map .plain
              ++ pieces (slashes + name.length + 1) rest
        | none =>
          if c = '\\' ∧ slashes = 1 then pieces 0 rest else .plain c :: pieces 0 rest
      | _ => .plain c :: pieces 0 rest

/-- The name that opening and closing tags agree on. -/
def styleName (name : String) : String :=
  String.ofList ((Text.trimEnds name.toList).map Char.toLower)

/-- The style that a tag names, without what follows an equals sign. -/
def tagStyle (tag : String) : String :=
  match Text.cutFirst (· == '=') tag with
  | some (name, _) => name
  | none => tag

/-- The plain characters of pieces, given the open tags from the latest on. -/
def plainChars (opened : List String) : List Piece → Option (List Char)
  | [] => some []
  | .plain c :: rest => (c :: ·) <$> plainChars opened rest
  | .tag name :: rest =>
    match (tagStyle name).toList with
    | '/' :: closing =>
      let style := styleName (String.ofList closing)
      if style.isEmpty then
        match opened with
        | [] => none
        | _ :: outer => plainChars outer rest
      else if opened.contains style then plainChars (opened.erase style) rest
      else none
    | _ => plainChars (styleName (tagStyle name) :: opened) rest

/-- The text without its tags, none if a closing tag closes nothing. -/
def plain? (text : String) : Option String :=
  String.ofList <$> plainChars [] (pieces 0 text.toList)

end ClassAtlas.Markup
