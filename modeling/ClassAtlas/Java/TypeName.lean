import ClassAtlas.Text.Cut
import ClassAtlas.Text.LetterCase

/-!
# Names that look like types

By convention a type name starts with an upper-case letter and is not all upper case, as a
constant is; a single upper-case letter is a type. Only the part behind the last dot counts.
-/
namespace ClassAtlas.Java

/-- Whether a possibly dotted name looks like the name of a type. -/
def looksLikeType (name : String) : Bool :=
  match (Text.afterLast (· == '.') name).toList with
  | [] => false
  | [c] => Text.isUpper c
  | c :: rest => Text.isUpper c && !Text.isUpperWord (c :: rest)

end ClassAtlas.Java
