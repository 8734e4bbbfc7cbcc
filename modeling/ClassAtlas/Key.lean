import ClassAtlas.Text.Cut

/-!
# Keys of declared types

A declared type is known by its key. A type `Order` at the top of package `shop.model` has the
key `shop.model.Order`, and a type `Line` nested in it has the key `shop.model.Order$Line`:
packages are joined by a dot and nesting by a dollar sign.
-/
namespace ClassAtlas

/-- The key of a declared type. -/
abbrev Key := String

namespace Key

/-- Whether a character joins the parts of a key. -/
def isSeparator (c : Char) : Bool := c == '.' || c == '$'

/-- The key of a name declared in an owner, or else at the top of a package. An empty owner
counts as none, an empty package as the default one. -/
def make (name : String) (package : String) (owner : Option Key) : Key :=
  match owner with
  | some key => if key.isEmpty then inPackage name package else key ++ "$" ++ name
  | none => inPackage name package
where
  /-- The key of a name at the top of a package. -/
  inPackage (name package : String) : Key :=
    if package.isEmpty then name else package ++ "." ++ name

/-- The enclosing type or package, none at the top of the default package. -/
def owner? (key : Key) : Option String := (Text.cutLast isSeparator key).map (·.1)

/-- The part after the last separator. -/
def simpleName (key : Key) : String := Text.afterLast isSeparator key

/-- The source spelling of a key, nesting written with a dot. -/
def dotted (key : Key) : String := Text.replaceChar '$' '.' key

/-- What follows each dollar sign, for the characters of a key from its end. -/
def outerParts : List Char → List (List Char)
  | [] => []
  | c :: rest => if c = '$' then rest :: outerParts rest else outerParts rest

/-- The key itself and the keys left by dropping nested parts one after the other, as far as
they are not empty. -/
def enclosing (key : Key) : List Key :=
  let backwards := key.toList.reverse
  ((backwards :: outerParts backwards).filter (!·.isEmpty)).map fun part =>
    String.ofList part.reverse

end Key

end ClassAtlas
