import ClassAtlas.Declaration

/-!
# Written declarations

What reading a Java source yields: its declarations as written, before type variables are bound
to their scopes. Bodies are kept as the list of their type mentions in source order, a mention
standing before those of the parts of its own expression.
-/
namespace ClassAtlas.Java

/-- A type as written. -/
inductive WrittenType where
  /-- A primitive type. -/
  | primitive (name : String)
  /-- A name alone, which may be a type variable. -/
  | bare (name : String)
  /-- A dotted name, or a name with type arguments. -/
  | applied (name : String) (arguments : List WrittenType)
  /-- An array of a number of dimensions. -/
  | array (element : WrittenType) (depth : Nat)
  /-- A wildcard without a bound. -/
  | anyWildcard
  /-- A wildcard with an upper bound. -/
  | upperWildcard (bound : WrittenType)
  /-- A wildcard with a lower bound. -/
  | lowerWildcard (bound : WrittenType)
deriving Inhabited

/-- A type mentioned in a body. -/
structure Mention where
  /-- How it is mentioned. -/
  kind : UsageKind
  /-- The type. -/
  type : WrittenType
  /-- The line of the mention. -/
  line : Nat
deriving Inhabited

/-- A type where it stands: on its line, with the mentions inside its annotations. -/
structure TypePhrase where
  /-- The type. -/
  type : WrittenType
  /-- The line it starts on. -/
  line : Nat
  /-- The mentions in its annotations. -/
  mentions : List Mention := []
deriving Inhabited

/-- The mention of a type phrase. -/
def TypePhrase.mention (phrase : TypePhrase) (kind : UsageKind) : Mention :=
  { kind, type := phrase.type, line := phrase.line }

/-- Modifiers and annotations before a declaration. -/
structure Modifiers where
  /-- The modifier words in order. -/
  words : List String := []
  /-- The annotation names in order, without what stands before their last dot. -/
  annotations : List String := []
  /-- The mentions in the annotations. -/
  mentions : List Mention := []
deriving Inhabited

/-- A parameter as written. -/
structure WrittenParameter where
  /-- Its name. -/
  name : String
  /-- Its type, without the array of a variable number of arguments. -/
  type : WrittenType
  /-- Its annotation names. -/
  annotations : List String := []
  /-- Whether it takes a variable number of arguments. -/
  varargs : Bool := false
deriving Inhabited

/-- A list of parameters with the mentions inside it. -/
structure WrittenParameters where
  /-- The parameters in order, a receiver left out. -/
  items : List WrittenParameter := []
  /-- The mentions in their annotations. -/
  mentions : List Mention := []
deriving Inhabited

/-- A type parameter as written. -/
structure WrittenTypeParameter where
  /-- Its name. -/
  name : String
  /-- Its bounds in order. -/
  bounds : List WrittenType := []
deriving Inhabited

/-- Type parameters with the mentions inside them. -/
structure WrittenTypeParameters where
  /-- The parameters in order. -/
  items : List WrittenTypeParameter := []
  /-- The mentions in their annotations. -/
  mentions : List Mention := []
deriving Inhabited

/-- One declared name of a field or local variable. -/
structure Declarator where
  /-- The name. -/
  name : String
  /-- The number of dimensions written behind the name. -/
  depth : Nat := 0
  /-- The mentions in the annotations of the dimensions. -/
  mentions : List Mention := []
  /-- The mentions in the initial value. -/
  value : List Mention := []
deriving Inhabited

/-- A method or constructor as written. -/
structure Routine where
  /-- Its modifiers. -/
  modifiers : Modifiers := {}
  /-- Its own type parameters. -/
  typeParameters : List WrittenTypeParameter := []
  /-- The type it returns. -/
  returnType : WrittenType := .primitive "void"
  /-- The number of dimensions written behind the parameters. -/
  depth : Nat := 0
  /-- Its name. -/
  name : String
  /-- Its parameters. -/
  parameters : List WrittenParameter := []
  /-- The types it declares to throw. -/
  throws : List WrittenType := []
  /-- The mentions before its body. -/
  head : List Mention := []
  /-- The mentions in its body. -/
  body : List Mention := []
deriving Inhabited

/-- The head of a type declaration. -/
structure TypeHeader where
  /-- Its kind. -/
  kind : TypeKind
  /-- Its modifiers. -/
  modifiers : Modifiers := {}
  /-- Its name. -/
  name : String
  /-- Its type parameters. -/
  typeParameters : List WrittenTypeParameter := []
  /-- The types it extends. -/
  extending : List WrittenType := []
  /-- The types it implements. -/
  implementing : List WrittenType := []
  /-- Its record components. -/
  components : List WrittenParameter := []
  /-- The line it starts on. -/
  line : Nat
deriving Inhabited

/-- A member of a type body. -/
inductive Member where
  /-- Fields declared together. -/
  | fields (modifiers : Modifiers) (type : TypePhrase) (declarators : List Declarator)
  /-- A method. -/
  | method (routine : Routine)
  /-- A constructor. -/
  | constructor (routine : Routine)
  /-- A block, a static initializer or a compact constructor. -/
  | initializer (mentions : List Mention)
  /-- An enum constant. -/
  | constant (name : String) (mentions : List Mention)
  /-- An element of an annotation type, with the source text of its default. -/
  | element (name : String) (type : WrittenType) (depth : Nat) (default : Option String)
  /-- A nested type. -/
  | nested (header : TypeHeader) (members : List Member)
deriving Inhabited

namespace Member

/-- Every mention in a member of an anonymous class; a named type keeps its own. -/
def mentions : Member → List Mention
  | .fields modifiers phrase declarators =>
    modifiers.mentions ++ phrase.mentions
      ++ declarators.flatMap fun declarator => declarator.mentions ++ declarator.value
  | .method routine => routine.head ++ routine.body
  | .constructor routine => routine.head ++ routine.body
  | .initializer mentions => mentions
  | .constant _ mentions => mentions
  | .element _ _ _ _ => []
  | .nested _ _ => []

end Member

/-- An item at the top of a source file. -/
inductive UnitItem where
  /-- The package. -/
  | package (name : String)
  /-- An import that names types. -/
  | imported (name : String)
  /-- A type declaration. -/
  | declared (header : TypeHeader) (members : List Member)
  /-- Anything that declares nothing for a diagram. -/
  | other
deriving Inhabited

end ClassAtlas.Java
