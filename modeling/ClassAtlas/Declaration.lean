import ClassAtlas.NameSet
import ClassAtlas.TypeUsage

/-!
# Declarations

What a diagram needs of a source file: the types it declares, their members, and the places in
their bodies that mention a type. Types are held as written; nothing here is resolved.
-/
namespace ClassAtlas

/-- The kinds of declared types. -/
inductive TypeKind where
  | classType
  | interface
  | enum
  | record
  | annotationType
deriving DecidableEq, Inhabited, Repr

/-- The word for a kind. -/
def TypeKind.name : TypeKind → String
  | .classType => "class"
  | .interface => "interface"
  | .enum => "enum"
  | .record => "record"
  | .annotationType => "annotation"

/-- Every kind, in the order of declaration. -/
def TypeKind.all : List TypeKind := [.classType, .interface, .enum, .record, .annotationType]

/-- The kind that a word names. -/
def TypeKind.ofName? (name : String) : Option TypeKind := TypeKind.all.find? (·.name == name)

/-- The word for a kind names it. -/
theorem TypeKind.ofName?_name (kind : TypeKind) : TypeKind.ofName? kind.name = some kind := by
  cases kind <;> rfl

/-- The ways in which the body of a type mentions a type. -/
inductive UsageKind where
  | creation
  | cast
  | instanceof
  | classLiteral
  | staticCall
deriving DecidableEq, Inhabited, Repr

/-- The word for a way of mentioning a type. -/
def UsageKind.name : UsageKind → String
  | .creation => "creation"
  | .cast => "cast"
  | .instanceof => "instanceof"
  | .classLiteral => "class_literal"
  | .staticCall => "static_call"

/-- Every way of mentioning a type. -/
def UsageKind.all : List UsageKind :=
  [.creation, .cast, .instanceof, .classLiteral, .staticCall]

/-- The way of mentioning a type that a word names. -/
def UsageKind.ofName? (name : String) : Option UsageKind := UsageKind.all.find? (·.name == name)

/-- The word for a way of mentioning a type names it. -/
theorem UsageKind.ofName?_name (kind : UsageKind) : UsageKind.ofName? kind.name = some kind := by
  cases kind <;> rfl

/-- A type parameter with its bounds. -/
structure TypeParameter where
  /-- The variable's name. -/
  name : String
  /-- Its bounds in order. -/
  bounds : List TypeUsage := []
deriving Inhabited

/-- The usage of a parameter's variable. -/
def TypeParameter.usage (parameter : TypeParameter) : TypeUsage :=
  .typeVar parameter.name parameter.bounds

/-- A field, or a component of a record. -/
structure FieldDecl where
  /-- The field's name. -/
  name : String
  /-- Its type. -/
  type : TypeUsage
  /-- Its modifier words. -/
  modifiers : NameSet := .empty
  /-- Its annotation names in order. -/
  annotations : List String := []
deriving Inhabited

/-- A parameter of a method or constructor. -/
structure ParameterDecl where
  /-- The parameter's name. -/
  name : String
  /-- Its type, an array for a variable number of arguments. -/
  type : TypeUsage
  /-- Its annotation names in order. -/
  annotations : List String := []
  /-- Whether it takes a variable number of arguments. -/
  varargs : Bool := false
deriving Inhabited

/-- A method. -/
structure MethodDecl where
  /-- The method's name. -/
  name : String
  /-- The type it returns. -/
  returnType : TypeUsage := .void
  /-- Its parameters in order. -/
  parameters : List ParameterDecl := []
  /-- The types it declares to throw. -/
  throws : List TypeUsage := []
  /-- Its modifier words. -/
  modifiers : NameSet := .empty
  /-- Its annotation names in order. -/
  annotations : List String := []
  /-- Its own type parameters. -/
  typeParameters : List TypeParameter := []
deriving Inhabited

/-- A constructor. -/
structure ConstructorDecl where
  /-- The constructor's name. -/
  name : String
  /-- Its parameters in order. -/
  parameters : List ParameterDecl := []
  /-- The types it declares to throw. -/
  throws : List TypeUsage := []
  /-- Its modifier words. -/
  modifiers : NameSet := .empty
  /-- Its annotation names in order. -/
  annotations : List String := []
deriving Inhabited

/-- An element of an annotation type. -/
structure AnnotationMember where
  /-- The element's name. -/
  name : String
  /-- The type of its value. -/
  type : TypeUsage
  /-- The source text of its default value. -/
  default : Option String := none
deriving Inhabited

/-- A place in a body that mentions a type. -/
structure UsageSite where
  /-- How the type is mentioned. -/
  kind : UsageKind
  /-- The type. -/
  type : TypeUsage
  /-- The line of the mention. -/
  line : Int := 0
deriving Inhabited

/-- A declared type with everything declared inside it. -/
structure TypeDeclaration where
  /-- The type's name. -/
  name : String
  /-- Its kind. -/
  kind : TypeKind := .classType
  /-- Its modifier words. -/
  modifiers : NameSet := .empty
  /-- Its annotation names in order. -/
  annotations : List String := []
  /-- Its type parameters. -/
  typeParameters : List TypeParameter := []
  /-- The types it extends. -/
  extending : List TypeUsage := []
  /-- The types it implements. -/
  implementing : List TypeUsage := []
  /-- Its fields. -/
  fields : List FieldDecl := []
  /-- Its record components. -/
  components : List FieldDecl := []
  /-- Its constructors. -/
  constructors : List ConstructorDecl := []
  /-- Its methods. -/
  methods : List MethodDecl := []
  /-- The names of its enum constants. -/
  enumConstants : List String := []
  /-- The elements of an annotation type. -/
  annotationMembers : List AnnotationMember := []
  /-- The types declared directly inside it. -/
  nestedTypes : List TypeDeclaration := []
  /-- The type mentions in its bodies, in source order. -/
  usages : List UsageSite := []
  /-- The line on which it starts. -/
  line : Int := 0
deriving Inhabited

/-- The declarations of one source file. -/
structure CompilationUnit where
  /-- The package, empty for the default one. -/
  package : String := ""
  /-- The top-level types in order. -/
  types : List TypeDeclaration := []
  /-- The imported names, those on demand ending in `.*`. -/
  imports : List String := []
  /-- Where the file lies. -/
  path : String := ""
deriving Inhabited

/-- A finding reported beside the diagram. -/
structure Diagnostic where
  /-- What kind of finding it is. -/
  code : String
  /-- The finding in words. -/
  message : String
  /-- What it is about. -/
  subject : String := ""
deriving DecidableEq, Inhabited, Repr

end ClassAtlas
