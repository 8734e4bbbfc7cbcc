import ClassAtlas.Declaration
import ClassAtlas.Text.Quoted

/-!
# Fingerprints of declarations

The fingerprint of a declaration tree is one text that tells any two trees apart. A record is
its kind's name before its parts in parentheses, a list its items in parentheses, a set its
items in braces and in order, and a leaf its quoted text, number or truth value; commas stand
between parts. Every leaf is quoted, so no text inside a name can be taken for structure.
-/
namespace ClassAtlas.Fingerprint

/-- Items between brackets, with commas between them. -/
def group (opening : String) (items : List String) (closing : String) : String :=
  opening ++ ",".intercalate items ++ closing

/-- A record: the name of its kind and its parts in order. -/
def record (kind : String) (parts : List String) : String := group (kind ++ "(") parts ")"

/-- A list of items already fingerprinted. -/
def list (items : List String) : String := group "(" items ")"

/-- A list of names. -/
def names (items : List String) : String := list (items.map Text.quoted)

/-- A set of names. -/
def set (items : NameSet) : String :=
  group "\x7b" (distinctNames (items.names.map Text.quoted)) "\x7d"

/-- A truth value. -/
def bool (value : Bool) : String := if value then "True" else "False"

/-- A text that may be absent. -/
def optional : Option String → String
  | none => "None"
  | some text => Text.quoted text

mutual

/-- A type usage. -/
def usage : TypeUsage → String
  | .unspecified => "None"
  | .primitive name => record "PrimitiveType" [Text.quoted name]
  | .named name arguments => record "ClassType" [Text.quoted name, list (usages arguments)]
  | .array component => record "ArrayType" [usage component]
  | .wildcard upper lower => record "WildcardType" [usage upper, usage lower]
  | .typeVar name bounds => record "TypeVariable" [Text.quoted name, list (usages bounds)]

/-- Several type usages. -/
def usages : List TypeUsage → List String
  | [] => []
  | first :: rest => usage first :: usages rest

end

/-- A type parameter. -/
def typeParameter (parameter : TypeParameter) : String := usage parameter.usage

/-- A field or record component. -/
def field (declared : FieldDecl) : String :=
  record "FieldDecl"
    [Text.quoted declared.name, usage declared.type, set declared.modifiers,
      names declared.annotations]

/-- A parameter. -/
def parameter (declared : ParameterDecl) : String :=
  record "ParameterDecl"
    [Text.quoted declared.name, usage declared.type, names declared.annotations,
      bool declared.varargs]

/-- A method. -/
def method (declared : MethodDecl) : String :=
  record "MethodDecl"
    [Text.quoted declared.name, usage declared.returnType,
      list (declared.parameters.map parameter), list (usages declared.throws),
      set declared.modifiers, names declared.annotations,
      list (declared.typeParameters.map typeParameter)]

/-- A constructor. -/
def constructor (declared : ConstructorDecl) : String :=
  record "ConstructorDecl"
    [Text.quoted declared.name, list (declared.parameters.map parameter),
      list (usages declared.throws), set declared.modifiers, names declared.annotations]

/-- An element of an annotation type. -/
def annotationMember (declared : AnnotationMember) : String :=
  record "AnnotationMemberDecl"
    [Text.quoted declared.name, usage declared.type, optional declared.default]

/-- A place that mentions a type. -/
def site (mention : UsageSite) : String :=
  record "UsageSite" [Text.quoted mention.kind.name, usage mention.type, toString mention.line]

mutual

/-- A declared type with everything inside it. -/
def type : TypeDeclaration → String
  | ⟨name, kind, modifiers, annotations, typeParameters, extending, implementing, fields,
      components, constructors, methods, enumConstants, annotationMembers, nestedTypes, sites,
      line⟩ =>
    record "TypeDeclaration"
      [Text.quoted name, Text.quoted kind.name, set modifiers, names annotations,
        list (typeParameters.map typeParameter), list (usages extending),
        list (usages implementing), list (fields.map field), list (components.map field),
        list (constructors.map constructor), list (methods.map method), names enumConstants,
        list (annotationMembers.map annotationMember), list (types nestedTypes),
        list (sites.map site), toString line]

/-- Several declared types. -/
def types : List TypeDeclaration → List String
  | [] => []
  | first :: rest => type first :: types rest

end

/-- The types and imports of a compilation unit. -/
def contents (unit : CompilationUnit) : String :=
  list [list (types unit.types), names unit.imports]

end ClassAtlas.Fingerprint
