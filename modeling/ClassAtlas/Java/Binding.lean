import ClassAtlas.Java.Tree

/-!
# Binding type variables

A name written alone is a type variable where one of that name is in scope, and a class type
elsewhere. A section of type parameters brings its variables into scope for what it heads,
hiding variables of the same names around it; inside the section's own bounds its variables are
known without bounds, so that bounds may refer to each other.
-/
namespace ClassAtlas.Java

/-- The type variables in scope, an inner one before an outer one that it hides. -/
abbrev Scope := List TypeParameter

/-- The variable of a name, if one is in scope. -/
def Scope.find? (scope : Scope) (name : String) : Option TypeParameter :=
  List.find? (·.name == name) scope

/-- A scope with the variables of a section; of two with one name the later hides the earlier. -/
def Scope.extend (scope : Scope) (parameters : List TypeParameter) : Scope :=
  parameters.reverse ++ scope

mutual

/-- The usage of a written type in a scope. -/
def WrittenType.bind (scope : Scope) : WrittenType → TypeUsage
  | .primitive name => .primitive name
  | .bare name =>
    match scope.find? name with
    | some parameter => parameter.usage
    | none => .named name []
  | .applied name arguments => .named name (bindAll scope arguments)
  | .array element depth => (element.bind scope).arrays depth
  | .anyWildcard => .wildcard .unspecified .unspecified
  | .upperWildcard bound => .wildcard (bound.bind scope) .unspecified
  | .lowerWildcard bound => .wildcard .unspecified (bound.bind scope)

/-- The usages of written types in a scope. -/
def WrittenType.bindAll (scope : Scope) : List WrittenType → List TypeUsage
  | [] => []
  | type :: types => type.bind scope :: bindAll scope types

end

/-- The type parameters of a section in the scope around it. -/
def bindTypeParameters (scope : Scope) (written : List WrittenTypeParameter) :
    List TypeParameter :=
  let bare := scope.extend (written.map fun parameter => { name := parameter.name })
  written.map fun parameter =>
    { name := parameter.name, bounds := WrittenType.bindAll bare parameter.bounds }

/-- The usage site of a mention. -/
def Mention.bind (scope : Scope) (mention : Mention) : UsageSite :=
  { kind := mention.kind, type := mention.type.bind scope, line := mention.line }

/-- A parameter in a scope. -/
def WrittenParameter.bind (scope : Scope) (written : WrittenParameter) : ParameterDecl :=
  let type := written.type.bind scope
  { name := written.name, type := if written.varargs then .array type else type
    annotations := written.annotations, varargs := written.varargs }

/-- A record component in a scope. -/
def WrittenParameter.component (scope : Scope) (written : WrittenParameter) : FieldDecl :=
  let parameter := written.bind scope
  { name := parameter.name, type := parameter.type, annotations := parameter.annotations }

/-- What the members of a body declare. -/
structure Contents where
  /-- Fields. -/
  fields : List FieldDecl := []
  /-- Constructors. -/
  constructors : List ConstructorDecl := []
  /-- Methods. -/
  methods : List MethodDecl := []
  /-- Enum constants. -/
  enumConstants : List String := []
  /-- Elements of an annotation type. -/
  annotationMembers : List AnnotationMember := []
  /-- Nested types. -/
  nestedTypes : List TypeDeclaration := []
  /-- Usage sites. -/
  usages : List UsageSite := []
deriving Inhabited

/-- The contents of one part of a body followed by those of another. -/
def Contents.append (first second : Contents) : Contents where
  fields := first.fields ++ second.fields
  constructors := first.constructors ++ second.constructors
  methods := first.methods ++ second.methods
  enumConstants := first.enumConstants ++ second.enumConstants
  annotationMembers := first.annotationMembers ++ second.annotationMembers
  nestedTypes := first.nestedTypes ++ second.nestedTypes
  usages := first.usages ++ second.usages

/-- The scope inside a method or constructor. -/
def Routine.scope (routine : Routine) (scope : Scope) : Scope :=
  scope.extend (bindTypeParameters scope routine.typeParameters)

/-- A method in a scope. -/
def Routine.method (routine : Routine) (scope : Scope) : MethodDecl :=
  let inside := routine.scope scope
  { name := routine.name
    returnType := (routine.returnType.bind inside).arrays routine.depth
    parameters := routine.parameters.map (·.bind inside)
    throws := WrittenType.bindAll inside routine.throws
    modifiers := .ofList routine.modifiers.words
    annotations := routine.modifiers.annotations
    typeParameters := bindTypeParameters scope routine.typeParameters }

/-- A constructor in a scope. -/
def Routine.constructor (routine : Routine) (scope : Scope) : ConstructorDecl :=
  let inside := routine.scope scope
  { name := routine.name
    parameters := routine.parameters.map (·.bind inside)
    throws := WrittenType.bindAll inside routine.throws
    modifiers := .ofList routine.modifiers.words
    annotations := routine.modifiers.annotations }

/-- The scope inside a type declaration. -/
def TypeHeader.scope (header : TypeHeader) (scope : Scope) : Scope :=
  scope.extend (bindTypeParameters scope header.typeParameters)

/-- A type declaration from its head and what its members declare. -/
def TypeHeader.declare (header : TypeHeader) (scope : Scope) (contents : Contents) :
    TypeDeclaration :=
  let inside := header.scope scope
  { name := header.name
    kind := header.kind
    modifiers := .ofList header.modifiers.words
    annotations := header.modifiers.annotations
    typeParameters := bindTypeParameters scope header.typeParameters
    extending := WrittenType.bindAll inside header.extending
    implementing := WrittenType.bindAll inside header.implementing
    fields := contents.fields
    components := header.components.map (·.component inside)
    constructors := contents.constructors
    methods := contents.methods
    enumConstants := contents.enumConstants
    annotationMembers := contents.annotationMembers
    nestedTypes := contents.nestedTypes
    usages := contents.usages
    line := header.line }

mutual

/-- What a member declares in a scope. -/
def Member.bind (scope : Scope) : Member → Contents
  | .fields modifiers phrase declarators =>
    let base := phrase.type.bind scope
    { fields := declarators.map fun declarator =>
        { name := declarator.name, type := base.arrays declarator.depth
          modifiers := .ofList modifiers.words, annotations := modifiers.annotations }
      usages := (declarators.flatMap (·.value)).map (·.bind scope) }
  | .method routine =>
    { methods := [routine.method scope]
      usages := routine.body.map (·.bind (routine.scope scope)) }
  | .constructor routine =>
    { constructors := [routine.constructor scope]
      usages := routine.body.map (·.bind (routine.scope scope)) }
  | .initializer mentions => { usages := mentions.map (·.bind scope) }
  | .constant name mentions =>
    { enumConstants := [name], usages := mentions.map (·.bind scope) }
  | .element name written depth value =>
    { annotationMembers :=
        [{ name, type := (written.bind scope).arrays depth, default := value }] }
  | .nested header members =>
    { nestedTypes := [header.declare scope (bindAll (header.scope scope) members)] }

/-- What members declare in a scope. -/
def Member.bindAll (scope : Scope) : List Member → Contents
  | [] => {}
  | member :: members => (member.bind scope).append (bindAll scope members)

end

/-- The declaration of a type at the top of a source file. -/
def bindTopLevel (header : TypeHeader) (members : List Member) : TypeDeclaration :=
  header.declare [] (Member.bindAll (header.scope []) members)

end ClassAtlas.Java
