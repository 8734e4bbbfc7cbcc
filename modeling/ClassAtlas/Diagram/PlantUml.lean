import ClassAtlas.Diagram.Event
import ClassAtlas.Text.Blank

/-!
# PlantUML text

The PlantUML text of a diagram is written line by line from its events. Every block carries
marker comments at its begin and end, and an edge to anything but a declared type is written as
a comment with a tag: `external` for a type known to lie outside, `ghost` for an unknown one.

A writer is a value: `Writer.text` gives what an event appends, or the fault that keeps it from
appending anything, and `Writer.next` the writer after it, which a fault may change too.
-/
namespace ClassAtlas.PlantUml

/-- The tag of a writer that is given none. -/
def defaultTag : String := "umlgraph"

/-- Refuse a text that has several lines or holds a double quote. -/
def checkText (label text : String) : Except Fault Unit :=
  if text.toList.contains '\n' || text.toList.contains '\r' then .error (.severalLines label)
  else if text.toList.contains '"' then .error (.quoteInside label text)
  else .ok ()

/-- The options of the directives at the top of a diagram. -/
structure HeaderOptions where
  /-- The title. -/
  title : String := ""
  /-- The theme. -/
  theme : String := ""
  /-- The layout direction. -/
  direction : String := ""
  /-- Whether empty member compartments are hidden. -/
  hideEmptyMembers : Bool := true

/-- A directive that is written when its text is not empty. -/
def directive (text line : String) : List String := if text.isEmpty then [] else [line]

/-- The directives at the top of a diagram. -/
def directives (options : HeaderOptions) : List String :=
  directive options.title ("mainframe " ++ options.title)
    ++ (if options.hideEmptyMembers then ["hide empty members"] else [])
    ++ directive options.theme ("!theme " ++ options.theme)
    ++ ["!pragma useIntermediatePackages false"]
    ++ directive options.direction (options.direction ++ " direction")

/-- The directives at the top of a diagram, refused for a text that cannot stand in one. -/
def header (options : HeaderOptions) : Except Fault (List String) := do
  checkText "title" options.title
  checkText "theme" options.theme
  checkText "direction" options.direction
  pure (directives options)

/-- The sign of the visibility that modifiers give. -/
def visibility (modifiers : NameSet) : String :=
  if modifiers.contains "public" then "+"
  else if modifiers.contains "protected" then "#"
  else if modifiers.contains "private" then "-"
  else "~"

/-- The keyword of a node. -/
def keyword (kind : TypeKind) (modifiers : NameSet) : String :=
  match kind with
  | .classType => if modifiers.contains "abstract" then "abstract class" else "class"
  | .interface => "interface"
  | .enum => "enum"
  | .record => "class"
  | .annotationType => "annotation"

/-- The keyword of a node that has to have a kind. -/
def keyword? (kind : Option TypeKind) (modifiers : NameSet) : Except Fault String :=
  match kind with
  | some kind => .ok (keyword kind modifiers)
  | none => .error .unknownKind

/-- The stereotypes of a node: those of its kind and modifiers, then its annotations. -/
def nodeStereotypes (kind : Option TypeKind) (modifiers : NameSet) (annotations : List String) :
    List String :=
  (if kind = some .record then ["record"] else [])
    ++ (if kind = some .classType && modifiers.contains "final" then ["final"] else [])
    ++ annotations

/-- A name between double quotes, without blanks at its ends. -/
def quote (name : String) : Except Fault String := do
  checkText "name" name
  pure ("\"" ++ Text.trim name ++ "\"")

/-- Stereotypes behind a line. -/
def stereotypeSuffix (stereotypes : List String) : Except Fault String := do
  stereotypes.forM (checkText "stereotype")
  pure (String.join (stereotypes.map fun stereotype => " <<" ++ stereotype ++ ">>"))

/-- The source spelling of a usage that has to be one. -/
def typeText (usage : TypeUsage) : Except Fault String :=
  if usage.renders then .ok usage.render else .error .unknownUsage

/-- The spelling of a parameter. -/
def parameterText (parameter : ParameterDecl) : Except Fault String := do
  let type ←
    match parameter.varargs, parameter.type with
    | true, .array component => (· ++ "...") <$> typeText component
    | _, usage => typeText usage
  pure (parameter.name ++ " : " ++ type)

/-- The spelling of a parameter list. -/
def parametersText (parameters : List ParameterDecl) : Except Fault String := do
  let texts ← parameters.mapM parameterText
  pure (", ".intercalate texts)

/-- The modifiers of a field that are written behind it. -/
def fieldFlags : List String := ["final", "transient", "volatile"]

/-- A text between braces. -/
def braced (text : String) : String := "\x7b" ++ text ++ "\x7d"

/-- The line of an attribute. -/
def attributeLine (member : FieldDecl) (component : Bool) : Except Fault String := do
  let suffix ← stereotypeSuffix (distinctNames member.annotations)
  let type ← typeText member.type
  let signature := member.name ++ " : " ++ type
  if component then pure (signature ++ suffix)
  else
    let static := if member.modifiers.contains "static" then [braced "static"] else []
    let flags := fieldFlags.filter member.modifiers.contains
    let trailing := if flags.isEmpty then [] else [braced (", ".intercalate flags)]
    pure (" ".intercalate ([visibility member.modifiers] ++ static ++ [signature] ++ trailing)
      ++ suffix)

/-- The line of a constructor. -/
def constructorLine (constructor : ConstructorDecl) : Except Fault String := do
  let suffix ← stereotypeSuffix (distinctNames constructor.annotations)
  let parameters ← parametersText constructor.parameters
  pure (visibility constructor.modifiers ++ " <<create>> " ++ constructor.name ++ "("
    ++ parameters ++ ")" ++ suffix)

/-- Whether a type is the type of a method that returns nothing. -/
def isVoid : TypeUsage → Bool
  | .primitive name => name == "void"
  | _ => false

/-- The line of a method. -/
def methodLine (method : MethodDecl) : Except Fault String := do
  let static := if method.modifiers.contains "static" then [braced "static"] else []
  let abstract := if method.modifiers.contains "abstract" then [braced "abstract"] else []
  let parameters ← parametersText method.parameters
  let result ←
    if isVoid method.returnType then pure "" else (" : " ++ ·) <$> typeText method.returnType
  let suffix ← stereotypeSuffix (distinctNames method.annotations)
  let signature := method.name ++ "(" ++ parameters ++ ")" ++ result
  pure (" ".intercalate ([visibility method.modifiers] ++ static ++ abstract ++ [signature])
    ++ suffix)

/-- The line of an element of an annotation type. -/
def annotationMemberLine (member : AnnotationMember) : Except Fault String := do
  let type ← typeText member.type
  let value :=
    match member.default with
    | some text => " = " ++ Text.respace text
    | none => ""
  pure (member.name ++ "() : " ++ type ++ value)

/-- The word for a flagged edge. -/
def reviewLabel : ReviewFlag → String
  | .external => "external"
  | .unresolved => "ghost"

/-- The line of an edge, a comment if the edge needs review. -/
def edgeLine (tag src arrow dst : String) (review : Option ReviewFlag) : Except Fault String := do
  let source ← quote src
  let target ← quote dst
  let line := source ++ " " ++ arrow ++ " " ++ target
  match review with
  | none => pure line
  | some flag => pure ("' @" ++ tag ++ ":cherry-pick " ++ reviewLabel flag ++ " " ++ line)

/-- The line of an association. -/
def associationLine (owner target role : String) (stereotypes : List String) :
    Except Fault String := do
  checkText "role" role
  let source ← quote owner
  let label ← quote role
  let goal ← quote target
  let suffix ← if stereotypes.isEmpty then pure "" else (" :" ++ ·) <$> stereotypeSuffix stereotypes
  pure (source ++ " ---> " ++ label ++ " " ++ goal ++ suffix)

/-- The opening line of a block. -/
def openingLine (tag keyword suffix name : String) : Except Fault String := do
  let quoted ← quote name
  pure (keyword ++ " " ++ quoted ++ suffix ++ " \x7b /' @" ++ tag ++ ":begin " ++ keyword ++ " "
    ++ quoted ++ " '/")

/-- The closing line of a block. -/
def closingLine (tag keyword name : String) : Except Fault String := do
  let quoted ← quote name
  pure ("\x7d /' @" ++ tag ++ ":end " ++ keyword ++ " " ++ quoted ++ " '/")

/-- The text of a line at a depth, without blanks at its end. -/
def lineText (indent : Nat) (line : String) : String :=
  Text.trimRight (String.join (List.replicate indent "  ") ++ line) ++ "\n"

/-- A writer of PlantUML text. -/
structure Writer where
  /-- The directives written behind the first line. -/
  header : List String := []
  /-- The tag of marker comments. -/
  tag : String := defaultTag
  /-- The number of open blocks. -/
  indent : Nat := 0
  /-- The keywords of the open nodes. -/
  openNodes : List (Key × String) := []
deriving Inhabited

namespace Writer

/-- A writer at the start of a diagram, refused for a tag that cannot stand in a comment. -/
def make (header : List String) (tag : String) : Except Fault Writer := do
  checkText "tag" tag
  pure { header, tag }

/-- The keyword of an open node; one that is not open counts as a class. -/
def openKeyword (writer : Writer) (key : Key) : String :=
  ((writer.openNodes.find? (·.1 == key)).map (·.2)).getD "class"

/-- The text that an event appends. -/
def text (writer : Writer) (event : Event) : Except Fault String := do
  let line := lineText writer.indent
  let outer := lineText (writer.indent - 1)
  match event with
  | .beginDiagram name =>
    checkText "name" name
    let directives := String.join (writer.header.map line)
    let gap := if writer.header.isEmpty then "" else line ""
    pure (line ("@startuml " ++ Text.trim name) ++ directives ++ gap)
  | .endDiagram name =>
    checkText "name" name
    pure (line "@enduml")
  | .beginPackage name => line <$> openingLine writer.tag "package" "" name
  | .endPackage name => outer <$> closingLine writer.tag "package" name
  | .declareNode key kind stereotypes modifiers =>
    let modifiers := NameSet.ofList modifiers
    let keyword ← keyword? kind modifiers
    let suffix ← stereotypeSuffix (nodeStereotypes kind modifiers stereotypes)
    line <$> openingLine writer.tag keyword suffix key
  | .endNode key => outer <$> closingLine writer.tag (writer.openKeyword key) key
  | .addAttribute _ member component => line <$> attributeLine member component
  | .addEnumConstant _ name => pure (line name)
  | .addConstructor _ constructor => line <$> constructorLine constructor
  | .addMethod _ method => line <$> methodLine method
  | .addAnnotationMember _ member => line <$> annotationMemberLine member
  | .connectOwns owner owned => line <$> edgeLine writer.tag owner "+--" owned none
  | .connectInheritance sub super review =>
    line <$> edgeLine writer.tag sub "--|>" super review
  | .connectRealization sub super review =>
    line <$> edgeLine writer.tag sub "..|>" super review
  | .connectAssociation owner target role stereotypes =>
    line <$> associationLine owner target role stereotypes
  | .connectDependency src dst review => line <$> edgeLine writer.tag src "..>" dst review

/-- The writer with a node recorded as open. -/
def openNode (writer : Writer) (key : Key) (keyword : String) : Writer :=
  { writer with openNodes := (key, keyword) :: writer.openNodes.filter (·.1 != key) }

/-- The writer with one block more, unless its name was refused. -/
def enter (writer : Writer) (name : String) : Writer :=
  match checkText "name" name with
  | .ok _ => { writer with indent := writer.indent + 1 }
  | .error _ => writer

/-- The writer with one block less. -/
def leave (writer : Writer) : Writer := { writer with indent := writer.indent - 1 }

/-- The writer after an event. A block is left even if its closing line is refused, and a node
whose name is refused is recorded as open all the same. -/
def next (writer : Writer) : Event → Writer
  | .beginPackage name => writer.enter name
  | .endPackage _ => writer.leave
  | .declareNode key kind stereotypes modifiers =>
    let modifiers := NameSet.ofList modifiers
    match keyword? kind modifiers,
        stereotypeSuffix (nodeStereotypes kind modifiers stereotypes) with
    | .ok keyword, .ok _ => (writer.openNode key keyword).enter key
    | _, _ => writer
  | .endNode key =>
    { writer with openNodes := writer.openNodes.filter (·.1 != key) }.leave
  | _ => writer

/-- Write events until one is refused: the text written, and the fault. -/
def writeAll (writer : Writer) : List Event → String × Option Fault
  | [] => ("", none)
  | event :: events =>
    match writer.text event with
    | .error fault => ("", some fault)
    | .ok text =>
      let (rest, fault) := (writer.next event).writeAll events
      (text ++ rest, fault)

end Writer

end ClassAtlas.PlantUml
