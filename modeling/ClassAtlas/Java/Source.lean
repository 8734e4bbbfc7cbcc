import ClassAtlas.Java.Binding
import ClassAtlas.Java.Grammar.SourceFile

/-!
# From source text to declarations

A source file is read into a compilation unit. A malformed file still yields the declarations
that can be told, together with a report.
-/
namespace ClassAtlas.Java

/-- The package of a source: that of the last package clause. -/
def packageOf (items : List UnitItem) : String :=
  items.foldl (fun package item =>
    match item with
    | .package name => name
    | _ => package) ""

/-- The imports of a source. -/
def importsOf (items : List UnitItem) : List String :=
  items.filterMap fun
    | .imported name => some name
    | _ => none

/-- The top-level types of a source. -/
def typesOf (items : List UnitItem) : List TypeDeclaration :=
  items.filterMap fun
    | .declared header members => some (bindTopLevel header members)
    | _ => none

/-- The compilation unit of a source. -/
def unitOf (items : List UnitItem) (path : String) : CompilationUnit :=
  { package := packageOf items, types := typesOf items, imports := importsOf items, path }

/-- The report of a malformed source. -/
def malformed (path : String) : Diagnostic :=
  { code := "parse-error"
    message := "Syntax errors in " ++ (if path.isEmpty then "<source>" else path)
    subject := path }

/-- The compilation unit of a source text and the reports on it. -/
def parse (source path : String) : CompilationUnit × List Diagnostic :=
  let tokens := tokenize source
  match readStrictly tokens with
  | some items => (unitOf items path, [])
  | none => (unitOf (readRepairing tokens) path, [malformed path])

end ClassAtlas.Java
