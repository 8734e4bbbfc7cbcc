import ClassAtlas.Files.SourceRoots
import ClassAtlas.Java.Source

/-!
# Scans

A scan reads source files into compilation units. A file that cannot be read yields no unit and
one report, a malformed one its unit and a report.
-/
namespace ClassAtlas

/-- The units of a corpus and the reports on the way to them. -/
structure Scan where
  /-- The units in the order of their files. -/
  units : List CompilationUnit := []
  /-- The reports in order. -/
  diagnostics : List Diagnostic := []
deriving Inhabited

/-- The report of a file that cannot be read. -/
def unreadable (path : Path) (fault : Fault) : Diagnostic :=
  { code := "unreadable-file"
    message := "Cannot read " ++ path.render ++ ": " ++ fault.message
    subject := path.render }

namespace Workspace

/-- The unit of one file, if it can be read, and the reports on it. -/
def scanFile (workspace : Workspace) (path : Path) :
    Option CompilationUnit × List Diagnostic :=
  match workspace.read path with
  | .error fault => (none, [unreadable path fault])
  | .ok text =>
    let (unit, diagnostics) := Java.parse text path.render
    (some unit, diagnostics)

/-- The scan of files in order. -/
def scanFiles (workspace : Workspace) (paths : List Path) : Scan :=
  let scanned := paths.map workspace.scanFile
  { units := scanned.filterMap (·.1), diagnostics := scanned.flatMap (·.2) }

end Workspace

end ClassAtlas
