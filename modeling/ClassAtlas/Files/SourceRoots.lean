import ClassAtlas.Declaration
import ClassAtlas.Files.Workspace

/-!
# Source roots and the files below them

Source roots are the directories that are searched for sources. Requested roots are taken as
far as they are directories, and the others are reported; without a request the first candidate
that is a directory is taken. Below its roots a corpus consists of the files with the source
suffix that no skipped directory leads to, each listed once, in the order of paths.
-/
namespace ClassAtlas

/-- The candidate source roots when none are configured. -/
def defaultSourceRoots : List String := ["src/main/java", "src", "."]

/-- The directories that are skipped when none are configured. -/
def defaultSkippedDirectories : List String :=
  [".git", ".gradle", ".idea", ".mvn", ".settings", ".umlgraph", "bin", "build", "node_modules",
    "out", "target"]

/-- The end of the name of a source file. -/
def sourceSuffix : String := ".java"

/-- Keep the first of equal values. -/
def keepFirst {α : Type} [DecidableEq α] : List α → List α
  | [] => []
  | value :: values => value :: (keepFirst values).filter (· ≠ value)

/-- The report of a requested root that is no directory. -/
def missingRoot (root requested : Path) : Diagnostic :=
  { code := "missing-source-root"
    message := "Source root not found: " ++ root.render
    subject := requested.render }

/-- The report of a root without sources. -/
def emptyRoot (root : Path) : Diagnostic :=
  { code := "empty-source-root"
    message := "No Java sources under " ++ root.render
    subject := root.render }

namespace Workspace

/-- The directory that roots start from. -/
def rootBase (workspace : Workspace) (base : Option Path) : Path :=
  workspace.resolve (base.getD {})

/-- The requested roots that are directories, and reports of the others. -/
def requestedRoots (workspace : Workspace) (base : Path) (requested : List Path) :
    Except Fault (List Path × List Diagnostic) :=
  let roots := requested.map fun path => (base.join path, path)
  let found := roots.filter fun (root, _) => workspace.isDirectory root
  let missing := roots.filter fun (root, _) => !workspace.isDirectory root
  if found.isEmpty then .error (.rootsMissing (requested.map (·.render)))
  else
    .ok (keepFirst (found.map fun (root, _) => workspace.resolve root),
      missing.map fun (root, path) => missingRoot root path)

/-- The first candidate that is a directory. -/
def candidateRoot (workspace : Workspace) (base : Path) (candidates : List String) :
    Except Fault Path :=
  match candidates.find? fun candidate =>
      workspace.isDirectory (base.join (Path.ofString candidate)) with
  | some candidate => .ok (workspace.resolve (base.join (Path.ofString candidate)))
  | none => .error (.rootNotFound base.render candidates)

/-- The source roots: the requested ones, or else the first candidate. -/
def sourceRoots (workspace : Workspace) (requested : List Path) (base : Option Path)
    (candidates : List String) : Except Fault (List Path × List Diagnostic) :=
  let base := workspace.rootBase base
  if requested.isEmpty then do
    let root ← workspace.candidateRoot base candidates
    pure ([root], [])
  else workspace.requestedRoots base requested

/-- Whether a location below a root is a source that no skipped directory leads to. -/
def isSource (top : Location) (skipped : List String) (location : Location) : Bool :=
  let inner := location.drop top.length
  (inner.getLast?.map fun name => sourceSuffix.toList.isSuffixOf name.toList).getD false
    && !inner.dropLast.any skipped.contains

/-- The locations of the sources below a root. -/
def sourcesBelow (workspace : Workspace) (skipped : List String) (root : Path) :
    List Location :=
  match workspace.tree.locate (workspace.parts root) with
  | .ok ⟨top, some .directory⟩ =>
    (workspace.tree.filesBelow top).filter (isSource top skipped)
  | _ => []

end Workspace

/-- Insert a location at the place its order gives it, unless it stands there. -/
def insertLocation (location : Location) : List Location → List Location
  | [] => [location]
  | first :: rest =>
    if location < first then location :: first :: rest
    else if location = first then first :: rest
    else first :: insertLocation location rest

/-- The distinct locations of a list in increasing order. -/
def distinctLocations (locations : List Location) : List Location :=
  locations.foldr insertLocation []

/-- The sources below roots, and reports of the roots without any. -/
def Workspace.discover (workspace : Workspace) (roots : List Path) (skipped : List String) :
    List Path × List Diagnostic :=
  ((distinctLocations (roots.flatMap (workspace.sourcesBelow skipped))).map Path.ofLocation,
    (roots.filter fun root => (workspace.sourcesBelow skipped root).isEmpty).map emptyRoot)

/-- Inserting adds the location and no other. -/
theorem mem_insertLocation {location other : Location} {locations : List Location} :
    other ∈ insertLocation location locations ↔ other = location ∨ other ∈ locations := by
  induction locations with
  | nil => simp [insertLocation]
  | cons first rest ih =>
    simp only [insertLocation]
    split
    · simp
    · split
      · next same => subst same; simp
      · simp only [List.mem_cons, ih]
        constructor
        · rintro (here | here | here) <;> simp [here]
        · rintro (here | here | here) <;> simp [here]

/-- Sorting keeps the locations. -/
@[simp]
theorem mem_distinctLocations {location : Location} {locations : List Location} :
    location ∈ distinctLocations locations ↔ location ∈ locations := by
  induction locations with
  | nil => simp [distinctLocations]
  | cons first rest ih =>
    simp only [distinctLocations, List.foldr_cons] at ih ⊢
    rw [mem_insertLocation, ih, List.mem_cons]

end ClassAtlas
