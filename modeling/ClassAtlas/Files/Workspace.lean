import ClassAtlas.Files.FileTree

/-!
# Workspaces

A workspace is a file tree with a working directory, from which relative paths start, and the
place where the user's own settings lie. A refused path is reported as it was given.
-/
namespace ClassAtlas

/-- A file tree with the places a command starts from. -/
structure Workspace where
  /-- The files. -/
  tree : FileTree := {}
  /-- The working directory. -/
  directory : Location := []
  /-- Where the user's settings lie. -/
  userSettings : Path := {}
deriving Inhabited

namespace Workspace

/-- The parts of a path from the root. -/
def parts (workspace : Workspace) (path : Path) : List String :=
  if path.absolute then path.parts else workspace.directory ++ path.parts

/-- The path from the root without double dots. There are no links to follow. -/
def resolve (workspace : Workspace) (path : Path) : Path :=
  Path.ofLocation (Path.collapse (workspace.parts path))

/-- Whether something lies at a path. -/
def exists? (workspace : Workspace) (path : Path) : Bool :=
  (workspace.tree.node? (workspace.parts path)).isSome

/-- Whether a directory lies at a path. -/
def isDirectory (workspace : Workspace) (path : Path) : Bool :=
  workspace.tree.node? (workspace.parts path) = some .directory

/-- Name the path that was refused. -/
def refuse {α : Type} (path : Path) : Except PathFault α → Except Fault α
  | .ok value => .ok value
  | .error cause => .error (.refused cause path.render)

/-- The text of a file. -/
def read (workspace : Workspace) (path : Path) : Except Fault String :=
  refuse path (workspace.tree.read (workspace.parts path))

/-- Write a text to a file. -/
def write (workspace : Workspace) (path : Path) (text : String) : Except Fault Workspace := do
  let tree ← refuse path (workspace.tree.write (workspace.parts path) text)
  pure { workspace with tree }

/-- Make a directory with the directories above it. -/
def makeDirectory (workspace : Workspace) (path : Path) : Except Fault Workspace := do
  let tree ← refuse path (workspace.tree.makeDirectories [] (workspace.parts path))
  pure { workspace with tree }

end Workspace

end ClassAtlas
