import ClassAtlas.Fault
import ClassAtlas.Files.Path

/-!
# File trees

A file tree says what lies at each location: a file with its text, or a directory. Following a
path goes from directory to directory and fails where a part is missing or a file stands in the
way, and each operation on a tree fails exactly as following its path does, or because what it
finds there is of the wrong kind.

A tree holds files and directories only. There are no symbolic links, so a location is reached by
its own path and by those that double dots lead back on, and no others.
-/
namespace ClassAtlas

/-- What lies at a location. -/
inductive Node where
  | file (text : String)
  | directory
deriving DecidableEq, Inhabited, Repr

/-- What lies where. -/
structure FileTree where
  /-- The known locations in the order they were added. -/
  entries : List (Location × Node) := []
deriving Inhabited

/-- The end of a followed path: only its last part may be missing. -/
structure Place where
  /-- Where the path leads. -/
  location : Location
  /-- What lies there. -/
  node : Option Node
deriving Inhabited

namespace FileTree

/-- What lies at a location; the root is a directory. -/
def get? (tree : FileTree) (location : Location) : Option Node :=
  if location.isEmpty then some .directory
  else (tree.entries.find? (·.1 == location)).map (·.2)

/-- Put a node at a location, in place of what lay there. -/
def put (tree : FileTree) (location : Location) (node : Node) : FileTree :=
  if tree.entries.any (·.1 == location) then
    { entries := tree.entries.map fun entry =>
        if entry.1 = location then (location, node) else entry }
  else { entries := tree.entries ++ [(location, node)] }

/-- The locations above a location, the root left out. -/
def above (location : Location) : List Location :=
  (List.range location.length).filterMap fun depth =>
    if depth = 0 then none else some (location.take depth)

/-- Put a node at a location together with the directories above it. -/
def plant (tree : FileTree) (location : Location) (node : Node) : FileTree :=
  let grown := (above location).foldl (fun tree directory => tree.put directory .directory) tree
  grown.put location node

/-- Follow parts from a place. -/
def follow (tree : FileTree) (place : Place) : List String → Except PathFault Place
  | [] => .ok place
  | part :: rest =>
    match place.node with
    | none => .error .missing
    | some (.file _) => .error .notDirectory
    | some .directory =>
      let location := Path.stepTo place.location part
      tree.follow ⟨location, tree.get? location⟩ rest

/-- Where parts lead from the root. -/
def locate (tree : FileTree) (parts : List String) : Except PathFault Place :=
  tree.follow ⟨[], some .directory⟩ parts

/-- The node that parts lead to, if there is one. -/
def node? (tree : FileTree) (parts : List String) : Option Node :=
  match tree.locate parts with
  | .ok place => place.node
  | .error _ => none

/-- The text of the file that parts lead to. -/
def read (tree : FileTree) (parts : List String) : Except PathFault String :=
  match tree.locate parts with
  | .error cause => .error cause
  | .ok ⟨_, none⟩ => .error .missing
  | .ok ⟨_, some .directory⟩ => .error .isDirectory
  | .ok ⟨_, some (.file text)⟩ => .ok text

/-- Write a text to the file that parts lead to, a new one if need be. -/
def write (tree : FileTree) (parts : List String) (text : String) : Except PathFault FileTree :=
  match tree.locate parts with
  | .error cause => .error cause
  | .ok ⟨_, some .directory⟩ => .error .isDirectory
  | .ok ⟨location, _⟩ => .ok (tree.put location (.file text))

/-- Make every missing directory on the way along parts from a location. -/
def makeDirectories (tree : FileTree) (location : Location) :
    List String → Except PathFault FileTree
  | [] => .ok tree
  | part :: rest =>
    let next := Path.stepTo location part
    match tree.get? next with
    | some .directory => tree.makeDirectories next rest
    | some (.file _) => .error (if rest.isEmpty then .exists else .notDirectory)
    | none => (tree.put next .directory).makeDirectories next rest

/-- The locations of the files below a location. -/
def filesBelow (tree : FileTree) (top : Location) : List Location :=
  tree.entries.filterMap fun
    | (location, .file _) =>
      if top.length < location.length && location.take top.length == top then some location
      else none
    | (_, .directory) => none

/-- The files whose text is new or differs from an earlier tree. -/
def changesSince (tree before : FileTree) : List (Location × String) :=
  tree.entries.filterMap fun
    | (location, .file text) =>
      if before.get? location = some (.file text) then none else some (location, text)
    | (_, .directory) => none

/-- A file that parts lead to is read as its text. -/
theorem read_of_locate {tree : FileTree} {parts : List String} {location : Location}
    {text : String} (found : tree.locate parts = .ok ⟨location, some (.file text)⟩) :
    tree.read parts = .ok text := by
  simp [read, found]

end FileTree

end ClassAtlas
