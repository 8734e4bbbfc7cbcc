import ClassAtlas.Command.Interface
import ClassAtlas.Command.Layout
import ClassAtlas.Text.Utf8

/-!
# The program

The program takes a snapshot of the directories that its arguments and settings can lead to,
runs the command line on it, prints what was printed and writes the changed files. All that it
decides itself is what to take into the snapshot.
-/
namespace ClassAtlas.Program

/-- The ends of the names of files whose text is taken into a snapshot. -/
def textSuffixes : List String := [".java", ".toml", ".puml", ".dot"]

/-- The node of a file. -/
def fileNode (path name : String) : IO Node := do
  if textSuffixes.any fun suffix => suffix.toList.isSuffixOf name.toList then
    let bytes ← IO.FS.readBinFile path
    pure (.file (Text.decodeUtf8 bytes.toList))
  else pure (.file "")

/-- The spelling of a location. -/
def spelled (location : Location) : String := (Path.ofLocation location).render

/-- The entries of a directory, none if there is no such directory. -/
def entriesAt (location : Location) : IO (Option (List IO.FS.DirEntry)) := do
  let path := (← IO.currentDir) / spelled location
  try pure (some (← path.readDir).toList) catch _ => pure none

/-- What lies below a directory. Links to directories are not followed. -/
partial def below (location : Location) : IO (List (Location × Node)) := do
  let entries := (← entriesAt location).getD []
  let found ← entries.mapM fun entry => do
    let inner := location ++ [entry.fileName]
    match (← entry.path.symlinkMetadata).type with
    | .dir => pure ((inner, Node.directory) :: (← below inner))
    | _ =>
      if ← entry.path.isDir then pure [(inner, Node.directory)]
      else pure [(inner, ← fileNode (spelled inner) entry.fileName)]
  pure found.flatten

/-- A tree with what lies at a location, the directories on the way included. -/
def visit (tree : FileTree) (location : Location) : IO FileTree := do
  if (← entriesAt location).isSome then
    let rooted := if location.isEmpty then tree else tree.plant location .directory
    let known := rooted.entries.map (·.1)
    let entries := (← below location).filter fun entry => !known.contains entry.1
    pure { entries := rooted.entries ++ entries }
  else
    try
      let _ ← IO.FS.Handle.mk (spelled location) .read
      let node ← fileNode (spelled location) (location.getLast?.getD "")
      pure (tree.plant location node)
    catch _ => pure tree

/-- Whether a location lies at or below another. -/
def covers (top location : Location) : Bool := location.take top.length == top

/-- The paths that an argument may name, alone or behind the option it sets. -/
def pathsOf (argument : String) : List Path :=
  [argument, String.ofList (argument.toList.dropWhile (· != '=')).tail,
    String.ofList (argument.toList.drop 2)].map Path.ofString

/-- The paths that settings name. -/
def settingPaths (settings : Settings) : List Path :=
  let roots := ((settings.listed "scan" "source_roots").toOption.getD []).filterMap (·.text?)
  roots.map Path.ofString ++ (settings.outputDirectory.toOption).toList

/-- A workspace with what lies at paths, so far as it is not known yet. -/
def visitAll (workspace : Workspace) (paths : List Path) : IO Workspace := do
  let locations := paths.map fun path => Path.collapse (workspace.parts path)
  let outside := (keepFirst locations).filter fun location =>
    !covers workspace.directory location
  let tree ← outside.foldlM visit workspace.tree
  pure { workspace with tree }

/-- Where the user's own settings lie. -/
def settingsFile : IO Path := do
  let home := Path.ofString ((← IO.getEnv "HOME").getD "/")
  let directory :=
    match ← IO.getEnv "UMLGRAPH_HOME" with
    | some text =>
      if text.startsWith "~/" then home.join (Path.ofString (String.ofList (text.toList.drop 2)))
      else Path.ofString text
    | none => home.join (Path.ofString ".umlgraph")
  pure (directory.join (Path.ofString "config.toml"))

/-- The workspace that arguments can reach. -/
def snapshot (arguments : List String) : IO Workspace := do
  let directory := (Path.ofString (← IO.currentDir).toString).parts
  let tree ← visit {} directory
  let userSettings ← settingsFile
  let workspace : Workspace := { tree, directory, userSettings }
  let workspace ← visitAll workspace (userSettings :: arguments.flatMap pathsOf)
  match Settings.load workspace with
  | .ok settings => visitAll workspace (settingPaths settings)
  | .error _ => pure workspace

/-- Carry out what changed between two trees. -/
def apply (before after : FileTree) : IO Unit := do
  for (location, node) in after.entries do
    if node = .directory && (before.get? location).isNone then
      IO.FS.createDirAll (spelled location)
  for (location, text) in after.changesSince before do
    IO.FS.writeFile (spelled location) text

end ClassAtlas.Program

/-- Run the command line and return its exit code. -/
def main (arguments : List String) : IO UInt32 := do
  let workspace ← ClassAtlas.Program.snapshot arguments
  let outcome := ClassAtlas.Command.run arguments workspace
  outcome.printed.forM fun output => output.layout.forM IO.println
  ClassAtlas.Program.apply workspace.tree outcome.workspace.tree
  pure outcome.exit.toUInt32
