import ClassAtlas.Command.Markup
import ClassAtlas.Diagram.Publication

/-!
# Sessions

A command runs in a session: it works on a workspace, prints lines and tables, and ends with an
exit code. What it did and printed before it ended stays.
-/
namespace ClassAtlas.Command

/-- What a command prints. -/
inductive Output where
  /-- A text on lines of its own. -/
  | line (text : String)
  /-- A table with a title, the names of its columns and its rows. -/
  | table (title : String) (columns : List String) (rows : List (List String))
deriving Inhabited

/-- The state of a running command. -/
structure Session where
  /-- The workspace as it stands. -/
  workspace : Workspace
  /-- What has been printed. -/
  printed : List Output := []
deriving Inhabited

/-- An exit code. -/
abbrev ExitCode := Nat

/-- The exit code of success. -/
def success : ExitCode := 0

/-- The exit code of a command that broke off, or was asked for something it does not offer. -/
def failed : ExitCode := 1

/-- The exit code of arguments that cannot be understood. -/
def misused : ExitCode := 2

/-- The exit code of missing source roots. -/
def rootless : ExitCode := 2

/-- The exit code of a diagram or file that could not be written. -/
def unwritten : ExitCode := 3

/-- The exit code of reports where none are wanted. -/
def reported : ExitCode := 4

/-- The steps of a command, which ends early with an exit code. -/
abbrev Run := ExceptT ExitCode (StateM Session)

namespace Run

variable {α : Type}

/-- Print. -/
def print (output : Output) : Run Unit :=
  modify fun session => { session with printed := session.printed ++ [output] }

/-- Print a text as it is. -/
def echo (text : String) : Run Unit := print (.line text)

/-- The plain form of a marked-up text; the command breaks off if it has none. -/
def plain (text : String) : Run String :=
  match Markup.plain? text with
  | some plain => pure plain
  | none => throw failed

/-- Print a marked-up text. -/
def say (text : String) : Run Unit := do echo (← plain text)

/-- Print a table of marked-up cells. -/
def sayTable (title : String) (columns : List String) (rows : List (List String)) :
    Run Unit := do
  let title ← plain title
  let rows ← rows.mapM (·.mapM plain)
  print (.table title columns rows)

/-- A result; the command breaks off at a fault. -/
def orFail (result : Except Fault α) : Run α :=
  match result with
  | .ok value => pure value
  | .error _ => throw failed

/-- The workspace as it stands. -/
def workspace : Run Workspace := do pure (← get).workspace

/-- Work on the workspace. -/
def work (steps : Work α) : Run (Except Fault α) := do
  let session ← get
  let (result, workspace) := (ExceptT.run steps).run session.workspace
  set { session with workspace }
  pure result

/-- The effective settings. -/
def settings : Run Settings := do orFail (Settings.load (← workspace))

end Run

end ClassAtlas.Command
