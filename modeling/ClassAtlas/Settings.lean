import ClassAtlas.Diagram.PlantUml
import ClassAtlas.Files.SourceRoots
import ClassAtlas.Toml.Printer
import ClassAtlas.Toml.Reader

/-!
# Settings

Settings come in three layers: the defaults, the user's file and the project's file, each laid
over the one before. A file that is missing or malformed counts as empty. Nothing is checked
when settings are loaded: a value of the wrong kind shows where it is used, and the readings
below say how. How the documents of the files are read is left open where settings are loaded from
them; `load` reads them as `Toml.read` does.
-/
namespace ClassAtlas

/-- The effective settings. -/
abbrev Settings := Toml.Table

/-- The name of the project's settings file. -/
def projectSettings : Path := Path.ofString "umlgraph.toml"

/-- The formats of written diagrams. -/
inductive Format where
  | plantUml
  | dot
deriving DecidableEq, Inhabited, Repr

namespace Format

/-- The word for a format, which is also the suffix of its files. -/
def name : Format → String
  | .plantUml => "puml"
  | .dot => "dot"

/-- Every format. -/
def all : List Format := [.plantUml, .dot]

/-- The format that a word names. -/
def ofName? (name : String) : Option Format := all.find? (·.name == name)

end Format

namespace Settings

/-- An array of texts. -/
def texts (values : List String) : Toml.Value := .array (values.map .text)

/-- The settings when no file says otherwise. -/
def defaults : Settings :=
  [("diagram", .table
      [("name", .text defaultDiagramName), ("title", .text "Class diagram"),
        ("theme", .text "blueprint"), ("direction", .text "left to right"),
        ("hide_empty_members", .boolean true), ("tag", .text PlantUml.defaultTag)]),
    ("resolver", .table [("use_import_oracle", .boolean true)]),
    ("scan", .table
      [("source_roots", texts defaultSourceRoots), ("skip_dirs", texts defaultSkippedDirectories),
        ("output_dir", .text "docs/diagrams/src")]),
    ("logging", .table [("level", .text "WARNING")])]

/-- The fault of a document that cannot be read though it is well formed. -/
def documentFault : Toml.ReadFault → Option Fault
  | .malformed => none
  | .notATable => some .unusableSetting
  | .notAnArray => some .misusedSetting
  | .valueMissing => some .emptySetting

/-- The settings of a document, which is read in a given way; a malformed one counts as empty. -/
def ofDocument (read : Toml.DocumentReader) (document : String) : Except Fault Settings :=
  match read document with
  | .ok table => .ok table
  | .error cause =>
    match documentFault cause with
    | none => .ok []
    | some fault => .error fault

/-- The layer of a settings file, empty if the file cannot be read. -/
def layer (read : Toml.DocumentReader) (workspace : Workspace) (path : Path) :
    Except Fault Settings :=
  match workspace.read path with
  | .ok document => ofDocument read document
  | .error _ => .ok []

/-- The settings of a workspace whose documents are read in a given way. -/
def loadBy (read : Toml.DocumentReader) (workspace : Workspace) : Except Fault Settings := do
  let user ← layer read workspace workspace.userSettings
  let project ← layer read workspace projectSettings
  pure ((Toml.Table.merge defaults user).merge project)

/-- The settings of a workspace. -/
def load (workspace : Workspace) : Except Fault Settings := loadBy Toml.read workspace

/-- A section, whatever its value. -/
def sectionValue (settings : Settings) (name : String) : Except Fault Toml.Value :=
  match settings.get? name with
  | some value => .ok value
  | none => .error .missingSetting

/-- A section that is asked for settings it may not have. -/
def optional (settings : Settings) (name : String) : Except Fault Toml.Table := do
  match ← settings.sectionValue name with
  | .table entries => pure entries
  | _ => .error .misusedSetting

/-- A setting that its section has to have. -/
def required (settings : Settings) (name key : String) : Except Fault Toml.Value := do
  match ← settings.sectionValue name with
  | .table entries =>
    match Toml.Table.get? entries key with
    | some value => pure value
    | none => .error .missingSetting
  | _ => .error .unusableSetting

/-- The setting of a key if it stands for yes. -/
def truthy? (table : Toml.Table) (key : String) : Option Toml.Value :=
  (Toml.Table.get? table key).filter (·.isTruthy)

/-- Refuse a value that cannot stand in one line of a diagram. -/
def checkValue (label : String) (value : Toml.Value) : Except Fault Unit :=
  match value.holds? '\n', value.holds? '\r', value.holds? '"' with
  | some feed, some ret, some quote =>
    if feed || ret then .error (.severalLines label)
    else if quote then .error (.quoteInside label value.asText)
    else .ok ()
  | _, _, _ => .error .unusableSetting

/-- The text of a directive, empty if its setting does not stand for yes. -/
def directiveText (diagram : Toml.Table) (key : String) : Except Fault String :=
  match truthy? diagram key with
  | none => .ok ""
  | some value => do
    checkValue key value
    pure value.asText

/-- The directives that the settings of a diagram ask for. -/
def diagramHeader (diagram : Toml.Table) : Except Fault (List String) := do
  let title ← directiveText diagram "title"
  let theme ← directiveText diagram "theme"
  let direction ← directiveText diagram "direction"
  let hideEmptyMembers :=
    ((Toml.Table.get? diagram "hide_empty_members").map (·.isTruthy)).getD true
  pure (PlantUml.directives { title, theme, direction, hideEmptyMembers })

/-- The tag of marker comments that the settings of a diagram ask for. -/
def diagramTag (diagram : Toml.Table) : Except Fault String :=
  match Toml.Table.get? diagram "tag" with
  | none => .ok PlantUml.defaultTag
  | some value => do
    checkValue "tag" value
    pure value.asText

/-- Whether names are resolved by imports first, unless a choice overrides the settings. -/
def usesOracle (settings : Settings) (choice : Option Bool) : Except Fault Bool :=
  match choice with
  | some flag => .ok flag
  | none => do
    let resolver ← settings.optional "resolver"
    pure (((Toml.Table.get? resolver "use_import_oracle").map (·.isTruthy)).getD true)

/-- The parts of a setting that is a list of some kind. -/
def listed (settings : Settings) (name key : String) : Except Fault (List Toml.Value) := do
  match (← settings.required name key).parts? with
  | some parts => pure parts
  | none => .error .unusableSetting

/-- The directories to skip: anything but a text is never met, and a compound is refused. -/
def skippedDirectories (settings : Settings) : Except Fault (List String) := do
  let parts ← settings.listed "scan" "skip_dirs"
  if parts.any fun part => part.kind = (Toml.Value.array []).kind
      || part.kind = (Toml.Value.table []).kind then
    .error .unusableSetting
  else pure (parts.filterMap (·.text?))

/-- The source roots among candidates that are settings: a candidate that is no text is refused
when the search reaches it. -/
def candidateRoot (settings : Settings) (workspace : Workspace) (base : Path) :
    Except Fault Path := do
  let parts ← settings.listed "scan" "source_roots"
  let texts := parts.takeWhile (·.text?.isSome)
  match workspace.candidateRoot base (texts.filterMap (·.text?)) with
  | .ok root => pure root
  | .error fault => .error (if texts.length < parts.length then .unusableSetting else fault)

/-- The source roots: the requested ones, or else the first configured candidate. -/
def sourceRoots (settings : Settings) (workspace : Workspace) (requested : List Path)
    (base : Option Path) : Except Fault (List Path × List Diagnostic) := do
  let _ ← settings.required "scan" "source_roots"
  let base := workspace.rootBase base
  if requested.isEmpty then
    let root ← settings.candidateRoot workspace base
    pure ([root], [])
  else workspace.requestedRoots base requested

/-- The directory that diagrams are written to. -/
def outputDirectory (settings : Settings) : Except Fault Path := do
  match ← settings.required "scan" "output_dir" with
  | .text text => pure (Path.ofString text)
  | _ => .error .unusableSetting

end Settings

end ClassAtlas
