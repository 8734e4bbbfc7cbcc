import ClassAtlas.Corpus.Scan
import ClassAtlas.Diagram.Dot
import ClassAtlas.Diagram.Generation
import ClassAtlas.Settings

/-!
# Publication of a diagram

A publication takes a workspace from its source roots to a written diagram file: locate the
roots, scan the sources below them, generate the diagram, write it. What has been written when
a publication fails stays written: a PlantUML file is opened as soon as its directives are
known and holds every complete line before the fault, a DOT file is written as a whole.
-/
namespace ClassAtlas

/-- What a publication is asked for. -/
structure PublishOptions where
  /-- The requested source roots, none for the configured candidates. -/
  sourceRoots : List Path := []
  /-- The directory to write to, none for the configured one. -/
  outputDirectory : Option Path := none
  /-- The word for the format. -/
  format : String := Format.plantUml.name
  /-- Whether names are resolved by imports first, none for the configured choice. -/
  useOracle : Option Bool := none
  /-- The name of the diagram, empty for the configured one. -/
  name : String := ""
  /-- The directory that relative paths start from, none for the working directory. -/
  base : Option Path := none
deriving Inhabited

/-- What a publication reports. -/
structure PublishReport where
  /-- The written file. -/
  outputFile : Path
  /-- The diagram's types and relationships. -/
  generation : Generation
  /-- The number of files that were scanned into units. -/
  filesParsed : Nat

/-- The reports on the way to a published diagram. -/
def PublishReport.diagnostics (report : PublishReport) : List Diagnostic :=
  report.generation.classified.diagnostics

/-- Steps on a workspace, which keeps what was done before a fault. -/
abbrev Work := ExceptT Fault (StateM Workspace)

namespace Work

/-- A result that needs no step. -/
def ofExcept {α : Type} (result : Except Fault α) : Work α := ExceptT.mk (pure result)

/-- A reading of the workspace. -/
def reading {α : Type} (read : Workspace → Except Fault α) : Work α := do
  Work.ofExcept (read (← get))

/-- A change of the workspace. -/
def changing (change : Workspace → Except Fault Workspace) : Work Unit := do
  set (← Work.reading change)

end Work

/-- Locate the roots, find the sources below them and scan them. -/
def Settings.scan (settings : Settings) (workspace : Workspace) (requested : List Path)
    (base : Option Path) : Except Fault Scan := do
  let (roots, rootReports) ← settings.sourceRoots workspace requested base
  let skipped ← settings.skippedDirectories
  let (files, fileReports) := workspace.discover roots skipped
  let scan := workspace.scanFiles files
  pure { scan with diagnostics := rootReports ++ fileReports ++ scan.diagnostics }

/-- The oracle that a yes or no stands for. -/
def OracleChoice.ofFlag (useImports : Bool) : OracleChoice :=
  if useImports then .imports else .none

/-- The name of the diagram: the requested one, the configured one, or else the default. -/
def Settings.diagramName (settings : Settings) (requested : String) : Except Fault Toml.Value :=
  if requested.isEmpty then do
    let diagram ← settings.optional "diagram"
    pure ((Settings.truthy? diagram "name").getD (.text defaultDiagramName))
  else .ok (.text requested)

/-- The name of a diagram as its first line tells it; only a text can be told. -/
def toldName : Toml.Value → Except Fault String
  | .text name => .ok name
  | value => do
    Settings.checkValue "name" value
    .error .misusedSetting

/-- The diagram of a scan. -/
def Settings.generate (settings : Settings) (scan : Scan) (useOracle : Option Bool) :
    Except Fault Generation := do
  let useImports ← settings.usesOracle useOracle
  generate? scan.units (.ofFlag useImports) scan.diagnostics

/-- Write a diagram as PlantUML. -/
def Settings.publishPlantUml (settings : Settings) (scan : Scan) (useOracle : Option Bool)
    (name : Toml.Value) (file : Path) : Work Generation := do
  let diagram ← .ofExcept (settings.optional "diagram")
  let header ← .ofExcept (Settings.diagramHeader diagram)
  .changing (·.write file "")
  let tag ← .ofExcept (Settings.diagramTag diagram)
  let generation ← .ofExcept (settings.generate scan useOracle)
  let name ← .ofExcept (toldName name)
  let writer : PlantUml.Writer := { header, tag }
  let (text, fault) := writer.writeAll (generation.classified.events name)
  .changing (·.write file text)
  match fault with
  | some fault => throw fault
  | none => pure generation

/-- Write a diagram as DOT. -/
def Settings.publishDot (settings : Settings) (scan : Scan) (useOracle : Option Bool)
    (name : Toml.Value) (file : Path) : Work Generation := do
  let generation ← .ofExcept (settings.generate scan useOracle)
  let text ← .ofExcept (Dot.render (generation.classified.events name.asText) "")
  .changing (·.write file text)
  pure generation

/-- Publish the diagram of a workspace. -/
def Settings.publish (settings : Settings) (options : PublishOptions) : Work PublishReport := do
  let some format := Format.ofName? options.format
    | throw (.unknownFormat options.format (Format.all.map (·.name)))
  let name ← .ofExcept (settings.diagramName options.name)
  let scan ← .reading (settings.scan · options.sourceRoots options.base)
  let directory ←
    match options.outputDirectory with
    | some directory => pure directory
    | none => .ofExcept settings.outputDirectory
  let directory := (options.base.getD {}).join directory
  .changing (·.makeDirectory directory)
  let outputFile := directory.join (Path.ofString (name.asText ++ "." ++ format.name))
  let generation ←
    match format with
    | .plantUml => settings.publishPlantUml scan options.useOracle name outputFile
    | .dot => settings.publishDot scan options.useOracle name outputFile
  pure { outputFile, generation, filesParsed := scan.units.length }

end ClassAtlas
