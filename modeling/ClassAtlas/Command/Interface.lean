import ClassAtlas.Command.Arguments
import ClassAtlas.Command.Session

/-!
# The command line interface

The commands: `generate` writes a diagram, `types` lists the declared types, `resolve` shows
what a name refers to, and `config` shows the effective settings or writes the default ones.
`run` takes arguments and a workspace to an exit code, what is printed and the workspace left
behind.
-/
namespace ClassAtlas.Command

/-- The version that is reported. -/
def versionText : String := "umlgraph v0.3.0"

/-- How the commands are called. -/
def usage : List String :=
  ["Usage: umlgraph [--version] [--log-level LEVEL] [--verbose] COMMAND",
    "  generate [-s ROOT].. [-d DIRECTORY] [-f puml|dot] [-n NAME] [--oracle|--no-oracle]",
    "           [--fail-on-diagnostics]",
    "  types [-s ROOT]..",
    "  resolve NAME [-p PACKAGE] [--owner KEY] [-s ROOT].. [--oracle|--no-oracle]",
    "  config show",
    "  config init [--force] [--path FILE]"]

/-! ## Options -/

/-- The option that asks for help. -/
def helpOption : OptionSpec := { spellings := ["--help"], key := "help", flag := some "yes" }

/-- The options before a command. -/
def mainOptions : List OptionSpec :=
  [helpOption, { spellings := ["--version", "-v"], key := "version", flag := some "yes" },
    { spellings := ["--log-level"], key := "log-level" },
    { spellings := ["--verbose"], key := "verbose", flag := some "yes" }]

/-- The option for source roots. -/
def rootOption : OptionSpec := { spellings := ["--source-path", "-s"], key := "root" }

/-- The options for and against resolving names by imports first. -/
def oracleOptions : List OptionSpec :=
  [{ spellings := ["--oracle"], key := "oracle", flag := some "yes" },
    { spellings := ["--no-oracle"], key := "oracle", flag := some "no" }]

/-- The options of `generate`. -/
def generateOptions : List OptionSpec :=
  [helpOption, rootOption, { spellings := ["--output-dir", "-d"], key := "directory" },
    { spellings := ["--format", "-f"], key := "format" },
    { spellings := ["--name", "-n"], key := "name" },
    { spellings := ["--fail-on-diagnostics"], key := "strict", flag := some "yes" }]
    ++ oracleOptions

/-- The options of `types`. -/
def typesOptions : List OptionSpec := [helpOption, rootOption]

/-- The options of `resolve`. -/
def resolveOptions : List OptionSpec :=
  [helpOption, rootOption, { spellings := ["--package", "-p"], key := "package" },
    { spellings := ["--owner"], key := "owner" }] ++ oracleOptions

/-- The options of `config init`. -/
def initOptions : List OptionSpec :=
  [helpOption, { spellings := ["--force"], key := "force", flag := some "yes" },
    { spellings := ["--path"], key := "path" }]

/-- The requested source roots. -/
def Parsed.roots (parsed : Parsed) : List Path := (parsed.values "root").map Path.ofString

/-- The choice for or against resolving names by imports first. -/
def Parsed.oracle? (parsed : Parsed) : Option Bool := (parsed.last? "oracle").map (· == "yes")

/-! ## Reports -/

/-- Print reports as a table. -/
def sayDiagnostics (diagnostics : List Diagnostic) : Run Unit :=
  .sayTable "⚠️  Diagnostics" ["Code", "Subject", "Message"]
    (diagnostics.map fun diagnostic => [diagnostic.code, diagnostic.subject, diagnostic.message])

/-- The number of edges of each kind that occurs, the kinds by name. -/
def edgeCounts (edges : List Edge) : List String :=
  let names := edges.map fun edge => edge.kind.name
  (distinctNames names).map fun name => name ++ " " ++ toString (names.count name)

/-- Print what was published. -/
def saySummary (report : PublishReport) : Run Unit := do
  let diagram := report.generation.classified
  let counts := edgeCounts diagram.edges
  let flagged := diagram.edges.countP (·.review.isSome)
  .say ("[green]✅ Wrote[/green] " ++ report.outputFile.render)
  .say ("  [dim]Files[/dim] " ++ toString report.filesParsed
    ++ "  [dim]Types[/dim] " ++ toString diagram.types.length
    ++ "  [dim]Edges[/dim] " ++ toString diagram.edges.length
    ++ " (" ++ (if counts.isEmpty then "none" else ", ".intercalate counts) ++ ")")
  if 0 < flagged then
    .say ("  [yellow]" ++ toString flagged ++ " edge(s) flagged for review[/yellow]")

/-- Print an error in words and end. -/
def complain {α : Type} (words : String) (code : ExitCode) : Run α := do
  .say ("[red]❌ " ++ words ++ "[/red]")
  throw code

/-- Whether a fault is about source roots. -/
def isRootFault : Fault → Bool
  | .rootsMissing _ | .rootNotFound _ _ => true
  | _ => false

/-- Whether a fault is about a text or a file of a diagram. -/
def isWritingFault : Fault → Bool
  | .notAWord _ _ | .severalLines _ | .quoteInside _ _ | .unknownFormat _ _ | .refused _ _ =>
    true
  | _ => false

/-! ## Commands -/

/-- Refuse operands that a command does not take. -/
def noOperands (parsed : Parsed) : Run Unit :=
  if parsed.operands.isEmpty then pure () else throw misused

/-- Write a diagram. -/
def generateDiagram (parsed : Parsed) : Run Unit := do
  noOperands parsed
  let format := (parsed.last? "format").getD Format.plantUml.name
  if (Format.ofName? format).isNone then
    complain ("Unknown format '" ++ format ++ "'. Use one of: "
      ++ ", ".intercalate (Format.all.map (·.name))) failed
  let settings ← Run.settings
  let published ← .work (settings.publish
    { sourceRoots := parsed.roots
      outputDirectory := (parsed.last? "directory").map Path.ofString
      format
      useOracle := parsed.oracle?
      name := (parsed.last? "name").getD "" })
  match published with
  | .error fault =>
    if isRootFault fault then complain fault.message rootless
    else if isWritingFault fault then
      complain ("Diagram generation failed: " ++ fault.message) unwritten
    else throw failed
  | .ok report =>
    saySummary report
    if !report.diagnostics.isEmpty then
      sayDiagnostics report.diagnostics
      if parsed.has "strict" then throw reported

/-- The index of the sources below roots. -/
def scannedIndex (settings : Settings) (roots : List Path) : Run Index := do
  match settings.scan (← Run.workspace) roots none with
  | .ok scan => pure (Index.ofUnits scan.units scan.diagnostics)
  | .error fault =>
    if isRootFault fault then complain fault.message rootless else throw failed

/-- A row of the list of declared types. -/
def typeRow (declared : DeclaredType) : List String :=
  [declared.key, declared.declaration.kind.name,
    if declared.package.isEmpty then "(default)" else declared.package,
    declared.owner.getD ""]

/-- List the declared types. -/
def listTypes (parsed : Parsed) : Run Unit := do
  noOperands parsed
  let settings ← Run.settings
  let index ← scannedIndex settings parsed.roots
  if index.size = 0 then .say "[yellow]No types declared.[/yellow]"
  else
    .sayTable ("📦 " ++ toString index.size ++ " declared types")
      ["Key", "Kind", "Package", "Owner"] (index.types.map typeRow)

/-- A reference in words. -/
def refText : TypeRef → String
  | .declared key => "declared " ++ key
  | .external name => "external " ++ name
  | .unresolved name => "unresolved " ++ name

/-- Show what a name refers to. -/
def resolveName (parsed : Parsed) : Run Unit := do
  let [name] := parsed.operands | throw misused
  let settings ← Run.settings
  let index ← scannedIndex settings parsed.roots
  let useImports ← .orFail (settings.usesOracle parsed.oracle?)
  let resolver := (OracleChoice.ofFlag useImports).resolver index
  let owner := parsed.last? "owner"
  let imports := ((owner.bind index.get?).map (·.imports)).getD []
  .echo (refText (resolver.resolveName name
    { package := (parsed.last? "package").getD "", owner, imports }))

/-- Show the effective settings. -/
def showSettings (parsed : Parsed) : Run Unit := do
  noOperands parsed
  let settings ← Run.settings
  .echo (Toml.Table.render settings)

/-- Write the default settings to a file, with the directories above it. -/
def writeDefaults (target : Path) : Work Unit := do
  .changing (·.makeDirectory target.parent)
  .changing (·.write target (Toml.Table.render Settings.defaults))

/-- Write the default settings. -/
def initSettings (parsed : Parsed) : Run Unit := do
  noOperands parsed
  let workspace ← Run.workspace
  let target := ((parsed.last? "path").map Path.ofString).getD workspace.userSettings
  if workspace.exists? target && !parsed.has "force" then
    .say ("[yellow]Config already exists at " ++ target.render
      ++ ". Use --force to overwrite.[/yellow]")
    throw failed
  match ← .work (writeDefaults target) with
  | .ok _ => .say ("[green]✅ Wrote default configuration to[/green] " ++ target.render)
  | .error _ => complain ("Could not write " ++ target.render) unwritten

/-! ## Dispatch -/

/-- Show how the commands are called and end. -/
def showUsage {α : Type} : Run α := do
  usage.forM .echo
  throw success

/-- Read the arguments of a command and run it. -/
def withArguments (specs : List OptionSpec) (mixed : Bool) (arguments : List String)
    (command : Parsed → Run Unit) : Run Unit := do
  match readArguments specs mixed arguments with
  | none => throw misused
  | some parsed => if parsed.has "help" then showUsage else command parsed

/-- Run a command on settings. -/
def settingsCommand (parsed : Parsed) : Run Unit :=
  match parsed.operands with
  | "show" :: arguments => withArguments [helpOption] true arguments showSettings
  | "init" :: arguments => withArguments initOptions true arguments initSettings
  | _ => throw misused

/-- The command of a name. -/
def command? (name : String) : Option (List String → Run Unit) :=
  match name with
  | "generate" => some (withArguments generateOptions true · generateDiagram)
  | "types" => some (withArguments typesOptions true · listTypes)
  | "resolve" => some (withArguments resolveOptions true · resolveName)
  | "config" => some (withArguments [helpOption] false · settingsCommand)
  | _ => none

/-- Refuse settings whose level of detail is no text, unless the arguments choose one. -/
def checkLevel (parsed : Parsed) : Run Unit := do
  let chosen := parsed.has "verbose" || !((parsed.last? "log-level").getD "").isEmpty
  if !chosen then
    let settings ← Run.settings
    let logging ← .orFail (settings.optional "logging")
    match Toml.Table.get? logging "level" with
    | none | some (.text _) => pure ()
    | some _ => throw failed

/-- Run the command that arguments name. -/
def dispatch (parsed : Parsed) : Run Unit := do
  if parsed.has "version" then
    .echo versionText
    throw success
  let name :: arguments := parsed.operands | throw misused
  let some command := command? name | throw misused
  checkLevel parsed
  command arguments

/-- What a command line leaves behind. -/
structure Outcome where
  /-- The exit code. -/
  exit : ExitCode
  /-- What was printed. -/
  printed : List Output
  /-- The workspace. -/
  workspace : Workspace

/-- Run a command line in a workspace. -/
def run (arguments : List String) (workspace : Workspace) : Outcome :=
  let steps := withArguments mainOptions false arguments dispatch
  let (result, session) := (ExceptT.run steps).run { workspace }
  { exit := match result with
      | .ok _ => success
      | .error code => code
    printed := session.printed
    workspace := session.workspace }

end ClassAtlas.Command
