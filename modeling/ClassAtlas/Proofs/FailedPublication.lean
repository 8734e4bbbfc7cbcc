import ClassAtlas.Proofs.FaultCauses
import ClassAtlas.Proofs.FileTrees

/-!
# What a failed publication leaves behind

A publication has two parts. Before anything is written it finds out what there is to draw, makes
the directory of its file and, for PlantUML, opens the file, which empties it. A fault until then
leaves every file as it was. A fault after the file was opened leaves in it what was written by
then, which is nothing if the fault is about the tag. A DOT file is written as a whole, so it is
never left half written.
-/
namespace ClassAtlas

/-! ## Runs of steps on a workspace -/

namespace Work

variable {α β : Type} {workspace : Workspace}

/-- What steps come to from a workspace: a result and the workspace they leave. -/
def runOn (steps : Work α) (workspace : Workspace) : Except Fault α × Workspace :=
  (ExceptT.run steps).run workspace

/-- Two failures are the same if they end with one fault in one workspace. -/
theorem failure_inj {early fault : Fault} {later after : Workspace}
    (same : ((.error early, later) : Except Fault α × Workspace) = (.error fault, after)) :
    early = fault ∧ later = after :=
  ⟨Except.error.inj (Prod.mk.inj same).1, (Prod.mk.inj same).2⟩

/-- Work goes on in the workspace that the work before it left, and stops at a fault. -/
theorem runOn_bind (steps : Work α) (next : α → Work β) :
    (steps >>= next).runOn workspace =
      match steps.runOn workspace with
      | (.ok value, later) => (next value).runOn later
      | (.error fault, later) => (.error fault, later) := by
  unfold runOn ExceptT.run StateT.run
  simp only [bind, ExceptT.bind, ExceptT.mk, StateT.bind, ExceptT.bindCont]
  cases steps workspace with
  | mk result later => cases result <;> rfl

/-- A result that is there already leaves the workspace as it is. -/
theorem runOn_ofExcept_bind (result : Except Fault α) (next : α → Work β) :
    (ofExcept result >>= next).runOn workspace =
      match result with
      | .ok value => (next value).runOn workspace
      | .error fault => (.error fault, workspace) := by
  rw [runOn_bind]
  cases result <;> rfl

/-- Reading leaves the workspace as it is. -/
theorem runOn_reading_bind (read : Workspace → Except Fault α) (next : α → Work β) :
    (reading read >>= next).runOn workspace =
      match read workspace with
      | .ok value => (next value).runOn workspace
      | .error fault => (.error fault, workspace) :=
  runOn_ofExcept_bind (read workspace) next

/-- A change that fails leaves the workspace as it is. -/
theorem runOn_changing_bind (change : Workspace → Except Fault Workspace) (next : Unit → Work β) :
    (changing change >>= next).runOn workspace =
      match change workspace with
      | .ok later => (next ()).runOn later
      | .error fault => (.error fault, workspace) := by
  rw [changing, bind_assoc, runOn_reading_bind]
  cases change workspace <;> rfl

end Work

/-! ## The part before anything is written -/

/-- What a publication has found out when it is about to make the directory of its file. -/
structure Plan where
  /-- The format of the file. -/
  format : Format
  /-- The name of the diagram. -/
  name : Toml.Value
  /-- What was read below the source roots. -/
  scan : Scan
  /-- The directory of the file. -/
  directory : Path

/-- The file that is written. -/
def Plan.outputFile (plan : Plan) : Path :=
  plan.directory.join (Path.ofString (plan.name.asText ++ "." ++ plan.format.name))

/-- Find out what there is to draw and where. -/
def Settings.plan (settings : Settings) (options : PublishOptions) (workspace : Workspace) :
    Except Fault Plan := do
  let some format := Format.ofName? options.format
    | .error (.unknownFormat options.format (Format.all.map (·.name)))
  let name ← settings.diagramName options.name
  let scan ← settings.scan workspace options.sourceRoots options.base
  let directory ←
    match options.outputDirectory with
    | some directory => pure directory
    | none => settings.outputDirectory
  pure { format, name, scan, directory := (options.base.getD {}).join directory }

/-- The steps that write a planned file. -/
def Settings.draw (settings : Settings) (useOracle : Option Bool) (plan : Plan) :
    Work PublishReport := do
  let generation ←
    match plan.format with
    | .plantUml => settings.publishPlantUml plan.scan useOracle plan.name plan.outputFile
    | .dot => settings.publishDot plan.scan useOracle plan.name plan.outputFile
  pure { outputFile := plan.outputFile, generation, filesParsed := plan.scan.units.length }

/-- A publication is planned, its directory made and its file written, and a fault before the file
is written leaves the workspace as it was. -/
theorem Settings.runOn_publish (settings : Settings) (options : PublishOptions)
    (workspace : Workspace) :
    (settings.publish options).runOn workspace =
      match settings.plan options workspace with
      | .error fault => (.error fault, workspace)
      | .ok plan =>
        match workspace.makeDirectory plan.directory with
        | .ok made => (settings.draw options.useOracle plan).runOn made
        | .error fault => (.error fault, workspace) := by
  unfold publish plan
  cases Format.ofName? options.format with
  | none => rfl
  | some format =>
    dsimp only
    rw [Work.runOn_ofExcept_bind]
    cases settings.diagramName options.name with
    | error fault => rfl
    | ok name =>
      dsimp only
      rw [Work.runOn_reading_bind]
      cases settings.scan workspace options.sourceRoots options.base with
      | error fault => rfl
      | ok scan =>
        dsimp only
        cases options.outputDirectory with
        | some directory =>
          refine (Work.runOn_changing_bind _ _).trans ?_
          cases format <;> rfl
        | none =>
          dsimp only
          rw [Work.runOn_ofExcept_bind]
          cases settings.outputDirectory with
          | error fault => rfl
          | ok directory =>
            refine (Work.runOn_changing_bind _ _).trans ?_
            cases format <;> rfl

/-! ## Files that stay -/

namespace Workspace

variable {workspace before after later : Workspace} {path : Path} {text : String}
  {location : Location}

/-- A file at a location is still there with its text. -/
def KeepsFile (before after : Workspace) (location : Location) : Prop :=
  ∀ text, before.tree.get? location = some (.file text) →
    after.tree.get? location = some (.file text)

/-- A workspace keeps its own files. -/
theorem keepsFile_refl : workspace.KeepsFile workspace location := fun _ lies => lies

/-- Making directories keeps every file. -/
theorem keepsFile_of_makeDirectory (made : workspace.makeDirectory path = .ok later) :
    workspace.KeepsFile later location := by
  unfold makeDirectory at made
  cases grown : workspace.tree.makeDirectories [] (workspace.parts path) with
  | error cause =>
    rw [grown] at made
    contradiction
  | ok tree =>
    rw [grown] at made
    obtain rfl := Except.ok.inj made
    exact fun text lies => FileTree.get?_makeDirectories grown lies

/-- A write is one of the file tree. -/
theorem write_eq_ok (written : workspace.write path text = .ok later) :
    ∃ tree, workspace.tree.write (workspace.parts path) text = .ok tree ∧
      later = { workspace with tree } := by
  unfold write at written
  cases grown : workspace.tree.write (workspace.parts path) text with
  | error cause =>
    rw [grown] at written
    contradiction
  | ok tree =>
    rw [grown] at written
    exact ⟨tree, rfl, (Except.ok.inj written).symm⟩

/-- A file that has just been written can be written again, and only the later text counts. -/
theorem write_again (written : workspace.write path text = .ok later) (again : String) :
    ∃ final, later.write path again = .ok final ∧ ∀ location, final.tree.get? location =
      if location = Path.collapse (workspace.parts path) then some (.file again)
      else workspace.tree.get? location := by
  obtain ⟨tree, grown, rfl⟩ := write_eq_ok written
  obtain ⟨final, second⟩ : ∃ final, tree.write (workspace.parts path) again = .ok final :=
    ⟨_, FileTree.write_again grown again⟩
  refine ⟨{ workspace with tree := final }, ?_, fun location => ?_⟩
  · change (refuse path (tree.write (workspace.parts path) again) >>= _) = _
    rw [second]
    rfl
  · refine (FileTree.get?_write second).trans ?_
    by_cases here : location = Path.collapse (workspace.parts path)
    · rw [if_pos here, if_pos here]
    · rw [if_neg here, if_neg here]
      exact (FileTree.get?_write grown).trans (if_neg here)

end Workspace

/-! ## The PlantUML file -/

/-- An opened PlantUML file, which is empty at first. -/
structure Opening extends Plan where
  /-- The settings of the diagram. -/
  diagram : Toml.Table
  /-- The directives at the top of the diagram. -/
  header : List String
  /-- The workspace with the directory of the file. -/
  made : Workspace
  /-- The workspace with the empty file. -/
  opened : Workspace

/-- Where the opened file lies. -/
def Opening.location (opening : Opening) : Location :=
  Path.collapse (opening.made.parts opening.outputFile)

namespace Settings

variable {settings : Settings} {useOracle : Option Bool} {plan : Plan} {opening : Opening}
  {made after : Workspace} {fault : Fault}

/-- Open the PlantUML file of a plan, in the workspace with its directory. -/
def openFile (settings : Settings) (plan : Plan) (made : Workspace) : Except Fault Opening := do
  let diagram ← settings.optional "diagram"
  let header ← diagramHeader diagram
  let opened ← made.write plan.outputFile ""
  pure { plan with diagram, header, made, opened }

/-- The writer for an opened file and what it is to write. -/
def beginDrawing (settings : Settings) (useOracle : Option Bool) (opening : Opening) :
    Except Fault (PlantUml.Writer × Generation × List Event) := do
  let tag ← diagramTag opening.diagram
  let generation ← settings.generate opening.scan useOracle
  let name ← toldName opening.name
  let writer : PlantUml.Writer := { header := opening.header, tag }
  pure (writer, generation, generation.classified.events name)

/-- The text that an opened file holds in the end, and the fault that ends it early. -/
def drawing (settings : Settings) (useOracle : Option Bool) (opening : Opening) :
    String × Option Fault :=
  match settings.beginDrawing useOracle opening with
  | .ok (writer, _, events) => writer.writeAll events
  | .error fault => ("", some fault)

/-- The steps that write to an opened file. -/
def fill (settings : Settings) (useOracle : Option Bool) (opening : Opening) : Work Generation := do
  let (writer, generation, events) ← .ofExcept (settings.beginDrawing useOracle opening)
  let (text, fault) := writer.writeAll events
  .changing (·.write opening.outputFile text)
  match fault with
  | some fault => throw fault
  | none => pure generation

/-- A PlantUML file is opened and then written to, and a fault before it is opened leaves the
workspace as it was. -/
theorem runOn_publishPlantUml (settings : Settings) (useOracle : Option Bool) (plan : Plan)
    (made : Workspace) :
    (settings.publishPlantUml plan.scan useOracle plan.name plan.outputFile).runOn made =
      match settings.openFile plan made with
      | .ok opening => (settings.fill useOracle opening).runOn opening.opened
      | .error fault => (.error fault, made) := by
  -- The steps of `openFile` are told apart while those of the publication are still folded.
  unfold openFile
  dsimp only [bind, Except.bind, pure, Except.pure]
  unfold publishPlantUml
  rw [Work.runOn_ofExcept_bind]
  cases settings.optional "diagram" with
  | error fault => rfl
  | ok diagram =>
    dsimp only
    rw [Work.runOn_ofExcept_bind]
    cases diagramHeader diagram with
    | error fault => rfl
    | ok header =>
      dsimp only
      rw [Work.runOn_changing_bind]
      cases made.write plan.outputFile "" with
      | error fault => rfl
      | ok opened =>
        unfold fill beginDrawing
        dsimp only
        cases diagramTag diagram with
        | error fault => rfl
        | ok tag =>
          cases settings.generate plan.scan useOracle with
          | error fault => rfl
          | ok generation => cases toldName plan.name <;> rfl

/-- An opened file belongs to its plan and is an empty one in the workspace it was opened in. -/
theorem openFile_eq_ok (started : settings.openFile plan made = .ok opening) :
    opening.toPlan = plan ∧ opening.made = made ∧
      made.write opening.outputFile "" = .ok opening.opened := by
  unfold openFile at started
  dsimp only [bind, Except.bind, pure, Except.pure] at started
  split at started
  · contradiction
  · split at started
    · contradiction
    · split at started
      · contradiction
      · next written =>
        obtain rfl := Except.ok.inj started
        exact ⟨rfl, rfl, written⟩

/-- What is left when the writing of an opened file ends early: the file holds what was written
until then. -/
theorem fill_failed (started : settings.openFile plan made = .ok opening)
    (failed : (settings.fill useOracle opening).runOn opening.opened = (.error fault, after)) :
    (settings.drawing useOracle opening).2 = some fault ∧
      ∀ location, after.tree.get? location =
        if location = opening.location then some (.file (settings.drawing useOracle opening).1)
        else made.tree.get? location := by
  obtain ⟨_, same, written⟩ := openFile_eq_ok started
  rw [fill, Work.runOn_ofExcept_bind] at failed
  unfold drawing Opening.location
  rw [same]
  cases begun : settings.beginDrawing useOracle opening with
  | error early =>
    rw [begun] at failed
    obtain ⟨rfl, rfl⟩ := Work.failure_inj failed
    obtain ⟨tree, grown, whole⟩ := Workspace.write_eq_ok written
    refine ⟨rfl, fun location => ?_⟩
    rw [whole]
    exact FileTree.get?_write grown
  | ok start =>
    obtain ⟨writer, generation, events⟩ := start
    rw [begun] at failed
    dsimp only at failed ⊢
    obtain ⟨final, again, lies⟩ := Workspace.write_again written (writer.writeAll events).1
    rw [Work.runOn_changing_bind, again] at failed
    dsimp only at failed
    cases ended : (writer.writeAll events).2 with
    | none =>
      rw [ended] at failed
      exact absurd (congrArg Prod.fst failed) (by simp [Work.runOn])
    | some refused =>
      rw [ended] at failed
      obtain ⟨result, rfl⟩ := Prod.mk.inj failed
      exact ⟨congrArg some (Except.error.inj result), lies⟩

/-! ## The whole publication -/

/-- The PlantUML file that a publication opens, if it comes to that. -/
def opening? (settings : Settings) (options : PublishOptions) (workspace : Workspace) :
    Option Opening :=
  match settings.plan options workspace with
  | .error _ => none
  | .ok plan =>
    match plan.format, workspace.makeDirectory plan.directory with
    | .plantUml, .ok made => (settings.openFile plan made).toOption
    | _, _ => none

/-- A file is planned in the format that was asked for. -/
theorem plan_format {options : PublishOptions} {workspace : Workspace}
    (planned : settings.plan options workspace = .ok plan) :
    Format.ofName? options.format = some plan.format := by
  unfold Settings.plan at planned
  dsimp only [bind, Except.bind, pure, Except.pure] at planned
  cases asked : Format.ofName? options.format with
  | none =>
    rw [asked] at planned
    contradiction
  | some format =>
    rw [asked] at planned
    dsimp only at planned
    split at planned
    · contradiction
    · split at planned
      · contradiction
      · split at planned
        · obtain rfl := Except.ok.inj planned
          rfl
        · split at planned
          · contradiction
          · obtain rfl := Except.ok.inj planned
            rfl

/-- A plan fails for an early fault only. -/
theorem plan_early (settings : Settings) (options : PublishOptions) (workspace : Workspace) :
    Raises Fault.Early (settings.plan options workspace) := by
  unfold Settings.plan
  cases Format.ofName? options.format with
  | none => exact raises_error rfl
  | some format =>
    dsimp only
    have name := (settings.diagramName_incidental options.name).mono fun _ =>
      Fault.Incidental.early
    have directory := settings.outputDirectory_incidental.mono fun _ => Fault.Incidental.early
    refine name.bind fun name => (settings.scan_early _ _ _).bind fun scan => ?_
    cases options.outputDirectory with
    | some directory => exact raises_ok
    | none => exact directory.bind fun _ => raises_ok

/-- Opening the file of a plan fails for an early fault only. -/
theorem openFile_early (settings : Settings) (plan : Plan) (made : Workspace) :
    Raises Fault.Early (settings.openFile plan made) := by
  have diagram := (settings.optional_incidental "diagram").mono fun _ => Fault.Incidental.early
  have opened := (made.write_incidental plan.outputFile "").mono fun _ => Fault.Incidental.early
  refine diagram.bind fun diagram => ?_
  exact (diagramHeader_early diagram).bind fun header => opened.bind fun _ => raises_ok

/-- The fault of a drawing refuses a text that is looked at only then, or nothing. -/
theorem drawing_atWriting (ended : (settings.drawing useOracle opening).2 = some fault) :
    fault.AtWriting := by
  unfold drawing at ended
  cases begun : settings.beginDrawing useOracle opening with
  | ok start =>
    rw [begun] at ended
    exact PlantUml.Writer.writeAll_atWriting ended
  | error early =>
    rw [begun] at ended
    obtain rfl := Option.some.inj ended
    have generated := (settings.generate_incidental opening.scan useOracle).mono fun _ =>
      Fault.Incidental.atWriting
    have begins : Raises Fault.AtWriting (settings.beginDrawing useOracle opening) := by
      refine (diagramTag_atWriting _).bind fun tag => generated.bind fun generation => ?_
      exact (toldName_atWriting _).bind fun name => raises_ok
    exact begins early begun

/-- A DOT file that cannot be drawn is not written. -/
theorem publishDot_failed {scan : Scan} {name : Toml.Value} {file : Path}
    (failed : (settings.publishDot scan useOracle name file).runOn made = (.error fault, after)) :
    after = made ∧ fault.Incidental := by
  rw [publishDot, Work.runOn_ofExcept_bind] at failed
  cases generated : settings.generate scan useOracle with
  | error early =>
    rw [generated] at failed
    obtain ⟨rfl, rfl⟩ := Work.failure_inj failed
    exact ⟨rfl, settings.generate_incidental scan useOracle _ generated⟩
  | ok generation =>
    rw [generated] at failed
    dsimp only at failed
    rw [Work.runOn_ofExcept_bind] at failed
    cases drawn : Dot.render (generation.classified.events name.asText) "" with
    | error early =>
      rw [drawn] at failed
      obtain ⟨rfl, rfl⟩ := Work.failure_inj failed
      exact ⟨rfl, Dot.render_incidental _ _ _ drawn⟩
    | ok text =>
      rw [drawn] at failed
      dsimp only at failed
      rw [Work.runOn_changing_bind] at failed
      cases written : made.write file text with
      | error early =>
        rw [written] at failed
        obtain ⟨rfl, rfl⟩ := Work.failure_inj failed
        exact ⟨rfl, made.write_incidental file text _ written⟩
      | ok later =>
        rw [written] at failed
        exact absurd (congrArg Prod.fst failed) (by simp [Work.runOn])

/-- A fault of the steps that write a planned file is one of its format. -/
theorem draw_failed (failed : (settings.draw useOracle plan).runOn made = (.error fault, after)) :
    (match plan.format with
      | .plantUml => settings.publishPlantUml plan.scan useOracle plan.name plan.outputFile
      | .dot => settings.publishDot plan.scan useOracle plan.name plan.outputFile).runOn made =
        (.error fault, after) := by
  have step (steps : Work Generation) (report : Generation → PublishReport)
      (ended : (steps >>= fun generation => pure (report generation)).runOn made =
        (.error fault, after)) : steps.runOn made = (.error fault, after) := by
    rw [Work.runOn_bind] at ended
    cases ran : steps.runOn made with
    | mk result later =>
      rw [ran] at ended
      cases result with
      | ok generation => exact absurd (congrArg Prod.fst ended) (by simp [Work.runOn])
      | error early =>
        obtain ⟨rfl, rfl⟩ := Work.failure_inj ended
        rfl
  unfold draw at failed
  cases chosen : plan.format <;> rw [chosen] at failed <;> exact step _ _ failed

/-- What a failed publication leaves behind. If no PlantUML file was opened, every file is as it
was, and the fault is not about a text that is looked at only at writing. If one was opened, it
holds what was written until the fault, whatever it held before, every other file is as it was, and
a fault that refuses what was asked for is about such a text. -/
theorem publish_failed {options : PublishOptions} {before : Workspace}
    (failed : (settings.publish options).runOn before = (.error fault, after)) :
    (settings.opening? options before = none →
        (∀ location, before.KeepsFile after location) ∧ fault.isLate = false) ∧
      ∀ opening, settings.opening? options before = some opening →
        Format.ofName? options.format = some .plantUml ∧
        (settings.drawing options.useOracle opening).2 = some fault ∧
        after.tree.get? opening.location =
          some (.file (settings.drawing options.useOracle opening).1) ∧
        (∀ location, location ≠ opening.location → before.KeepsFile after location) ∧
        (fault.isRefusal = true → fault.isLate = true) := by
  rw [runOn_publish] at failed
  unfold opening?
  cases planned : settings.plan options before with
  | error early =>
    rw [planned] at failed
    obtain ⟨rfl, rfl⟩ := Work.failure_inj failed
    have early := settings.plan_early options before _ planned
    exact ⟨fun _ => ⟨fun _ => Workspace.keepsFile_refl, early⟩, fun _ _ => by contradiction⟩
  | ok plan =>
    rw [planned] at failed
    dsimp only at failed ⊢
    cases made : before.makeDirectory plan.directory with
    | error early =>
      rw [made] at failed
      obtain ⟨rfl, rfl⟩ := Work.failure_inj failed
      have incidental := before.makeDirectory_incidental plan.directory _ made
      refine ⟨fun _ => ⟨fun _ => Workspace.keepsFile_refl, incidental.early⟩, ?_⟩
      intro opening opened
      cases format : plan.format <;> rw [format] at opened <;> contradiction
    | ok later =>
      rw [made] at failed
      have kept (location : Location) : before.KeepsFile later location :=
        Workspace.keepsFile_of_makeDirectory made
      have drawn := draw_failed failed
      cases format : plan.format with
      | dot =>
        rw [format] at drawn
        obtain ⟨rfl, incidental⟩ := publishDot_failed drawn
        exact ⟨fun _ => ⟨kept, incidental.early⟩, fun _ opened => by contradiction⟩
      | plantUml =>
        rw [format] at drawn
        dsimp only at drawn ⊢
        rw [runOn_publishPlantUml] at drawn
        cases started : settings.openFile plan later with
        | error early =>
          rw [started] at drawn
          obtain ⟨rfl, rfl⟩ := Work.failure_inj drawn
          have early := settings.openFile_early plan _ _ started
          exact ⟨fun _ => ⟨kept, early⟩, fun _ opened => by contradiction⟩
        | ok opening =>
          rw [started] at drawn
          obtain ⟨ended, lies⟩ := fill_failed started drawn
          refine ⟨fun opened => by contradiction, ?_⟩
          rintro _ ⟨⟩
          have asked := format ▸ plan_format planned
          refine ⟨asked, ended, ?_, fun location apart text there => ?_, drawing_atWriting ended⟩
          · rw [lies, if_pos rfl]
          · rw [lies, if_neg apart]
            exact kept location text there

/-- A name that cannot be told is refused after its file was opened: the file holds what was written
by then, and the one beside it is as it was. -/
theorem publish_failed_untold_name :
    let file := ["docs", "diagrams", "src", "a\"b.puml"]
    let beside := ["docs", "diagrams", "src", "class-diagram.puml"]
    let before : Workspace :=
      { tree := ⟨[(["docs"], .directory), (["docs", "diagrams"], .directory),
          (["docs", "diagrams", "src"], .directory), (file, .file "@startuml\n@enduml\n"),
          (beside, .file "@startuml\n@enduml\n")]⟩ }
    let options : PublishOptions := { name := "a\"b" }
    let after := ((publish defaults options).runOn before).2
    ∃ opening, opening? defaults options before = some opening ∧ opening.location = file ∧
      (drawing defaults none opening).2 = some (.quoteInside "name" "a\"b") ∧
      after.tree.get? file = some (.file (drawing defaults none opening).1) ∧
      before.KeepsFile after beside := by
  intro file beside before options after
  have located : (opening? defaults options before).map (·.location) = some file := by
    decide +kernel
  obtain ⟨opening, opened, there⟩ := Option.map_eq_some_iff.1 located
  have failed : (publish defaults options).runOn before =
      (.error (.quoteInside "name" "a\"b"), after) := by
    have refused : ((publish defaults options).runOn before).1.map (fun _ => ()) =
        .error (.quoteInside "name" "a\"b") := by decide +kernel
    refine Prod.ext ?_ rfl
    cases ended : ((publish defaults options).runOn before).1 with
    | ok report =>
      rw [ended] at refused
      contradiction
    | error fault =>
      rw [ended] at refused
      exact congrArg Except.error (Except.error.inj refused)
  obtain ⟨_, ended, lies, kept, _⟩ := (publish_failed failed).2 opening opened
  exact ⟨opening, opened, there, ended, there ▸ lies, kept beside (there ▸ by decide)⟩

/-- A tag that cannot stand in a comment is refused after the file was opened, so the diagram that
was there is lost. -/
theorem publish_empties_earlier :
    let tagged : Settings := Toml.Table.merge defaults [("diagram", .table [("tag", .text "a\"b")])]
    let file := ["docs", "diagrams", "src", "class-diagram.puml"]
    let before : Workspace :=
      { tree := ⟨[(["docs"], .directory), (["docs", "diagrams"], .directory),
          (["docs", "diagrams", "src"], .directory), (file, .file "@startuml\n@enduml\n")]⟩ }
    let outcome := (tagged.publish {}).runOn before
    outcome.1.map (fun _ => ()) = .error (.quoteInside "tag" "a\"b") ∧
      before.tree.get? file = some (.file "@startuml\n@enduml\n") ∧
      outcome.2.tree.get? file = some (.file "") := by
  decide +kernel

end Settings

end ClassAtlas
