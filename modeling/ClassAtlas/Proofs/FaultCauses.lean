import Mathlib.Data.List.Basic
import ClassAtlas.Diagram.Publication
import ClassAtlas.Proofs.ValidUsages
import ClassAtlas.Proofs.WrittenLines

/-!
# What the faults of a publication are about

A fault that refuses a text names the text by a label. Title, theme and direction are looked at
before anything is written; the tag, the names, the roles and the stereotypes only while the
PlantUML text is written. So among the faults that refuse what was asked for, the label alone
tells on which side of the opening of the file a publication broke off.

A step is described by the causes of its faults, and causes pass from the parts of a step to the
whole.
-/
namespace ClassAtlas

/-- The label of the text that a fault refuses. -/
def Fault.label? : Fault → Option String
  | .severalLines label => some label
  | .quoteInside label _ => some label
  | _ => none

/-- Whether a fault refuses a word, a text, a format or the source roots that were asked for, and
not a path, a declaration or the kind of a setting. -/
def Fault.isRefusal : Fault → Bool
  | .notAWord _ _ | .severalLines _ | .quoteInside _ _ | .rootsMissing _ | .rootNotFound _ _
  | .unknownFormat _ _ => true
  | _ => false

/-- The labels of the texts that are looked at only while a PlantUML text is written. -/
def lateLabels : List String := ["tag", "name", "role", "stereotype"]

/-- Whether a fault refuses a text that is looked at only while a PlantUML text is written. -/
def Fault.isLate (fault : Fault) : Bool := fault.label?.any lateLabels.contains

/-- The causes of the faults with which a step can fail. -/
def Raises {α : Type} (cause : Fault → Prop) (step : Except Fault α) : Prop :=
  ∀ fault, step = .error fault → cause fault

section Steps

variable {α β : Type} {cause : Fault → Prop}

/-- A step that succeeds raises nothing. -/
theorem raises_ok {value : α} : Raises cause (.ok value) := by
  intro fault failed
  contradiction

/-- A step that fails raises its own fault. -/
theorem raises_error {fault : Fault} (about : cause fault) :
    Raises cause (.error fault : Except Fault α) := by
  intro other failed
  exact Except.error.inj failed ▸ about

/-- Whatever a cause implies is a cause of the same faults. -/
theorem Raises.mono {weaker : Fault → Prop} {step : Except Fault α} (about : Raises cause step)
    (weakens : ∀ fault, cause fault → weaker fault) : Raises weaker step :=
  fun fault failed => weakens fault (about fault failed)

/-- Two steps in a row have the causes of both. -/
theorem Raises.bind {step : Except Fault α} {next : α → Except Fault β}
    (first : Raises cause step) (later : ∀ value, Raises cause (next value)) :
    Raises cause (step >>= next) := by
  intro fault failed
  cases step with
  | ok value => exact later value fault failed
  | error early =>
    have same : early = fault := Except.error.inj failed
    exact first fault (same ▸ rfl)

/-- What is made of a step's value adds no cause. -/
theorem Raises.map {step : Except Fault α} {make : α → β} (first : Raises cause step) :
    Raises cause (make <$> step) := by
  intro fault failed
  cases step with
  | ok value => contradiction
  | error early =>
    have same : early = fault := Except.error.inj failed
    exact first fault (same ▸ rfl)

/-- Checks of values in a row have the causes of each check. -/
theorem Raises.forM {check : α → Except Fault Unit} (each : ∀ value, Raises cause (check value))
    (values : List α) : Raises cause (values.forM check) := by
  rw [List.forM_eq_forM]
  induction values with
  | nil => exact raises_ok
  | cons value values ih =>
    rw [List.forM_cons]
    exact (each value).bind fun _ => ih

/-- Steps over values in a row have the causes of each step. -/
theorem Raises.mapM {make : α → Except Fault β} (each : ∀ value, Raises cause (make value))
    (values : List α) : Raises cause (values.mapM make) := by
  induction values with
  | nil => exact raises_ok
  | cons value values ih =>
    rw [List.mapM_cons]
    exact (each value).bind fun _ => ih.bind fun _ => raises_ok

end Steps

/-! ## Faults that refuse nothing -/

/-- A fault that refuses nothing that was asked for. -/
def Fault.Incidental (fault : Fault) : Prop := fault.isRefusal = false

/-- A fault that is not about a text looked at only while a PlantUML text is written. -/
def Fault.Early (fault : Fault) : Prop := fault.isLate = false

/-- A fault that can arise while a PlantUML text is written: if it refuses what was asked for, it
refuses a text that is looked at only then. -/
def Fault.AtWriting (fault : Fault) : Prop := fault.isRefusal = true → fault.isLate = true

/-- A fault that refuses nothing is early. -/
theorem Fault.Incidental.early {fault : Fault} (incidental : fault.Incidental) : fault.Early := by
  cases fault <;> first | rfl | contradiction

/-- A fault that refuses nothing can arise at writing, too. -/
theorem Fault.Incidental.atWriting {fault : Fault} (incidental : fault.Incidental) :
    fault.AtWriting := by
  intro refused
  rw [Fault.Incidental, refused] at incidental
  contradiction

namespace Settings

variable (settings : Settings)

/-- A section that is asked for may be missing, which refuses nothing. -/
theorem sectionValue_incidental (name : String) :
    Raises Fault.Incidental (settings.sectionValue name) := by
  unfold sectionValue
  split
  · exact raises_ok
  · exact raises_error rfl

/-- A section that is asked for settings may be missing or no table, which refuses nothing. -/
theorem optional_incidental (name : String) :
    Raises Fault.Incidental (settings.optional name) := by
  refine (settings.sectionValue_incidental name).bind fun value => ?_
  cases value <;> first | exact raises_ok | exact raises_error rfl

/-- A required setting may be missing or in no table, which refuses nothing. -/
theorem required_incidental (name key : String) :
    Raises Fault.Incidental (settings.required name key) := by
  refine (settings.sectionValue_incidental name).bind fun value => ?_
  cases value with
  | table entries =>
    dsimp only
    split
    · exact raises_ok
    · exact raises_error rfl
  | _ => exact raises_error rfl

/-- A setting may be no list, which refuses nothing. -/
theorem listed_incidental (name key : String) :
    Raises Fault.Incidental (settings.listed name key) := by
  refine (settings.required_incidental name key).bind fun value => ?_
  cases value.parts? with
  | some parts => exact raises_ok
  | none => exact raises_error rfl

/-- The directories to skip may be compounds, which refuses nothing. -/
theorem skippedDirectories_incidental :
    Raises Fault.Incidental settings.skippedDirectories := by
  refine (settings.listed_incidental _ _).bind fun parts => ?_
  split
  · exact raises_error rfl
  · exact raises_ok

/-- The output directory may be no text, which refuses nothing. -/
theorem outputDirectory_incidental : Raises Fault.Incidental settings.outputDirectory := by
  refine (settings.required_incidental _ _).bind fun value => ?_
  cases value <;> first | exact raises_ok | exact raises_error rfl

/-- The name of a diagram may be missing, which refuses nothing. -/
theorem diagramName_incidental (requested : String) :
    Raises Fault.Incidental (settings.diagramName requested) := by
  unfold diagramName
  split
  · exact (settings.optional_incidental _).bind fun _ => raises_ok
  · exact raises_ok

/-- Generating refuses nothing where it fails. -/
theorem generate_incidental (scan : Scan) (useOracle : Option Bool) :
    Raises Fault.Incidental (settings.generate scan useOracle) := by
  have flag : Raises Fault.Incidental (settings.usesOracle useOracle) := by
    cases useOracle with
    | some flag => exact raises_ok
    | none => exact (settings.optional_incidental _).bind fun _ => raises_ok
  refine flag.bind fun useImports => ?_
  rw [generate?_eq]
  split
  · exact raises_ok
  · exact raises_error rfl

end Settings

/-- Making a directory refuses nothing where it fails. -/
theorem Workspace.makeDirectory_incidental (workspace : Workspace) (path : Path) :
    Raises Fault.Incidental (workspace.makeDirectory path) := by
  unfold makeDirectory
  cases workspace.tree.makeDirectories [] (workspace.parts path) with
  | ok tree => exact raises_ok
  | error cause => exact raises_error rfl

/-- Writing a file refuses nothing where it fails. -/
theorem Workspace.write_incidental (workspace : Workspace) (path : Path) (text : String) :
    Raises Fault.Incidental (workspace.write path text) := by
  unfold write
  cases workspace.tree.write (workspace.parts path) text with
  | ok tree => exact raises_ok
  | error cause => exact raises_error rfl

/-- DOT text fails for a node without a kind only, which refuses nothing. -/
theorem Dot.render_incidental (events : List Event) (focus : String) :
    Raises Fault.Incidental (Dot.render events focus) := by
  refine Raises.bind (Raises.mapM (fun key => ?_) _) fun _ => raises_ok
  unfold nodeLines
  split
  · exact raises_ok
  · exact raises_error rfl
  · exact raises_ok

/-! ## Faults before anything is written -/

/-- A search that finds no source root fails before anything is written. -/
theorem Workspace.candidateRoot_early (workspace : Workspace) (base : Path)
    (candidates : List String) : Raises Fault.Early (workspace.candidateRoot base candidates) := by
  unfold candidateRoot
  split
  · exact raises_ok
  · exact raises_error rfl

/-- Requested roots that are all missing fail before anything is written. -/
theorem Workspace.requestedRoots_early (workspace : Workspace) (base : Path)
    (requested : List Path) : Raises Fault.Early (workspace.requestedRoots base requested) := by
  unfold requestedRoots
  dsimp only
  split
  · exact raises_error rfl
  · exact raises_ok

namespace Settings

variable (settings : Settings)

/-- A configured candidate that is unusable fails before anything is written. -/
theorem candidateRoot_early (workspace : Workspace) (base : Path) :
    Raises Fault.Early (settings.candidateRoot workspace base) := by
  have parts := (settings.listed_incidental "scan" "source_roots").mono fun _ =>
    Fault.Incidental.early
  refine parts.bind fun parts => ?_
  dsimp only
  split
  · exact raises_ok
  · next fault failed =>
    split
    · exact raises_error rfl
    · exact raises_error (workspace.candidateRoot_early _ _ _ failed)

/-- Source roots, requested or configured, fail before anything is written. -/
theorem sourceRoots_early (workspace : Workspace) (requested : List Path) (base : Option Path) :
    Raises Fault.Early (settings.sourceRoots workspace requested base) := by
  have given := (settings.required_incidental "scan" "source_roots").mono fun _ =>
    Fault.Incidental.early
  refine given.bind fun _ => ?_
  dsimp only
  split
  · exact (settings.candidateRoot_early workspace _).bind fun _ => raises_ok
  · exact workspace.requestedRoots_early _ _

/-- A scan fails before anything is written. -/
theorem scan_early (workspace : Workspace) (requested : List Path) (base : Option Path) :
    Raises Fault.Early (settings.scan workspace requested base) := by
  refine (settings.sourceRoots_early workspace requested base).bind fun _ => ?_
  have skipped := settings.skippedDirectories_incidental.mono fun _ => Fault.Incidental.early
  exact skipped.bind fun _ => raises_ok

/-- A value is refused for what its label names. -/
theorem checkValue_raises {cause : Fault → Prop} {label : String}
    (several : cause (.severalLines label)) (quoted : ∀ text, cause (.quoteInside label text))
    (unusable : cause .unusableSetting) (value : Toml.Value) :
    Raises cause (checkValue label value) := by
  unfold checkValue
  split
  · split
    · exact raises_error several
    · split
      · exact raises_error (quoted _)
      · exact raises_ok
  · exact raises_error unusable

/-- A directive fails early, since its label is none of those that are looked at only at writing. -/
theorem directiveText_early {key : String} (listed : lateLabels.contains key = false)
    (diagram : Toml.Table) : Raises Fault.Early (directiveText diagram key) := by
  unfold directiveText
  split
  · exact raises_ok
  · next value _ =>
    have unusable : Fault.Early .unusableSetting := rfl
    have checked : Raises Fault.Early (checkValue key value) :=
      checkValue_raises listed (fun _ => listed) unusable value
    exact checked.bind fun _ => raises_ok

/-- The directives of a diagram fail early. -/
theorem diagramHeader_early (diagram : Toml.Table) :
    Raises Fault.Early (diagramHeader diagram) := by
  refine (directiveText_early (by decide) diagram).bind fun title => ?_
  refine (directiveText_early (by decide) diagram).bind fun theme => ?_
  exact (directiveText_early (by decide) diagram).bind fun direction => raises_ok

end Settings

/-! ## Faults while a PlantUML text is written -/

namespace PlantUml

/-- A check with a late label refuses a text that is looked at only at writing. -/
theorem checkText_atWriting {label : String} (listed : label ∈ lateLabels) (text : String) :
    Raises Fault.AtWriting (checkText label text) := by
  have known : lateLabels.contains label = true := List.contains_iff_mem.2 listed
  unfold checkText
  split
  · exact raises_error fun _ => known
  · split
    · exact raises_error fun _ => known
    · exact raises_ok

/-- A name that cannot be quoted is refused at writing. -/
theorem quote_atWriting (name : String) : Raises Fault.AtWriting (quote name) :=
  (checkText_atWriting (by decide) name).bind fun _ => raises_ok

/-- A stereotype that cannot be quoted is refused at writing. -/
theorem stereotypeSuffix_atWriting (stereotypes : List String) :
    Raises Fault.AtWriting (stereotypeSuffix stereotypes) :=
  (Raises.forM (checkText_atWriting (by decide)) stereotypes).bind fun _ => raises_ok

/-- A type without a text refuses nothing. -/
theorem typeText_atWriting (usage : TypeUsage) : Raises Fault.AtWriting (typeText usage) := by
  unfold typeText
  split
  · exact raises_ok
  · exact raises_error fun refused => absurd refused Bool.false_ne_true

/-- A parameter fails for its type only. -/
theorem parameterText_atWriting (parameter : ParameterDecl) :
    Raises Fault.AtWriting (parameterText parameter) := by
  unfold parameterText
  dsimp only
  split
  · exact (typeText_atWriting _).map.bind fun _ => raises_ok
  · exact (typeText_atWriting _).bind fun _ => raises_ok

/-- Parameters fail as each of them does. -/
theorem parametersText_atWriting (parameters : List ParameterDecl) :
    Raises Fault.AtWriting (parametersText parameters) :=
  (Raises.mapM parameterText_atWriting parameters).bind fun _ => raises_ok

/-- The line of an attribute fails for its annotations or its type. -/
theorem attributeLine_atWriting (member : FieldDecl) (component : Bool) :
    Raises Fault.AtWriting (attributeLine member component) := by
  refine (stereotypeSuffix_atWriting _).bind fun suffix => ?_
  refine (typeText_atWriting _).bind fun type => ?_
  cases component <;> exact raises_ok

/-- The line of a constructor fails for its annotations or its parameters. -/
theorem constructorLine_atWriting (constructor : ConstructorDecl) :
    Raises Fault.AtWriting (constructorLine constructor) := by
  refine (stereotypeSuffix_atWriting _).bind fun suffix => ?_
  exact (parametersText_atWriting _).bind fun _ => raises_ok

/-- The line of a method fails for its annotations, its parameters or its returned type. -/
theorem methodLine_atWriting (method : MethodDecl) :
    Raises Fault.AtWriting (methodLine method) := by
  refine (parametersText_atWriting _).bind fun parameters => ?_
  have suffix (words : String → String) :
      Raises Fault.AtWriting (do
        let suffix ← stereotypeSuffix (distinctNames method.annotations)
        pure (words suffix)) :=
    (stereotypeSuffix_atWriting _).bind fun _ => raises_ok
  by_cases void : isVoid method.returnType = true
  · rw [if_pos void]
    exact suffix _
  · rw [if_neg void]
    exact (typeText_atWriting _).map.bind fun _ => suffix _

/-- The line of an element of an annotation type fails for its type. -/
theorem annotationMemberLine_atWriting (member : AnnotationMember) :
    Raises Fault.AtWriting (annotationMemberLine member) :=
  (typeText_atWriting _).bind fun _ => raises_ok

/-- The line of an edge fails for a name at its ends. -/
theorem edgeLine_atWriting (tag src arrow dst : String) (review : Option ReviewFlag) :
    Raises Fault.AtWriting (edgeLine tag src arrow dst review) := by
  refine (quote_atWriting src).bind fun source => ?_
  refine (quote_atWriting dst).bind fun target => ?_
  cases review <;> exact raises_ok

/-- The line of an association fails for a name at its ends, its role or a stereotype. -/
theorem associationLine_atWriting (owner target role : String) (stereotypes : List String) :
    Raises Fault.AtWriting (associationLine owner target role stereotypes) := by
  refine (checkText_atWriting (by decide) role).bind fun _ => ?_
  refine (quote_atWriting owner).bind fun source => ?_
  refine (quote_atWriting role).bind fun label => ?_
  refine (quote_atWriting target).bind fun goal => ?_
  split
  · exact raises_ok
  · exact (stereotypeSuffix_atWriting stereotypes).map.bind fun _ => raises_ok

/-- A line that opens a block fails for the block's name. -/
theorem openingLine_atWriting (tag keyword suffix name : String) :
    Raises Fault.AtWriting (openingLine tag keyword suffix name) :=
  (quote_atWriting name).bind fun _ => raises_ok

/-- A line that closes a block fails for the block's name. -/
theorem closingLine_atWriting (tag keyword name : String) :
    Raises Fault.AtWriting (closingLine tag keyword name) :=
  (quote_atWriting name).bind fun _ => raises_ok

/-- A type without a kind refuses nothing. -/
theorem keyword?_atWriting (kind : Option TypeKind) (modifiers : NameSet) :
    Raises Fault.AtWriting (keyword? kind modifiers) := by
  cases kind with
  | some kind => exact raises_ok
  | none => exact raises_error fun refused => absurd refused Bool.false_ne_true

/-- An event is refused for a text that is looked at only at writing, or for what it lacks. -/
theorem Writer.text_atWriting (writer : Writer) (event : Event) :
    Raises Fault.AtWriting (writer.text event) := by
  cases event with
  | beginDiagram name | endDiagram name =>
    exact (checkText_atWriting (by decide) name).bind fun _ => raises_ok
  | beginPackage name => exact (openingLine_atWriting _ _ _ name).map
  | endPackage name => exact (closingLine_atWriting _ _ name).map
  | declareNode key kind stereotypes modifiers =>
    refine (keyword?_atWriting kind _).bind fun keyword => ?_
    refine (stereotypeSuffix_atWriting _).bind fun suffix => ?_
    exact (openingLine_atWriting _ _ _ key).map
  | endNode key => exact (closingLine_atWriting _ _ key).map
  | addAttribute owner member component => exact (attributeLine_atWriting member component).map
  | addEnumConstant owner name => exact raises_ok
  | addConstructor owner constructor => exact (constructorLine_atWriting constructor).map
  | addMethod owner method => exact (methodLine_atWriting method).map
  | addAnnotationMember owner member => exact (annotationMemberLine_atWriting member).map
  | connectOwns owner owned => exact (edgeLine_atWriting _ _ _ _ _).map
  | connectInheritance sub super review => exact (edgeLine_atWriting _ _ _ _ _).map
  | connectRealization sub super review => exact (edgeLine_atWriting _ _ _ _ _).map
  | connectAssociation owner target role stereotypes =>
    exact (associationLine_atWriting owner target role stereotypes).map
  | connectDependency src dst review => exact (edgeLine_atWriting _ _ _ _ _).map

/-- A run of events ends early for a text that is looked at only at writing, or for what an event
lacks. -/
theorem Writer.writeAll_atWriting {writer : Writer} {events : List Event} {fault : Fault}
    (stopped : (writer.writeAll events).2 = some fault) : fault.AtWriting := by
  obtain ⟨before, event, _, _, _, _, refused, _⟩ := exists_refused stopped
  exact (writer.after before).text_atWriting event fault refused

end PlantUml

namespace Settings

/-- A check of a setting with a late label refuses a text that is looked at only at writing. -/
theorem checkValue_atWriting {label : String} (listed : label ∈ lateLabels) (value : Toml.Value) :
    Raises Fault.AtWriting (checkValue label value) := by
  have known : lateLabels.contains label = true := List.contains_iff_mem.2 listed
  refine checkValue_raises (fun _ => known) (fun _ _ => known) ?_ value
  exact fun refused => absurd refused Bool.false_ne_true

/-- The tag of a diagram is refused at writing. -/
theorem diagramTag_atWriting (diagram : Toml.Table) :
    Raises Fault.AtWriting (diagramTag diagram) := by
  unfold diagramTag
  split
  · exact raises_ok
  · exact (checkValue_atWriting (by decide) _).bind fun _ => raises_ok

/-- The name that a diagram is told by is refused at writing. -/
theorem toldName_atWriting (name : Toml.Value) : Raises Fault.AtWriting (toldName name) := by
  unfold toldName
  split
  · exact raises_ok
  · refine (checkValue_atWriting (by decide) _).bind fun _ => ?_
    exact raises_error fun refused => absurd refused Bool.false_ne_true

end Settings

end ClassAtlas
