import Mathlib.Tactic.MkIffOfInductiveProp
import ClassAtlas.Diagram.PlantUml
import ClassAtlas.Proofs.NameCharacters

/-!
# What a PlantUML writer refuses

A writer refuses an event for what the event holds, and neither for its header and tag nor for the
events before it: a node without a kind, a type that has no spelling, or a text that can not be
quoted. So a stream is written to its end exactly when every event of it can be written.
-/
namespace ClassAtlas

open Text (Within isInline isQuotable)

namespace Event

/-- The texts of an event that have to be quotable: the names that it writes between double quotes
and the names that it writes as stereotypes. -/
@[simp] def quotedTexts : Event → List String
  | .beginDiagram name | .endDiagram name | .beginPackage name | .endPackage name => [name]
  | .declareNode key _ stereotypes _ => key :: stereotypes
  | .endNode key => [key]
  | .addAttribute _ member _ => member.annotations
  | .addConstructor _ constructor => constructor.annotations
  | .addMethod _ method => method.annotations
  | .addEnumConstant _ _ | .addAnnotationMember _ _ => []
  | .connectOwns src dst | .connectInheritance src dst _ | .connectRealization src dst _
  | .connectDependency src dst _ => [src, dst]
  | .connectAssociation owner target role stereotypes => owner :: target :: role :: stereotypes

/-- The types that an event spells. -/
@[simp] def spelledTypes : Event → List TypeUsage
  | .addAttribute _ member _ => [member.type]
  | .addConstructor _ constructor => constructor.parameters.map (·.type)
  | .addMethod _ method => method.returnType :: method.parameters.map (·.type)
  | .addAnnotationMember _ member => [member.type]
  | _ => []

/-- Whether an event that opens a node gives its kind. -/
@[simp] def hasKind : Event → Bool
  | .declareNode _ kind _ _ => kind.isSome
  | _ => true

/-- An event is named if its node has a kind, its types have spellings and the texts that have to be
quotable pass a test. -/
@[mk_iff]
structure Named (allowed : Char → Bool) (event : Event) : Prop where
  kind : event.hasKind = true
  types : ∀ usage ∈ event.spelledTypes, usage.renders = true
  texts : ∀ text ∈ event.quotedTexts, Within allowed text

end Event

namespace PlantUml

/-! ## Steps that may fail -/

variable {α β : Type}

/-- What is made of a result is there if the result is. -/
@[simp] theorem isOk_map (make : α → β) (step : Except Fault α) :
    (make <$> step).isOk = step.isOk := by
  cases step <;> rfl

/-- A step gives a result with what follows it if both do, provided that the following does not
depend on the step's result. -/
theorem isOk_bind {step : Except Fault α} {next : α → Except Fault β} {P : Prop}
    (later : ∀ value, (next value).isOk = true ↔ P) :
    (step >>= next).isOk = true ↔ step.isOk = true ∧ P := by
  cases step with
  | error fault => exact ⟨fun given => absurd given Bool.false_ne_true, fun both => both.1⟩
  | ok value => exact (later value).trans (by simp [Except.isOk, Except.toBool])

/-- A step gives a result with a pure function of it behind if the step does. -/
theorem isOk_bind_pure (step : Except Fault α) (make : α → β) :
    (step >>= fun value => pure (make value)).isOk = step.isOk := by
  cases step <;> rfl

/-! ## Lines -/

/-- A text is accepted exactly when it can be quoted. -/
@[simp] theorem isOk_checkText {label text : String} :
    (checkText label text).isOk = true ↔ Within isQuotable text := by
  unfold checkText
  split
  · next several =>
    refine ⟨fun given => absurd given Bool.false_ne_true, fun quotable => ?_⟩
    simp only [Bool.or_eq_true, List.contains_iff_mem] at several
    rcases several with feed | carriage
    · exact absurd (quotable _ feed) (by decide)
    · exact absurd (quotable _ carriage) (by decide)
  · next single =>
    simp only [Bool.or_eq_true, List.contains_iff_mem, not_or] at single
    split
    · next quoted =>
      refine ⟨fun given => absurd given Bool.false_ne_true, fun quotable => ?_⟩
      exact absurd (List.contains_iff_mem.1 quoted) quotable.unquoted
    · next unquoted =>
      refine ⟨fun _ => ?_, fun _ => rfl⟩
      refine Within.quotable (fun c member => ?_) (fun quote => unquoted ?_)
      · have feed : c ≠ '\n' := fun same => single.1 (same ▸ member)
        have carriage : c ≠ '\r' := fun same => single.2 (same ▸ member)
        simp [isInline, feed, carriage]
      · exact List.contains_iff_mem.2 quote

/-- A name is quoted if it can be. -/
@[simp] theorem isOk_quote {name : String} :
    (quote name).isOk = true ↔ Within isQuotable name := by
  rw [quote, isOk_bind_pure, isOk_checkText]

/-- Stereotypes are written if all of them can be quoted. -/
@[simp] theorem isOk_stereotypeSuffix {stereotypes : List String} :
    (stereotypeSuffix stereotypes).isOk = true ↔ ∀ text ∈ stereotypes, Within isQuotable text := by
  rw [stereotypeSuffix, isOk_bind_pure, List.forM_eq_forM]
  induction stereotypes with
  | nil => simp [Except.isOk, Except.toBool, pure, Except.pure]
  | cons stereotype stereotypes ih =>
    rw [List.forM_cons, List.forall_mem_cons, isOk_bind fun _ => ih, isOk_checkText]

/-- A type is spelled if it has a spelling. -/
@[simp] theorem isOk_typeText {usage : TypeUsage} :
    (typeText usage).isOk = true ↔ usage.renders = true := by
  unfold typeText
  split
  · next spelled => exact ⟨fun _ => spelled, fun _ => rfl⟩
  · next unspelled => exact ⟨fun given => absurd given Bool.false_ne_true, unspelled.elim⟩

/-- A parameter is spelled if its type has a spelling. -/
theorem isOk_parameterText {parameter : ParameterDecl} :
    (parameterText parameter).isOk = true ↔ parameter.type.renders = true := by
  unfold parameterText
  dsimp only
  split
  · next component _ type =>
    rw [isOk_bind_pure, isOk_map, isOk_typeText, type, TypeUsage.renders]
  · rw [isOk_bind_pure, isOk_typeText]

/-- Parameters are spelled if their types have spellings. -/
@[simp] theorem isOk_parametersText {parameters : List ParameterDecl} :
    (parametersText parameters).isOk = true ↔
      ∀ usage ∈ parameters.map (·.type), usage.renders = true := by
  rw [parametersText, isOk_bind_pure]
  induction parameters with
  | nil => simp [Except.isOk, Except.toBool, pure, Except.pure]
  | cons parameter parameters ih =>
    have later (text : String) :
        (parameters.mapM parameterText >>= fun texts => pure (text :: texts)).isOk = true ↔
          ∀ usage ∈ parameters.map (·.type), usage.renders = true := by
      rw [isOk_bind_pure, ih]
    rw [List.mapM_cons, List.map_cons, List.forall_mem_cons, isOk_bind later, isOk_parameterText]

/-- An attribute is written if its type has a spelling and its annotations can be quoted. -/
theorem isOk_attributeLine {member : FieldDecl} {component : Bool} :
    (attributeLine member component).isOk = true ↔
      (∀ text ∈ member.annotations, Within isQuotable text) ∧ member.type.renders = true := by
  unfold attributeLine
  refine (isOk_bind (P := member.type.renders = true) fun suffix => ?_).trans ?_
  · refine (isOk_bind (P := True) fun type => ?_).trans (by simp)
    cases component with
    | true => exact iff_of_true rfl trivial
    | false => exact iff_of_true rfl trivial
  · simp

/-- A constructor is written if the types of its parameters have spellings and its annotations can
be quoted. -/
theorem isOk_constructorLine {constructor : ConstructorDecl} :
    (constructorLine constructor).isOk = true ↔
      (∀ text ∈ constructor.annotations, Within isQuotable text) ∧
        ∀ usage ∈ constructor.parameters.map (·.type), usage.renders = true := by
  unfold constructorLine
  refine (isOk_bind fun suffix => ?_).trans (and_congr_left' ?_)
  · rw [isOk_bind_pure, isOk_parametersText]
  · simp

/-- The type of a method that returns nothing has a spelling. -/
theorem renders_of_isVoid {usage : TypeUsage} (nothing : isVoid usage = true) :
    usage.renders = true := by
  unfold isVoid at nothing
  split at nothing
  · rw [TypeUsage.renders]
  · exact absurd nothing Bool.false_ne_true

/-- A method is written if its types have spellings and its annotations can be quoted. -/
theorem isOk_methodLine {method : MethodDecl} :
    (methodLine method).isOk = true ↔
      (∀ text ∈ method.annotations, Within isQuotable text) ∧
        ∀ usage ∈ method.returnType :: method.parameters.map (·.type),
          usage.renders = true := by
  unfold methodLine
  dsimp only
  refine (isOk_bind (P := method.returnType.renders = true ∧
    ∀ text ∈ method.annotations, Within isQuotable text) fun parameters => ?_).trans ?_
  · split
    · next nothing =>
      rw [pure_bind, isOk_bind_pure]
      simp [renders_of_isVoid nothing]
    · refine (isOk_bind fun result => ?_).trans (and_congr_left' ?_)
      · rw [isOk_bind_pure]
        simp
      · simp
  · rw [isOk_parametersText, List.forall_mem_cons]
    constructor
    · exact fun ⟨parameters, result, annotations⟩ => ⟨annotations, result, parameters⟩
    · exact fun ⟨annotations, result, parameters⟩ => ⟨parameters, result, annotations⟩

/-- An element of an annotation type is written if its type has a spelling. -/
theorem isOk_annotationMemberLine {member : AnnotationMember} :
    (annotationMemberLine member).isOk = true ↔ member.type.renders = true := by
  unfold annotationMemberLine
  rw [isOk_bind_pure, isOk_typeText]

/-- An edge is written if its ends can be quoted. -/
theorem isOk_edgeLine {tag src arrow dst : String} {review : Option ReviewFlag} :
    (edgeLine tag src arrow dst review).isOk = true ↔
      Within isQuotable src ∧ Within isQuotable dst := by
  unfold edgeLine
  refine (isOk_bind (P := Within isQuotable dst) fun source => ?_).trans (by simp)
  refine (isOk_bind (P := True) fun target => ?_).trans (by simp)
  cases review with
  | none => exact iff_of_true rfl trivial
  | some flag => exact iff_of_true rfl trivial

/-- An association is written if its ends, its role and its stereotypes can be quoted. -/
theorem isOk_associationLine {owner target role : String} {stereotypes : List String} :
    (associationLine owner target role stereotypes).isOk = true ↔
      ∀ text ∈ owner :: target :: role :: stereotypes, Within isQuotable text := by
  unfold associationLine
  dsimp only
  have suffix (front : String) :
      (if stereotypes.isEmpty = true then pure "" >>= fun suffix => pure (front ++ suffix)
        else ((" :" ++ ·) <$> stereotypeSuffix stereotypes) >>= fun suffix =>
          pure (front ++ suffix) : Except Fault String).isOk = true ↔
        ∀ text ∈ stereotypes, Within isQuotable text := by
    split
    · next none =>
      rw [List.isEmpty_iff.1 none]
      exact iff_of_true rfl (List.forall_mem_nil _)
    · rw [isOk_bind_pure, isOk_map, isOk_stereotypeSuffix]
  rw [isOk_bind fun _ => isOk_bind fun _ => isOk_bind fun _ => isOk_bind fun _ => suffix _]
  simp only [isOk_checkText, isOk_quote, List.forall_mem_cons]
  constructor
  · exact fun ⟨_, source, label, goal, others⟩ => ⟨source, goal, label, others⟩
  · exact fun ⟨source, goal, label, others⟩ => ⟨label, source, label, goal, others⟩

/-- The opening line of a block is written if the block's name can be quoted. -/
theorem isOk_openingLine {tag keyword suffix name : String} :
    (openingLine tag keyword suffix name).isOk = true ↔ Within isQuotable name := by
  rw [openingLine, isOk_bind_pure, isOk_quote]

/-- The closing line of a block is written if the block's name can be quoted. -/
theorem isOk_closingLine {tag keyword name : String} :
    (closingLine tag keyword name).isOk = true ↔ Within isQuotable name := by
  rw [closingLine, isOk_bind_pure, isOk_quote]

/-! ## Events -/

/-- The stereotypes that a node gets for its kind can be quoted. -/
theorem forall_nodeStereotypes {kind : Option TypeKind} {modifiers : NameSet}
    {annotations : List String} :
    (∀ text ∈ nodeStereotypes kind modifiers annotations, Within isQuotable text) ↔
      ∀ text ∈ annotations, Within isQuotable text := by
  have given : ∀ text ∈ (if kind = some .record then ["record"] else [])
      ++ (if kind = some .classType && modifiers.contains "final" then ["final"] else []),
      Within isQuotable text := by
    intro text member
    have word : text = "record" ∨ text = "final" := by
      rcases List.mem_append.1 member with first | second
      · exact .inl (by simpa using (List.mem_ite_nil_right.1 first).2)
      · exact .inr (by simpa using (List.mem_ite_nil_right.1 second).2)
    rcases word with rfl | rfl
    · decide
    · decide
  rw [nodeStereotypes, List.forall_mem_append]
  exact and_iff_right given

namespace Writer

/-- A writer writes an event exactly when the event is named by what can be quoted. -/
theorem isOk_text (writer : Writer) (event : Event) :
    (writer.text event).isOk = true ↔ event.Named isQuotable := by
  rw [Event.named_iff]
  unfold text
  cases event with
  | beginDiagram name | endDiagram name =>
    dsimp only
    rw [isOk_bind_pure, isOk_checkText]
    simp
  | beginPackage name =>
    dsimp only
    rw [isOk_map, isOk_openingLine]
    simp
  | endPackage name | endNode name =>
    dsimp only
    rw [isOk_map, isOk_closingLine]
    simp
  | declareNode key kind stereotypes modifiers =>
    dsimp only
    have opened (keyword suffix : String) :
        (lineText writer.indent <$> openingLine writer.tag keyword suffix key).isOk = true ↔
          Within isQuotable key := by
      rw [isOk_map, isOk_openingLine]
    have given : (keyword? kind (NameSet.ofList modifiers)).isOk = kind.isSome := by
      cases kind <;> rfl
    rw [isOk_bind fun keyword => isOk_bind fun suffix => opened keyword suffix, given,
      isOk_stereotypeSuffix, forall_nodeStereotypes]
    simp [and_comm]
  | addAttribute owner member component =>
    dsimp only
    rw [isOk_map, isOk_attributeLine]
    simp [and_comm]
  | addEnumConstant owner name =>
    simp [Except.isOk, Except.toBool, pure, Except.pure]
  | addConstructor owner constructor =>
    dsimp only
    rw [isOk_map, isOk_constructorLine]
    simp [and_comm]
  | addMethod owner method =>
    dsimp only
    rw [isOk_map, isOk_methodLine]
    simp [and_comm]
  | addAnnotationMember owner member =>
    dsimp only
    rw [isOk_map, isOk_annotationMemberLine]
    simp
  | connectOwns src dst | connectInheritance src dst review | connectRealization src dst review
  | connectDependency src dst review =>
    dsimp only
    rw [isOk_map, isOk_edgeLine]
    simp
  | connectAssociation owner target role stereotypes =>
    dsimp only
    rw [isOk_map, isOk_associationLine]
    simp

/-- A stream is written to its end exactly when each of its events is named by what can be
quoted. -/
theorem writeAll_complete_iff (writer : Writer) (events : List Event) :
    (writer.writeAll events).2 = none ↔ ∀ event ∈ events, event.Named isQuotable := by
  induction events generalizing writer with
  | nil => exact iff_of_true rfl (List.forall_mem_nil _)
  | cons event events ih =>
    rw [List.forall_mem_cons, ← writer.isOk_text event, ← ih (writer.next event), writeAll]
    cases writer.text event with
    | error fault =>
      exact ⟨fun none => absurd none (Option.some_ne_none fault),
        fun both => absurd both.1 Bool.false_ne_true⟩
    | ok text => exact (and_iff_right rfl).symm

end Writer

end PlantUml

end ClassAtlas
