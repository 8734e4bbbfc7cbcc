import ClassAtlas.Proofs.WrittenEvents

/-!
# The lines that a PlantUML writer writes

What an event appends is a number of whole lines, or it is refused and appends nothing. The names
that are not quoted are written as they are, so a line stays one line where they do. An event whose
types have spellings is refused for a text that can not be quoted and for nothing else. A writer
that stops has written what the events before the refused one append.
-/
namespace ClassAtlas

open Text (Within Lenient isInline isQuotable)

/-! ## Texts -/

namespace Text

/-- Whether a test passes whatever stays on its line. -/
def Wide (allowed : Char → Bool) : Prop := ∀ c, isInline c = true → allowed c = true

/-- Whether a text is a number of lines that pass a test, each with its end. -/
def Lined (allowed : Char → Bool) (count : Nat) (text : String) : Prop :=
  ∃ lines : List String, lines.length = count ∧ (∀ line ∈ lines, Within allowed line) ∧
    text = String.join (lines.map (· ++ "\n"))

variable {allowed : Char → Bool} {text : String}

/-- What stays on its line does so. -/
theorem wide_isInline : Wide isInline := fun _ passed => passed

/-- What passes whatever stays on its line passes what may stand between double quotes. -/
theorem Wide.lenient (wide : Wide allowed) : Lenient allowed :=
  fun c passed => wide c (lenient_isInline c passed)

/-- A text that can be quoted passes. -/
theorem Wide.within (wide : Wide allowed) (quotable : Within isQuotable text) :
    Within allowed text :=
  quotable.of_quotable wide.lenient

/-- Texts pass a test joined if they pass it apart. -/
theorem within_join {texts : List String} :
    Within allowed (String.join texts) ↔ ∀ text ∈ texts, Within allowed text := by
  simp only [Within, String.toList_join, List.forall_mem_flatMap]

/-- What is left of a trimmed text was in it. -/
theorem mem_of_mem_trimEnd {c : Char} {chars : List Char} (member : c ∈ trimEnd chars) :
    c ∈ chars := by
  obtain ⟨blanks, parts, _⟩ := trimEnd_append_blanks chars
  rw [parts]
  exact List.mem_append_left blanks member

/-- A trimmed text passes a test that the text passes. -/
theorem Within.trim (passed : Within allowed text) : Within allowed (trim text) := by
  rw [Text.trim, within_ofList]
  intro c member
  exact passed c ((List.dropWhile_sublist isBlank).subset (mem_of_mem_trimEnd member))

/-- So does a text that is trimmed at its end. -/
theorem Within.trimRight (passed : Within allowed text) : Within allowed (trimRight text) := by
  rw [Text.trimRight, within_ofList]
  exact fun c member => passed c (mem_of_mem_trimEnd member)

/-- The runs between blanks hold no blank. -/
theorem runs_visible {run : List Char} (visible : ∀ c ∈ run, isBlank c = false)
    (chars : List Char) : ∀ part ∈ runs run chars, ∀ c ∈ part, isBlank c = false := by
  induction chars generalizing run with
  | nil =>
    intro part member
    rw [runs] at member
    split at member
    · exact absurd member List.not_mem_nil
    · rw [List.mem_singleton.1 member]
      exact fun c inside => visible c (List.mem_reverse.1 inside)
  | cons first rest ih =>
    rw [runs]
    split
    · split
      · exact ih (List.forall_mem_nil _)
      · refine List.forall_mem_cons.2 ⟨fun c inside => ?_, ih (List.forall_mem_nil _)⟩
        exact visible c (List.mem_reverse.1 inside)
    · next seen => exact ih (List.forall_mem_cons.2 ⟨by simpa using seen, visible⟩)

/-- A text with single spaces between its words stands on one line. -/
theorem within_respace (wide : Wide allowed) (text : String) : Within allowed (respace text) := by
  have space : Within allowed " " := wide.within (by decide)
  refine space.intercalate fun word member => ?_
  obtain ⟨part, listed, rfl⟩ := List.mem_map.1 member
  rw [within_ofList]
  intro c inside
  have visible := runs_visible (List.forall_mem_nil _) text.toList part listed c inside
  have feed : c ≠ '\n' := fun same => by simp [same, isBlank] at visible
  have carriage : c ≠ '\r' := fun same => by simp [same, isBlank] at visible
  exact wide c (by simp [isInline, feed, carriage])

/-- A line with its end is one line. -/
theorem Within.lined {line : String} (passed : Within allowed line) :
    Lined allowed 1 (line ++ "\n") :=
  ⟨[line], rfl, List.forall_mem_singleton.2 passed, by simp⟩

/-- No text is no line. -/
theorem lined_empty : Lined allowed 0 "" := ⟨[], rfl, List.forall_mem_nil _, rfl⟩

/-- Lines behind lines are as many together. -/
theorem Lined.append {first second : Nat} {front back : String} (one : Lined allowed first front)
    (other : Lined allowed second back) : Lined allowed (first + second) (front ++ back) := by
  obtain ⟨upper, count, passed, rfl⟩ := one
  obtain ⟨lower, further, alike, rfl⟩ := other
  refine ⟨upper ++ lower, by rw [List.length_append, count, further], ?_, ?_⟩
  · exact List.forall_mem_append.2 ⟨passed, alike⟩
  · rw [List.map_append, String.join_append]

end Text

open Text (Wide Lined)

/-! ## Names that are written as they are -/

/-- The names that the line of a field writes. -/
def FieldDecl.names (field : FieldDecl) : List String := field.name :: field.type.names

/-- The names that a parameter writes. -/
def ParameterDecl.names (parameter : ParameterDecl) : List String :=
  parameter.name :: parameter.type.names

/-- The names that the line of a constructor writes. -/
def ConstructorDecl.names (constructor : ConstructorDecl) : List String :=
  constructor.name :: constructor.parameters.flatMap (·.names)

/-- The names that the line of a method writes. -/
def MethodDecl.names (method : MethodDecl) : List String :=
  method.name :: (method.returnType.names ++ method.parameters.flatMap (·.names))

/-- The names that the line of an element of an annotation type writes. -/
def AnnotationMember.names (member : AnnotationMember) : List String :=
  member.name :: member.type.names

/-- The names that an event writes as they are. -/
def Event.plainNames : Event → List String
  | .addAttribute _ member _ => member.names
  | .addEnumConstant _ name => [name]
  | .addConstructor _ constructor => constructor.names
  | .addMethod _ method => method.names
  | .addAnnotationMember _ member => member.names
  | _ => []

/-- Whether a fault is about a text that can not be quoted. -/
def Fault.isAboutText : Fault → Bool
  | .severalLines _ | .quoteInside _ _ => true
  | _ => false

namespace PlantUml

/-! ## Steps that are refused for a text -/

section Steps

variable {α β : Type} {result : α → Prop} {final : β → Prop}

/-- Whether a step has a result with a property, unless it is refused for a text that can not be
quoted. -/
def Gives (result : α → Prop) : Except Fault α → Prop
  | .ok value => result value
  | .error fault => fault.isAboutText = true

/-- A step that gives a result gives one that can be named. -/
theorem exists_of_isOk {step : Except Fault α} (given : step.isOk = true) :
    ∃ value, step = .ok value := by
  cases step with
  | ok value => exact ⟨value, rfl⟩
  | error fault => exact absurd given Bool.false_ne_true

/-- A value that is there already is given. -/
theorem gives_pure {value : α} (holds : result value) : Gives result (pure value) := holds

/-- Two steps give what the second one does for whatever the first one gives. -/
theorem Gives.bind {step : Except Fault α} {next : α → Except Fault β} (first : Gives result step)
    (later : ∀ value, result value → Gives final (next value)) : Gives final (step >>= next) := by
  cases step with
  | ok value => exact later value first
  | error fault => exact first

/-- What is made from what a step gives has the property that the making gives it. -/
theorem Gives.map {step : Except Fault α} {make : α → β} (first : Gives result step)
    (made : ∀ value, result value → final (make value)) : Gives final (make <$> step) := by
  cases step with
  | ok value => exact made value first
  | error fault => exact first

/-- One of two steps with the same continuation. -/
theorem Gives.branch {condition : Prop} [Decidable condition] {one other : Except Fault α}
    {next : α → Except Fault β} (first : Gives result one) (second : Gives result other)
    (later : ∀ value, result value → Gives final (next value)) :
    Gives final (if condition then one >>= next else other >>= next) := by
  split
  · exact first.bind later
  · exact second.bind later

end Steps

/-! ## Lines -/

section Lines

variable {allowed : Char → Bool} (wide : Wide allowed)

include wide

/-- A text that is accepted can be quoted. -/
theorem checkText_gives (label text : String) :
    Gives (fun _ => Within allowed text) (checkText label text) := by
  unfold checkText
  split
  · rfl
  · next single =>
    split
    · rfl
    · next unquoted =>
      have accepted : (checkText label text).isOk = true := by
        rw [checkText, if_neg single, if_neg unquoted]
        rfl
      exact wide.within (isOk_checkText.1 accepted)

/-- A quoted name passes every test that quotable characters and quotes pass. -/
theorem quote_gives (name : String) : Gives (Within allowed) (quote name) := by
  refine (checkText_gives wide "name" name).bind fun _ passed => gives_pure ?_
  have mark : Within allowed "\"" := fun c member => wide c (by
    rw [List.mem_singleton.1 member]
    decide)
  simp only [Text.within_append, mark, passed.trim, and_self]

/-- Stereotypes behind a member pass the test. -/
theorem stereotypeSuffix_gives (stereotypes : List String) :
    Gives (Within allowed) (stereotypeSuffix stereotypes) := by
  have checked : Gives (fun _ => ∀ text ∈ stereotypes, Within allowed text)
      (stereotypes.forM (checkText "stereotype")) := by
    rw [List.forM_eq_forM]
    induction stereotypes with
    | nil => exact List.forall_mem_nil _
    | cons stereotype stereotypes ih =>
      rw [List.forM_cons]
      refine (checkText_gives wide "stereotype" stereotype).bind fun _ here => ?_
      cases found : forM stereotypes (checkText "stereotype") with
      | ok value =>
        rw [found] at ih
        exact List.forall_mem_cons.2 ⟨here, ih⟩
      | error fault =>
        rw [found] at ih
        exact ih
  refine checked.bind fun _ passed => gives_pure ?_
  rw [Text.within_join]
  intro text member
  obtain ⟨stereotype, listed, rfl⟩ := List.mem_map.1 member
  simp (disch := decide) only [Text.within_append, wide.within, passed stereotype listed, and_self]

/-- The text of a type whose names pass a test passes it. -/
theorem typeText_gives {usage : TypeUsage} (spelled : usage.renders = true)
    (named : usage.NamesWithin allowed) : Gives (Within allowed) (typeText usage) := by
  rw [typeText, if_pos spelled]
  exact TypeUsage.within_render wide.lenient usage named

/-- The text of a parameter whose names pass a test passes it. -/
theorem parameterText_gives {parameter : ParameterDecl} (spelled : parameter.type.renders = true)
    (named : ∀ name ∈ parameter.names, Within allowed name) :
    Gives (Within allowed) (parameterText parameter) := by
  obtain ⟨called, typed⟩ := List.forall_mem_cons.1 named
  have finish (type : String) (passed : Within allowed type) :
      Within allowed (parameter.name ++ " : " ++ type) := by
    simp (disch := decide) only [Text.within_append, wide.within, called, passed, and_self]
  unfold parameterText
  dsimp only
  split
  · next component _ type =>
    rw [type, TypeUsage.renders] at spelled
    rw [type, TypeUsage.names] at typed
    have spread : Gives (Within allowed) ((· ++ "...") <$> typeText component) := by
      refine (typeText_gives wide spelled typed).map fun text passed => ?_
      simp (disch := decide) only [Text.within_append, wide.within, passed, and_self]
    exact spread.bind fun type passed => gives_pure (finish type passed)
  · refine (typeText_gives wide spelled typed).bind fun type passed => ?_
    exact gives_pure (finish type passed)

/-- The text of parameters whose names pass a test passes it. -/
theorem parametersText_gives {parameters : List ParameterDecl}
    (spelled : ∀ usage ∈ parameters.map (·.type), usage.renders = true)
    (named : ∀ name ∈ parameters.flatMap (·.names), Within allowed name) :
    Gives (Within allowed) (parametersText parameters) := by
  have texts : Gives (fun texts => ∀ text ∈ texts, Within allowed text)
      (parameters.mapM parameterText) := by
    induction parameters with
    | nil => exact List.forall_mem_nil _
    | cons parameter parameters ih =>
      rw [List.map_cons, List.forall_mem_cons] at spelled
      rw [List.flatMap_cons, List.forall_mem_append] at named
      rw [List.mapM_cons]
      refine (parameterText_gives wide spelled.1 named.1).bind fun text here => ?_
      refine (ih spelled.2 named.2).bind fun texts later => ?_
      exact gives_pure (List.forall_mem_cons.2 ⟨here, later⟩)
  have separator : Within allowed ", " := wide.within (by decide)
  exact texts.bind fun _ passed => gives_pure (separator.intercalate passed)

/-- Words with spaces between them pass if each does. -/
theorem within_spaced {words : List String} (each : ∀ word ∈ words, Within allowed word) :
    Within allowed (" ".intercalate words) :=
  Within.intercalate (wide.within (by decide)) each

/-- A text in braces passes a test that the text does. -/
theorem within_braced {text : String} (passed : Within allowed text) :
    Within allowed (braced text) := by
  simp (disch := decide) only [braced, Text.within_append, wide.within, passed, and_self]

/-- The sign of a visibility passes the test. -/
theorem within_visibility (modifiers : NameSet) : Within allowed (visibility modifiers) := by
  have signs : visibility modifiers ∈ ["+", "#", "-", "~"] := by
    unfold visibility
    repeat' split
    all_goals decide
  have plain : ∀ sign ∈ ["+", "#", "-", "~"], Within isQuotable sign := by decide
  exact wide.within (plain _ signs)

/-- A word in braces that stands under a condition passes. -/
theorem within_flag {condition : Prop} [Decidable condition] {word : String}
    (passed : Within allowed word) :
    ∀ text ∈ (if condition then [braced word] else []), Within allowed text := by
  intro text member
  rw [List.mem_singleton.1 (List.mem_ite_nil_right.1 member).2]
  exact within_braced wide passed

/-- The line of an attribute whose names pass a test passes it. -/
theorem attributeLine_gives {member : FieldDecl} (component : Bool)
    (spelled : member.type.renders = true)
    (named : ∀ name ∈ member.names, Within allowed name) :
    Gives (Within allowed) (attributeLine member component) := by
  obtain ⟨called, typed⟩ := List.forall_mem_cons.1 named
  refine (stereotypeSuffix_gives wide _).bind fun suffix annotated => ?_
  refine (typeText_gives wide spelled typed).bind fun type passed => ?_
  have signature : Within allowed (member.name ++ " : " ++ type) := by
    simp (disch := decide) only [Text.within_append, wide.within, called, passed, and_self]
  cases component with
  | true => exact Text.within_append.2 ⟨signature, annotated⟩
  | false =>
    have flags : ∀ text ∈ fieldFlags.filter member.modifiers.contains, Within allowed text := by
      intro text listed
      have word : ∀ flag ∈ fieldFlags, Within isQuotable flag := by decide
      exact wide.within (word text (List.mem_filter.1 listed).1)
    have trailing : Within allowed (braced (", ".intercalate
        (fieldFlags.filter member.modifiers.contains))) :=
      within_braced wide (Within.intercalate (wide.within (by decide)) flags)
    refine Text.within_append.2 ⟨within_spaced wide ?_, annotated⟩
    simp only [List.forall_mem_append, List.forall_mem_singleton]
    refine ⟨⟨⟨within_visibility wide _, within_flag wide (wide.within (by decide))⟩, signature⟩, ?_⟩
    intro text listed
    rw [List.mem_singleton.1 (List.mem_ite_nil_left.1 listed).2]
    exact trailing

/-- The line of a constructor whose names pass a test passes it. -/
theorem constructorLine_gives {constructor : ConstructorDecl}
    (spelled : ∀ usage ∈ constructor.parameters.map (·.type), usage.renders = true)
    (named : ∀ name ∈ constructor.names, Within allowed name) :
    Gives (Within allowed) (constructorLine constructor) := by
  obtain ⟨called, typed⟩ := List.forall_mem_cons.1 named
  refine (stereotypeSuffix_gives wide _).bind fun suffix annotated => ?_
  refine (parametersText_gives wide spelled typed).bind fun parameters passed => gives_pure ?_
  simp (disch := decide) only [Text.within_append, wide.within, within_visibility wide, called,
    passed, annotated, and_self]

/-- The line of a method whose names pass a test passes it. -/
theorem methodLine_gives {method : MethodDecl}
    (spelled : ∀ usage ∈ method.returnType :: method.parameters.map (·.type),
      usage.renders = true)
    (named : ∀ name ∈ method.names, Within allowed name) :
    Gives (Within allowed) (methodLine method) := by
  obtain ⟨called, typed⟩ := List.forall_mem_cons.1 named
  obtain ⟨returned, taken⟩ := List.forall_mem_append.1 typed
  obtain ⟨first, others⟩ := List.forall_mem_cons.1 spelled
  have nothing : Gives (Within allowed) (pure "") := List.forall_mem_nil _
  have result : Gives (Within allowed) ((" : " ++ ·) <$> typeText method.returnType) := by
    refine (typeText_gives wide first returned).map fun text passed => ?_
    simp (disch := decide) only [Text.within_append, wide.within, passed, and_self]
  unfold methodLine
  refine (parametersText_gives wide others taken).bind fun parameters passed => ?_
  refine nothing.branch result fun text typedResult => ?_
  refine (stereotypeSuffix_gives wide _).bind fun suffix annotated => gives_pure ?_
  have signature : Within allowed (method.name ++ "(" ++ parameters ++ ")" ++ text) := by
    simp (disch := decide) only [Text.within_append, wide.within, called, passed, typedResult,
      and_self]
  refine Text.within_append.2 ⟨within_spaced wide ?_, annotated⟩
  simp only [List.forall_mem_append, List.forall_mem_singleton]
  exact ⟨⟨⟨within_visibility wide _, within_flag wide (wide.within (by decide))⟩,
    within_flag wide (wide.within (by decide))⟩, signature⟩

/-- The line of an element of an annotation type whose names pass a test passes it. -/
theorem annotationMemberLine_gives {member : AnnotationMember}
    (spelled : member.type.renders = true)
    (named : ∀ name ∈ member.names, Within allowed name) :
    Gives (Within allowed) (annotationMemberLine member) := by
  obtain ⟨called, typed⟩ := List.forall_mem_cons.1 named
  refine (typeText_gives wide spelled typed).bind fun type passed => gives_pure ?_
  have front : Within allowed (member.name ++ "() : " ++ type) := by
    simp (disch := decide) only [Text.within_append, wide.within, called, passed, and_self]
  rw [Text.within_append]
  refine ⟨front, ?_⟩
  cases member.default with
  | none => exact List.forall_mem_nil _
  | some text =>
    simp (disch := decide) only [Text.within_append, wide.within, Text.within_respace wide text,
      and_self]

/-- The line of an edge passes a test that its tag passes, since its names are quoted. -/
theorem edgeLine_gives {tag : String} (tagged : Within allowed tag) (src dst : String)
    {arrow : String} (drawn : Within isQuotable arrow) (review : Option ReviewFlag) :
    Gives (Within allowed) (edgeLine tag src arrow dst review) := by
  refine (quote_gives wide src).bind fun source first => ?_
  refine (quote_gives wide dst).bind fun target last => ?_
  have line : Within allowed (source ++ " " ++ arrow ++ " " ++ target) := by
    simp (disch := decide) only [Text.within_append, wide.within, first, wide.within drawn, last,
      and_self]
  cases review with
  | none => exact line
  | some flag =>
    have label : Within allowed (reviewLabel flag) := by
      cases flag with
      | external => exact wide.within (by decide)
      | unresolved => exact wide.within (by decide)
    refine gives_pure (Text.within_append.2 ⟨?_, line⟩)
    simp (disch := decide) only [Text.within_append, wide.within, tagged, label, and_self]

/-- The line of an association passes the test, since its names and its role are quoted. -/
theorem associationLine_gives (owner target role : String) (stereotypes : List String) :
    Gives (Within allowed) (associationLine owner target role stereotypes) := by
  have nothing : Gives (Within allowed) (pure "") := List.forall_mem_nil _
  have suffix : Gives (Within allowed) ((" :" ++ ·) <$> stereotypeSuffix stereotypes) := by
    refine (stereotypeSuffix_gives wide stereotypes).map fun text passed => ?_
    simp (disch := decide) only [Text.within_append, wide.within, passed, and_self]
  unfold associationLine
  refine (checkText_gives wide "role" role).bind fun _ _ => ?_
  refine (quote_gives wide owner).bind fun source first => ?_
  refine (quote_gives wide role).bind fun label called => ?_
  refine (quote_gives wide target).bind fun goal last => ?_
  refine nothing.branch suffix fun text annotated => gives_pure ?_
  simp (disch := decide) only [Text.within_append, wide.within, first, called, last, annotated,
    and_self]

/-- A line that opens a block passes a test that its tag, its keyword and its suffix pass. -/
theorem openingLine_gives {tag keyword suffix : String} (tagged : Within allowed tag)
    (worded : Within allowed keyword) (annotated : Within allowed suffix) (name : String) :
    Gives (Within allowed) (openingLine tag keyword suffix name) := by
  refine (quote_gives wide name).bind fun quoted passed => gives_pure ?_
  simp (disch := decide) only [Text.within_append, wide.within, tagged, worded, annotated, passed,
    and_self]

/-- A line that closes a block passes a test that its tag and its keyword pass. -/
theorem closingLine_gives {tag keyword : String} (tagged : Within allowed tag)
    (worded : Within allowed keyword) (name : String) :
    Gives (Within allowed) (closingLine tag keyword name) := by
  refine (quote_gives wide name).bind fun quoted passed => gives_pure ?_
  simp (disch := decide) only [Text.within_append, wide.within, tagged, worded, passed, and_self]

/-- The keyword of a type passes the test. -/
theorem within_keyword (kind : TypeKind) (modifiers : NameSet) :
    Within allowed (keyword kind modifiers) := by
  have word : keyword kind modifiers ∈
      ["class", "abstract class", "interface", "enum", "annotation"] := by
    unfold keyword
    repeat' split
    all_goals decide
  have plain : ∀ word ∈ ["class", "abstract class", "interface", "enum", "annotation"],
      Within isQuotable word := by decide
  exact wide.within (plain _ word)

/-- A line at a depth is one line. -/
theorem lined_lineText {line : String} (passed : Within allowed line) (indent : Nat) :
    Lined allowed 1 (lineText indent line) := by
  have margin : Within allowed (String.join (List.replicate indent "  ")) := by
    rw [Text.within_join]
    intro text member
    rw [List.eq_of_mem_replicate member]
    exact wide.within (by decide)
  exact (Text.within_append.2 ⟨margin, passed⟩).trimRight.lined

/-- Lines at a depth are as many lines. -/
theorem lined_lines {lines : List String} (passed : ∀ line ∈ lines, Within allowed line)
    (indent : Nat) : Lined allowed lines.length (String.join (lines.map (lineText indent))) := by
  induction lines with
  | nil => exact Text.lined_empty
  | cons line lines ih =>
    obtain ⟨here, later⟩ := List.forall_mem_cons.1 passed
    rw [List.map_cons, String.join_cons, List.length_cons, Nat.add_comm]
    exact (lined_lineText wide here indent).append (ih later)

/-- What is written of a line is one line. -/
theorem Gives.lined {step : Except Fault String} (line : Gives (Within allowed) step)
    (indent : Nat) : Gives (Lined allowed 1) (lineText indent <$> step) :=
  line.map fun _ passed => lined_lineText wide passed indent

end Lines

/-! ## Events -/

namespace Writer

/-- The number of lines that an event appends. -/
def lineCount (writer : Writer) : Event → Nat
  | .beginDiagram _ => 1 + writer.header.length + if writer.header.isEmpty then 0 else 1
  | _ => 1

/-- The number is the same for writers with one header. -/
theorem lineCount_congr {left right : Writer} (same : left.header = right.header) (event : Event) :
    left.lineCount event = right.lineCount event := by
  unfold lineCount
  rw [same]

variable {allowed : Char → Bool}

/-- An event whose node has a kind and whose types have spellings appends a number of lines, which
stay lines where the tag, the header and the names that are written as they are do, or it is refused
for a text that can not be quoted. The keywords of open nodes are words of the writer's own. -/
theorem text_gives (wide : Wide allowed) {writer : Writer} {event : Event}
    (kind : event.hasKind = true) (types : ∀ usage ∈ event.spelledTypes, usage.renders = true)
    (names : ∀ name ∈ event.plainNames, Within allowed name)
    (tagged : Within allowed writer.tag) (headed : ∀ line ∈ writer.header, Within allowed line)
    (worded : ∀ key, Within allowed (writer.openKeyword key)) :
    Gives (Lined allowed (writer.lineCount event)) (writer.text event) := by
  have line {text : String} (passed : Within allowed text) (indent : Nat) :
      Lined allowed 1 (lineText indent text) := lined_lineText wide passed indent
  have empty : Within allowed "" := List.forall_mem_nil _
  unfold text
  cases event with
  | beginDiagram name =>
    refine (checkText_gives wide "name" name).bind fun _ passed => gives_pure ?_
    have title : Within allowed ("@startuml " ++ Text.trim name) := by
      simp (disch := decide) only [Text.within_append, wide.within, passed.trim, and_self]
    have first : Lined allowed 1 (lineText writer.indent ("@startuml " ++ Text.trim name)) :=
      line title _
    have listed := first.append (lined_lines wide headed writer.indent)
    dsimp only [lineCount]
    split
    · exact listed.append Text.lined_empty
    · exact listed.append (line empty _)
  | endDiagram name =>
    refine (checkText_gives wide "name" name).bind fun _ _ => gives_pure ?_
    exact line (wide.within (by decide)) _
  | beginPackage name =>
    exact (openingLine_gives wide tagged (wide.within (by decide)) empty name).lined wide _
  | endPackage name =>
    exact (closingLine_gives wide tagged (wide.within (by decide)) name).lined wide _
  | declareNode key kind? stereotypes modifiers =>
    obtain ⟨given, rfl⟩ := Option.isSome_iff_exists.1 kind
    refine (stereotypeSuffix_gives wide _).bind fun suffix annotated => ?_
    exact (openingLine_gives wide tagged (within_keyword wide _ _) annotated key).lined wide _
  | endNode key => exact (closingLine_gives wide tagged (worded key) key).lined wide _
  | addAttribute owner member component =>
    exact (attributeLine_gives wide component (types _ List.mem_cons_self) names).lined wide _
  | addEnumConstant owner name => exact line (names name List.mem_cons_self) _
  | addConstructor owner constructor =>
    exact (constructorLine_gives wide types names).lined wide _
  | addMethod owner method => exact (methodLine_gives wide types names).lined wide _
  | addAnnotationMember owner member =>
    exact (annotationMemberLine_gives wide (types _ List.mem_cons_self) names).lined wide _
  | connectOwns src dst | connectInheritance src dst review | connectRealization src dst review
  | connectDependency src dst review =>
    exact (edgeLine_gives wide tagged src dst (by decide) _).lined wide _
  | connectAssociation owner target role stereotypes =>
    exact (associationLine_gives wide owner target role stereotypes).lined wide _

/-- The same without a say on the characters of a line. -/
theorem text_gives_lines {writer : Writer} {event : Event} (kind : event.hasKind = true)
    (types : ∀ usage ∈ event.spelledTypes, usage.renders = true) :
    Gives (Lined (fun _ => true) (writer.lineCount event)) (writer.text event) := by
  have passed (text : String) : Within (fun _ => true) text := fun _ _ => rfl
  have wide : Wide fun _ => true := fun _ _ => rfl
  exact text_gives wide kind types (fun name _ => passed name) (passed _)
    (fun line _ => passed line) fun key => passed _

/-- An event whose node has a kind and whose types have spellings is refused for a text that can not
be quoted and for nothing else. -/
theorem isAboutText_of_refused {writer : Writer} {event : Event} {fault : Fault}
    (kind : event.hasKind = true) (types : ∀ usage ∈ event.spelledTypes, usage.renders = true)
    (refused : writer.text event = .error fault) : fault.isAboutText = true := by
  have gives := @text_gives_lines writer event kind types
  rw [refused] at gives
  exact gives

/-! ## Runs -/

/-- The writer behind events. -/
def after (writer : Writer) (events : List Event) : Writer := events.foldl next writer

/-- What events append, each by the writer behind those before it. -/
def texts (writer : Writer) : List Event → List (Except Fault String)
  | [] => []
  | event :: events => writer.text event :: (writer.next event).texts events

/-- Events that append a text each are written to the end. -/
theorem writeAll_of_texts {writer : Writer} {events : List Event} {pieces : List String}
    (given : writer.texts events = pieces.map .ok) :
    writer.writeAll events = (String.join pieces, none) := by
  induction events generalizing writer pieces with
  | nil =>
    rw [List.map_eq_nil_iff.1 given.symm]
    rfl
  | cons event events ih =>
    cases pieces with
    | nil => exact absurd given (List.cons_ne_nil _ _)
    | cons piece pieces =>
      obtain ⟨here, later⟩ := List.cons.inj given
      rw [writeAll, here, String.join_cons, ih later]

/-- A writer writes whole lines, whether it gets to the end or not. -/
theorem lined_writeAll (writer : Writer) (events : List Event) :
    ∃ count, Lined (fun _ => true) count (writer.writeAll events).1 := by
  induction events generalizing writer with
  | nil => exact ⟨0, Text.lined_empty⟩
  | cons event events ih =>
    rw [writeAll]
    cases found : writer.text event with
    | error fault => exact ⟨0, Text.lined_empty⟩
    | ok piece =>
      have named : event.Named isQuotable := (writer.isOk_text event).1 (by rw [found]; rfl)
      have lines := @text_gives_lines writer event named.kind named.types
      rw [found] at lines
      obtain ⟨count, rest⟩ := ih (writer.next event)
      exact ⟨_, Lined.append lines rest⟩

/-- A writer that stops has written what the events before the refused one append. -/
theorem exists_refused {writer : Writer} {events : List Event} {fault : Fault}
    (stopped : (writer.writeAll events).2 = some fault) :
    ∃ before event later pieces, events = before ++ event :: later ∧
      writer.texts before = pieces.map .ok ∧ (writer.after before).text event = .error fault ∧
      (writer.writeAll events).1 = String.join pieces := by
  induction events generalizing writer with
  | nil => exact absurd stopped (Option.some_ne_none fault).symm
  | cons event events ih =>
    rw [writeAll] at stopped ⊢
    cases found : writer.text event with
    | error refusal =>
      rw [found] at stopped
      exact ⟨[], event, events, [], rfl, rfl, by rw [← Option.some.inj stopped, ← found]; rfl, rfl⟩
    | ok piece =>
      rw [found] at stopped
      obtain ⟨before, refused, later, pieces, rfl, given, error, written⟩ := ih stopped
      refine ⟨event :: before, refused, later, piece :: pieces, rfl, ?_, error, ?_⟩
      · rw [texts, found, given, List.map_cons]
      · rw [String.join_cons, ← written]

end Writer

end PlantUml

end ClassAtlas
