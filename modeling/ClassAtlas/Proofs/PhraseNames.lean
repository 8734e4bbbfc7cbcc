import ClassAtlas.Java.Grammar.Phrase
import ClassAtlas.Proofs.ReaderContracts

/-!
# The names in phrases

What a source is read into is named if every name in it that is spelled by words can be quoted,
and every name that is a stretch of source without its blanks stands on one line. The words are
those of types, declarations and fields; stretches of source are the names of packages, imports
and annotations and the targets of calls, and a comment or a string inside one stays in it.

The rules for names, annotations, types, modifiers and parameters yield what is named if the rules
for the phrases inside them do.
-/
namespace ClassAtlas

open Text (Within isInline isQuotable)

/-- What the names in a usage are made of: the target of a call is a stretch of source, of which a
test is known to pass the characters, and any other name is spelled by words. -/
def UsageKind.allows (stretch : Char → Bool) : UsageKind → Char → Bool
  | .staticCall => stretch
  | _ => isQuotable

/-- Whatever can be quoted is allowed. -/
theorem UsageKind.lenient_allows {stretch : Char → Bool} (lenient : Text.Lenient stretch)
    (kind : UsageKind) : Text.Lenient (kind.allows stretch) := by
  cases kind with
  | staticCall => exact lenient
  | _ => exact Text.lenient_isQuotable

namespace Java

open Reader

/-! ## What is named -/

mutual

/-- The names in a written type. -/
def WrittenType.names : WrittenType → List String
  | .primitive name => [name]
  | .bare name => [name]
  | .applied name arguments => name :: namesOfAll arguments
  | .array element _ => element.names
  | .anyWildcard => []
  | .upperWildcard bound => bound.names
  | .lowerWildcard bound => bound.names

/-- The names in written types. -/
def WrittenType.namesOfAll : List WrittenType → List String
  | [] => []
  | type :: types => type.names ++ namesOfAll types

end

namespace WrittenType

/-- The names in written types are those in each. -/
theorem namesOfAll_eq_flatMap (types : List WrittenType) :
    namesOfAll types = types.flatMap names := by
  induction types with
  | nil => rfl
  | cons type types ih => rw [namesOfAll, List.flatMap_cons, ih]

/-- Whether every name in a written type passes a test. -/
def NamesWithin (allowed : Char → Bool) (type : WrittenType) : Prop :=
  ∀ name ∈ type.names, Within allowed name

variable {allowed : Char → Bool}

/-- A type of a name alone passes a test if the name does. -/
theorem namesWithin_bare {name : String} :
    NamesWithin allowed (.bare name) ↔ Within allowed name := by
  rw [NamesWithin, names, List.forall_mem_singleton]

/-- A primitive type passes a test if its name does. -/
theorem namesWithin_primitive {name : String} :
    NamesWithin allowed (.primitive name) ↔ Within allowed name := by
  rw [NamesWithin, names, List.forall_mem_singleton]

/-- A type with arguments passes a test if its name and its arguments do. -/
theorem namesWithin_applied {name : String} {arguments : List WrittenType} :
    NamesWithin allowed (.applied name arguments) ↔
      Within allowed name ∧ ∀ type ∈ arguments, type.NamesWithin allowed := by
  rw [NamesWithin, names, List.forall_mem_cons, namesOfAll_eq_flatMap, List.forall_mem_flatMap]
  rfl

end WrittenType

namespace Mention

/-- Whether the names in a mention are made of what its kind allows. -/
def Named (mention : Mention) : Prop :=
  mention.type.NamesWithin (mention.kind.allows isInline)

/-- Whether mentions are named. -/
def AllNamed (mentions : List Mention) : Prop := ∀ mention ∈ mentions, mention.Named

/-- Where nothing is mentioned, all that is mentioned is named. -/
@[simp] theorem allNamed_nil : AllNamed [] := List.forall_mem_nil _

/-- Mentions are named if the first and the others are. -/
@[simp] theorem allNamed_cons {mention : Mention} {mentions : List Mention} :
    AllNamed (mention :: mentions) ↔ mention.Named ∧ AllNamed mentions := List.forall_mem_cons

/-- Mentions are named one after the other if they are apart. -/
@[simp] theorem allNamed_append {front back : List Mention} :
    AllNamed (front ++ back) ↔ AllNamed front ∧ AllNamed back := List.forall_mem_append

/-- Mentions made from values are named if those from each value are. -/
@[simp] theorem allNamed_flatMap {α : Type} {block : α → List Mention} {values : List α} :
    AllNamed (values.flatMap block) ↔ ∀ value ∈ values, AllNamed (block value) :=
  List.forall_mem_flatMap

/-- Blocks of mentions are named if each block is. -/
@[simp] theorem allNamed_flatten {blocks : List (List Mention)} :
    AllNamed blocks.flatten ↔ ∀ block ∈ blocks, AllNamed block := List.forall_mem_flatten

/-- Mentions that may be missing are named if they are where they are not missing. -/
@[simp] theorem allNamed_getD {found : Option (List Mention)} :
    AllNamed (found.getD []) ↔ ∀ mentions ∈ found, AllNamed mentions := by
  cases found <;> simp

end Mention

open Mention (AllNamed)

/-- What holds of every value of a list that may be missing. -/
@[simp] theorem forall_mem_getD {α : Type} {found : Option (List α)} {P : α → Prop} :
    (∀ value ∈ found.getD [], P value) ↔ ∀ values ∈ found, ∀ value ∈ values, P value := by
  cases found <;> simp

/-- A type phrase is named if its type and the mentions in its annotations are. -/
structure TypePhrase.Named (phrase : TypePhrase) : Prop where
  type : phrase.type.NamesWithin isQuotable
  mentions : AllNamed phrase.mentions

/-- A segment of a class type is named if its name, its arguments and the mentions in its
annotations are. -/
structure TypeSegment.Named (segment : TypeSegment) : Prop where
  name : Within isQuotable segment.name
  arguments : ∀ types ∈ segment.arguments, ∀ type ∈ types, type.NamesWithin isQuotable
  mentions : AllNamed segment.mentions

/-- Modifiers are named if their annotations are. -/
structure Modifiers.Named (modifiers : Modifiers) : Prop where
  annotations : ∀ name ∈ modifiers.annotations, Within isInline name
  mentions : AllNamed modifiers.mentions

/-- A parameter is named if its name, its type and its annotations are. -/
structure WrittenParameter.Named (parameter : WrittenParameter) : Prop where
  name : Within isQuotable parameter.name
  type : parameter.type.NamesWithin isQuotable
  annotations : ∀ name ∈ parameter.annotations, Within isInline name

/-- Parameters are named if each one and the mentions in their annotations are. -/
structure WrittenParameters.Named (parameters : WrittenParameters) : Prop where
  items : ∀ parameter ∈ parameters.items, parameter.Named
  mentions : AllNamed parameters.mentions

/-- A type parameter is named if its name and its bounds are. -/
structure WrittenTypeParameter.Named (parameter : WrittenTypeParameter) : Prop where
  name : Within isQuotable parameter.name
  bounds : ∀ bound ∈ parameter.bounds, bound.NamesWithin isQuotable

/-- Type parameters are named if each one and the mentions in their annotations are. -/
structure WrittenTypeParameters.Named (parameters : WrittenTypeParameters) : Prop where
  items : ∀ parameter ∈ parameters.items, parameter.Named
  mentions : AllNamed parameters.mentions

/-- A declared name is named if it can be quoted and the mentions behind it are named. -/
structure Declarator.Named (declarator : Declarator) : Prop where
  name : Within isQuotable declarator.name
  mentions : AllNamed declarator.mentions
  value : AllNamed declarator.value

/-- A method or constructor is named if what it declares and the mentions in it are. -/
structure Routine.Named (routine : Routine) : Prop where
  modifiers : routine.modifiers.Named
  typeParameters : ∀ parameter ∈ routine.typeParameters, parameter.Named
  returnType : routine.returnType.NamesWithin isQuotable
  parameters : ∀ parameter ∈ routine.parameters, parameter.Named
  throws : ∀ type ∈ routine.throws, type.NamesWithin isQuotable
  head : AllNamed routine.head
  body : AllNamed routine.body

/-- The head of a type declaration is named if all that it declares is; what a kind of declaration
has none of needs no proof. -/
structure TypeHeader.Named (header : TypeHeader) : Prop where
  modifiers : header.modifiers.Named
  name : Within isQuotable header.name
  typeParameters : ∀ parameter ∈ header.typeParameters, parameter.Named := by
    exact List.forall_mem_nil _
  extending : ∀ type ∈ header.extending, type.NamesWithin isQuotable := by
    exact List.forall_mem_nil _
  implementing : ∀ type ∈ header.implementing, type.NamesWithin isQuotable := by
    exact List.forall_mem_nil _
  components : ∀ parameter ∈ header.components, parameter.Named := by
    exact List.forall_mem_nil _

/-- A member is named if all that it declares and the mentions in it are. -/
inductive Member.Named : Member → Prop where
  | fields {modifiers : Modifiers} {phrase : TypePhrase} {declarators : List Declarator}
      (lead : modifiers.Named) (type : phrase.Named)
      (names : ∀ declarator ∈ declarators, declarator.Named) :
      Named (.fields modifiers phrase declarators)
  | method {routine : Routine} (named : routine.Named) : Named (.method routine)
  | constructor {routine : Routine} (named : routine.Named) : Named (.constructor routine)
  | initializer {mentions : List Mention} (named : AllNamed mentions) :
      Named (.initializer mentions)
  | constant {name : String} {mentions : List Mention} (named : AllNamed mentions) :
      Named (.constant name mentions)
  | element {name : String} {type : WrittenType} {depth : Nat} {default : Option String}
      (named : type.NamesWithin isQuotable) : Named (.element name type depth default)
  | nested {header : TypeHeader} {members : List Member} (head : header.Named)
      (inside : ∀ member ∈ members, member.Named) : Named (.nested header members)

/-- An operand is named if the mentions in it are. -/
def Operand.Named (operand : Operand) : Prop := AllNamed operand.mentions

/-- The readers of inner phrases read strictly and yield what is named. -/
structure Inner.Named (inner : Inner) : Prop where
  strict : inner.mode = .strict
  type : inner.type.Yields TypePhrase.Named
  elementValue : inner.elementValue.Yields AllNamed
  initialValue : inner.initialValue.Yields AllNamed
  expression : ∀ place, (inner.expression place).Yields AllNamed
  operand : ∀ place, (inner.operand place).Yields Operand.Named
  statement : inner.statement.Yields AllNamed
  classBody : inner.classBody.Yields fun members => ∀ member ∈ members, member.Named
  declaration : inner.declaration.Yields Member.Named

/-! ## Ends and names -/

variable {inner : Inner}

/-- The test for a word that starts a value yields nothing of interest. -/
theorem noValueWord_yields : noValueWord.Yields fun _ => True :=
  .skip (.nextIs _) fun _ => .ensure _

/-- The test for a word that starts a declaration yields nothing of interest. -/
theorem noDeclarationWord_yields : noDeclarationWord.Yields fun _ => True :=
  .skip (.nextIs _) fun _ => .ensure _

/-- The end of a statement yields nothing of interest, since a strict reader repairs nothing. -/
theorem semicolon_yields (named : inner.Named) : (semicolon inner).Yields fun _ => True := by
  unfold semicolon
  rw [named.strict]
  exact .skip (.symbol _) fun _ => .pure trivial

/-- The end of arguments yields nothing of interest, since a strict reader repairs nothing. -/
theorem closeArguments_yields (named : inner.Named) :
    (closeArguments inner).Yields fun _ => True := by
  unfold closeArguments
  rw [named.strict]
  exact .skip (.symbol _) fun _ => .pure trivial

/-- The end of a block yields nothing of interest, since a strict reader repairs nothing. -/
theorem closeBlock_yields (named : inner.Named) : (closeBlock inner).Yields fun _ => True := by
  unfold closeBlock
  rw [named.strict]
  exact .skip (.symbol _) fun _ => .pure trivial

/-- What each item of a block yields, all of them do; a strict reader passes over no token. -/
theorem blockItems_yields {α : Type} {item : Reader α} {P : α → Prop} (named : inner.Named)
    (kept : item.Yields P) :
    (blockItems inner item).Yields fun values => ∀ value ∈ values, P value := by
  unfold blockItems
  rw [named.strict]
  exact .many kept

/-- A dotted name stands on one line, comments in it included. -/
theorem qualifiedName_yields (reserved : List String) :
    (qualifiedName reserved).Yields (Within isInline) := by
  have span : Yields (do let _ ← identifier reserved; many do let _ ← symbol "."; identifier [])
      fun _ => True :=
    .skip ((Yields.identifier _).imp fun _ _ => trivial) fun _ =>
      (Yields.many (.skip (.symbol _) fun _ => .identifier _)).imp fun _ _ => trivial
  exact span.spanned.bind fun ⟨_, tokens⟩ _ => .pure (Text.within_squeeze _)

/-! ## Annotations -/

/-- The mentions in a pair of an annotation are named. -/
theorem elementPair_yields (named : inner.Named) : (elementPair inner).Yields AllNamed := by
  refine .bind (.identifier _) fun _ _ => ?_
  refine .skip (.symbol _) fun _ => ?_
  exact named.elementValue

/-- The mentions in the parentheses of an annotation are named. -/
theorem elementValues_yields (named : inner.Named) : (elementValues inner).Yields AllNamed := by
  refine .skip (.symbol _) fun _ => ?_
  refine .bind (P := fun values => ∀ value ∈ values, AllNamed value) (.orElse ?_ ?_)
    fun values kept => ?_
  · refine .bind (.sepBy (elementPair_yields named) (.symbol _)) fun pairs kept => ?_
    exact .skip (.symbol _) fun _ => .pure kept
  · refine named.elementValue.bind fun value kept => ?_
    exact .skip (.symbol _) fun _ => .pure (by simpa using kept)
  · exact .pure (Mention.allNamed_flatten.2 kept)

/-- The name of an annotation stands on one line. -/
theorem annotationUse_yields (named : inner.Named) :
    (annotationUse inner).Yields fun use => Within isInline use.1 ∧ AllNamed use.2 := by
  refine .skip (.symbol _) fun _ => ?_
  refine .skip (.nextIs _) fun _ => ?_
  refine .skip (.ensure _) fun _ => ?_
  refine (qualifiedName_yields _).bind fun name inline => ?_
  refine (elementValues_yields named).maybe.bind fun values kept => ?_
  exact .pure ⟨inline.afterLast, Mention.allNamed_getD.2 kept⟩

/-- The mentions of annotations in a row are named. -/
theorem annotationUses_yields (named : inner.Named) : (annotationUses inner).Yields AllNamed := by
  refine (annotationUse_yields named).many.bind fun uses kept => ?_
  exact .pure (Mention.allNamed_flatMap.2 fun use member => (kept use member).2)

/-- The mentions in the annotations of dimensions are named. -/
theorem dimensions_yields (named : inner.Named) :
    (dimensions inner).Yields fun result => AllNamed result.2 := by
  refine .bind (.spanned (.some1 (P := AllNamed) ?_)) fun ⟨mentions, _⟩ kept => ?_
  · refine (annotationUses_yields named).bind fun mentions kept => ?_
    refine .skip (.symbol _) fun _ => ?_
    exact .skip (.symbol _) fun _ => .pure kept
  · exact .pure (Mention.allNamed_flatten.2 kept)

/-! ## Types -/

/-- A wildcard is named if its bound is. -/
theorem wildcard_yields (named : inner.Named) : (wildcard inner).Yields TypePhrase.Named := by
  refine .skip .line fun line => ?_
  refine (annotationUses_yields named).bind fun mentions kept => ?_
  refine .skip (.symbol _) fun _ => ?_
  refine .bind (.maybe (P := fun bound => bound.2.Named) ?_) fun bound bounded => ?_
  · refine .skip (.orElse ?_ ?_) fun upper => ?_
    · exact .skip (.word _) fun _ => .pure trivial
    · exact .skip (.word _) fun _ => .pure trivial
    · exact named.type.bind fun phrase held => .pure held
  · match bound with
    | none => exact .pure ⟨List.forall_mem_nil _, kept⟩
    | some (true, phrase) =>
      have held := bounded _ rfl
      exact .pure ⟨held.type, Mention.allNamed_append.2 ⟨kept, held.mentions⟩⟩
    | some (false, phrase) =>
      have held := bounded _ rfl
      exact .pure ⟨held.type, Mention.allNamed_append.2 ⟨kept, held.mentions⟩⟩

/-- Type arguments are named. -/
theorem typeArguments_yields (named : inner.Named) :
    (typeArguments inner).Yields fun phrases => ∀ phrase ∈ phrases, phrase.Named := by
  refine .skip (.symbol _) fun _ => ?_
  refine .bind (.sepBy (.orElse (wildcard_yields named) named.type) (.symbol _))
    fun phrases kept => ?_
  exact .skip (.symbol _) fun _ => .pure kept

/-- A segment of a class type is named. -/
theorem typeSegment_yields (named : inner.Named) (reserved : List String) :
    (typeSegment inner reserved).Yields TypeSegment.Named := by
  refine (Yields.identifier _).bind fun name quotable => ?_
  refine (typeArguments_yields named).maybe.bind fun found kept => ?_
  refine .pure ⟨quotable, fun types given type member => ?_, ?_⟩
  · obtain ⟨phrases, here, rfl⟩ := Option.map_eq_some_iff.1 given
    obtain ⟨phrase, inside, rfl⟩ := List.mem_map.1 member
    exact (kept phrases here phrase inside).type
  · simp only [Mention.allNamed_flatMap, forall_mem_getD]
    exact fun phrases here phrase inside => (kept phrases here phrase inside).mentions

/-- The type of named segments is named. -/
theorem namesWithin_segmentsType {first : TypeSegment} {rest : List TypeSegment}
    (head : first.Named) (tail : ∀ segment ∈ rest, segment.Named) :
    (segmentsType first rest).NamesWithin isQuotable := by
  unfold segmentsType
  split
  · split
    · exact WrittenType.namesWithin_bare.2 head.name
    · next arguments given =>
      exact WrittenType.namesWithin_applied.2 ⟨head.name, head.arguments arguments given⟩
  · next last found =>
    have final : last.Named := tail last (List.mem_of_getLast? found)
    refine WrittenType.namesWithin_applied.2 ⟨?_, forall_mem_getD.2 final.arguments⟩
    refine Text.Within.intercalate (by decide) fun text member => ?_
    obtain ⟨segment, inside, rfl⟩ := List.mem_map.1 member
    rcases List.mem_cons.1 inside with rfl | later
    · exact head.name
    · exact (tail segment later).name

/-- A class type is named. -/
theorem classType_yields (named : inner.Named) : (classType inner).Yields TypePhrase.Named := by
  refine .skip .line fun line => ?_
  refine (typeSegment_yields named _).bind fun first head => ?_
  refine .bind (.many (P := TypeSegment.Named) ?_) fun rest tail => ?_
  · refine .skip (.symbol _) fun _ => ?_
    refine (annotationUses_yields named).bind fun mentions kept => ?_
    refine (typeSegment_yields named _).bind fun segment held => ?_
    exact .pure ⟨held.name, held.arguments, Mention.allNamed_append.2 ⟨kept, held.mentions⟩⟩
  · refine .pure ⟨namesWithin_segmentsType head tail, Mention.allNamed_flatMap.2 ?_⟩
    exact List.forall_mem_cons.2
      ⟨head.mentions, fun segment member => (tail segment member).mentions⟩

/-- A primitive type is named. -/
theorem primitiveType_yields : primitiveType.Yields TypePhrase.Named := by
  refine (Yields.satisfy _).bind fun token ⟨accepted, quotable⟩ => ?_
  rw [Bool.and_eq_true] at accepted
  have held := quotable (eq_of_beq accepted.1)
  exact .pure ⟨WrittenType.namesWithin_primitive.2 held, Mention.allNamed_nil⟩

/-- A type without dimensions is named. -/
theorem simpleType_yields (named : inner.Named) : (simpleType inner).Yields TypePhrase.Named :=
  .orElse primitiveType_yields (classType_yields named)

/-- A type without annotations before it is named. -/
theorem plainType_yields (named : inner.Named) : (plainType inner).Yields TypePhrase.Named := by
  refine (simpleType_yields named).bind fun simple held => ?_
  refine (dimensions_yields named).maybe.bind fun found kept => ?_
  match found with
  | none => exact .pure held
  | some (depth, mentions) =>
    exact .pure ⟨held.type, Mention.allNamed_append.2 ⟨held.mentions, kept _ rfl⟩⟩

/-- A type with annotations before it is named. -/
theorem anyType_yields (named : inner.Named) : (anyType inner).Yields TypePhrase.Named := by
  refine .skip .line fun line => ?_
  refine (annotationUses_yields named).bind fun mentions kept => ?_
  refine (plainType_yields named).bind fun plain held => ?_
  exact .pure ⟨held.type, Mention.allNamed_append.2 ⟨kept, held.mentions⟩⟩

/-- Types between commas are named. -/
theorem typeList_yields (named : inner.Named) :
    (typeList inner).Yields fun phrases => ∀ phrase ∈ phrases, phrase.Named :=
  .sepBy1 (anyType_yields named) (.symbol _)

/-! ## Modifiers and parameters -/

/-- Nothing is asked of a modifier word. -/
theorem modifierWord_yields : modifierWord.Yields fun _ => True := by
  refine .orElse ?_ (.orElse ?_ (.orElse ?_ (.orElse ?_ ?_)))
  · exact .bind (.satisfy _) fun _ _ => .pure trivial
  · refine .skip (.word _) fun _ => ?_
    refine .skip (.nextIs _) fun _ => ?_
    exact .skip (.ensure _) fun _ => .pure trivial
  · refine .skip (.word _) fun _ => ?_
    refine .skip (.nextIs _) fun _ => ?_
    refine .skip (.nextIs _) fun _ => ?_
    exact .skip (.ensure _) fun _ => .pure trivial
  · refine .skip (.word _) fun _ => ?_
    refine .skip (.nextIs _) fun _ => ?_
    exact .skip (.ensure _) fun _ => .pure trivial
  · refine .skip (.word _) fun _ => ?_
    refine .skip (.adjoining _) fun _ => ?_
    refine .skip (.word _) fun _ => ?_
    exact .skip (.ensure _) fun _ => .pure trivial

/-- Modifiers are named if the annotations among them are. -/
theorem modifiers_yields (named : inner.Named) : (modifiers inner).Yields Modifiers.Named := by
  have item : Yields ((Sum.inl <$> annotationUse inner) <|> (Sum.inr <$> modifierWord))
      (Sum.elim (fun use => Within isInline use.1 ∧ AllNamed use.2) fun _ => True) :=
    .orElse ((annotationUse_yields named).map fun _ held => held)
      (modifierWord_yields.map fun _ _ => trivial)
  refine item.many.bind fun items held => .pure ⟨fun name member => ?_, ?_⟩
  · obtain ⟨use | word, listed, found⟩ := List.mem_filterMap.1 member
    · obtain rfl := Option.some.inj found
      exact (held _ listed).1
    · exact absurd found (Option.some_ne_none name).symm
  · refine Mention.allNamed_flatMap.2 fun item listed => ?_
    cases item with
    | inl use => exact (held _ listed).2
    | inr word => exact Mention.allNamed_nil

/-- Type parameters are named, with their bounds. -/
theorem typeParameters_yields (named : inner.Named) :
    (typeParameters inner).Yields WrittenTypeParameters.Named := by
  refine .skip (.symbol _) fun _ => ?_
  refine .bind (.sepBy1 (P := fun item => item.1.Named ∧ AllNamed item.2) ?_ (.symbol _))
    fun items kept => ?_
  · refine (annotationUses_yields named).bind fun mentions kept => ?_
    refine (Yields.identifier _).bind fun name quotable => ?_
    refine .bind (.maybe (P := fun phrases => ∀ phrase ∈ phrases, phrase.Named) ?_)
      fun found bounds => ?_
    · exact .skip (.word _) fun _ => .sepBy1 (anyType_yields named) (.symbol _)
    · have held := forall_mem_getD.2 bounds
      refine .pure ⟨⟨quotable, fun bound member => ?_⟩, ?_⟩
      · obtain ⟨phrase, inside, rfl⟩ := List.mem_map.1 member
        exact (held phrase inside).type
      · rw [Mention.allNamed_append, Mention.allNamed_flatMap]
        exact ⟨kept, fun phrase member => (held phrase member).mentions⟩
  · refine .skip (.symbol _) fun _ => .pure ⟨fun parameter member => ?_, ?_⟩
    · obtain ⟨item, listed, rfl⟩ := List.mem_map.1 member
      exact (kept item listed).1
    · exact Mention.allNamed_flatMap.2 fun item listed => (kept item listed).2

/-- The mentions in a receiver parameter are named. -/
theorem receiver_yields (named : inner.Named) : (receiver inner).Yields AllNamed := by
  refine (annotationUses_yields named).bind fun mentions kept => ?_
  refine (plainType_yields named).bind fun type held => ?_
  refine .bind (.many (.bind (.identifier _) fun _ _ => .symbol _)) fun _ _ => ?_
  exact .skip (.word _) fun _ => .pure (Mention.allNamed_append.2 ⟨kept, held.mentions⟩)

/-- A declared name with its dimensions is named. -/
theorem declaredName_yields (named : inner.Named) (reserved : List String) :
    (declaredName inner reserved).Yields Declarator.Named := by
  refine (Yields.identifier _).bind fun name quotable => ?_
  refine (dimensions_yields named).maybe.bind fun found kept => ?_
  cases found with
  | none => exact .pure ⟨quotable, Mention.allNamed_nil, Mention.allNamed_nil⟩
  | some dims => exact .pure ⟨quotable, kept dims rfl, Mention.allNamed_nil⟩

/-- A declared name with its initial value is named. -/
theorem declarator_yields (named : inner.Named) (reserved : List String) :
    (declarator inner reserved).Yields Declarator.Named := by
  refine (declaredName_yields named _).bind fun declared held => ?_
  refine .bind (.maybe (P := AllNamed) ?_) fun value kept => ?_
  · exact .skip (.symbol _) fun _ => named.initialValue
  · exact .pure ⟨held.name, held.mentions, Mention.allNamed_getD.2 kept⟩

/-- A parameter and the mentions in it are named. -/
theorem parameter_yields (named : inner.Named) :
    (parameter inner).Yields fun result => result.1.Named ∧ AllNamed result.2 := by
  refine (modifiers_yields named).bind fun modifiers lead => ?_
  refine (plainType_yields named).bind fun phrase held => ?_
  refine .orElse ?_ ?_
  · refine .skip (.symbol _) fun _ => ?_
    refine (annotationUses_yields named).bind fun mentions kept => ?_
    refine (declarator_yields named _).bind fun declared declares => ?_
    refine .pure ⟨⟨declares.name, held.type, lead.annotations⟩, ?_⟩
    simp [lead.mentions, held.mentions, kept, declares.mentions, declares.value]
  · refine (declaredName_yields named _).bind fun declared declares => ?_
    refine .pure ⟨⟨declares.name, ?_, lead.annotations⟩, ?_⟩
    · split
      · exact held.type
      · exact held.type
    · simp [lead.mentions, held.mentions, declares.mentions]

/-- Parameters are named. -/
theorem parameters_yields (named : inner.Named) :
    (parameters inner).Yields WrittenParameters.Named := by
  refine .skip (.symbol _) fun _ => ?_
  refine .bind (.maybe (P := AllNamed) ?_) fun first kept => ?_
  · refine (receiver_yields named).bind fun mentions kept => ?_
    refine .skip (.nextIs _) fun _ => ?_
    refine .skip (.nextIs _) fun _ => ?_
    exact .skip (.ensure _) fun _ => .pure kept
  have rest (items : List (WrittenParameter × List Mention))
      (held : ∀ item ∈ items, item.1.Named ∧ AllNamed item.2) :
      WrittenParameters.Named
        { items := items.map (·.1), mentions := first.getD [] ++ items.flatMap (·.2) } := by
    constructor
    · intro parameter member
      obtain ⟨item, listed, rfl⟩ := List.mem_map.1 member
      exact (held item listed).1
    · rw [Mention.allNamed_append, Mention.allNamed_getD, Mention.allNamed_flatMap]
      exact ⟨kept, fun item listed => (held item listed).2⟩
  cases first with
  | none =>
    refine .bind (.sepBy (parameter_yields named) (.symbol _)) fun items held => ?_
    exact .skip (.symbol _) fun _ => .pure (rest items held)
  | some mentions =>
    refine .bind (.many (.skip (.symbol _) fun _ => parameter_yields named)) fun items held => ?_
    exact .skip (.symbol _) fun _ => .pure (rest items held)

end Java

end ClassAtlas
