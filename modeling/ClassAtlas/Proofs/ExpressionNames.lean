import ClassAtlas.Java.Grammar.Expression
import ClassAtlas.Proofs.PhraseNames

/-!
# The names in expressions

The rules for expressions yield named mentions if the rules for the phrases inside them do. All
mentions but one spell the type that stands in the source; the target of a call is mentioned as the
stretch of source that it takes up, so of its name no more is known than that it stands on one
line.
-/
namespace ClassAtlas.Java

open Reader
open Mention (AllNamed)
open Text (Within isInline isQuotable)

variable {inner : Inner}

/-! ## Operators -/

/-- A loose operator yields nothing of interest. -/
theorem looseOperator_yields : looseOperator.Yields fun _ => True :=
  .bind (.satisfy _) fun _ _ => .pure trivial

/-- A tight operator yields nothing of interest. -/
theorem tightOperator_yields : tightOperator.Yields fun _ => True := by
  refine .orElse ?_ ?_
  · exact .bind (.satisfy _) fun _ _ => .pure trivial
  · refine .skip (.symbol _) fun _ => ?_
    refine .bind (.maybe (.adjoining _)) fun second _ => ?_
    cases second with
    | none => exact .bind (.maybe (.adjoining _)) fun _ _ => .pure trivial
    | some _ =>
      refine .bind (.maybe (.adjoining _)) fun _ _ => ?_
      exact .skip (.nextIs _) fun _ => .ensure _

/-- An assigning operator yields nothing of interest. -/
theorem assignmentOperator_yields : assignmentOperator.Yields fun _ => True := by
  refine .orElse ?_ ?_
  · exact .bind (.satisfy _) fun _ _ => .pure trivial
  · refine .skip (.symbol _) fun _ => ?_
    refine .skip (.adjoining _) fun _ => ?_
    refine .bind (.maybe (.adjoining _)) fun _ _ => ?_
    exact .skip (.adjoining _) fun _ => .pure trivial

/-! ## Lists and blocks -/

/-- The mentions in arguments are named. -/
theorem arguments_yields (named : inner.Named) : (arguments inner).Yields AllNamed := by
  refine .skip (.symbol _) fun _ => ?_
  refine .bind (.sepBy (named.expression _) (.symbol _)) fun items kept => ?_
  refine .skip (closeArguments_yields named) fun _ => ?_
  exact .pure (Mention.allNamed_flatten.2 kept)

/-- The mentions in an expression between parentheses are named. -/
theorem parenthesized_yields (named : inner.Named) : (parenthesized inner).Yields AllNamed := by
  refine .skip (.symbol _) fun _ => ?_
  refine (named.expression _).bind fun mentions kept => ?_
  exact .skip (.symbol _) fun _ => .pure kept

/-- The mentions in a block of statements are named. -/
theorem block_yields (named : inner.Named) : (block inner).Yields AllNamed := by
  refine .skip (.symbol _) fun _ => ?_
  refine (blockItems_yields named named.statement).bind fun statements kept => ?_
  refine .skip (closeBlock_yields named) fun _ => ?_
  exact .pure (Mention.allNamed_flatten.2 kept)

/-- Items between braces yield what is named if each of them does. -/
theorem bracedList_yields {item : Reader (List Mention)} (kept : item.Yields AllNamed) :
    (bracedList item).Yields AllNamed := by
  refine .skip (.symbol _) fun _ => ?_
  refine .bind (.sepBy kept (.symbol _)) fun items held => ?_
  refine .bind (.maybe (.symbol _)) fun _ _ => ?_
  refine .skip (.symbol _) fun _ => ?_
  exact .pure (Mention.allNamed_flatten.2 held)

/-- The mentions in the initial value of a variable are named. -/
theorem initialValue_yields (named : inner.Named) : (initialValue inner).Yields AllNamed :=
  .orElse (bracedList_yields named.initialValue) (named.expression _)

/-- The mentions in a value of an annotation are named. -/
theorem elementValue_yields (named : inner.Named) : (elementValue inner).Yields AllNamed := by
  refine .orElse (bracedList_yields named.elementValue) (.orElse ?_ (named.expression _))
  exact (annotationUse_yields named).map fun _ held => held.2

/-! ## Instance tests and chains of operands -/

/-- The mention of a named type is named. -/
theorem TypePhrase.Named.mention {phrase : TypePhrase} (held : phrase.Named) (kind : UsageKind) :
    (phrase.mention kind).Named :=
  fun name member => (held.type name member).of_quotable
    (kind.lenient_allows Text.lenient_isInline)

/-- The type and the mentions of a record pattern are named, to any depth of patterns inside it. -/
theorem recordPattern_yields (named : inner.Named) (depth : Nat) :
    (recordPattern inner depth).Yields fun result =>
      (∀ phrase ∈ result.1, phrase.Named) ∧ AllNamed result.2 := by
  induction depth with
  | zero => exact .failure
  | succ depth ih =>
    refine .skip .line fun line => ?_
    refine (typeSegment_yields named _).bind fun segment held => ?_
    refine .skip (.symbol _) fun _ => ?_
    refine .bind (.sepBy (P := AllNamed) (.orElse ?_ (.orElse ?_ ?_)) (.symbol _))
      fun items kept => ?_
    · exact ih.map fun _ inside => inside.2
    · refine (plainType_yields named).bind fun type typed => ?_
      exact .bind (.identifier _) fun _ _ => .pure typed.mentions
    · exact .skip (.word _) fun _ => .pure Mention.allNamed_nil
    · refine .skip (.symbol _) fun _ => .pure ⟨fun phrase given => ?_, ?_⟩
      · split at given
        · obtain rfl := Option.some.inj given
          have type := namesWithin_segmentsType held (List.forall_mem_nil _)
          exact ⟨type, Mention.allNamed_nil⟩
        · exact absurd given (Option.not_mem_none phrase)
      · exact Mention.allNamed_append.2 ⟨held.mentions, Mention.allNamed_flatten.2 kept⟩

/-- The type and the mentions of a record pattern of any depth are named. -/
theorem anyRecordPattern_yields (named : inner.Named) :
    (anyRecordPattern inner).Yields fun result =>
      (∀ phrase ∈ result.1, phrase.Named) ∧ AllNamed result.2 :=
  fun tokens => recordPattern_yields named tokens.length tokens

/-- The mention that an instance test makes is named, and so are those inside it. -/
theorem testedType_yields (named : inner.Named) :
    (testedType inner).Yields fun result => AllNamed result.1 ∧ AllNamed result.2 := by
  refine .skip (.word _) fun _ => ?_
  refine .bind (.maybe (.word _)) fun _ _ => ?_
  refine .orElse ?_ ?_
  · refine (anyRecordPattern_yields named).bind fun ⟨phrase, mentions⟩ ⟨own, inside⟩ => ?_
    refine .pure ⟨fun mention member => ?_, inside⟩
    obtain ⟨other, given, rfl⟩ := List.mem_map.1 member
    exact (own other (Option.mem_toList.1 given)).mention _
  · refine (anyType_yields named).bind fun type held => ?_
    refine .bind (.maybe (.identifier _)) fun _ _ => ?_
    exact .pure ⟨by simpa using held.mention _, held.mentions⟩

/-- A link of a chain is named if the mentions in it are. -/
def Link.Named : Link → Prop
  | .loose right => AllNamed right
  | .tight right => AllNamed right
  | .test own inside => AllNamed own ∧ AllNamed inside

/-- The mentions of a chain are those of its operands and links. -/
theorem allNamed_chainMentions {before left : List Mention} {links : List Link}
    (earlier : AllNamed before) (here : AllNamed left) (later : ∀ link ∈ links, link.Named) :
    AllNamed (chainMentions before left links) := by
  induction links generalizing before left with
  | nil => exact Mention.allNamed_append.2 ⟨earlier, here⟩
  | cons link links ih =>
    obtain ⟨held, rest⟩ := List.forall_mem_cons.1 later
    cases link with
    | loose right => exact ih (Mention.allNamed_append.2 ⟨earlier, here⟩) held rest
    | tight right => exact ih earlier (Mention.allNamed_append.2 ⟨here, held⟩) rest
    | test own inside =>
      have operand : AllNamed (own ++ left ++ inside) := by simp [held.1, here, held.2]
      exact ih earlier operand rest

/-- A chain yields what is named if its operands and the types it tests for do. -/
theorem operandChain_yields {operand : Reader Operand}
    {tested : Reader (List Mention × List Mention)} (kept : operand.Yields Operand.Named)
    (test : tested.Yields fun result => AllNamed result.1 ∧ AllNamed result.2) :
    (operandChain operand tested).Yields AllNamed := by
  refine kept.bind fun first held => ?_
  refine .bind (.many (P := Link.Named) (.orElse ?_ (.orElse ?_ ?_))) fun links linked => ?_
  · exact test.bind fun ⟨own, inside⟩ given => .pure given
  · refine .skip looseOperator_yields fun _ => ?_
    exact kept.bind fun right given => .pure given
  · refine .skip tightOperator_yields fun _ => ?_
    exact kept.bind fun right given => .pure given
  · exact .pure (allNamed_chainMentions Mention.allNamed_nil held linked)

/-! ## Creations, lambda expressions, casts and switches -/

/-- The mentions in phrases that may be missing. -/
theorem allNamed_phrases {found : Option (List TypePhrase)}
    (held : ∀ phrases ∈ found, ∀ phrase ∈ phrases, phrase.Named) :
    AllNamed ((found.getD []).flatMap (·.mentions)) := by
  rw [Mention.allNamed_flatMap, forall_mem_getD]
  exact fun phrases given phrase member => (held phrases given phrase member).mentions

/-- The mentions in a named member are named. -/
theorem Member.Named.mentions {member : Member} (named : member.Named) :
    AllNamed member.mentions := by
  cases named with
  | fields lead type names =>
    simp only [Member.mentions, Mention.allNamed_append, Mention.allNamed_flatMap]
    exact ⟨⟨lead.mentions, type.mentions⟩, fun declarator inside =>
      ⟨(names declarator inside).mentions, (names declarator inside).value⟩⟩
  | method held => exact Mention.allNamed_append.2 ⟨held.head, held.body⟩
  | constructor held => exact Mention.allNamed_append.2 ⟨held.head, held.body⟩
  | initializer held => exact held
  | constant held => exact held
  | element _ => exact Mention.allNamed_nil
  | nested _ _ => exact Mention.allNamed_nil

/-- The mentions in a body that may be missing. -/
theorem allNamed_members {found : Option (List Member)}
    (held : ∀ members ∈ found, ∀ member ∈ members, member.Named) :
    AllNamed ((found.getD []).flatMap (·.mentions)) := by
  rw [Mention.allNamed_flatMap, forall_mem_getD]
  exact fun members given member inside => (held members given member inside).mentions

/-- The mention of a created object is named, and so are those in its arguments and body. -/
theorem creation_yields (named : inner.Named) :
    (creation inner).Yields fun result => AllNamed result.1 ∧ AllNamed result.2 := by
  refine .skip (.word _) fun _ => ?_
  refine (annotationUses_yields named).bind fun leading before => ?_
  refine (typeArguments_yields named).maybe.bind fun typed arguments => ?_
  refine (annotationUses_yields named).bind fun trailing behind => ?_
  refine (simpleType_yields named).bind fun type held => ?_
  have lead : AllNamed (leading ++ (typed.getD []).flatMap (·.mentions) ++ trailing
      ++ type.mentions) := by
    simp only [Mention.allNamed_append]
    exact ⟨⟨⟨before, allNamed_phrases arguments⟩, behind⟩, held.mentions⟩
  refine .orElse ?_ (.orElse ?_ ?_)
  · refine (arguments_yields named).bind fun values given => ?_
    refine named.classBody.maybe.bind fun body inside => .pure ⟨?_, ?_⟩
    · simpa using held.mention _
    · simp only [Mention.allNamed_append] at lead ⊢
      exact ⟨⟨lead, given⟩, allNamed_members inside⟩
  · refine .bind (.some1 (P := AllNamed) ?_) fun sizes given => ?_
    · refine (annotationUses_yields named).bind fun mentions kept => ?_
      refine .skip (.symbol _) fun _ => ?_
      refine (named.expression _).bind fun size inside => ?_
      exact .skip (.symbol _) fun _ => .pure (Mention.allNamed_append.2 ⟨kept, inside⟩)
    · refine (dimensions_yields named).maybe.bind fun dims behind => ?_
      have further : AllNamed ((dims.map (·.2)).getD []) := by
        rw [Mention.allNamed_getD]
        intro mentions given
        obtain ⟨found, here, rfl⟩ := Option.map_eq_some_iff.1 given
        exact behind found here
      refine .pure ⟨Mention.allNamed_nil, ?_⟩
      rw [Mention.allNamed_append, Mention.allNamed_append, Mention.allNamed_flatten]
      exact ⟨⟨lead, given⟩, further⟩
  · refine (dimensions_yields named).bind fun dims kept => ?_
    obtain ⟨_, mentions⟩ := dims
    refine (bracedList_yields named.initialValue).bind fun values given => ?_
    refine .pure ⟨Mention.allNamed_nil, ?_⟩
    rw [Mention.allNamed_append, Mention.allNamed_append]
    exact ⟨⟨lead, kept⟩, given⟩

/-- The mentions in the parameters of a lambda expression are named. -/
theorem lambdaParameters_yields (named : inner.Named) :
    (lambdaParameters inner).Yields AllNamed := by
  refine .bind (P := AllNamed) (.orElse ?_ ?_) fun mentions kept => ?_
  · refine .skip (.symbol _) fun _ => ?_
    refine .bind (.sepBy1 (.identifier _) (.symbol _)) fun _ _ => ?_
    exact .skip (.symbol _) fun _ => .pure Mention.allNamed_nil
  · exact (parameters_yields named).map fun _ held => held.mentions
  · exact .skip (.symbol _) fun _ => .pure kept

/-- The mentions in the body of a lambda expression are named. -/
theorem lambdaBody_yields (named : inner.Named) : (lambdaBody inner).Yields AllNamed :=
  .orElse (block_yields named) (named.expression _)

/-- A cast is a named operand. -/
theorem cast_yields (named : inner.Named) (place : Place) :
    (cast inner place).Yields Operand.Named := by
  refine .skip (.symbol _) fun _ => ?_
  refine .skip noValueWord_yields fun _ => ?_
  refine .bind (.spanned (P := fun result : List TypePhrase × Bool =>
    ∀ phrase ∈ result.1, phrase.Named) ?_) fun ⟨⟨types, _⟩, _⟩ held => ?_
  · exact .bind (.sepBy1 named.type (.symbol _)) fun types held => .pure held
  refine .skip (.symbol _) fun _ => ?_
  refine .skip (.aheadIs _) fun _ => ?_
  refine .skip (.ensure _) fun _ => ?_
  refine (named.operand _).bind fun operand inside => .pure ?_
  have own : AllNamed (types.map (·.mention .cast)) := by
    intro mention member
    obtain ⟨phrase, listed, rfl⟩ := List.mem_map.1 member
    exact (held phrase listed).mention _
  have within : AllNamed (types.flatMap (·.mentions)) :=
    Mention.allNamed_flatMap.2 fun phrase listed => (held phrase listed).mentions
  exact Mention.allNamed_append.2 ⟨Mention.allNamed_append.2 ⟨own, within⟩, inside⟩

/-- The mentions in a switch label are named. -/
theorem switchLabel_yields (named : inner.Named) : (switchLabel inner).Yields AllNamed := by
  refine .orElse ?_ ?_
  · exact .skip (.word _) fun _ => .pure Mention.allNamed_nil
  refine .skip (.word _) fun _ => ?_
  refine .bind (P := AllNamed) (.orElse ?_ ?_) fun values kept => ?_
  · refine .bind (P := AllNamed) (.orElse ?_ ?_) fun mentions kept => ?_
    · exact (anyRecordPattern_yields named).map fun _ held => held.2
    · refine (plainType_yields named).bind fun type held => ?_
      exact .bind (.identifier _) fun _ _ => .pure held.mentions
    · refine .skip (.nextIs _) fun _ => ?_
      refine .skip (.nextIs _) fun _ => ?_
      refine .skip (.nextIs _) fun _ => ?_
      exact .skip (.ensure _) fun _ => .pure kept
  · refine .bind (.sepBy1 (named.expression _) (.symbol _)) fun values kept => ?_
    exact .pure (Mention.allNamed_flatten.2 kept)
  · refine .bind (.maybe (.skip (.word _) fun _ => named.expression _)) fun guarded held => ?_
    exact .pure (Mention.allNamed_append.2 ⟨kept, Mention.allNamed_getD.2 held⟩)

/-- The mentions in a rule of a switch are named. -/
theorem switchRule_yields (named : inner.Named) : (switchRule inner).Yields AllNamed := by
  refine (switchLabel_yields named).bind fun label kept => ?_
  refine .skip (.symbol _) fun _ => ?_
  refine .bind (.orElse (block_yields named) (.orElse ?_ ?_)) fun body held => ?_
  · refine .skip (.word _) fun _ => ?_
    refine (named.expression _).bind fun mentions given => ?_
    exact .skip (semicolon_yields named) fun _ => .pure given
  · refine (named.expression _).bind fun mentions given => ?_
    exact .skip (semicolon_yields named) fun _ => .pure given
  · exact .pure (Mention.allNamed_append.2 ⟨kept, held⟩)

/-- The mentions in a group of a switch are named. -/
theorem switchGroup_yields (named : inner.Named) : (switchGroup inner).Yields AllNamed := by
  refine .bind (.some1 (P := AllNamed) ?_) fun labels kept => ?_
  · refine (switchLabel_yields named).bind fun label kept => ?_
    exact .skip (.symbol _) fun _ => .pure kept
  · refine named.statement.many.bind fun statements held => ?_
    exact .pure (Mention.allNamed_append.2
      ⟨Mention.allNamed_flatten.2 kept, Mention.allNamed_flatten.2 held⟩)

/-- The mentions in a switch are named, be it one of rules or of groups. -/
theorem switch_yields (named : inner.Named) : (switch inner).Yields AllNamed := by
  refine .skip (.word _) fun _ => ?_
  refine (parenthesized_yields named).bind fun selector kept => ?_
  refine .skip (.symbol _) fun _ => ?_
  refine .bind (.orElse (.some1 (switchRule_yields named)) (.many (switchGroup_yields named)))
    fun items held => ?_
  refine .skip (closeBlock_yields named) fun _ => ?_
  exact .pure (Mention.allNamed_append.2 ⟨kept, Mention.allNamed_flatten.2 held⟩)

/-! ## Operands and what extends them -/

/-- The target of a call stands on one line. -/
theorem allNamed_callMention (start rest : List Token) (target : Operand) :
    AllNamed (callMention start rest target) := by
  unfold callMention
  split
  · dsimp only
    split
    · rw [Mention.allNamed_cons]
      refine ⟨WrittenType.namesWithin_applied.2 ⟨Text.within_squeeze _, ?_⟩, Mention.allNamed_nil⟩
      exact List.forall_mem_nil _
    · exact Mention.allNamed_nil
  · exact Mention.allNamed_nil

/-- What extends an operand keeps it named. -/
def Suffix.Named (extend : Suffix) : Prop :=
  ∀ start operand, operand.Named → (extend start operand).Named

/-- A member access or call extends an operand by what is named. -/
theorem memberSuffix_yields (named : inner.Named) (rest : List Token) :
    (memberSuffix inner rest).Yields Suffix.Named := by
  refine .skip (.symbol _) fun _ => ?_
  refine .orElse ?_ (.orElse ?_ (.orElse ?_ ?_))
  · refine (creation_yields named).bind fun ⟨own, inside⟩ ⟨first, second⟩ => ?_
    refine .pure fun start operand held => ?_
    exact Mention.allNamed_append.2 ⟨Mention.allNamed_append.2 ⟨first, held⟩, second⟩
  · refine .bind (.maybe (.skip (.word _) fun _ => .symbol _)) fun _ _ => ?_
    refine (typeArguments_yields named).maybe.bind fun typed arguments => ?_
    refine .bind (.identifier _) fun _ _ => ?_
    refine (arguments_yields named).bind fun values given => ?_
    refine .pure fun start operand held => ?_
    have called := allNamed_callMention start rest operand
    have before := Mention.allNamed_append.2 ⟨called, held⟩
    exact Mention.allNamed_append.2
      ⟨Mention.allNamed_append.2 ⟨before, allNamed_phrases arguments⟩, given⟩
  · refine .bind (.maybe (.skip (.word _) fun _ => .symbol _)) fun _ _ => ?_
    exact .bind (.identifier _) fun _ _ => .pure fun start operand held => held
  · exact .bind (.satisfy _) fun _ _ => .pure fun start operand held => held

/-- An index extends an operand by what is named. -/
theorem indexSuffix_yields (named : inner.Named) : (indexSuffix inner).Yields Suffix.Named := by
  refine .skip (.symbol _) fun _ => ?_
  refine (named.expression _).bind fun index kept => ?_
  refine .skip (.symbol _) fun _ => .pure fun start operand held => ?_
  exact Mention.allNamed_append.2 ⟨held, kept⟩

/-- The mentions in a method reference are named. -/
theorem methodReference_yields (named : inner.Named) :
    (methodReference inner).Yields AllNamed := by
  refine .skip (.symbol _) fun _ => ?_
  refine (typeArguments_yields named).maybe.bind fun typed arguments => ?_
  exact .bind (.identifier _) fun _ _ => .pure (allNamed_phrases arguments)

/-- Whatever extends an operand on its right is named. -/
theorem suffix_yields (named : inner.Named) : (suffix inner).Yields Suffix.Named := by
  have reference : Yields (do
      let mentions ← methodReference inner
      pure fun _ operand => { mentions := operand.mentions ++ mentions }) Suffix.Named :=
    (methodReference_yields named).bind fun mentions kept =>
      .pure fun start operand held => Mention.allNamed_append.2 ⟨held, kept⟩
  exact fun tokens => Yields.orElse (memberSuffix_yields named tokens)
    (.orElse (indexSuffix_yields named) reference) tokens

/-- A class literal, or a method reference that starts with a type, is a named operand. -/
theorem typeOperand_yields (named : inner.Named) : (typeOperand inner).Yields Operand.Named := by
  refine .skip noValueWord_yields fun _ => ?_
  refine (anyType_yields named).bind fun type held => ?_
  refine .orElse ?_ ?_
  · refine .skip (.symbol _) fun _ => ?_
    refine .skip (.word _) fun _ => .pure ?_
    exact Mention.allNamed_cons.2 ⟨held.mention _, held.mentions⟩
  · refine (methodReference_yields named).bind fun mentions kept => .pure ?_
    exact Mention.allNamed_append.2 ⟨held.mentions, kept⟩

/-- A name, a call without a target and a lambda expression of one parameter are named operands. -/
theorem nameOperand_yields (named : inner.Named) (place : Place) :
    (nameOperand inner place).Yields Operand.Named := by
  refine .bind (.identifier _) fun _ _ => ?_
  refine .orElse ?_ (.orElse ?_ (.pure Mention.allNamed_nil))
  · refine .skip (.ensure _) fun _ => ?_
    refine .skip (.symbol _) fun _ => ?_
    exact (lambdaBody_yields named).bind fun body kept => .pure kept
  · exact (arguments_yields named).bind fun values kept => .pure kept

/-- A literal value is a named operand, because it mentions nothing. -/
theorem literal_yields : literal.Yields Operand.Named :=
  .bind (.satisfy _) fun _ _ => .pure Mention.allNamed_nil

/-- The target of a member of the superclass is a named operand, because it mentions nothing. -/
theorem superTarget_yields : superTarget.Yields Operand.Named := by
  refine .skip (.word _) fun _ => ?_
  refine .skip (.nextIs _) fun _ => ?_
  refine .skip (.nextIs _) fun _ => ?_
  exact .skip (.ensure _) fun _ => .pure Mention.allNamed_nil

/-- A created operand is named. -/
theorem createdOperand_yields (named : inner.Named) :
    (createdOperand inner).Yields Operand.Named :=
  (creation_yields named).bind fun ⟨_, _⟩ held => .pure (Mention.allNamed_append.2 held)

/-- An operand between parentheses is named. -/
theorem groupedOperand_yields (named : inner.Named) :
    (groupedOperand inner).Yields Operand.Named :=
  (parenthesized_yields named).bind fun _ kept => .pure kept

/-- An operand before its suffixes is named. -/
theorem primaryHead_yields (named : inner.Named) (place : Place) :
    (primaryHead inner place).Yields Operand.Named :=
  .orElse (createdOperand_yields named) <| .orElse (typeOperand_yields named) <|
    .orElse literal_yields <| .orElse superTarget_yields <|
      .orElse (groupedOperand_yields named) (nameOperand_yields named place)

/-- An operand stays named through all that extends it. -/
theorem Operand.Named.extend {operand : Operand} (held : operand.Named) {suffixes : List Suffix}
    (kept : ∀ suffix ∈ suffixes, suffix.Named) (tokens : List Token) :
    (suffixes.foldl (fun operand (extend : Suffix) => extend tokens operand) operand).Named := by
  induction suffixes generalizing operand with
  | nil => exact held
  | cons suffix suffixes ih =>
    obtain ⟨here, later⟩ := List.forall_mem_cons.1 kept
    exact ih (here tokens operand held) later

/-- An operand stays named with its suffixes. -/
theorem primary_yields (named : inner.Named) (place : Place) :
    (primary inner place).Yields Operand.Named := by
  intro tokens
  have chain : Yields (do
      let head ← primaryHead inner place
      let suffixes ← many (suffix inner)
      pure (suffixes.foldl (fun operand (extend : Suffix) => extend tokens operand) head))
      Operand.Named :=
    (primaryHead_yields named place).bind fun head held =>
      (suffix_yields named).many.bind fun suffixes kept => .pure (held.extend kept tokens)
  exact chain tokens

/-- An assignment to a named operand is named. -/
theorem assignment_yields (named : inner.Named) (place : Place) {target : Operand}
    (held : target.Named) : (assignment inner place target).Yields Operand.Named := by
  refine .skip (.ensure _) fun _ => ?_
  refine .skip assignmentOperator_yields fun _ => ?_
  refine (named.expression _).bind fun value kept => .pure ?_
  exact Mention.allNamed_append.2 ⟨held, kept⟩

/-- An operand without the signs behind it is named. -/
theorem unsignedOperand_yields (named : inner.Named) (place : Place) :
    (unsignedOperand inner place).Yields Operand.Named := by
  refine .orElse ?_ (.orElse ?_ (.orElse (cast_yields named place) (.orElse ?_ ?_)))
  · refine .bind (.satisfy _) fun _ _ => ?_
    exact (named.operand _).bind fun operand held => .pure held
  · refine .skip (.ensure _) fun _ => ?_
    refine (lambdaParameters_yields named).bind fun mentions kept => ?_
    refine (lambdaBody_yields named).bind fun body held => .pure ?_
    exact Mention.allNamed_append.2 ⟨kept, held⟩
  · exact (switch_yields named).bind fun mentions kept => .pure kept
  · refine (primary_yields named place).bind fun target held => ?_
    exact .orElse (assignment_yields named place held) (.pure held)

/-- An operand of binary operators is named. -/
theorem operand_yields (named : inner.Named) (place : Place) :
    (operand inner place).Yields Operand.Named := by
  refine (unsignedOperand_yields named place).bind fun unsigned held => ?_
  refine .bind (.many (.orElse (.symbol _) (.symbol _))) fun signs _ => .pure ?_
  split
  · exact held
  · exact held

/-- The mentions in an expression are named. -/
theorem expression_yields (named : inner.Named) (place : Place) :
    (expression inner place).Yields AllNamed := by
  refine .bind (operandChain_yields (operand_yields named place) (testedType_yields named))
    fun condition kept => ?_
  refine .bind (.maybe (P := AllNamed) ?_) fun branches held => ?_
  · refine .skip (.symbol _) fun _ => ?_
    refine (named.expression _).bind fun yes first => ?_
    refine .skip (.symbol _) fun _ => ?_
    refine (named.expression _).bind fun no second => ?_
    exact .pure (Mention.allNamed_append.2 ⟨first, second⟩)
  · exact .pure (Mention.allNamed_append.2 ⟨kept, Mention.allNamed_getD.2 held⟩)

end ClassAtlas.Java
