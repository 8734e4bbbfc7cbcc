import ClassAtlas.Java.Source
import ClassAtlas.Proofs.ExpressionNames

/-!
# The names in declarations

The rules for statements, members and type declarations yield what is named if the rules for the
phrases inside them do. The grammar ties the knot by levels, so by induction on the level every rule
yields what is named, and so does reading a well-formed source.
-/
namespace ClassAtlas.Java

open Reader
open Mention (AllNamed)
open Text (Within isInline isQuotable)

variable {inner : Inner}

/-! ## Statements -/

/-- Declarators between commas are named. -/
theorem declarators_yields (named : inner.Named) (reserved : List String) :
    (declarators inner reserved).Yields fun names => ∀ declarator ∈ names, declarator.Named :=
  .sepBy1 (declarator_yields named reserved) (.symbol _)

/-- The mentions in named declarators are named. -/
theorem allNamed_declaratorMentions {names : List Declarator}
    (held : ∀ declarator ∈ names, declarator.Named) : AllNamed (declaratorMentions names) := by
  refine Mention.allNamed_flatMap.2 fun declarator member => Mention.allNamed_append.2 ?_
  exact ⟨(held declarator member).mentions, (held declarator member).value⟩

/-- The mentions in a declaration of local variables are named: those of its modifiers, of its type
and of the initial values. -/
theorem localVariables_yields (named : inner.Named) : (localVariables inner).Yields AllNamed := by
  refine .skip noValueWord_yields fun _ => ?_
  refine (modifiers_yields named).bind fun modifiers lead => ?_
  refine .skip noDeclarationWord_yields fun _ => ?_
  refine (plainType_yields named).bind fun type held => ?_
  refine (declarators_yields named _).bind fun names kept => .pure ?_
  simp [lead.mentions, held.mentions, allNamed_declaratorMentions kept]

/-- A statement that ends in a semicolon yields what is named if what stands before the semicolon
does. -/
theorem ended_yields (named : inner.Named) {reader : Reader (List Mention)}
    (kept : reader.Yields AllNamed) : (ended inner reader).Yields AllNamed := by
  refine kept.bind fun mentions held => ?_
  exact .skip (semicolon_yields named) fun _ => .pure held

/-- The mentions in the condition of an `if` and in both of its branches are named. -/
theorem ifStatement_yields (named : inner.Named) : (ifStatement inner).Yields AllNamed := by
  refine .skip (.word _) fun _ => ?_
  refine (parenthesized_yields named).bind fun condition kept => ?_
  refine named.statement.bind fun yes first => ?_
  refine .bind (.maybe (.skip (.word _) fun _ => named.statement)) fun no second => .pure ?_
  simp [kept, first, Mention.allNamed_getD.2 second]

/-- The mentions in the condition and the body of a `while` loop are named. -/
theorem whileStatement_yields (named : inner.Named) :
    (whileStatement inner).Yields AllNamed := by
  refine .skip (.word _) fun _ => ?_
  refine (parenthesized_yields named).bind fun condition kept => ?_
  exact named.statement.bind fun body held => .pure (Mention.allNamed_append.2 ⟨kept, held⟩)

/-- The mentions in the body and the condition of a `do` loop are named. -/
theorem doStatement_yields (named : inner.Named) : (doStatement inner).Yields AllNamed := by
  refine .skip (.word _) fun _ => ?_
  refine named.statement.bind fun body held => ?_
  refine .skip (.word _) fun _ => ?_
  refine (parenthesized_yields named).bind fun condition kept => ?_
  refine .skip (semicolon_yields named) fun _ => ?_
  exact .pure (Mention.allNamed_append.2 ⟨held, kept⟩)

/-- The mentions in the head of a loop over a collection are named, those of the loop's variable
first. -/
theorem eachHead_yields (named : inner.Named) : (eachHead inner).Yields AllNamed := by
  refine .skip noValueWord_yields fun _ => ?_
  refine (modifiers_yields named).bind fun modifiers lead => ?_
  refine (plainType_yields named).bind fun type held => ?_
  refine (declaredName_yields named _).bind fun name declared => ?_
  refine .skip (.symbol _) fun _ => ?_
  refine (expression_yields named _).bind fun items kept => .pure ?_
  simp [lead.mentions, held.mentions, declared.mentions, kept]

/-- The mentions in the three parts of the head of a counting loop are named. -/
theorem countingHead_yields (named : inner.Named) : (countingHead inner).Yields AllNamed := by
  refine .bind (.orElse (localVariables_yields named) ?_) fun start first => ?_
  · refine .bind (.sepBy (expression_yields named _) (.symbol _)) fun items kept => ?_
    exact .pure (Mention.allNamed_flatten.2 kept)
  refine .skip (.symbol _) fun _ => ?_
  refine (expression_yields named _).maybe.bind fun condition second => ?_
  refine .skip (.symbol _) fun _ => ?_
  refine .bind (.sepBy (expression_yields named _) (.symbol _)) fun steps third => .pure ?_
  simp only [Mention.allNamed_append, Mention.allNamed_getD, Mention.allNamed_flatten]
  exact ⟨⟨first, second⟩, third⟩

/-- The mentions in a `for` loop are named, whichever head it has. -/
theorem forStatement_yields (named : inner.Named) : (forStatement inner).Yields AllNamed := by
  refine .skip (.word _) fun _ => ?_
  refine .skip (.symbol _) fun _ => ?_
  refine .bind (P := AllNamed) (.orElse ?_ ?_) fun head kept => ?_
  · refine (eachHead_yields named).bind fun head kept => ?_
    exact .skip (.symbol _) fun _ => .pure kept
  · refine (countingHead_yields named).bind fun head kept => ?_
    exact .skip (.symbol _) fun _ => .pure kept
  · exact named.statement.bind fun body held => .pure (Mention.allNamed_append.2 ⟨kept, held⟩)

/-- The mentions in a resource of a `try` statement are named. -/
theorem resource_yields (named : inner.Named) : (resource inner).Yields AllNamed := by
  refine .orElse ?_ ?_
  · refine .skip noValueWord_yields fun _ => ?_
    refine (modifiers_yields named).bind fun modifiers lead => ?_
    refine (plainType_yields named).bind fun type held => ?_
    refine (declaredName_yields named _).bind fun name declared => ?_
    refine .skip (.symbol _) fun _ => ?_
    refine (expression_yields named _).bind fun value kept => .pure ?_
    simp [lead.mentions, held.mentions, declared.mentions, kept]
  · refine (primary_yields named _).bind fun target held => ?_
    exact .skip (.ensure _) fun _ => .pure held

/-- The mentions in all resources of a `try` statement are named. -/
theorem resources_yields (named : inner.Named) : (resources inner).Yields AllNamed := by
  refine .skip (.symbol _) fun _ => ?_
  refine .bind (.sepBy1 (resource_yields named) (.symbol _)) fun items kept => ?_
  refine .bind (.maybe (.symbol _)) fun _ _ => ?_
  exact .skip (.symbol _) fun _ => .pure (Mention.allNamed_flatten.2 kept)

/-- The mentions in a `catch` clause are named, those of each caught type included. -/
theorem catchClause_yields (named : inner.Named) : (catchClause inner).Yields AllNamed := by
  refine .skip (.word _) fun _ => ?_
  refine .skip (.symbol _) fun _ => ?_
  refine (modifiers_yields named).bind fun modifiers lead => ?_
  refine .bind (.sepBy1 (plainType_yields named) (.symbol _)) fun types held => ?_
  refine (declaredName_yields named _).bind fun name declared => ?_
  refine .skip (.symbol _) fun _ => ?_
  refine (block_yields named).bind fun body kept => .pure ?_
  simp only [Mention.allNamed_append, Mention.allNamed_flatMap]
  exact ⟨⟨⟨lead.mentions, fun type member => (held type member).mentions⟩, declared.mentions⟩, kept⟩

/-- The mentions in a `try` statement and its clauses are named. -/
theorem tryStatement_yields (named : inner.Named) : (tryStatement inner).Yields AllNamed := by
  refine .skip (.word _) fun _ => ?_
  refine (resources_yields named).maybe.bind fun opened first => ?_
  refine (block_yields named).bind fun body second => ?_
  refine (catchClause_yields named).many.bind fun clauses third => ?_
  refine .bind (.maybe (.skip (.word _) fun _ => block_yields named)) fun last fourth => ?_
  refine .skip (.ensure _) fun _ => .pure ?_
  simp only [Mention.allNamed_append, Mention.allNamed_getD, Mention.allNamed_flatten]
  exact ⟨⟨⟨first, second⟩, third⟩, fourth⟩

/-- The mentions in a synchronized statement are named. -/
theorem synchronizedStatement_yields (named : inner.Named) :
    (synchronizedStatement inner).Yields AllNamed := by
  refine .skip (.word _) fun _ => ?_
  refine (parenthesized_yields named).bind fun lock kept => ?_
  exact (block_yields named).bind fun body held => .pure (Mention.allNamed_append.2 ⟨kept, held⟩)

/-- A jump mentions nothing. -/
theorem jumpStatement_yields (named : inner.Named) : (jumpStatement inner).Yields AllNamed := by
  refine ended_yields named ?_
  refine .skip (.orElse (.word _) (.word _)) fun _ => ?_
  exact .bind (.maybe (.identifier _)) fun _ _ => .pure Mention.allNamed_nil

/-- The mentions in a returned value are named. -/
theorem returnStatement_yields (named : inner.Named) :
    (returnStatement inner).Yields AllNamed := by
  refine ended_yields named ?_
  refine .skip (.word _) fun _ => ?_
  exact (expression_yields named _).maybe.bind fun value kept =>
    .pure (Mention.allNamed_getD.2 kept)

/-- The mentions in a thrown or yielded value are named. -/
theorem raisingStatement_yields (named : inner.Named) :
    (raisingStatement inner).Yields AllNamed :=
  ended_yields named (.skip (.orElse (.word _) (.word _)) fun _ => expression_yields named _)

/-- The mentions in an assertion and its message are named. -/
theorem assertStatement_yields (named : inner.Named) :
    (assertStatement inner).Yields AllNamed := by
  refine ended_yields named ?_
  refine .skip (.word _) fun _ => ?_
  refine (expression_yields named _).bind fun condition kept => ?_
  refine .bind (.maybe (.skip (.symbol _) fun _ => expression_yields named _)) fun detail held => ?_
  exact .pure (Mention.allNamed_append.2 ⟨kept, Mention.allNamed_getD.2 held⟩)

/-- The mentions behind a label are named. -/
theorem labeledStatement_yields (named : inner.Named) :
    (labeledStatement inner).Yields AllNamed := by
  refine .bind (.identifier _) fun _ _ => ?_
  exact .skip (.symbol _) fun _ => named.statement

/-! ## Packages, imports and modules -/

/-- The name in a package clause stands on one line. -/
theorem packageClause_yields (named : inner.Named) :
    (packageClause inner).Yields (Within isInline) := by
  refine .bind (annotationUses_yields named) fun _ _ => ?_
  refine .skip (.word _) fun _ => ?_
  refine (qualifiedName_yields _).bind fun name inline => ?_
  exact .skip (semicolon_yields named) fun _ => .pure inline

/-- The name in an import clause stands on one line. A static import gives none. -/
theorem importClause_yields (named : inner.Named) :
    (importClause inner).Yields fun found => ∀ name ∈ found, Within isInline name := by
  refine .skip (.word _) fun _ => ?_
  refine .bind (.maybe (.word _)) fun static _ => ?_
  refine (qualifiedName_yields _).bind fun name inline => ?_
  refine .bind (.maybe (.skip (.symbol _) fun _ => .symbol _)) fun onDemand _ => ?_
  refine .skip (semicolon_yields named) fun _ => .pure fun imported given => ?_
  split at given
  · exact absurd given (Option.not_mem_none imported)
  · obtain rfl := Option.some.inj given
    split
    · exact Text.within_append.2 ⟨inline, by decide⟩
    · exact inline

/-- Nothing is asked of what a module's directive yields; the lemma lets the declaration be read
over it. -/
theorem moduleDirective_yields (named : inner.Named) :
    (moduleDirective inner).Yields fun _ => True := by
  have qualified (reserved : List String) :
      (qualifiedName reserved).Yields fun _ => True :=
    (qualifiedName_yields reserved).imp fun _ _ => trivial
  refine .skip (.orElse ?_ (.orElse ?_ (.orElse ?_ ?_))) fun _ => semicolon_yields named
  · refine .skip (.word _) fun _ => ?_
    refine .bind (.many (.orElse (.word _) (.word _))) fun _ _ => ?_
    exact .skip (qualified _) fun _ => .pure trivial
  · refine .skip (.orElse (.word _) (.word _)) fun _ => ?_
    refine .skip (qualified _) fun _ => ?_
    refine .bind (.maybe (.skip (.word _) fun _ => .sepBy1 (qualified _) (.symbol _))) fun _ _ => ?_
    exact .pure trivial
  · refine .skip (.word _) fun _ => ?_
    exact .skip (qualified _) fun _ => .pure trivial
  · refine .skip (.word _) fun _ => ?_
    refine .skip (qualified _) fun _ => ?_
    refine .skip (.word _) fun _ => ?_
    exact .bind (.sepBy1 (qualified _) (.symbol _)) fun _ _ => .pure trivial

/-- Nothing is asked of what a module yields; no type is declared in it. -/
theorem moduleDeclaration_yields (named : inner.Named) :
    (moduleDeclaration inner).Yields fun _ => True := by
  refine .bind (annotationUses_yields named) fun _ _ => ?_
  refine .bind (.maybe (.word _)) fun _ _ => ?_
  refine .skip (.word _) fun _ => ?_
  refine .bind (qualifiedName_yields _) fun _ _ => ?_
  refine .skip (.symbol _) fun _ => ?_
  refine .bind (moduleDirective_yields named).many fun _ _ => ?_
  exact .skip (.symbol _) fun _ => .pure trivial

/-- The mentions in a declaration of local variables, or in an expression in its place, are named.
-/
theorem plainStatement_yields (named : inner.Named) :
    (statement.plainStatement inner).Yields AllNamed := by
  refine .skip (.nextIs _) fun _ => ?_
  refine .skip (.ensure _) fun _ => ?_
  refine .orElse (ended_yields named (localVariables_yields named)) ?_
  refine .skip (.nextIs _) fun _ => ?_
  exact .skip (.ensure _) fun _ => ended_yields named (expression_yields named _)

/-- The mentions in a statement of any kind are named. -/
theorem statement_yields (named : inner.Named) : (statement inner).Yields AllNamed := by
  have silent {α : Type} {P : α → Prop} {reader : Reader α} (kept : reader.Yields P) :
      Yields (do let _ ← reader; pure []) AllNamed :=
    kept.bind fun _ _ => .pure Mention.allNamed_nil
  exact .orElse (silent (.symbol _)) <| .orElse (block_yields named) <|
    .orElse (ifStatement_yields named) <| .orElse (whileStatement_yields named) <|
    .orElse (doStatement_yields named) <| .orElse (forStatement_yields named) <|
    .orElse (tryStatement_yields named) <| .orElse (synchronizedStatement_yields named) <|
    .orElse (switch_yields named) <| .orElse (jumpStatement_yields named) <|
    .orElse (returnStatement_yields named) <| .orElse (raisingStatement_yields named) <|
    .orElse (assertStatement_yields named) <| .orElse (silent named.declaration) <|
    .orElse (silent (packageClause_yields named)) <|
    .orElse (silent (importClause_yields named)) <|
    .orElse (silent (moduleDeclaration_yields named)) <|
    .orElse (labeledStatement_yields named) (plainStatement_yields named)

/-! ## Members -/

/-- The types of named phrases are named. -/
theorem namesWithin_types {phrases : List TypePhrase} (held : ∀ phrase ∈ phrases, phrase.Named) :
    ∀ type ∈ phrases.map (·.type), type.NamesWithin isQuotable := by
  intro type member
  obtain ⟨phrase, inside, rfl⟩ := List.mem_map.1 member
  exact (held phrase inside).type

/-- The mentions in named phrases are named. -/
theorem allNamed_types {phrases : List TypePhrase} (held : ∀ phrase ∈ phrases, phrase.Named) :
    AllNamed (phrases.flatMap (·.mentions)) :=
  Mention.allNamed_flatMap.2 fun phrase inside => (held phrase inside).mentions

/-- Type parameters that may be missing are named. -/
theorem WrittenTypeParameters.Named.getD {found : Option WrittenTypeParameters}
    (held : ∀ typed ∈ found, typed.Named) : (found.getD {}).Named := by
  cases found with
  | none => exact ⟨List.forall_mem_nil _, Mention.allNamed_nil⟩
  | some typed => exact held typed rfl

/-- The types in a `throws` clause are named. -/
theorem throwsClause_yields (named : inner.Named) :
    (throwsClause inner).Yields fun phrases => ∀ phrase ∈ phrases, phrase.Named := by
  refine .bind (.maybe (.skip (.word _) fun _ => typeList_yields named)) fun types held => ?_
  exact .pure (forall_mem_getD.2 held)

/-- The mentions in a call of another constructor are named. -/
theorem constructorCall_yields (named : inner.Named) :
    (constructorCall inner).Yields AllNamed := by
  refine .bind (.maybe (P := AllNamed) ?_) fun target held => ?_
  · refine (primary_yields named _).bind fun target held => ?_
    exact .skip (.symbol _) fun _ => .pure held
  refine (typeArguments_yields named).maybe.bind fun typed given => ?_
  have rest : Yields (do
      let values ← arguments inner
      semicolon inner
      pure (target.getD [] ++ (typed.getD []).flatMap (·.mentions) ++ values)) AllNamed := by
    refine (arguments_yields named).bind fun values inside => ?_
    refine .skip (semicolon_yields named) fun _ => .pure ?_
    rw [Mention.allNamed_append, Mention.allNamed_append, Mention.allNamed_getD]
    exact ⟨⟨held, allNamed_phrases given⟩, inside⟩
  dsimp only
  split
  · exact .skip (.word _) fun _ => rest
  · exact .skip (.orElse (.word _) (.word _)) fun _ => rest

/-- The mentions in the body of a constructor are named, those of a leading constructor call first.
-/
theorem constructorBody_yields (named : inner.Named) :
    (constructorBody inner).Yields AllNamed := by
  refine .skip (.symbol _) fun _ => ?_
  refine (constructorCall_yields named).maybe.bind fun call kept => ?_
  refine (blockItems_yields named named.statement).bind fun statements held => ?_
  refine .skip (closeBlock_yields named) fun _ => .pure ?_
  rw [Mention.allNamed_append, Mention.allNamed_getD, Mention.allNamed_flatten]
  exact ⟨kept, held⟩

/-- A constructor behind named modifiers is named. -/
theorem constructorRest_yields (named : inner.Named) {modifiers : Modifiers}
    (lead : modifiers.Named) : (constructorRest inner modifiers).Yields Member.Named := by
  refine (typeParameters_yields named).maybe.bind fun found kept => ?_
  have typed := WrittenTypeParameters.Named.getD kept
  refine .bind (.identifier _) fun name _ => ?_
  refine (parameters_yields named).bind fun parameters given => ?_
  refine (throwsClause_yields named).bind fun throws raised => ?_
  refine (constructorBody_yields named).bind fun body held => .pure (.constructor ?_)
  have void : WrittenType.NamesWithin isQuotable (.primitive "void") :=
    WrittenType.namesWithin_primitive.2 (by decide)
  refine ⟨lead, typed.items, void, given.items, namesWithin_types raised, ?_, held⟩
  simp only [Mention.allNamed_append]
  exact ⟨⟨⟨lead.mentions, typed.mentions⟩, given.mentions⟩, allNamed_types raised⟩

/-- A compact constructor behind named modifiers is named. -/
theorem compactRest_yields (named : inner.Named) {modifiers : Modifiers}
    (lead : modifiers.Named) : (compactRest inner modifiers).Yields Member.Named := by
  refine .bind (.identifier _) fun _ _ => ?_
  refine (block_yields named).bind fun body held => .pure (.initializer ?_)
  exact Mention.allNamed_append.2 ⟨lead.mentions, held⟩

/-- A method behind named modifiers is named. -/
theorem methodRest_yields (named : inner.Named) {modifiers : Modifiers}
    (lead : modifiers.Named) : (methodRest inner modifiers).Yields Member.Named := by
  refine .bind (.maybe (P := WrittenTypeParameters.Named) ?_) fun found kept => ?_
  · refine (typeParameters_yields named).bind fun typed held => ?_
    refine (annotationUses_yields named).bind fun mentions kept => ?_
    exact .pure ⟨held.items, Mention.allNamed_append.2 ⟨held.mentions, kept⟩⟩
  have typed := WrittenTypeParameters.Named.getD kept
  refine (plainType_yields named).bind fun type returned => ?_
  refine .bind (.identifier _) fun name _ => ?_
  refine (parameters_yields named).bind fun parameters given => ?_
  refine (dimensions_yields named).maybe.bind fun dims behind => ?_
  have further : AllNamed (dims.getD (0, [])).2 := by
    cases dims with
    | none => exact Mention.allNamed_nil
    | some found => exact behind found rfl
  refine (throwsClause_yields named).bind fun throws raised => ?_
  refine .bind (P := AllNamed) (.orElse (block_yields named) ?_) fun body held => ?_
  · exact .skip (semicolon_yields named) fun _ => .pure Mention.allNamed_nil
  refine .pure (.method ⟨lead, typed.items, returned.type, given.items, namesWithin_types raised,
    ?_, held⟩)
  simp only [Mention.allNamed_append]
  exact ⟨⟨⟨⟨⟨lead.mentions, typed.mentions⟩, returned.mentions⟩, given.mentions⟩, further⟩,
    allNamed_types raised⟩

/-- Fields behind named modifiers are named. -/
theorem fieldsRest_yields (named : inner.Named) {modifiers : Modifiers}
    (lead : modifiers.Named) : (fieldsRest inner modifiers).Yields Member.Named := by
  refine (plainType_yields named).bind fun type held => ?_
  refine (declarators_yields named _).bind fun names kept => ?_
  refine .skip (.nextIs _) fun _ => ?_
  refine .skip (.ensure _) fun _ => ?_
  exact .skip (semicolon_yields named) fun _ => .pure (.fields lead held kept)

/-- A static initializer is named: its name is fixed and its mentions are. -/
theorem staticInitializer_yields (named : inner.Named) :
    (staticInitializer inner).Yields Member.Named := by
  refine .skip (.word _) fun _ => ?_
  exact (block_yields named).bind fun body held => .pure (.initializer held)

/-- What a member of a class declares is named. A lone semicolon declares nothing. -/
theorem classMember_yields (named : inner.Named) :
    (classMember inner).Yields fun members => ∀ member ∈ members, member.Named := by
  have one {reader : Reader Member} (kept : reader.Yields Member.Named) :
      (classMember.one reader).Yields fun members => ∀ member ∈ members, member.Named :=
    kept.map fun member held => List.forall_mem_singleton.2 held
  refine .orElse ?_ (.orElse (one ((block_yields named).map fun _ held => .initializer held))
    (.orElse (one (staticInitializer_yields named)) (.orElse (one named.declaration) (one ?_))))
  · exact .skip (.symbol _) fun _ => .pure (List.forall_mem_nil _)
  · refine (modifiers_yields named).bind fun modifiers lead => ?_
    refine .skip noDeclarationWord_yields fun _ => ?_
    exact .orElse (constructorRest_yields named lead) <| .orElse (compactRest_yields named lead) <|
      .orElse (methodRest_yields named lead) (fieldsRest_yields named lead)

/-! ## Bodies -/

/-- The members in the body of a class are named. -/
theorem classBody_yields (named : inner.Named) :
    (classBody inner).Yields fun members => ∀ member ∈ members, member.Named := by
  refine .skip (.symbol _) fun _ => ?_
  refine (blockItems_yields named (classMember_yields named)).bind fun members held => ?_
  exact .skip (closeBlock_yields named) fun _ => .pure (List.forall_mem_flatten.2 held)

/-- Of members of which some are missing those that are there are named. -/
theorem named_filterMap_id {members : List (Option Member)}
    (held : ∀ found ∈ members, ∀ member ∈ found, member.Named) :
    ∀ member ∈ members.filterMap id, member.Named := by
  intro member listed
  obtain ⟨found, inside, same⟩ := List.mem_filterMap.1 listed
  exact held found inside member same

/-- The members in the body of an interface are named. -/
theorem interfaceBody_yields (named : inner.Named) :
    (interfaceBody inner).Yields fun members => ∀ member ∈ members, member.Named := by
  refine .skip (.symbol _) fun _ => ?_
  refine (blockItems_yields (P := fun found => ∀ member ∈ found, member.Named) named
    (.orElse ?_ (.orElse ?_ ?_))).bind fun members held => ?_
  · exact .skip (.symbol _) fun _ => .pure fun member given => absurd given
      (Option.not_mem_none member)
  · exact named.declaration.map fun _ held member given => Option.some.inj given ▸ held
  · refine .map (P := Member.Named) ?_ fun _ held member given => Option.some.inj given ▸ held
    refine (modifiers_yields named).bind fun modifiers lead => ?_
    refine .skip noDeclarationWord_yields fun _ => ?_
    exact .orElse (methodRest_yields named lead) (fieldsRest_yields named lead)
  · exact .skip (closeBlock_yields named) fun _ => .pure (named_filterMap_id held)

/-- A constant of an enum is named, with the members of its own body. -/
theorem enumConstant_yields (named : inner.Named) : (enumConstant inner).Yields Member.Named := by
  refine (modifiers_yields named).bind fun modifiers lead => ?_
  refine .bind (.identifier _) fun name _ => ?_
  refine (arguments_yields named).maybe.bind fun values given => ?_
  refine named.classBody.maybe.bind fun body inside => .pure (.constant ?_)
  rw [Mention.allNamed_append, Mention.allNamed_append, Mention.allNamed_getD]
  exact ⟨⟨lead.mentions, given⟩, allNamed_members inside⟩

/-- The constants and members in the body of an enum are named. -/
theorem enumBody_yields (named : inner.Named) :
    (enumBody inner).Yields fun members => ∀ member ∈ members, member.Named := by
  refine .skip (.symbol _) fun _ => ?_
  refine .bind (.sepBy (enumConstant_yields named) (.symbol _)) fun constants first => ?_
  refine .bind (.maybe (.symbol _)) fun _ _ => ?_
  refine .bind (.maybe (.skip (.symbol _) fun _ =>
    blockItems_yields named (classMember_yields named))) fun members second => ?_
  refine .skip (closeBlock_yields named) fun _ => .pure ?_
  rw [List.forall_mem_append, List.forall_mem_flatten, forall_mem_getD]
  exact ⟨first, second⟩

/-- An element of an annotation type is named. -/
theorem elementRest_yields (named : inner.Named) : (elementRest inner).Yields Member.Named := by
  refine (plainType_yields named).bind fun type held => ?_
  refine .bind (.identifier _) fun name _ => ?_
  refine .skip (.symbol _) fun _ => ?_
  refine .skip (.symbol _) fun _ => ?_
  refine (dimensions_yields named).maybe.bind fun dims _ => ?_
  refine .bind (.maybe (P := fun _ => True) ?_) fun value _ => ?_
  · refine .skip (.word _) fun _ => ?_
    exact (elementValue_yields named).spanned.bind fun ⟨_, tokens⟩ _ => .pure trivial
  · exact .skip (semicolon_yields named) fun _ => .pure (.element held.type)

/-- A type declaration that is no record is named. -/
theorem declarationButRecord_yields (named : inner.Named) :
    (declarationButRecord inner).Yields Member.Named := by
  refine named.declaration.bind fun member held => ?_
  split
  · exact .skip (.ensure _) fun _ => .pure held
  · exact .failure

/-- The elements and members in the body of an annotation type are named. -/
theorem elementBody_yields (named : inner.Named) :
    (elementBody inner).Yields fun members => ∀ member ∈ members, member.Named := by
  refine .skip (.symbol _) fun _ => ?_
  refine (blockItems_yields (P := fun found => ∀ member ∈ found, member.Named) named
    (.orElse ?_ (.orElse ?_ ?_))).bind fun members held => ?_
  · exact .skip (.symbol _) fun _ => .pure fun member given => absurd given
      (Option.not_mem_none member)
  · exact (declarationButRecord_yields named).map fun _ held member given =>
      Option.some.inj given ▸ held
  · refine .map (P := Member.Named) ?_ fun _ held member given => Option.some.inj given ▸ held
    refine (modifiers_yields named).bind fun modifiers lead => ?_
    refine .skip noDeclarationWord_yields fun _ => ?_
    exact .orElse (elementRest_yields named) (fieldsRest_yields named lead)
  · exact .skip (closeBlock_yields named) fun _ => .pure (named_filterMap_id held)

/-! ## Type declarations -/

/-- The names in the types behind a word can be quoted. -/
theorem typesBehind_yields (named : inner.Named) (clause : String) :
    (typesBehind inner clause).Yields fun types => ∀ type ∈ types, type.NamesWithin isQuotable := by
  refine .bind (.maybe (.skip (.word _) fun _ => typeList_yields named)) fun types held => ?_
  exact .pure (namesWithin_types (forall_mem_getD.2 held))

/-- The names in the single type behind a word can be quoted. -/
theorem typeBehind_yields (named : inner.Named) (clause : String) :
    (typeBehind inner clause).Yields fun types => ∀ type ∈ types, type.NamesWithin isQuotable := by
  refine .bind (.maybe (.skip (.word _) fun _ => anyType_yields named)) fun found held => ?_
  exact .pure (namesWithin_types fun phrase given => held phrase (Option.mem_toList.1 given))

/-- A class behind named modifiers is named. -/
theorem classRest_yields (named : inner.Named) {modifiers : Modifiers} (lead : modifiers.Named)
    (line : Nat) : (classRest inner modifiers line).Yields Member.Named := by
  refine .skip (.word _) fun _ => ?_
  refine (Yields.identifier _).bind fun name quotable => ?_
  refine (typeParameters_yields named).maybe.bind fun found typed => ?_
  refine (typeBehind_yields named _).bind fun extending above => ?_
  refine (typesBehind_yields named _).bind fun implementing beside => ?_
  refine .bind (typesBehind_yields named _) fun _ _ => ?_
  refine (classBody_yields named).bind fun members held => .pure (.nested ?_ held)
  exact
    { modifiers := lead
      name := quotable
      typeParameters := (WrittenTypeParameters.Named.getD typed).items
      extending := above
      implementing := beside }

/-- An interface behind named modifiers is named. -/
theorem interfaceRest_yields (named : inner.Named) {modifiers : Modifiers}
    (lead : modifiers.Named) (line : Nat) :
    (interfaceRest inner modifiers line).Yields Member.Named := by
  refine .skip (.word _) fun _ => ?_
  refine (Yields.identifier _).bind fun name quotable => ?_
  refine (typeParameters_yields named).maybe.bind fun found typed => ?_
  refine (typesBehind_yields named _).bind fun extending above => ?_
  refine .bind (typesBehind_yields named _) fun _ _ => ?_
  refine (interfaceBody_yields named).bind fun members held => .pure (.nested ?_ held)
  exact
    { modifiers := lead
      name := quotable
      typeParameters := (WrittenTypeParameters.Named.getD typed).items
      extending := above }

/-- An enum behind named modifiers is named. -/
theorem enumRest_yields (named : inner.Named) {modifiers : Modifiers} (lead : modifiers.Named)
    (line : Nat) : (enumRest inner modifiers line).Yields Member.Named := by
  refine .skip (.word _) fun _ => ?_
  refine (Yields.identifier _).bind fun name quotable => ?_
  refine (typesBehind_yields named _).bind fun implementing beside => ?_
  refine (enumBody_yields named).bind fun members held => .pure (.nested ?_ held)
  exact { modifiers := lead, name := quotable, implementing := beside }

/-- A record behind named modifiers is named. -/
theorem recordRest_yields (named : inner.Named) {modifiers : Modifiers} (lead : modifiers.Named)
    (line : Nat) : (recordRest inner modifiers line).Yields Member.Named := by
  refine .skip (.word _) fun _ => ?_
  refine (Yields.identifier _).bind fun name quotable => ?_
  refine (typeParameters_yields named).maybe.bind fun found typed => ?_
  refine (parameters_yields named).bind fun components given => ?_
  refine (typesBehind_yields named _).bind fun implementing beside => ?_
  refine (classBody_yields named).bind fun members held => .pure (.nested ?_ held)
  exact
    { modifiers := lead
      name := quotable
      typeParameters := (WrittenTypeParameters.Named.getD typed).items
      implementing := beside
      components := given.items }

/-- An annotation type behind named modifiers is named. -/
theorem annotationTypeRest_yields (named : inner.Named) {modifiers : Modifiers}
    (lead : modifiers.Named) (line : Nat) :
    (annotationTypeRest inner modifiers line).Yields Member.Named := by
  refine .skip (.symbol _) fun _ => ?_
  refine .skip (.word _) fun _ => ?_
  refine .skip (.ensure _) fun _ => ?_
  refine (Yields.identifier _).bind fun name quotable => ?_
  refine (elementBody_yields named).bind fun members held => .pure (.nested ?_ held)
  exact { modifiers := lead, name := quotable }

/-- A type declaration of any kind is named. -/
theorem declaration_yields (named : inner.Named) : (declaration inner).Yields Member.Named := by
  refine .skip .line fun line => ?_
  refine (modifiers_yields named).bind fun modifiers lead => ?_
  exact .orElse (classRest_yields named lead line) <|
    .orElse (interfaceRest_yields named lead line) <| .orElse (enumRest_yields named lead line) <|
    .orElse (recordRest_yields named lead line) (annotationTypeRest_yields named lead line)

/-! ## Sources -/

/-- Readers that read nothing yield what is named. -/
theorem Inner.named_none : (Inner.none .strict).Named where
  strict := rfl
  type := .failure
  elementValue := .failure
  initialValue := .failure
  expression _ := .failure
  operand _ := .failure
  statement := .failure
  classBody := .failure
  declaration := .failure

/-- The readers of one level more yield what is named if the readers they are made of do. -/
theorem Inner.Named.deepen (named : inner.Named) : inner.deepen.Named where
  strict := named.strict
  type := anyType_yields named
  elementValue := elementValue_yields named
  initialValue := initialValue_yields named
  expression := expression_yields named
  operand := operand_yields named
  statement := statement_yields named
  classBody := classBody_yields named
  declaration := declaration_yields named

/-- The readers of every level yield what is named. -/
theorem Inner.named_level (depth : Nat) : (Inner.level .strict depth).Named := by
  induction depth with
  | zero => exact Inner.named_none
  | succ depth ih => exact ih.deepen

/-- An item of a source is named if all that it declares is. -/
inductive UnitItem.Named : UnitItem → Prop where
  | package {name : String} (inline : Within isInline name) : Named (.package name)
  | imported {name : String} (inline : Within isInline name) : Named (.imported name)
  | declared {header : TypeHeader} {members : List Member} (head : header.Named)
      (inside : ∀ member ∈ members, member.Named) : Named (.declared header members)
  | other : Named .other

/-- A clause or declaration at the top of a source is named. -/
theorem unitItem_yields (named : inner.Named) : (unitItem inner).Yields UnitItem.Named := by
  refine .orElse ((packageClause_yields named).map fun _ inline => .package inline)
    (.orElse ?_ (.orElse ?_ (.orElse ?_ (.orElse ?_ ?_))))
  · refine (importClause_yields named).bind fun found inline => ?_
    cases found with
    | none => exact .pure .other
    | some name => exact .pure (.imported (inline name rfl))
  · exact .skip (moduleDeclaration_yields named) fun _ => .pure .other
  · refine (declaration_yields named).bind fun member held => ?_
    cases held with
    | nested head inside => exact .pure (.declared head inside)
    | _ => exact .failure
  · exact (statement_yields named).bind fun _ _ => .pure .other
  · refine (modifiers_yields named).bind fun modifiers lead => ?_
    refine .skip noDeclarationWord_yields fun _ => ?_
    exact (methodRest_yields named lead).bind fun _ _ => .pure .other

/-- The items of a well-formed source are named. -/
theorem named_of_readStrictly {source : String} {items : List UnitItem}
    (read : readStrictly (tokenize source) = some items) : ∀ item ∈ items, item.Named := by
  unfold readStrictly at read
  split at read
  · next all run =>
    obtain rfl := Option.some.inj read
    have level := Inner.named_level (2 * (tokenize source).length + 2)
    have kept := (unitItem_yields level).many
    exact (kept (tokenize source) (lexed_tokenize source) all [] run).1
  · exact absurd read (Option.some_ne_none items).symm

end ClassAtlas.Java
