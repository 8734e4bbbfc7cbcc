import ClassAtlas.Diagram.Generation

/-!
# Valid usages

A usage is valid when nothing in it is left out but bounds of wildcards. What a source file writes
is always so; data from elsewhere may not be. Nothing that is read of a valid usage needs a usage
that is not there, so a declaration whose usages are valid can be classified.
-/
namespace ClassAtlas

namespace TypeUsage

mutual

/-- Whether nothing in a usage is left out but bounds of wildcards. -/
def isValid : TypeUsage → Bool
  | .unspecified => false
  | .primitive _ => true
  | .named _ arguments => allValid arguments
  | .array component => isValid component
  | .wildcard upper lower =>
    (!upper.isSpecified || isValid upper) && (!lower.isSpecified || isValid lower)
  | .typeVar _ bounds => allValid bounds

/-- Whether nothing in any of the usages is left out but bounds of wildcards. -/
def allValid : List TypeUsage → Bool
  | [] => true
  | usage :: usages => isValid usage && allValid usages

end

/-- Each of several valid usages is valid. -/
theorem isValid_of_mem {usages : List TypeUsage} {usage : TypeUsage}
    (valid : allValid usages = true) (member : usage ∈ usages) : usage.isValid = true := by
  induction usages with
  | nil => exact absurd member List.not_mem_nil
  | cons first rest ih =>
    rw [allValid, Bool.and_eq_true] at valid
    rcases List.mem_cons.1 member with rfl | later
    · exact valid.1
    · exact ih valid.2 later

mutual

/-- Peeling, spelling and listing a valid usage need no usage that is not there. -/
theorem readable_of_isValid : ∀ usage : TypeUsage, usage.isValid = true →
    usage.hasHead = true ∧ usage.renders = true ∧ usage.hasSites = true
  | .unspecified, valid => by
    rw [isValid] at valid
    exact absurd valid Bool.false_ne_true
  | .primitive _, _ => by
    rw [hasHead, renders, hasSites]
    exact ⟨rfl, rfl, rfl⟩
  | .named _ arguments, valid => by
    rw [isValid] at valid
    obtain ⟨_, spelled, listed, _⟩ := readable_of_allValid arguments valid
    rw [hasHead, renders, hasSites]
    exact ⟨rfl, spelled, listed⟩
  | .array component, valid => by
    rw [isValid] at valid
    rw [hasHead, renders, hasSites]
    exact readable_of_isValid component valid
  | .wildcard upper lower, valid => by
    rw [isValid, Bool.and_eq_true] at valid
    rw [hasHead, renders, hasSites]
    by_cases above : upper.isSpecified = true
    · have bound := readable_of_isValid upper (by simpa [above] using valid.1)
      simpa [above] using bound
    · by_cases below : lower.isSpecified = true
      · have bound := readable_of_isValid lower (by simpa [below] using valid.2)
        simpa [above, below] using bound.2.1
      · simp [above, below]
  | .typeVar _ bounds, valid => by
    rw [isValid] at valid
    obtain ⟨peeled, _, _, listed⟩ := readable_of_allValid bounds valid
    rw [hasHead, renders, hasSites]
    exact ⟨peeled, rfl, listed⟩

/-- The same holds of several valid usages, and of the first of them where only it is read. -/
theorem readable_of_allValid : ∀ usages : List TypeUsage, allValid usages = true →
    firstHasHead usages = true ∧ rendersAll usages = true ∧ allHaveSites usages = true ∧
      firstHasSites usages = true
  | [], _ => by
    rw [firstHasHead, rendersAll, allHaveSites, firstHasSites]
    exact ⟨rfl, rfl, rfl, rfl⟩
  | first :: rest, valid => by
    rw [allValid, Bool.and_eq_true] at valid
    obtain ⟨peeled, spelled, listed⟩ := readable_of_isValid first valid.1
    obtain ⟨_, others, further, _⟩ := readable_of_allValid rest valid.2
    rw [firstHasHead, rendersAll, allHaveSites, firstHasSites, peeled, spelled, listed, others,
      further]
    exact ⟨rfl, rfl, rfl, rfl⟩

end

mutual

/-- The class type that a valid usage refers to has valid arguments. -/
theorem allValid_arguments : ∀ (usage : TypeUsage) (found : ClassUsage), usage.isValid = true →
    usage.head? = some found → allValid found.arguments = true
  | .unspecified, _, valid, _ => by
    rw [isValid] at valid
    exact absurd valid Bool.false_ne_true
  | .primitive _, _, _, peeled => by
    rw [head?] at peeled
    exact absurd peeled (Option.some_ne_none _).symm
  | .named _ _, _, valid, peeled => by
    rw [isValid] at valid
    rw [head?] at peeled
    rw [← Option.some.inj peeled]
    exact valid
  | .array component, found, valid, peeled => by
    rw [isValid] at valid
    rw [head?] at peeled
    exact allValid_arguments component found valid peeled
  | .wildcard upper _, found, valid, peeled => by
    rw [isValid, Bool.and_eq_true] at valid
    rw [head?] at peeled
    cases upper with
    | unspecified =>
      rw [head?] at peeled
      exact absurd peeled (Option.some_ne_none _).symm
    | _ => exact allValid_arguments _ found (by simpa [isSpecified] using valid.1) peeled
  | .typeVar _ bounds, found, valid, peeled => by
    rw [isValid] at valid
    rw [head?] at peeled
    exact allValid_arguments_first bounds found valid peeled

/-- The class type that the first of several valid usages refers to has valid arguments. -/
theorem allValid_arguments_first : ∀ (usages : List TypeUsage) (found : ClassUsage),
    allValid usages = true → headOfFirst? usages = some found →
    allValid found.arguments = true
  | [], _, _, peeled => by
    rw [headOfFirst?] at peeled
    exact absurd peeled (Option.some_ne_none _).symm
  | first :: _, found, valid, peeled => by
    rw [allValid, Bool.and_eq_true] at valid
    rw [headOfFirst?] at peeled
    exact allValid_arguments first found valid.1 peeled

end

end TypeUsage

/-- Every usage that a constructor writes. -/
def ConstructorDecl.writtenUsages (constructor : ConstructorDecl) : List TypeUsage :=
  constructor.parameters.map (·.type) ++ constructor.throws

/-- Every usage that a method writes. -/
def MethodDecl.writtenUsages (method : MethodDecl) : List TypeUsage :=
  method.typeParameters.flatMap (·.bounds)
    ++ method.returnType :: (method.parameters.map (·.type) ++ method.throws)

namespace TypeDeclaration

/-- Every usage that a declaration writes, what is nested in it apart. -/
def writtenUsages (declaration : TypeDeclaration) : List TypeUsage :=
  declaration.typeParameters.flatMap (·.bounds)
    ++ declaration.extending ++ declaration.implementing
    ++ declaration.fields.map (·.type) ++ declaration.components.map (·.type)
    ++ declaration.constructors.flatMap (·.writtenUsages)
    ++ declaration.methods.flatMap (·.writtenUsages)
    ++ declaration.annotationMembers.map (·.type)
    ++ declaration.usages.map (·.type)

/-- Every usage that the declaration writes is valid. -/
def HasValidUsages (declaration : TypeDeclaration) : Prop :=
  ∀ usage ∈ declaration.writtenUsages, usage.isValid = true

instance (declaration : TypeDeclaration) : Decidable declaration.HasValidUsages :=
  inferInstanceAs (Decidable (∀ usage ∈ declaration.writtenUsages, usage.isValid = true))

variable {declaration : TypeDeclaration}

/-- The type of a member is written as one of a field or of a record component. -/
theorem member_type_written {member : FieldDecl} {component : Bool}
    (listed : (member, component) ∈ declaration.members) :
    member.type ∈ declaration.writtenUsages := by
  simp only [writtenUsages, List.mem_append]
  rcases origin_of_mem_members listed with given | given
  · have written : member.type ∈ declaration.components.map (·.type) := List.mem_map_of_mem given
    simp only [written, true_or, or_true]
  · have written : member.type ∈ declaration.fields.map (·.type) := List.mem_map_of_mem given
    simp only [written, true_or, or_true]

/-- The usage of a supertype is written in a clause. -/
theorem supertype_written {kind : RelationshipKind} {usage : TypeUsage}
    (clause : (kind, usage) ∈ declaration.supertypeClauses) :
    usage ∈ declaration.writtenUsages := by
  simp only [writtenUsages, List.mem_append]
  rcases origin_of_mem_supertypeClauses clause with ⟨_, written⟩ | ⟨_, written⟩
  · simp only [written, true_or, or_true]
  · simp only [written, true_or, or_true]

/-- A usage that may become a dependency is an argument of a member's type, or it is written by a
constructor, by a method or in a body. -/
theorem origin_of_mem_dependencySites {usage : TypeUsage}
    (site : usage ∈ declaration.dependencySites) :
    (∃ member component found, (member, component) ∈ declaration.members ∧
        member.type.head? = some found ∧ usage ∈ found.arguments) ∨
      (∃ constructor ∈ declaration.constructors, usage ∈ constructor.writtenUsages) ∨
      (∃ method ∈ declaration.methods, usage ∈ method.writtenUsages) ∨
      ∃ mention ∈ declaration.usages, mention.type = usage := by
  simp only [dependencySites, List.mem_append, or_assoc] at site
  rcases site with argument | written | returned | mentioned
  · obtain ⟨⟨member, component⟩, listed, inside⟩ := List.mem_flatMap.1 argument
    cases peeled : member.type.head? with
    | none => simp [peeled] at inside
    | some found =>
      exact .inl ⟨member, component, found, listed, peeled, by simpa [peeled] using inside⟩
  · exact .inr (.inl (List.mem_flatMap.1 written))
  · obtain ⟨method, given, inside⟩ := List.mem_flatMap.1 returned
    refine .inr (.inr (.inl ⟨method, given, List.mem_append_right _ ?_⟩))
    rw [List.append_assoc] at inside
    rcases List.mem_append.1 inside with result | later
    · split at result
      · exact absurd result List.not_mem_nil
      · exact List.mem_singleton.1 result ▸ List.mem_cons_self
    · exact List.mem_cons_of_mem _ later
  · exact .inr (.inr (.inr (List.mem_map.1 mentioned)))

/-- The usages that may become dependencies are valid where those written are. -/
theorem dependencySites_valid (valid : declaration.HasValidUsages) {usage : TypeUsage}
    (site : usage ∈ declaration.dependencySites) : usage.isValid = true := by
  rcases origin_of_mem_dependencySites site with
    ⟨member, component, found, listed, peeled, inside⟩ | written | written | written
  · -- An argument of a member's type is not itself among the written usages.
    have type := valid member.type (member_type_written listed)
    exact TypeUsage.isValid_of_mem (TypeUsage.allValid_arguments _ found type peeled) inside
  · have here := List.mem_flatMap.2 written
    refine valid usage ?_
    simp only [writtenUsages, List.mem_append, here, true_or, or_true]
  · have here := List.mem_flatMap.2 written
    refine valid usage ?_
    simp only [writtenUsages, List.mem_append, here, true_or, or_true]
  · have here := List.mem_map.2 written
    refine valid usage ?_
    simp only [writtenUsages, List.mem_append, here, or_true]

/-- A declaration whose usages are valid can be classified. -/
theorem isClassifiable_of_valid (valid : declaration.HasValidUsages) :
    declaration.isClassifiable = true := by
  have members : ∀ entry ∈ declaration.members, entry.1.type.hasHead = true := fun entry listed =>
    (TypeUsage.readable_of_isValid _ (valid _ (member_type_written listed))).1
  have clauses : ∀ clause ∈ declaration.supertypeClauses,
      (clause.2.hasHead && (clause.2.head?.isSome || clause.2.renders)) = true := by
    intro clause listed
    obtain ⟨peeled, spelled, _⟩ :=
      TypeUsage.readable_of_isValid _ (valid _ (supertype_written listed))
    rw [peeled, spelled, Bool.or_true, Bool.and_true]
  have sites : ∀ usage ∈ declaration.dependencySites, usage.hasSites = true :=
    fun usage listed => (TypeUsage.readable_of_isValid _ (dependencySites_valid valid listed)).2.2
  unfold isClassifiable
  rw [List.all_eq_true.2 members, List.all_eq_true.2 clauses, List.all_eq_true.2 sites]
  rfl

end TypeDeclaration

/-- An index whose declarations have valid usages is classified without failing. -/
theorem Resolver.classify?_of_valid {resolver : Resolver}
    (valid : ∀ declared ∈ resolver.index.types, declared.declaration.HasValidUsages) :
    resolver.classify? = .ok resolver.classify := by
  have classifiable : ∀ declared ∈ resolver.index.types,
      declared.declaration.isClassifiable = true := fun declared listed =>
    TypeDeclaration.isClassifiable_of_valid (valid declared listed)
  rw [classify?, if_pos (List.all_eq_true.2 classifiable)]

/-- Generation fails exactly where a kept declaration cannot be classified. -/
theorem generate?_eq (units : List CompilationUnit) (choice : OracleChoice)
    (carried : List Diagnostic) :
    generate? units choice carried =
      if (Index.ofUnits units carried).types.all (·.declaration.isClassifiable) then
        .ok (generate units choice carried)
      else .error .unknownUsage := by
  unfold generate? Resolver.classify?
  change (if (Index.ofUnits units carried).types.all (·.declaration.isClassifiable) then _
    else _ : Except Fault ClassifiedDiagram) >>= _ = _
  split <;> rfl

/-- What is generated without failing is what is generated. -/
theorem eq_generate_of_ok {units : List CompilationUnit} {choice : OracleChoice}
    {carried : List Diagnostic} {generation : Generation}
    (generated : generate? units choice carried = .ok generation) :
    generation = generate units choice carried := by
  rw [generate?_eq] at generated
  split at generated
  · exact (Except.ok.inj generated).symm
  · exact absurd generated (by simp)

/-- A corpus whose kept declarations have valid usages is generated without failing. -/
theorem generate?_of_valid {units : List CompilationUnit} {carried : List Diagnostic}
    (choice : OracleChoice)
    (valid : ∀ declared ∈ (Index.ofUnits units carried).types,
      declared.declaration.HasValidUsages) :
    generate? units choice carried = .ok (generate units choice carried) := by
  have classified := @Resolver.classify?_of_valid (choice.resolver (.ofUnits units carried)) valid
  rw [generate?, classified]
  rfl

end ClassAtlas
