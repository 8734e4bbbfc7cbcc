import ClassAtlas.Diagram.Dot
import ClassAtlas.Diagram.PlantUml
import ClassAtlas.Proofs.Nesting
import ClassAtlas.Proofs.ValidUsages

/-!
# Moving a corpus

Paths take part in the order of units, which decides between declarations of one key, and in
nothing else but reports. Where every path gets the same beginning the order stays, so the walk
through the corpus meets the same declarations and keeps the same ones. What is read of an index
afterwards does not see the paths of its entries.
-/
namespace ClassAtlas

/-- A unit whose path has a beginning put before it. -/
def CompilationUnit.relocate (unit : CompilationUnit) (front : String) : CompilationUnit :=
  { unit with path := front ++ unit.path }

/-- A placement whose path has a beginning put before it. -/
def Placement.relocate (placement : Placement) (front : String) : Placement :=
  { placement with path := front ++ placement.path }

/-- An entry whose path has a beginning put before it. -/
def DeclaredType.relocate (declared : DeclaredType) (front : String) : DeclaredType :=
  { declared with path := front ++ declared.path }

/-- A visit whose entry is moved. -/
def Visit.relocate (visit : Visit) (front : String) : Visit :=
  { visit with entry := visit.entry.relocate front }

/-- A classified type whose declared type is moved. -/
def ClassifiedType.relocate (classified : ClassifiedType) (front : String) : ClassifiedType :=
  { classified with declared := classified.declared.relocate front }

/-! ## The order of units -/

/-- Moving two units together does not change how they compare. -/
theorem UnitKey.le_relocate (left right : CompilationUnit) (front : String) :
    (ofUnit (left.relocate front)).le (ofUnit (right.relocate front)) =
      (ofUnit left).le (ofUnit right) := by
  have paths : compare (front ++ left.path) (front ++ right.path) =
      compare left.path right.path := Text.compare_append front left.path right.path
  simp only [le, order, compareLex, compareOn, ofUnit, CompilationUnit.relocate, paths]
  rfl

/-- Moved units are sorted as they were. -/
theorem sortUnits_relocate (units : List CompilationUnit) (front : String) :
    sortUnits (units.map (·.relocate front)) = (sortUnits units).map (·.relocate front) := by
  refine sortUnits_eq_of_sorted ((sortUnits_perm units).map _) ?_
  rw [List.pairwise_map]
  refine (sortUnits_pairwise units).imp fun {left right} ordered => ?_
  rw [UnitKey.le_relocate]
  exact ordered

/-! ## The walk -/

namespace Visit

/-- Moved visits keep what they kept. -/
theorem kept_relocate (visits : List Visit) (front : String) :
    kept (visits.map (·.relocate front)) = (kept visits).map (·.relocate front) := by
  rw [kept, kept, List.filter_map, List.map_map, List.map_map]
  rfl

/-- Moved visits are refused what they were refused. -/
theorem refused_relocate (visits : List Visit) (front : String) :
    refused (visits.map (·.relocate front)) = (refused visits).map (·.relocate front) := by
  rw [refused, refused, List.filter_map, List.map_map, List.map_map]
  rfl

/-- Moved visits take the keys they took. -/
theorem keys_relocate (visits : List Visit) (front : String) :
    keys (visits.map (·.relocate front)) = keys visits := by
  rw [keys, keys, kept_relocate, List.map_map]
  rfl

end Visit

/-- The walk through moved declarations makes the same visits. -/
theorem TypeDeclaration.walkAll_relocate (placement : Placement) (front : String)
    (taken : List Key) (owner : Option Key) (declarations : List TypeDeclaration) :
    walkAll (placement.relocate front) taken owner declarations =
      (walkAll placement taken owner declarations).map (·.relocate front) := by
  refine walkAll_induction placement
    (motive := fun taken owner declarations visits =>
      walkAll (placement.relocate front) taken owner declarations =
        visits.map (·.relocate front))
    ?nil ?refused ?accepted taken owner declarations
  case nil =>
    intro taken owner
    rw [walkAll]
    rfl
  case refused =>
    intro taken owner declaration declarations rest occupied later
    rw [walkAll, @walk_refused (placement.relocate front) taken owner declaration occupied]
    change _ :: walkAll _ (taken ++ []) owner declarations = _
    rw [List.append_nil, later]
    rfl
  case accepted =>
    intro taken owner declaration declarations nested rest free inner later
    let entry := placement.entry declaration owner
    have first : walk (placement.relocate front) taken owner declaration =
        (⟨entry, true⟩ :: nested : List Visit).map (·.relocate front) := by
      rw [@walk_accepted (placement.relocate front) taken owner declaration free]
      exact congrArg (List.cons _) inner
    have keys : Visit.keys ((⟨entry, true⟩ :: nested : List Visit).map (·.relocate front)) =
        entry.key :: Visit.keys nested := Visit.keys_relocate _ front
    rw [walkAll, first, keys, later, ← List.map_append]
    rfl

/-- The walk through a moved corpus makes the same visits. -/
theorem walkUnits_relocate (taken : List Key) (units : List CompilationUnit) (front : String) :
    walkUnits taken (units.map (·.relocate front)) =
      (walkUnits taken units).map (·.relocate front) := by
  induction units generalizing taken with
  | nil => rfl
  | cons unit units ih =>
    have first : (unit.relocate front).walk taken = (unit.walk taken).map (·.relocate front) :=
      TypeDeclaration.walkAll_relocate unit.placement front taken none unit.types
    rw [List.map_cons, walkUnits, walkUnits, first, Visit.keys_relocate, ih, List.map_append]

/-! ## The index -/

namespace Index

/-- Whether an index has the entries of another one, moved. -/
def MovedTo (here : Index) (front : String) (there : Index) : Prop :=
  there.entries = here.entries.map (·.relocate front)

/-- The index of a moved corpus has the same entries, moved. -/
theorem movedTo_ofUnits (units : List CompilationUnit) (front : String)
    (carried : List Diagnostic) :
    (ofUnits units carried).MovedTo front (ofUnits (units.map (·.relocate front)) carried) := by
  rw [MovedTo, entries_ofUnits, entries_ofUnits, sortUnits_relocate, walkUnits_relocate,
    Visit.kept_relocate]

namespace MovedTo

variable {here there : Index} {front : String}

/-- The keys of the entries stay. -/
theorem map_key (moved : here.MovedTo front there) :
    there.entries.map (·.key) = here.entries.map (·.key) := by
  rw [moved, List.map_map]
  rfl

/-- The same keys are known. -/
theorem contains (moved : here.MovedTo front there) (key : Key) :
    there.contains key = here.contains key := by
  rw [Index.contains, moved, List.any_map]
  rfl

/-- A key leads to its type at the new place. -/
theorem get? (moved : here.MovedTo front there) (key : Key) :
    there.get? key = (here.get? key).map (·.relocate front) := by
  rw [Index.get?, moved, List.find?_map]
  rfl

/-- The keys of the index stay. -/
theorem keys (moved : here.MovedTo front there) : there.keys = here.keys := by
  have packages : there.packages = here.packages := by
    rw [Index.packages, moved, List.map_map]
    rfl
  have within (package : String) : there.keysInPackage package = here.keysInPackage package := by
    rw [keysInPackage, moved, List.filter_map, List.map_map]
    rfl
  rw [Index.keys, Index.keys, packages]
  exact List.flatMap_congr fun package _ => within package

/-- The types are those at the new place, in order. -/
theorem types (moved : here.MovedTo front there) :
    there.types = here.types.map (·.relocate front) := by
  rw [Index.types, Index.types, moved.keys, List.map_filterMap]
  exact List.filterMap_congr fun key _ => moved.get? key

/-- What moved types contribute one after the other is what they contributed. -/
theorem flatMap_types {α : Type} {one other : DeclaredType → List α}
    (moved : here.MovedTo front there)
    (same : ∀ declared, other (declared.relocate front) = one declared) :
    there.types.flatMap other = here.types.flatMap one := by
  rw [moved.types, List.flatMap_map]
  exact List.flatMap_congr fun declared _ => same declared

/-- A simple name that leads to one key leads to the same. -/
theorem uniqueKey? (moved : here.MovedTo front there) (name : String) :
    there.uniqueKey? name = here.uniqueKey? name := by
  rw [Index.uniqueKey?, Index.uniqueKey?, keysNamed, keysNamed, moved.map_key]

/-- A name that leads to a key leads to the same. -/
theorem keyForName? (moved : here.MovedTo front there) (name : String) :
    there.keyForName? name = here.keyForName? name := by
  rw [Index.keyForName?, Index.keyForName?, moved.contains, moved.map_key]

end MovedTo

end Index

/-! ## Resolution and classification -/

namespace OracleChoice

variable {here there : Index} {front : String}

/-- A name refers to the same in a moved index. -/
theorem resolve_moved (choice : OracleChoice) (moved : here.MovedTo front there)
    (usage : ClassUsage) (context : ResolutionContext) :
    (choice.resolver there).resolve usage context =
      (choice.resolver here).resolve usage context := by
  have asked : (choice.resolver there).ask usage context =
      (choice.resolver here).ask usage context := by
    cases choice with
    | none => rfl
    | imports =>
      have oracle : ImportOracle.ofIndex there = ImportOracle.ofIndex here :=
        congrArg ImportOracle.mk moved.keys
      simp only [resolver, oracle?, Resolver.ask, oracle]
    | given oracle => rfl
  have settled (answer : OracleAnswer) : Resolver.settle there answer =
      Resolver.settle here answer := by
    simp only [Resolver.settle, Resolver.settle.byName, moved.contains, moved.keyForName?]
  have spelled (name package : String) : Resolver.resolveText there name package =
      Resolver.resolveText here name package := by
    simp only [Resolver.resolveText, moved.contains, moved.uniqueKey?]
  rw [Resolver.resolve, Resolver.resolve, asked]
  cases (choice.resolver here).ask usage context with
  | none => exact spelled usage.name context.package
  | some answer => exact settled answer

/-- The class type of a usage refers to the same in a moved index. -/
theorem resolveUsage_moved (choice : OracleChoice) (moved : here.MovedTo front there)
    (usage : TypeUsage) (context : ResolutionContext) :
    (choice.resolver there).resolveUsage usage context =
      (choice.resolver here).resolveUsage usage context := by
  rw [Resolver.resolveUsage, Resolver.resolveUsage]
  exact congrArg (usage.head?.map ·) (funext fun used => choice.resolve_moved moved used context)

/-- The members of a moved type become what they became. -/
theorem classifyType_moved (choice : OracleChoice) (moved : here.MovedTo front there)
    (declared : DeclaredType) :
    (choice.resolver there).classifyType (declared.relocate front) =
      ((choice.resolver here).classifyType declared).relocate front := by
  have outcome (member : FieldDecl) (component : Bool) :
      (choice.resolver there).classifyMember (declared.relocate front) member component =
        (choice.resolver here).classifyMember declared member component := by
    rw [Resolver.classifyMember, choice.resolveUsage_moved moved]
    rfl
  simp only [Resolver.classifyType, outcome]
  rfl

/-- A moved type is nested as it was. -/
theorem nestingEdges_moved (choice : OracleChoice) (moved : here.MovedTo front there)
    (declared : DeclaredType) :
    (choice.resolver there).nestingEdges (declared.relocate front) =
      (choice.resolver here).nestingEdges declared := by
  have owned (owner : Key) : (choice.resolver there).index.contains owner =
      (choice.resolver here).index.contains owner := moved.contains owner
  simp only [Resolver.nestingEdges, owned]
  rfl

/-- A moved type has the supertypes that it had. -/
theorem supertypeEdges_moved (choice : OracleChoice) (moved : here.MovedTo front there)
    (declared : DeclaredType) :
    (choice.resolver there).supertypeEdges (declared.relocate front) =
      (choice.resolver here).supertypeEdges declared := by
  simp only [Resolver.supertypeEdges, Resolver.supertypeRef, choice.resolveUsage_moved moved]
  rfl

/-- A moved type has the dependencies that it had. -/
theorem dependencyEdges_moved (choice : OracleChoice) (moved : here.MovedTo front there)
    (declared : DeclaredType) :
    (choice.resolver there).dependencyEdges (declared.relocate front) =
      (choice.resolver here).dependencyEdges declared := by
  simp only [Resolver.dependencyEdges, choice.resolve_moved moved]
  rfl

/-- A moved index is classified as it was. -/
theorem classify_moved (choice : OracleChoice) (moved : here.MovedTo front there) :
    (choice.resolver there).classify =
      { (choice.resolver here).classify with
        types := (choice.resolver here).classify.types.map (·.relocate front)
        diagnostics := there.diagnostics } := by
  have types : there.types.map (choice.resolver there).classifyType =
      (here.types.map (choice.resolver here).classifyType).map (·.relocate front) := by
    rw [moved.types, List.map_map, List.map_map]
    exact List.map_congr_left fun declared _ => choice.classifyType_moved moved declared
  have owns := moved.flatMap_types (choice.nestingEdges_moved moved)
  have supertypes := moved.flatMap_types (choice.supertypeEdges_moved moved)
  have dependencies := moved.flatMap_types (choice.dependencyEdges_moved moved)
  have associations (classified : List ClassifiedType) :
      (classified.map (·.relocate front)).flatMap (·.associationEdges) =
        classified.flatMap (·.associationEdges) := List.flatMap_map _ _ _
  have indexed (index : Index) : (choice.resolver index).index = index := rfl
  simp only [Resolver.classify, indexed, types, owns, supertypes, dependencies, associations]

end OracleChoice

/-! ## Events and reports -/

/-- Moved types are told as they were. -/
theorem nodeEvents_relocate (types : List ClassifiedType) (open? : Option String)
    (front : String) :
    nodeEvents open? (types.map (·.relocate front)) = nodeEvents open? types := by
  induction types generalizing open? with
  | nil => rfl
  | cons classified types ih =>
    rw [List.map_cons, nodeEvents, nodeEvents, ih, ih]
    rfl

/-- A moved index is told as it was. -/
theorem OracleChoice.events_moved (choice : OracleChoice) {here there : Index} {front : String}
    (moved : here.MovedTo front there) (name : String) :
    (choice.resolver there).classify.events name = (choice.resolver here).classify.events name := by
  rw [choice.classify_moved moved, ClassifiedDiagram.events, nodeEvents_relocate]
  rfl

/-- Whether two reports are the same, or report one repeated declaration in different words. -/
def Diagnostic.Agrees (one other : Diagnostic) : Prop :=
  one = other ∨ one.code = "duplicate-type" ∧ other = { one with message := other.message }

/-- The index of a moved corpus has the same reports in the same order, up to the words for
repeated declarations. -/
theorem Index.diagnostics_relocate (units : List CompilationUnit) (front : String)
    (carried : List Diagnostic) :
    List.Forall₂ Diagnostic.Agrees (ofUnits units carried).diagnostics
      (ofUnits (units.map (·.relocate front)) carried).diagnostics := by
  have here := (acceptUnits_follows { diagnostics := carried } units).diagnostics
  have there := (acceptUnits_follows { diagnostics := carried }
    (units.map (·.relocate front))).diagnostics
  rw [sortUnits_relocate, walkUnits_relocate, Visit.refused_relocate] at there
  rw [ofUnits, ofUnits, here, there]
  have unchanged : List.Forall₂ Diagnostic.Agrees carried carried :=
    List.forall₂_same.2 fun _ _ => Or.inl rfl
  refine List.rel_append unchanged ?_
  rw [List.map_map, List.forall₂_map_left_iff, List.forall₂_map_right_iff]
  exact List.forall₂_same.2 fun _ _ => Or.inr ⟨rfl, rfl⟩

/-- Putting one beginning before every path changes nothing of a diagram, whatever the oracle says:
the corpus is told by the same events, so it is written as the same texts, and it fails to be told
where it failed before. Of the reports only those of repeated declarations may use other words. -/
theorem generate_relocate (units : List CompilationUnit) (choice : OracleChoice)
    (front name : String) (carried : List Diagnostic) :
    let here := generate units choice carried
    let there := generate (units.map (·.relocate front)) choice carried
    let recorded (generation : Generation) : List Event :=
      (generation.classified.events name).map Event.recorded
    recorded there = recorded here ∧
      (generate? (units.map (·.relocate front)) choice carried).map recorded =
        (generate? units choice carried).map recorded ∧
      (∀ writer : PlantUml.Writer, writer.writeAll (there.classified.events name) =
        writer.writeAll (here.classified.events name)) ∧
      (∀ focus, Dot.render (recorded there) focus = Dot.render (recorded here) focus) ∧
      List.Forall₂ Diagnostic.Agrees here.classified.diagnostics there.classified.diagnostics := by
  intro here there recorded
  have moved := Index.movedTo_ofUnits units front carried
  have told : there.classified.events name = here.classified.events name :=
    choice.events_moved moved name
  have kept : recorded there = recorded here := congrArg (List.map Event.recorded) told
  refine ⟨kept, ?_, fun writer => by rw [told], fun focus => by rw [kept],
    Index.diagnostics_relocate units front carried⟩
  have classifiable : (Index.ofUnits (units.map (·.relocate front)) carried).types.all
      (·.declaration.isClassifiable) =
        (Index.ofUnits units carried).types.all (·.declaration.isClassifiable) := by
    rw [moved.types, List.all_map]
    rfl
  rw [generate?_eq, generate?_eq, classifiable]
  split
  · exact congrArg Except.ok kept
  · rfl

end ClassAtlas
