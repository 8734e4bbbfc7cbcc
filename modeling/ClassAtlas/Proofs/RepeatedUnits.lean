import ClassAtlas.Proofs.Relocation

/-!
# Repeated units

In the order of units the copies of a unit stand side by side. When a unit has been walked, the key
of each of its top-level declarations is taken, by the declaration itself or by the one that it was
refused for. So a second copy is refused declaration by declaration, before anything nested in it is
met: it adds reports and nothing else.
-/
namespace ClassAtlas

/-! ## The order of units -/

/-- No key comes after itself. -/
theorem UnitKey.le_refl (key : UnitKey) : key.le key = true := by
  have either := UnitKey.le_total key key
  rw [Bool.or_self] at either
  exact either

/-- A list with every value doubled holds what two copies of the list hold. -/
theorem flatMap_pair_perm {α : Type} (values : List α) :
    (values.flatMap fun value => [value, value]).Perm (values ++ values) := by
  have copies := List.flatMap_append_perm values (fun value => [value]) (fun value => [value])
  rw [List.flatMap_singleton'] at copies
  exact copies.symm

/-- In a corpus that is given twice the copies of a unit stand side by side. -/
theorem sortUnits_append_self (units : List CompilationUnit) :
    sortUnits (units ++ units) = (sortUnits units).flatMap fun unit => [unit, unit] := by
  have sorted := sortUnits_perm units
  refine sortUnits_eq_of_sorted ((flatMap_pair_perm _).trans (sorted.append sorted)) ?_
  rw [List.pairwise_flatMap]
  refine ⟨fun unit _ => List.pairwise_pair.2 (UnitKey.le_refl _), ?_⟩
  refine (sortUnits_pairwise units).imp fun {left right} ordered first here second there => ?_
  have one : first = left := by simpa using here
  have other : second = right := by simpa using there
  rw [one, other]
  exact ordered

/-! ## The walk through a second copy -/

namespace TypeDeclaration

variable {placement : Placement}

/-- When declarations have been walked, their keys are taken. -/
theorem key_taken_of_walked (taken : List Key) (owner : Option Key)
    (declarations : List TypeDeclaration) :
    ∀ top ∈ declarations, (placement.entry top owner).key ∈
      taken ++ Visit.keys (walkAll placement taken owner declarations) := by
  refine walkAll_induction placement
    (motive := fun taken owner declarations visits => ∀ top ∈ declarations,
      (placement.entry top owner).key ∈ taken ++ Visit.keys visits)
    ?nil ?refused ?accepted taken owner declarations
  case nil => exact fun _ _ _ member => absurd member List.not_mem_nil
  case refused =>
    intro taken owner declaration declarations rest occupied later top member
    rcases List.mem_cons.1 member with rfl | other
    · exact List.mem_append_left _ occupied
    · exact later top other
  case accepted =>
    intro taken owner declaration declarations nested rest _ _ later top member
    have keys : taken ++ Visit.keys (⟨placement.entry declaration owner, true⟩ ::
        (nested ++ rest)) = taken ++ (placement.entry declaration owner).key ::
          Visit.keys nested ++ Visit.keys rest := by
      rw [Visit.keys, Visit.kept_accepted, Visit.kept_append, List.map_cons, List.map_append,
        List.append_assoc]
      rfl
    rw [keys]
    rcases List.mem_cons.1 member with rfl | other
    · exact List.mem_append_left _ (List.mem_append_right _ List.mem_cons_self)
    · exact later top other

/-- Declarations whose keys are taken are visited alone, each in its turn. -/
theorem walkAll_of_taken {taken : List Key} {owner : Option Key}
    {declarations : List TypeDeclaration}
    (occupied : ∀ top ∈ declarations, (placement.entry top owner).key ∈ taken) :
    walkAll placement taken owner declarations =
      declarations.map fun top => ⟨placement.entry top owner, false⟩ := by
  induction declarations with
  | nil => rw [walkAll, List.map_nil]
  | cons declaration declarations ih =>
    obtain ⟨here, later⟩ := List.forall_mem_cons.1 occupied
    rw [walkAll, walk_refused here]
    change _ :: walkAll placement (taken ++ []) owner declarations = _
    rw [List.append_nil, ih later]
    rfl

end TypeDeclaration

namespace CompilationUnit

/-- The entries that the top-level declarations of a unit ask for. -/
def topEntries (unit : CompilationUnit) : List DeclaredType :=
  unit.types.map fun top => unit.placement.entry top none

/-- Where a unit has been walked, a copy of it is refused declaration by declaration. -/
theorem walk_again (unit : CompilationUnit) (taken : List Key) :
    unit.walk (taken ++ Visit.keys (unit.walk taken)) =
      unit.topEntries.map fun entry => ⟨entry, false⟩ := by
  rw [walk, TypeDeclaration.walkAll_of_taken, topEntries, List.map_map]
  · rfl
  · exact TypeDeclaration.key_taken_of_walked taken none unit.types

end CompilationUnit

namespace Visit

/-- Visits that are refused keep nothing. -/
theorem kept_map_refused (entries : List DeclaredType) :
    kept (entries.map fun entry => ⟨entry, false⟩) = [] := by
  simp [kept, List.filter_map]

/-- Visits that are refused are refused what they ask for. -/
theorem refused_map_refused (entries : List DeclaredType) :
    refused (entries.map fun entry => ⟨entry, false⟩) = entries := by
  rw [refused, List.filter_map, List.map_map]
  change List.map id (List.filter (fun _ => true) entries) = entries
  rw [List.map_id, List.filter_true]

/-- Visits that are refused take no key. -/
theorem keys_map_refused (entries : List DeclaredType) :
    keys (entries.map fun entry => ⟨entry, false⟩) = [] := by
  rw [keys, kept_map_refused, List.map_nil]

end Visit

/-- The walk through doubled units goes on after the second copy as it does after the first. -/
theorem walkUnits_doubled (taken : List Key) (unit : CompilationUnit)
    (units : List CompilationUnit) :
    walkUnits taken ((unit :: units).flatMap fun unit => [unit, unit]) =
      unit.walk taken ++ (unit.topEntries.map (fun entry => ⟨entry, false⟩) ++
        walkUnits (taken ++ Visit.keys (unit.walk taken))
          (units.flatMap fun unit => [unit, unit])) := by
  change walkUnits taken (unit :: unit :: units.flatMap fun unit => [unit, unit]) = _
  rw [walkUnits, walkUnits, unit.walk_again, Visit.keys_map_refused, List.append_nil]

/-- The walk through doubled units keeps what the walk through the units keeps. -/
theorem kept_walkUnits_doubled (taken : List Key) (units : List CompilationUnit) :
    Visit.kept (walkUnits taken (units.flatMap fun unit => [unit, unit])) =
      Visit.kept (walkUnits taken units) := by
  induction units generalizing taken with
  | nil => rfl
  | cons unit units ih =>
    rw [walkUnits_doubled, walkUnits, Visit.kept_append, Visit.kept_append, Visit.kept_append,
      Visit.kept_map_refused, List.nil_append, ih]

/-- The walk through doubled units refuses what the walk through the units refuses, in order. -/
theorem refused_walkUnits_sublist (taken : List Key) (units : List CompilationUnit) :
    (Visit.refused (walkUnits taken units)).Sublist
      (Visit.refused (walkUnits taken (units.flatMap fun unit => [unit, unit]))) := by
  induction units generalizing taken with
  | nil => exact List.Sublist.refl _
  | cons unit units ih =>
    rw [walkUnits_doubled, walkUnits, Visit.refused_append, Visit.refused_append,
      Visit.refused_append]
    exact (List.Sublist.refl _).append ((ih _).trans (List.sublist_append_right _ _))

/-- Beyond that the walk through doubled units refuses every top-level declaration once. -/
theorem refused_walkUnits_doubled (taken : List Key) (units : List CompilationUnit) :
    (Visit.refused (walkUnits taken (units.flatMap fun unit => [unit, unit]))).Perm
      (Visit.refused (walkUnits taken units) ++ units.flatMap (·.topEntries)) := by
  induction units generalizing taken with
  | nil => exact List.Perm.refl _
  | cons unit units ih =>
    rw [walkUnits_doubled, walkUnits, Visit.refused_append, Visit.refused_append,
      Visit.refused_append, Visit.refused_map_refused, List.flatMap_cons, List.append_assoc]
    refine List.Perm.append_left _ ?_
    -- The refusals of the second copy change places with those of the units behind it.
    calc unit.topEntries ++ Visit.refused (walkUnits _ _)
      _ |>.Perm (unit.topEntries ++ (Visit.refused (walkUnits _ units) ++
          units.flatMap (·.topEntries))) := (ih _).append_left _
      _ |>.Perm (Visit.refused (walkUnits _ units) ++ (unit.topEntries ++
          units.flatMap (·.topEntries))) := List.perm_append_comm_assoc _ _ _

/-! ## The index and the diagram -/

namespace Index

/-- The index of a corpus that is given twice has the same entries. -/
theorem entries_append_self (units : List CompilationUnit) (carried : List Diagnostic) :
    (ofUnits (units ++ units) carried).entries = (ofUnits units carried).entries := by
  rw [entries_ofUnits, entries_ofUnits, sortUnits_append_self, kept_walkUnits_doubled]

/-- An index with the same entries is one moved by nothing. -/
theorem movedTo_of_entries_eq {here there : Index} (same : there.entries = here.entries) :
    here.MovedTo "" there := by
  have still : (fun declared : DeclaredType => declared.relocate "") = id := by
    funext declared
    rw [DeclaredType.relocate, String.empty_append]
    rfl
  rw [MovedTo, same, still, List.map_id]

/-- Indexes with the same entries list the same types. -/
theorem types_of_entries_eq {here there : Index} (same : there.entries = here.entries) :
    there.types = here.types := by
  have found : there.get? = here.get? := by
    funext key
    rw [get?, get?, same]
  have within : there.keysInPackage = here.keysInPackage := by
    funext package
    rw [keysInPackage, keysInPackage, same]
  rw [types, types, keys, keys, packages, packages, found, within, same]

/-- Indexes with the same entries report a refused entry alike. -/
theorem refusal_of_entries_eq {here there : Index} (same : there.entries = here.entries) :
    there.refusal = here.refusal := by
  funext entry
  rw [refusal, refusal, get?, get?, same]

/-- The index of a corpus reports what the walk through it refuses. -/
theorem diagnostics_ofUnits (units : List CompilationUnit) (carried : List Diagnostic) :
    (ofUnits units carried).diagnostics = carried ++
      (Visit.refused (walkUnits [] (sortUnits units))).map (ofUnits units carried).refusal :=
  (acceptUnits_follows { diagnostics := carried } units).diagnostics

end Index

/-- Giving every unit of a corpus twice changes nothing of a diagram, whatever the oracle says: the
same declared types are indexed, the corpus is told by the same events, and it fails to be told
where it failed before. The reports made before are made again in the same order, and the only
others are of repeated declarations, one for every top-level declaration of the corpus. -/
theorem generate_append_self (units : List CompilationUnit) (choice : OracleChoice)
    (name : String) (carried : List Diagnostic) :
    let once := generate units choice carried
    let twice := generate (units ++ units) choice carried
    let recorded (generation : Generation) : List Event :=
      (generation.classified.events name).map Event.recorded
    let repeats := (units.flatMap (·.topEntries)).map once.index.refusal
    recorded twice = recorded once ∧
      twice.index.entries = once.index.entries ∧ twice.index.types = once.index.types ∧
      (generate? (units ++ units) choice carried).map recorded =
        (generate? units choice carried).map recorded ∧
      once.classified.diagnostics.Sublist twice.classified.diagnostics ∧
      twice.classified.diagnostics.Perm (once.classified.diagnostics ++ repeats) ∧
      ∀ diagnostic ∈ repeats, diagnostic.code = "duplicate-type" := by
  intro once twice recorded repeats
  have entries : twice.index.entries = once.index.entries := Index.entries_append_self units carried
  have types : twice.index.types = once.index.types := Index.types_of_entries_eq entries
  have told : recorded twice = recorded once :=
    congrArg (List.map Event.recorded)
      (choice.events_moved (Index.movedTo_of_entries_eq entries) name)
  have before : once.classified.diagnostics = carried ++
      (Visit.refused (walkUnits [] (sortUnits units))).map once.index.refusal :=
    Index.diagnostics_ofUnits units carried
  have after : twice.classified.diagnostics = carried ++
      (Visit.refused (walkUnits [] ((sortUnits units).flatMap fun unit => [unit, unit]))).map
        once.index.refusal := by
    rw [← sortUnits_append_self, ← Index.refusal_of_entries_eq entries]
    exact Index.diagnostics_ofUnits (units ++ units) carried
  refine ⟨told, entries, types, ?_, ?_, ?_, ?_⟩
  · have classifiable : (Index.ofUnits (units ++ units) carried).types.all
        (·.declaration.isClassifiable) =
          (Index.ofUnits units carried).types.all (·.declaration.isClassifiable) :=
      congrArg (fun types : List DeclaredType => types.all (·.declaration.isClassifiable)) types
    rw [generate?_eq, generate?_eq, classifiable]
    split
    · exact congrArg Except.ok told
    · rfl
  · rw [before, after]
    exact (List.Sublist.refl _).append ((refused_walkUnits_sublist [] _).map _)
  · have listed : ((sortUnits units).flatMap (·.topEntries)).Perm (units.flatMap (·.topEntries)) :=
      (sortUnits_perm units).flatMap_right _
    have reports := ((refused_walkUnits_doubled [] (sortUnits units)).trans
      (listed.append_left _)).map once.index.refusal
    rw [before, after, List.append_assoc, ← List.map_append]
    exact reports.append_left carried
  · intro diagnostic member
    obtain ⟨entry, _, rfl⟩ := List.mem_map.1 member
    rfl

end ClassAtlas
