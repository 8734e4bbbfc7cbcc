import Mathlib
import ClassAtlas.Diagram.Generation
import ClassAtlas.Proofs.Fingerprints

/-!
# The order of the input does not matter

Units are taken in the order of their keys, and no two different units have the same key: the
fingerprint at its end tells apart whatever package, names and path leave open. So a corpus has
one sorted form, and everything that is made of it is the same for every order of arrival, also
where several units declare one type or lie at one path.
-/
namespace ClassAtlas

namespace UnitKey

/-- No two units have the same key. -/
theorem ofUnit_injective {left right : CompilationUnit} (same : ofUnit left = ofUnit right) :
    left = right := by
  simp only [ofUnit, UnitKey.mk.injEq] at same
  obtain ⟨package, _, _, path, fingerprint⟩ := same
  obtain ⟨types, imports⟩ := Fingerprint.contents_injective fingerprint
  cases left
  cases right
  rw [CompilationUnit.mk.injEq]
  exact ⟨package, types, imports, path⟩

instance : Std.TransCmp order := by
  unfold order
  infer_instance

/-- Keys that compare equal are equal. -/
theorem eq_of_order_eq {left right : UnitKey} (same : order left right = .eq) : left = right := by
  simp only [order, compareLex_eq_eq, compareOn, Std.LawfulEqCmp.compare_eq_iff_eq] at same
  obtain ⟨package, primary, names, path, fingerprint⟩ := same
  cases left
  cases right
  rw [UnitKey.mk.injEq]
  exact ⟨package, primary, names, path, fingerprint⟩

/-- The order of keys is transitive. -/
theorem le_trans {first second third : UnitKey} (left : first.le second = true)
    (right : second.le third = true) : first.le third = true :=
  Std.TransCmp.isLE_trans left right

/-- Of two keys one does not come after the other. -/
theorem le_total (left right : UnitKey) : (left.le right || right.le left) = true := by
  by_cases first : left.le right = true
  · rw [first, Bool.true_or]
  · have below := Std.OrientedCmp.lt_of_not_isLE first
    rw [show right.le left = true by rw [le, below]; rfl, Bool.or_true]

/-- Keys neither of which comes after the other are equal. -/
theorem le_antisymm {left right : UnitKey} (first : left.le right = true)
    (second : right.le left = true) : left = right :=
  eq_of_order_eq (Std.OrientedCmp.isLE_antisymm first second)

/-- Keys tell units apart: two units have one key, and compare as equal, exactly if they are the
same, and the fingerprint alone tells the types and the imports apart, whatever characters their
names hold and however deep they are nested. -/
theorem ofUnit_eq_iff (left right : CompilationUnit) :
    (ofUnit left = ofUnit right ↔ left = right) ∧
      (order (ofUnit left) (ofUnit right) = .eq ↔ left = right) ∧
      (Fingerprint.contents left = Fingerprint.contents right ↔
        left.types = right.types ∧ left.imports = right.imports) := by
  refine ⟨⟨ofUnit_injective, congrArg ofUnit⟩, ⟨fun level => ?_, ?_⟩, ⟨?_, ?_⟩⟩
  · exact ofUnit_injective (eq_of_order_eq level)
  · rintro rfl
    exact Std.ReflCmp.compare_self
  · exact Fingerprint.contents_injective
  · rintro ⟨types, imports⟩
    unfold Fingerprint.contents
    rw [types, imports]

end UnitKey

/-- Sorted units stand in the order of their keys. -/
theorem sortUnits_pairwise (units : List CompilationUnit) :
    (sortUnits units).Pairwise fun left right =>
      (UnitKey.ofUnit left).le (UnitKey.ofUnit right) = true := by
  have sorted := @List.pairwise_mergeSort (UnitKey × CompilationUnit)
    (fun left right => left.1.le right.1)
    (fun first second third ordered later => UnitKey.le_trans ordered later)
    (fun left right => UnitKey.le_total left.1 right.1)
    (units.map fun unit => (UnitKey.ofUnit unit, unit))
  unfold sortUnits
  rw [List.pairwise_map]
  refine sorted.imp_of_mem fun {left right} here there ordered => ?_
  rw [List.mem_mergeSort, List.mem_map] at here there
  obtain ⟨first, _, rfl⟩ := here
  obtain ⟨second, _, rfl⟩ := there
  exact ordered

/-- Sorting keeps the units. -/
theorem sortUnits_perm (units : List CompilationUnit) : (sortUnits units).Perm units := by
  have sorted := (List.mergeSort_perm (units.map fun unit => (UnitKey.ofUnit unit, unit))
    fun left right => left.1.le right.1).map Prod.snd
  rw [List.map_map] at sorted
  have same : units.map (Prod.snd ∘ fun unit => (UnitKey.ofUnit unit, unit)) = units :=
    List.map_id units
  rw [same] at sorted
  exact sorted

/-- Units that stand in the order of their keys are the sorted form of every list of them. -/
theorem sortUnits_eq_of_sorted {units sorted : List CompilationUnit}
    (reordered : sorted.Perm units)
    (ordered : sorted.Pairwise fun left right =>
      (UnitKey.ofUnit left).le (UnitKey.ofUnit right) = true) : sortUnits units = sorted := by
  have perm := (sortUnits_perm units).trans reordered.symm
  refine perm.eq_of_pairwise (fun left right _ _ first second => ?_)
    (sortUnits_pairwise units) ordered
  exact UnitKey.ofUnit_injective (UnitKey.le_antisymm first second)

/-- A corpus has one sorted form. -/
theorem sortUnits_eq_of_perm {units others : List CompilationUnit}
    (reordered : units.Perm others) : sortUnits units = sortUnits others :=
  sortUnits_eq_of_sorted ((sortUnits_perm others).trans reordered.symm) (sortUnits_pairwise others)

/-- The index of a corpus takes in its units in the order of their keys. -/
theorem ofUnits_eq_of_sorted {units sorted : List CompilationUnit}
    (reordered : sorted.Perm units)
    (ordered : sorted.Pairwise fun left right =>
      (UnitKey.ofUnit left).le (UnitKey.ofUnit right) = true) (carried : List Diagnostic) :
    Index.ofUnits units carried =
      sorted.foldl (fun index unit => (index.acceptUnit unit).1) { diagnostics := carried } := by
  rw [Index.ofUnits, Index.acceptUnits, sortUnits_eq_of_sorted reordered ordered]

/-- A corpus has one index. -/
theorem ofUnits_eq_of_perm {units others : List CompilationUnit}
    (reordered : units.Perm others) (carried : List Diagnostic) :
    Index.ofUnits units carried = Index.ofUnits others carried := by
  unfold Index.ofUnits Index.acceptUnits
  rw [sortUnits_eq_of_perm reordered]

/-- For every order in which the units arrive, the same events are told, the same types are
indexed in the same order, the same reports are made, and generation fails alike. -/
theorem generate_eq_of_perm {units others : List CompilationUnit}
    (reordered : units.Perm others) (choice : OracleChoice) (name : String)
    (carried : List Diagnostic) :
    let one := generate units choice carried
    let other := generate others choice carried
    one.classified.events name = other.classified.events name ∧
      one.index.keys = other.index.keys ∧ one.index.types = other.index.types ∧
      one.classified.diagnostics = other.classified.diagnostics ∧
      generate? units choice carried = generate? others choice carried := by
  have index := ofUnits_eq_of_perm reordered carried
  have total : generate units choice carried = generate others choice carried := by
    unfold generate
    rw [index]
  have partly : generate? units choice carried = generate? others choice carried := by
    unfold generate?
    rw [index]
  intro one other
  have same : one = other := total
  rw [same]
  exact ⟨rfl, rfl, rfl, rfl, partly⟩

/-- Two units at one path that declare one type with different contents may change places. -/
theorem generate_twin_units :
    let kept : CompilationUnit :=
      { package := "p", types := [{ name := "A", line := 1 }], path := "A.java" }
    let later : CompilationUnit :=
      { package := "p", types := [{ name := "A", line := 2 }], path := "A.java" }
    [kept, later].Perm [later, kept] ∧
      (generate [kept, later] .imports []).classified.events "twins" =
        (generate [later, kept] .imports []).classified.events "twins" ∧
      (generate [kept, later] .imports []).index.types =
        (generate [later, kept] .imports []).index.types ∧
      (generate [kept, later] .imports []).classified.diagnostics =
        (generate [later, kept] .imports []).classified.diagnostics := by
  intro kept later
  have swapped : [kept, later].Perm [later, kept] := List.Perm.swap later kept []
  have same := generate_eq_of_perm swapped .imports "twins" []
  exact ⟨swapped, same.1, same.2.2.1, same.2.2.2.1⟩

end ClassAtlas
