import ClassAtlas.Relationship.Classification

/-!
# What a registry hands out

A registry goes through proposed edges one by one. What it hands out is told here without the
registry: of the edges that it does not refuse at the start, the first with each key. A registry
that hands out dependencies also leaves out those between types that a structural edge joins, and
handing out dependencies never changes which types those are.
-/
namespace ClassAtlas

/-! ## The first with each key -/

/-- The values of a list before which no value has the same key. -/
def firstOfEach {α κ : Type} [DecidableEq κ] (key : α → κ) : List α → List α
  | [] => []
  | value :: values => value :: (firstOfEach key values).filter (key · ≠ key value)

section FirstOfEach

variable {α β κ ν : Type} [DecidableEq κ] [DecidableEq ν]

/-- Keeping the first with each key invents nothing and keeps the order. -/
theorem firstOfEach_sublist (key : α → κ) (values : List α) :
    (firstOfEach key values).Sublist values := by
  induction values with
  | nil => exact List.Sublist.refl _
  | cons value values ih => exact (List.filter_sublist.trans ih).cons_cons value

/-- Every key of the list is kept once at least. -/
theorem exists_mem_firstOfEach (key : α → κ) {values : List α} {value : α}
    (member : value ∈ values) : ∃ first ∈ firstOfEach key values, key first = key value := by
  induction values with
  | nil => exact absurd member List.not_mem_nil
  | cons head values ih =>
    by_cases same : key value = key head
    · exact ⟨head, List.mem_cons_self, same.symm⟩
    · have tail : value ∈ values := by
        rcases List.mem_cons.1 member with rfl | tail
        · exact absurd rfl same
        · exact tail
      obtain ⟨first, kept, equal⟩ := ih tail
      have differs : key first ≠ key head := fun clash => same (equal.symm.trans clash)
      exact ⟨first, List.mem_cons_of_mem head (List.mem_filter.2 ⟨kept, by simpa using differs⟩),
        equal⟩

/-- Values with different keys are kept, all of them. -/
theorem firstOfEach_of_nodup {key : α → κ} {values : List α}
    (distinct : (values.map key).Nodup) : firstOfEach key values = values := by
  induction values with
  | nil => rfl
  | cons value values ih =>
    rw [List.map_cons, List.nodup_cons] at distinct
    rw [firstOfEach, ih distinct.2]
    refine congrArg (value :: ·) (List.filter_eq_self.2 fun other member => ?_)
    have differs : key other ≠ key value := fun same =>
      distinct.1 (same ▸ List.mem_map_of_mem member)
    simpa using differs

/-- What a test of keys keeps may be kept before or after. -/
theorem filter_firstOfEach (key : α → κ) (test : κ → Bool) (values : List α) :
    (firstOfEach key values).filter (fun value => test (key value)) =
      firstOfEach key (values.filter fun value => test (key value)) := by
  induction values with
  | nil => rfl
  | cons value values ih =>
    rw [firstOfEach, List.filter_cons, List.filter_cons, List.filter_filter]
    have commuted (other : α) : (test (key other) && decide (key other ≠ key value)) =
        (decide (key other ≠ key value) && test (key other)) := Bool.and_comm _ _
    split
    · rw [firstOfEach, ← ih, List.filter_filter]
      simp only [commuted]
    · next refused =>
      rw [← ih]
      refine List.filter_congr fun other _ => ?_
      by_cases same : key other = key value
      · simp [same, refused]
      · simp [same]

/-- Keys that agree on which values are alike keep the same values. -/
theorem firstOfEach_congr {key : α → κ} {other : α → ν} {values : List α}
    (agree : ∀ left right, key left = key right ↔ other left = other right) :
    firstOfEach key values = firstOfEach other values := by
  induction values with
  | nil => rfl
  | cons value values ih =>
    rw [firstOfEach, firstOfEach, ih]
    simp only [ne_eq, agree]

/-- Values made one by one are kept where those they are made of are kept. -/
theorem firstOfEach_map (key : β → κ) (make : α → β) (values : List α) :
    firstOfEach key (values.map make) = (firstOfEach (key ∘ make) values).map make := by
  induction values with
  | nil => rfl
  | cons value values ih =>
    rw [List.map_cons, firstOfEach, firstOfEach, List.map_cons, ih, List.filter_map]
    rfl

/-- Values made one by one may be tested and told apart by what they are made of. -/
theorem firstOfEach_filter_map {key : β → κ} {other : α → ν} {make : α → β} {test : β → Bool}
    {check : α → Bool} (tested : ∀ value, test (make value) = check value)
    (agree : ∀ left right, key (make left) = key (make right) ↔ other left = other right)
    (values : List α) :
    firstOfEach key ((values.map make).filter test) =
      (firstOfEach other (values.filter check)).map make := by
  have kept : (values.map make).filter test = (values.filter check).map make := by
    rw [List.filter_map]
    exact congrArg (List.map make) (List.filter_congr fun value _ => tested value)
  rw [kept, firstOfEach_map, @firstOfEach_congr _ _ _ _ _ (key ∘ make) other _ agree]

/-- Lists without a common key do not interfere. -/
theorem firstOfEach_append {key : α → κ} {left right : List α}
    (apart : ∀ first ∈ left, ∀ second ∈ right, key first ≠ key second) :
    firstOfEach key (left ++ right) = firstOfEach key left ++ firstOfEach key right := by
  induction left with
  | nil => rfl
  | cons value left ih =>
    have tail := ih fun first member => apart first (List.mem_cons_of_mem value member)
    have untouched : (firstOfEach key right).filter (key · ≠ key value) =
        firstOfEach key right := by
      refine List.filter_eq_self.2 fun second kept => ?_
      have member := (firstOfEach_sublist key right).subset kept
      simpa using (apart value List.mem_cons_self second member).symm
    rw [List.cons_append, firstOfEach, firstOfEach, tail, List.filter_append, untouched,
      List.cons_append]

/-- Blocks without common keys do not interfere. -/
theorem firstOfEach_flatMap {key : β → κ} {block : α → List β} {values : List α}
    (apart : values.Pairwise fun left right =>
      ∀ first ∈ block left, ∀ second ∈ block right, key first ≠ key second) :
    firstOfEach key (values.flatMap block) =
      values.flatMap fun value => firstOfEach key (block value) := by
  induction values with
  | nil => rfl
  | cons value values ih =>
    obtain ⟨ahead, later⟩ := List.pairwise_cons.1 apart
    rw [List.flatMap_cons, List.flatMap_cons, ← ih later]
    refine firstOfEach_append fun first member second found => ?_
    obtain ⟨other, inside, here⟩ := List.mem_flatMap.1 found
    exact ahead other inside first member second here

end FirstOfEach

/-! ## Handing edges out -/

namespace EdgeRegistry

/-- Whether an edge joins two names and has not been handed out. -/
def admits (registry : EdgeRegistry) (key : EdgeKey) : Bool :=
  key.src != key.dst && !registry.contains key

/-- The registry that has handed out one more edge. -/
def record (registry : EdgeRegistry) (key : EdgeKey) : EdgeRegistry :=
  { seen := key :: registry.seen }

/-- An edge is handed out and recorded exactly when it is admitted. -/
theorem register_eq (registry : EdgeRegistry) (key : EdgeKey) :
    registry.register key =
      if registry.admits key then (registry.record key, true) else (registry, false) := by
  unfold register admits record
  by_cases loop : key.src = key.dst
  · simp [loop]
  · cases seen : registry.contains key <;> simp [loop]

/-- A recorded edge is refused from then on, and no other one is. -/
theorem admits_record (registry : EdgeRegistry) (handed key : EdgeKey) :
    (registry.record handed).admits key = (decide (key ≠ handed) && registry.admits key) := by
  unfold admits record contains
  by_cases same : key = handed
  · simp [same]
  · simp [same]

/-- A dependency joins no pair structurally. -/
theorem hasStructural_record {registry : EdgeRegistry} {key : EdgeKey}
    (dependency : key.kind = .dependency) (src dst : String) :
    (registry.record key).hasStructural src dst = registry.hasStructural src dst := by
  simp [hasStructural, record, dependency, RelationshipKind.isStructural]

/-- An admitted edge is handed out before the others. -/
theorem registerAll_admitted {registry : EdgeRegistry} {edge : Edge} (edges : List Edge)
    (admitted : registry.admits edge.key = true) :
    registry.registerAll (edge :: edges) =
      (((registry.record edge.key).registerAll edges).1,
        edge :: ((registry.record edge.key).registerAll edges).2) := by
  rw [registerAll, register_eq, if_pos admitted]

/-- A refused edge leaves the registry as it is. -/
theorem registerAll_refused {registry : EdgeRegistry} {edge : Edge} (edges : List Edge)
    (refused : ¬registry.admits edge.key = true) :
    registry.registerAll (edge :: edges) = registry.registerAll edges := by
  rw [registerAll, register_eq, if_neg refused]

/-- The edges handed out are the first with each key among those not refused at the start. -/
theorem registerAll_added (registry : EdgeRegistry) (edges : List Edge) :
    (registry.registerAll edges).2 =
      firstOfEach Edge.key (edges.filter fun edge => registry.admits edge.key) := by
  induction edges generalizing registry with
  | nil => rfl
  | cons edge edges ih =>
    by_cases admitted : registry.admits edge.key = true
    · -- What the registry has just recorded is what keeping the first refuses.
      rw [registerAll_admitted edges admitted, List.filter_cons, if_pos admitted, firstOfEach,
        filter_firstOfEach Edge.key (fun key => decide (key ≠ edge.key)), List.filter_filter, ih]
      simp only [admits_record]
    · rw [registerAll_refused edges admitted, List.filter_cons, if_neg admitted, ih]

/-- The registry remembers what it hands out, the latest first, before what it remembered. -/
theorem registerAll_seen (registry : EdgeRegistry) (edges : List Edge) :
    (registry.registerAll edges).1.seen =
      ((registry.registerAll edges).2.map Edge.key).reverse ++ registry.seen := by
  induction edges generalizing registry with
  | nil => rfl
  | cons edge edges ih =>
    by_cases admitted : registry.admits edge.key = true
    · rw [registerAll_admitted edges admitted, List.map_cons, List.reverse_cons,
        List.append_assoc, ih]
      rfl
    · rw [registerAll_refused edges admitted, ih]

/-- Nothing is handed out but proposed edges. -/
theorem mem_registerAll_added {registry : EdgeRegistry} {edges : List Edge} {edge : Edge}
    (member : edge ∈ (registry.registerAll edges).2) : edge ∈ edges := by
  rw [registerAll_added] at member
  exact (List.mem_filter.1 ((firstOfEach_sublist _ _).subset member)).1

/-- A registry that has handed out none of the proposed edges refuses only those from a name to
itself and repeats. -/
theorem registerAll_fresh {registry : EdgeRegistry} {edges : List Edge}
    (fresh : ∀ edge ∈ edges, edge.key ∉ registry.seen) :
    (registry.registerAll edges).2 =
      firstOfEach Edge.key (edges.filter fun edge => edge.src != edge.dst) := by
  rw [registerAll_added]
  refine congrArg (firstOfEach Edge.key) (List.filter_congr fun edge member => ?_)
  have unseen : registry.contains edge.key = false := by
    simpa [contains] using fresh edge member
  rw [admits, unseen, Bool.not_false, Bool.and_true]
  rfl

/-- A dependency between a pair that a structural edge joins is passed over. -/
theorem registerDependencies_joined {registry : EdgeRegistry} {edge : Edge} (edges : List Edge)
    (joined : registry.hasStructural edge.src edge.dst = true) :
    registry.registerDependencies (edge :: edges) = registry.registerDependencies edges := by
  rw [registerDependencies, if_pos joined]

/-- An admitted dependency between any other pair is handed out before the others. -/
theorem registerDependencies_admitted {registry : EdgeRegistry} {edge : Edge}
    (edges : List Edge) (apart : ¬registry.hasStructural edge.src edge.dst = true)
    (admitted : registry.admits edge.key = true) :
    registry.registerDependencies (edge :: edges) =
      (((registry.record edge.key).registerDependencies edges).1,
        edge :: ((registry.record edge.key).registerDependencies edges).2) := by
  rw [registerDependencies, if_neg apart, register_eq, if_pos admitted]

/-- A refused dependency leaves the registry as it is. -/
theorem registerDependencies_refused {registry : EdgeRegistry} {edge : Edge}
    (edges : List Edge) (apart : ¬registry.hasStructural edge.src edge.dst = true)
    (refused : ¬registry.admits edge.key = true) :
    registry.registerDependencies (edge :: edges) = registry.registerDependencies edges := by
  rw [registerDependencies, if_neg apart, register_eq, if_neg refused]

/-- The dependencies handed out are the first with each key among those not refused at the start
and between no pair that a structural edge joins at the start. -/
theorem registerDependencies_added (registry : EdgeRegistry) {edges : List Edge}
    (dependencies : ∀ edge ∈ edges, edge.kind = .dependency) :
    (registry.registerDependencies edges).2 =
      firstOfEach Edge.key (edges.filter fun edge =>
        registry.admits edge.key && !registry.hasStructural edge.src edge.dst) := by
  induction edges generalizing registry with
  | nil => rfl
  | cons edge edges ih =>
    have here : edge.key.kind = .dependency := dependencies edge List.mem_cons_self
    have later : ∀ edge ∈ edges, edge.kind = .dependency := fun other member =>
      dependencies other (List.mem_cons_of_mem edge member)
    by_cases joined : registry.hasStructural edge.src edge.dst = true
    · rw [registerDependencies_joined edges joined,
        List.filter_cons_of_neg (by simp [joined]), ih registry later]
    · by_cases admitted : registry.admits edge.key = true
      · rw [registerDependencies_admitted edges joined admitted,
          List.filter_cons_of_pos (by simp [joined, admitted]), firstOfEach,
          filter_firstOfEach Edge.key (fun key => decide (key ≠ edge.key)), List.filter_filter,
          ih _ later]
        simp only [admits_record, hasStructural_record here, Bool.and_assoc]
      · rw [registerDependencies_refused edges joined admitted,
          List.filter_cons_of_neg (by simp [admitted]), ih registry later]

/-- The registry remembers the dependencies it hands out, too. -/
theorem registerDependencies_seen (registry : EdgeRegistry) (edges : List Edge) :
    (registry.registerDependencies edges).1.seen =
      ((registry.registerDependencies edges).2.map Edge.key).reverse ++ registry.seen := by
  induction edges generalizing registry with
  | nil => rfl
  | cons edge edges ih =>
    by_cases joined : registry.hasStructural edge.src edge.dst = true
    · rw [registerDependencies_joined edges joined, ih]
    · by_cases admitted : registry.admits edge.key = true
      · rw [registerDependencies_admitted edges joined admitted, List.map_cons,
          List.reverse_cons, List.append_assoc, ih]
        rfl
      · rw [registerDependencies_refused edges joined admitted, ih]

/-! ## What holds of every registry -/

/-- What a registry has handed out joins different names, and nothing was handed out twice. -/
structure Lawful (registry : EdgeRegistry) : Prop where
  /-- No edge was handed out twice. -/
  distinct : registry.seen.Nodup
  /-- Every edge joins two names. -/
  apart : ∀ key ∈ registry.seen, key.src ≠ key.dst

/-- A registry is lawful before it hands out anything. -/
theorem lawful_empty : ({} : EdgeRegistry).Lawful :=
  ⟨List.nodup_nil, fun _ member => absurd member List.not_mem_nil⟩

/-- Handing out an admitted edge keeps a registry lawful. -/
theorem Lawful.record {registry : EdgeRegistry} {key : EdgeKey} (lawful : registry.Lawful)
    (admitted : registry.admits key = true) : (registry.record key).Lawful := by
  simp only [admits, contains, Bool.and_eq_true, bne_iff_ne, Bool.not_eq_true',
    List.contains_eq_mem, decide_eq_false_iff_not] at admitted
  constructor
  · exact List.nodup_cons.2 ⟨admitted.2, lawful.distinct⟩
  · exact List.forall_mem_cons.2 ⟨admitted.1, lawful.apart⟩

/-- Handing out edges keeps a registry lawful. -/
theorem Lawful.registerAll {registry : EdgeRegistry} (lawful : registry.Lawful)
    (edges : List Edge) : (registry.registerAll edges).1.Lawful := by
  induction edges generalizing registry with
  | nil => exact lawful
  | cons edge edges ih =>
    by_cases admitted : registry.admits edge.key = true
    · rw [registerAll_admitted edges admitted]
      exact ih (lawful.record admitted)
    · rw [registerAll_refused edges admitted]
      exact ih lawful

/-- Handing out dependencies keeps a registry lawful. -/
theorem Lawful.registerDependencies {registry : EdgeRegistry} (lawful : registry.Lawful)
    (edges : List Edge) : (registry.registerDependencies edges).1.Lawful := by
  induction edges generalizing registry with
  | nil => exact lawful
  | cons edge edges ih =>
    by_cases joined : registry.hasStructural edge.src edge.dst = true
    · rw [registerDependencies_joined edges joined]
      exact ih lawful
    · by_cases admitted : registry.admits edge.key = true
      · rw [registerDependencies_admitted edges joined admitted]
        exact ih (lawful.record admitted)
      · rw [registerDependencies_refused edges joined admitted]
        exact ih lawful

end EdgeRegistry

end ClassAtlas
