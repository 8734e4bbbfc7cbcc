import ClassAtlas.Proofs.DeclarationWalk
import ClassAtlas.Proofs.InputOrder

/-!
# Ingestion of a corpus

A builder takes declarations from the front of a list of pending ones and puts what is nested in an
accepted declaration back at its front. What it does is told by the walk through the corpus alone:
the entries that the walk keeps are added in order, those that it refuses are reported in order,
and no entry ever changes.
-/
namespace ClassAtlas

namespace Index

/-- The keys of an index. -/
def taken (index : Index) : List Key := index.entries.map (·.key)

/-- The report of an entry that is refused because an index has its key. -/
def refusal (index : Index) (entry : DeclaredType) : Diagnostic :=
  duplicate entry.key entry.path (((index.get? entry.key).map (·.path)).getD "")

/-- How an index differs from an earlier one by the visits of a walk. -/
structure Follows (before after : Index) (visits : List Visit) : Prop where
  /-- The entries that the visits get are added in order. -/
  entries : after.entries = before.entries ++ Visit.kept visits
  /-- The entries that the visits are refused are reported in order. -/
  diagnostics : after.diagnostics = before.diagnostics ++
    (Visit.refused visits).map after.refusal
  /-- The key of an entry that a visit is refused is declared. -/
  declared : ∀ entry ∈ Visit.refused visits, after.contains entry.key = true

variable {before middle after : Index} {visits first second : List Visit}

/-- An index contains the keys that are taken in it. -/
theorem contains_iff_taken {index : Index} {key : Key} :
    index.contains key = true ↔ key ∈ index.taken := by
  rw [contains_iff, taken, List.mem_map]

/-- The keys that a walk takes are added. -/
theorem Follows.taken (follows : before.Follows after visits) :
    after.taken = before.taken ++ Visit.keys visits := by
  rw [Index.taken, follows.entries, List.map_append]
  rfl

/-- A key leads to the entry it led to before, or else to what the walk keeps under it. -/
theorem Follows.get? (follows : before.Follows after visits) (key : Key) :
    after.get? key = (before.get? key).or ((Visit.kept visits).find? (·.key == key)) := by
  rw [Index.get?, follows.entries, List.find?_append]
  rfl

/-- No visit changes an entry. -/
theorem Follows.get?_of_some (follows : before.Follows after visits) {key : Key}
    {entry : DeclaredType} (found : before.get? key = some entry) :
    after.get? key = some entry := by
  rw [follows.get?, found]
  rfl

/-- A key that is known stays known. -/
theorem Follows.contains (follows : before.Follows after visits) {key : Key}
    (known : before.contains key = true) : after.contains key = true := by
  rw [contains_iff_taken] at known ⊢
  rw [follows.taken]
  exact List.mem_append_left _ known

/-- A declared key is reported alike before and after a walk, its entry being the same. -/
theorem Follows.refusal_eq (follows : before.Follows after visits) {entry : DeclaredType}
    (known : before.contains entry.key = true) : before.refusal entry = after.refusal entry := by
  obtain ⟨kept, member, named⟩ := contains_iff.1 known
  have found := get?_eq_some_iff.2 ⟨member, named⟩
  rw [refusal, refusal, found, follows.get?_of_some found]

/-- An index follows no visits. -/
theorem Follows.refl (index : Index) : index.Follows index [] :=
  ⟨(List.append_nil _).symm, (List.append_nil _).symm,
    fun _ member => absurd member List.not_mem_nil⟩

/-- What follows two walks follows them together. -/
theorem Follows.trans (one : before.Follows middle first) (other : middle.Follows after second) :
    before.Follows after (first ++ second) := by
  have reports : (Visit.refused first).map middle.refusal =
      (Visit.refused first).map after.refusal :=
    List.map_congr_left fun entry member => other.refusal_eq (one.declared entry member)
  constructor
  · rw [other.entries, one.entries, Visit.kept_append, List.append_assoc]
  · rw [other.diagnostics, one.diagnostics, reports, Visit.refused_append, List.map_append,
      List.append_assoc]
  · intro entry member
    rw [Visit.refused_append] at member
    rcases List.mem_append.1 member with early | late
    · exact other.contains (one.declared entry early)
    · exact other.declared entry late

variable {placement : Placement} {index : Index} {declaration : TypeDeclaration}
  {owner : Option Key}

/-- A declaration whose key is declared is refused. -/
theorem accept_refused (occupied : (placement.entry declaration owner).key ∈ index.taken) :
    ∃ next, index.accept placement declaration owner = (next, none) ∧
      index.Follows next [⟨placement.entry declaration owner, false⟩] := by
  have known := contains_iff_taken.2 occupied
  obtain ⟨kept, member, named⟩ := contains_iff.1 known
  have found : index.get? (placement.entry declaration owner).key = some kept :=
    get?_eq_some_iff.2 ⟨member, named⟩
  refine ⟨{ index with diagnostics := index.diagnostics ++
    [duplicate (placement.entry declaration owner).key placement.path kept.path] }, ?_, ?_⟩
  · simp only [accept]
    split
    · next other same =>
      rw [show other = kept from Option.some.inj (same.symm.trans found)]
      rfl
    · next missing => exact absurd (missing.symm.trans found) (Option.some_ne_none _).symm
  · constructor
    · exact (List.append_nil _).symm
    · change _ = index.diagnostics ++ [_]
      rw [refusal]
      change _ = index.diagnostics ++ [duplicate _ _ (((index.get? _).map (·.path)).getD "")]
      rw [found]
      rfl
    · intro entry listed
      rw [List.mem_singleton.1 listed]
      exact known

/-- A declaration whose key is free is kept under it. -/
theorem accept_kept (free : (placement.entry declaration owner).key ∉ index.taken) :
    ∃ next, index.accept placement declaration owner =
        (next, some (placement.entry declaration owner).key) ∧
      index.Follows next [⟨placement.entry declaration owner, true⟩] := by
  have missing := (index.get?_eq_none_iff (placement.entry declaration owner).key).2 free
  refine ⟨index.add (placement.entry declaration owner) missing, ?_, ?_⟩
  · simp only [accept]
    split
    · next other found => exact absurd (missing.symm.trans found) (Option.some_ne_none _).symm
    · rfl
  · exact ⟨rfl, (List.append_nil _).symm, fun _ member => absurd member List.not_mem_nil⟩

/-- Accepting a declaration changes no entry. -/
theorem get?_accept {key : Key} {entry : DeclaredType} (found : index.get? key = some entry) :
    (index.accept placement declaration owner).1.get? key = some entry := by
  by_cases occupied : (placement.entry declaration owner).key ∈ index.taken
  · obtain ⟨next, accepted, follows⟩ := accept_refused occupied
    rw [accepted]
    exact follows.get?_of_some found
  · obtain ⟨next, accepted, follows⟩ := accept_kept occupied
    rw [accepted]
    exact follows.get?_of_some found

/-- The walk through pending declarations, each with its owner. -/
def walkPending (placement : Placement) (taken : List Key) :
    List (TypeDeclaration × Option Key) → List Visit
  | [] => []
  | (declaration, owner) :: pending =>
    let visits := declaration.walk placement taken owner
    visits ++ walkPending placement (taken ++ Visit.keys visits) pending

/-- Pending declarations are walked one after the other. -/
theorem walkPending_append (taken : List Key) (left right : List (TypeDeclaration × Option Key)) :
    walkPending placement taken (left ++ right) =
      walkPending placement taken left ++
        walkPending placement (taken ++ Visit.keys (walkPending placement taken left)) right := by
  induction left generalizing taken with
  | nil =>
    rw [walkPending, List.nil_append, List.nil_append]
    exact congrArg (walkPending placement · right) (List.append_nil taken).symm
  | cons first left ih =>
    rw [List.cons_append, walkPending, walkPending, ih, Visit.keys_append, List.append_assoc,
      List.append_assoc]

/-- Pending declarations of one owner are walked as such. -/
theorem walkPending_map (taken : List Key) (owner : Option Key)
    (declarations : List TypeDeclaration) :
    walkPending placement taken (declarations.map (·, owner)) =
      TypeDeclaration.walkAll placement taken owner declarations := by
  induction declarations generalizing taken with
  | nil =>
    rw [TypeDeclaration.walkAll]
    rfl
  | cons declaration declarations ih =>
    rw [TypeDeclaration.walkAll, List.map_cons, walkPending, ih]

/-- Accepting pending declarations follows the walk through them, and returns the keys it takes. -/
theorem acceptPending_follows (placement : Placement) (index : Index) :
    ∀ pending : List (TypeDeclaration × Option Key),
      let visits := walkPending placement index.taken pending
      index.Follows (acceptPending placement index pending).1 visits ∧
        (acceptPending placement index pending).2 = Visit.keys visits
  | [] => by
    rw [acceptPending]
    exact ⟨Follows.refl index, rfl⟩
  | (declaration, owner) :: pending => by
    by_cases occupied : (placement.entry declaration owner).key ∈ index.taken
    · obtain ⟨next, refused, step⟩ := accept_refused occupied
      obtain ⟨follows, keys⟩ := acceptPending_follows placement next pending
      rw [acceptPending, refused, walkPending, TypeDeclaration.walk_refused occupied, ← step.taken]
      exact ⟨step.trans follows, keys⟩
    · obtain ⟨next, accepted, step⟩ := accept_kept occupied
      -- What is nested stands before what was pending, so it is walked first.
      obtain ⟨follows, keys⟩ := acceptPending_follows placement next
        (declaration.nestedTypes.map (·, some (placement.entry declaration owner).key) ++ pending)
      rw [walkPending_append, walkPending_map, step.taken] at follows keys
      rw [acceptPending, accepted, walkPending, TypeDeclaration.walk_accepted occupied]
      rw [List.append_assoc] at follows keys
      exact ⟨step.trans follows, congrArg (_ :: ·) keys⟩
termination_by pending => TypeDeclaration.countAll (pending.map (·.1))
decreasing_by
  · rw [List.map_cons, TypeDeclaration.countAll, TypeDeclaration.count_eq]
    omega
  · simp [TypeDeclaration.countAll, TypeDeclaration.count_eq, TypeDeclaration.countAll_append,
      Function.comp_def]

/-- Accepting a unit follows the walk through it, and returns the keys it takes. -/
theorem acceptUnit_follows (index : Index) (unit : CompilationUnit) :
    index.Follows (index.acceptUnit unit).1 (unit.walk index.taken) ∧
      (index.acceptUnit unit).2 = Visit.keys (unit.walk index.taken) := by
  have follows := acceptPending_follows unit.placement index (unit.types.map (·, none))
  rw [walkPending_map] at follows
  exact follows

/-- Accepting a corpus follows the walk through its units in their order. -/
theorem acceptUnits_follows (index : Index) (units : List CompilationUnit) :
    index.Follows (index.acceptUnits units) (walkUnits index.taken (sortUnits units)) := by
  rw [acceptUnits]
  generalize sortUnits units = sorted
  induction sorted generalizing index with
  | nil => exact Follows.refl index
  | cons unit sorted ih =>
    have step := (index.acceptUnit_follows unit).1
    have rest := ih (index.acceptUnit unit).1
    rw [step.taken] at rest
    exact step.trans rest

/-- A key that leads nowhere before the walk through a corpus leads to the first visit with it. -/
theorem get?_acceptUnits (index : Index) (units : List CompilationUnit) (key : Key) :
    (index.acceptUnits units).get? key =
      (index.get? key).or
        (((walkUnits index.taken (sortUnits units)).map (·.entry)).find? (·.key == key)) := by
  rw [(index.acceptUnits_follows units).get?]
  cases found : index.get? key with
  | some entry => rfl
  | none =>
    have free : key ∉ index.taken := (index.get?_eq_none_iff key).1 found
    rw [Visit.firstWins_walkUnits index.taken (sortUnits units) key free]

end Index

namespace IndexBuilder

variable {builder next : IndexBuilder}

/-- What is built is the index that the builder has. -/
theorem index_of_build {index : Index} (built : builder.build = .ok (next, index)) :
    builder.index = index := by
  unfold build at built
  split at built
  · exact absurd built (by simp)
  · exact (Prod.mk.inj (Except.ok.inj built)).2

/-- A builder that ingests a corpus has accepted its units. -/
theorem index_of_ingestUnits {units : List CompilationUnit}
    (ingested : builder.ingestUnits units = .ok next) :
    next.index = builder.index.acceptUnits units := by
  unfold ingestUnits at ingested
  split at ingested
  · exact absurd ingested (by simp)
  · rw [← Except.ok.inj ingested]

/-- A builder that is not sealed ingests every corpus as the walk through its units in their order
tells. It keeps the entries that the walk keeps and reports, in order and after all earlier
reports, those that it refuses, each under its key, which is declared. A key leads to the first
declaration visited with it, and ingesting more changes no entry. Ingesting a unit returns the keys
that the walk through the unit takes. No declaration is lost: one that is not kept is reported or
lies inside one that is, and counting these gives every declaration of the corpus. -/
theorem ingestUnits_follows_walk (builder : IndexBuilder) (unsealed : builder.sealed = false)
    (units : List CompilationUnit) :
    let visits := walkUnits builder.index.taken (sortUnits units)
    ∃ index, builder.ingestUnits units = .ok { builder with index } ∧
      builder.index.Follows index visits ∧
      (∀ entry, (index.refusal entry).code = "duplicate-type" ∧
        (index.refusal entry).subject = entry.key) ∧
      (∀ key, index.get? key =
        (builder.index.get? key).or ((visits.map (·.entry)).find? (·.key == key))) ∧
      (∀ declaration owner placement, ∃ next key,
        builder.ingest declaration owner placement = .ok ({ builder with index := next }, key) ∧
          ∀ name entry, builder.index.get? name = some entry → next.get? name = some entry) ∧
      (∀ unit : CompilationUnit, ∃ next,
        builder.ingestUnit unit =
            .ok ({ builder with index := next }, Visit.keys (unit.walk builder.index.taken)) ∧
          builder.index.Follows next (unit.walk builder.index.taken)) ∧
      (∀ unit ∈ units, ∀ top ∈ unit.types, ∀ inner,
        unit.placement.Encloses (unit.placement.entry top none) inner →
          inner ∈ index.entries ∨ ∃ stopped ∈ Visit.refused visits,
            index.refusal stopped ∈ index.diagnostics ∧
              unit.placement.Encloses (unit.placement.entry top none) stopped ∧
              unit.placement.Encloses stopped inner) ∧
      (units.map fun unit => TypeDeclaration.countAll unit.types).sum =
        (Visit.kept visits).length +
          ((Visit.refused visits).map (·.declaration.count)).sum := by
  intro visits
  have follows := builder.index.acceptUnits_follows units
  refine ⟨builder.index.acceptUnits units, ?_, follows, fun _ => ⟨rfl, rfl⟩,
    builder.index.get?_acceptUnits units, ?_, ?_, ?_, ?_⟩
  · rw [ingestUnits, unsealed]
    rfl
  · intro declaration owner placement
    let accepted := builder.index.accept placement declaration owner
    refine ⟨accepted.1, accepted.2, ?_, fun _ _ found => Index.get?_accept found⟩
    rw [ingest, unsealed]
    rfl
  · intro unit
    obtain ⟨follows, keys⟩ := builder.index.acceptUnit_follows unit
    refine ⟨_, ?_, follows⟩
    rw [ingestUnit, unsealed, ← keys]
    rfl
  · intro unit member top listed inner within
    have sorted : unit ∈ sortUnits units := (sortUnits_perm units).mem_iff.2 member
    rcases Visit.covered_walkUnits builder.index.taken sorted listed within with
      found | ⟨stopped, refused, above, below⟩
    · left
      rw [follows.entries]
      exact List.mem_append_right _ found
    · refine Or.inr ⟨stopped, refused, ?_, above, below⟩
      rw [follows.diagnostics]
      exact List.mem_append_right _ (List.mem_map_of_mem refused)
  · rw [← Visit.count_walkUnits]
    exact ((sortUnits_perm units).map _).sum_eq.symm

/-- Of two units that declare one type the second is reported, and what is nested in it with it;
another type of that unit is kept. -/
theorem ingestUnits_second_definition :
    let first : CompilationUnit :=
      { package := "p", types := [{ name := "A", nestedTypes := [{ name := "B" }] }]
        path := "a/A.java" }
    let second : CompilationUnit :=
      { package := "p"
        types := [{ name := "A", nestedTypes := [{ name := "C" }] }, { name := "D" }]
        path := "b/A.java" }
    ∃ index, ({} : IndexBuilder).ingestUnits [second, first] = .ok { index } ∧
      index.taken = ["p.A", "p.A$B", "p.D"] ∧ index.diagnostics.map (·.subject) = ["p.A"] := by
  intro first second
  have sorted : sortUnits [second, first] = [first, second] :=
    sortUnits_eq_of_sorted (List.Perm.swap second first []) (by decide +kernel)
  obtain ⟨index, ingested, follows, _⟩ := ingestUnits_follows_walk {} rfl [second, first]
  rw [sorted] at follows
  have refused : (Visit.refused (walkUnits ({} : IndexBuilder).index.taken
      [first, second])).map (·.key) = ["p.A"] := by decide +kernel
  refine ⟨index, ingested, ?_, ?_⟩
  · rw [follows.taken]
    decide +kernel
  · rw [follows.diagnostics, ← refused, List.map_append, List.map_map]
    rfl

end IndexBuilder

end ClassAtlas
