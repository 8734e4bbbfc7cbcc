import Mathlib.Data.List.Basic
import Mathlib.Logic.Relation
import ClassAtlas.Proofs.ValidUsages

/-!
# The class types that a usage reaches

A usage is read part by part: the component of an array, the upper bound of a wildcard, the first
bound of a type variable and the arguments of a class type. A place in a usage is a path of such
steps, and the sites of the usage are the class types at its places, depth first. Reading goes on
from a usage by peeling it or with the arguments of the class type that it refers to, and both make
it smaller, so reading ends.
-/
namespace ClassAtlas.TypeUsage

/-! ## Parts and places -/

/-- A step from a usage to a part of it that is read. -/
inductive Step where
  /-- To the component of an array. -/
  | component
  /-- To the upper bound of a wildcard. -/
  | upperBound
  /-- To the first bound of a type variable. -/
  | firstBound
  /-- To an argument of a class type, counted from zero. -/
  | argument (index : Nat)
deriving DecidableEq, Repr

/-- The part of a usage that a step leads to. -/
def part? : TypeUsage → Step → Option TypeUsage
  | .array component, .component => some component
  | .wildcard upper _, .upperBound => if upper.isSpecified then some upper else none
  | .typeVar _ (bound :: _), .firstBound => some bound
  | .named _ arguments, .argument index => arguments[index]?
  | _, _ => none

/-- A place in a usage: the steps that lead to it. -/
abbrev Place := List Step

/-- What stands at a place of a usage. -/
def at? (usage : TypeUsage) : Place → Option TypeUsage
  | [] => some usage
  | step :: place => (usage.part? step).bind (·.at? place)

/-- The class type that a usage is. -/
def class? : TypeUsage → Option ClassUsage
  | .named name arguments => some ⟨name, arguments⟩
  | _ => none

/-- The class type at a place of a usage. -/
def classAt? (usage : TypeUsage) (place : Place) : Option ClassUsage :=
  (usage.at? place).bind class?

/-- Whether a step leads to an argument before the one that another step leads to. -/
inductive Step.Before : Step → Step → Prop where
  | argument {first second : Nat} (less : first < second) :
      Before (.argument first) (.argument second)

/-- Places depth first: one before those inside it, and those in an argument before those in later
arguments. -/
abbrev Place.Before : Place → Place → Prop := List.Lex Step.Before

/-- Whether a turn of peeling goes on from one usage with another. -/
inductive PeelsTo : TypeUsage → TypeUsage → Prop where
  | array (component : TypeUsage) : PeelsTo (.array component) component
  | wildcard {upper : TypeUsage} (given : upper.isSpecified = true) (lower : TypeUsage) :
      PeelsTo (.wildcard upper lower) upper
  | typeVar (name : String) (bound : TypeUsage) (later : List TypeUsage) :
      PeelsTo (.typeVar name (bound :: later)) bound

/-- Whether reading a usage goes on with another: by a turn of peeling, or by reading an argument of
the class type that the usage refers to. -/
inductive GoesOnWith (usage next : TypeUsage) : Prop where
  | turn (peeled : PeelsTo usage next)
  | argument {raw : ClassUsage} (peeled : usage.head? = some raw) (listed : next ∈ raw.arguments)

variable {usage inner : TypeUsage} {step : Step} {place : Place}

/-- Parts are smaller. -/
theorem sizeOf_part? (found : usage.part? step = some inner) : sizeOf inner < sizeOf usage := by
  unfold part? at found
  split at found
  · obtain rfl := Option.some.inj found
    simp
  · split at found
    · obtain rfl := Option.some.inj found
      simp
      omega
    · contradiction
  · obtain rfl := Option.some.inj found
    simp
    omega
  · have smaller := List.sizeOf_lt_of_mem (List.mem_of_getElem? found)
    simp
    omega
  · contradiction

/-- Going from part to part ends. -/
theorem parts_wellFounded :
    WellFounded fun inner usage : TypeUsage => ∃ step, usage.part? step = some inner := by
  refine Subrelation.wf ?_ (measure (sizeOf : TypeUsage → Nat)).wf
  rintro inner usage ⟨step, found⟩
  exact sizeOf_part? found

/-- What holds of a usage whenever it holds of its parts holds of every usage. -/
theorem parts_induction {motive : TypeUsage → Prop}
    (whole : ∀ usage : TypeUsage,
      (∀ step inner, usage.part? step = some inner → motive inner) → motive usage)
    (usage : TypeUsage) : motive usage :=
  parts_wellFounded.induction usage fun usage parts =>
    whole usage fun step inner found => parts inner ⟨step, found⟩

mutual

/-- The places of a usage that lead to class types, depth first. -/
def places : TypeUsage → List Place
  | .unspecified => []
  | .primitive _ => []
  | .named _ arguments => [] :: placesOfAll 0 arguments
  | .array component => (places component).map (.component :: ·)
  | .wildcard upper _ => (places upper).map (.upperBound :: ·)
  | .typeVar _ bounds => placesOfFirst bounds

/-- The places of arguments that are counted from a number. -/
def placesOfAll (start : Nat) : List TypeUsage → List Place
  | [] => []
  | usage :: usages =>
    (places usage).map (.argument start :: ·) ++ placesOfAll (start + 1) usages

/-- The places of the first of some bounds. -/
def placesOfFirst : List TypeUsage → List Place
  | [] => []
  | bound :: _ => (places bound).map (.firstBound :: ·)

end

/-- The places of arguments are those of each behind its step. -/
theorem placesOfAll_eq_flatMap (start : Nat) (arguments : List TypeUsage) :
    placesOfAll start arguments = (arguments.zipIdx start).flatMap fun argument =>
      argument.1.places.map (.argument argument.2 :: ·) := by
  induction arguments generalizing start with
  | nil => simp [placesOfAll]
  | cons argument arguments ih => simp [placesOfAll, ih]

/-- Where there is no usage there is no part to read. -/
theorem eq_unspecified_of_isSpecified (absent : usage.isSpecified = false) :
    usage = .unspecified := by
  cases usage with
  | unspecified => rfl
  | _ => contradiction

/-- A usage has a class type at the empty place if it is one itself. -/
theorem nil_mem_places : [] ∈ usage.places ↔ ∃ site, usage.class? = some site := by
  cases usage with
  | typeVar name bounds => cases bounds <;> simp [places, placesOfFirst, class?]
  | _ => simp [places, class?]

/-- The places behind a step are those of the part that it leads to. -/
theorem cons_mem_places :
    step :: place ∈ usage.places ↔
      ∃ inner, usage.part? step = some inner ∧ place ∈ inner.places := by
  cases usage with
  | unspecified => simp [places, part?]
  | primitive name => simp [places, part?]
  | named name arguments =>
    cases step <;> simp [places, part?, placesOfAll_eq_flatMap, List.mem_zipIdx_iff_getElem?]
  | array component => cases step <;> simp [places, part?]
  | wildcard upper lower =>
    cases given : upper.isSpecified with
    | true => cases step <;> simp [places, part?, given]
    | false =>
      obtain rfl := eq_unspecified_of_isSpecified given
      cases step <;> simp [places, part?, isSpecified]
  | typeVar name bounds =>
    cases bounds <;> cases step <;> simp [places, placesOfFirst, part?]

/-- The listed places are those with a class type. -/
theorem mem_places : place ∈ usage.places ↔ ∃ site, usage.classAt? place = some site := by
  induction place generalizing usage with
  | nil => exact nil_mem_places
  | cons step place ih =>
    rw [cons_mem_places, classAt?, at?]
    cases usage.part? step with
    | none => simp
    | some inner =>
      simp [ih]
      rfl

/-- Behind one step, places come in the order in which they come in the part. -/
theorem pairwise_behind (step : Step) {places : List Place}
    (ordered : places.Pairwise Place.Before) : (places.map (step :: ·)).Pairwise Place.Before :=
  ordered.map _ fun _ _ => List.Lex.cons

/-- The places are listed depth first. -/
theorem places_ordered (usage : TypeUsage) : usage.places.Pairwise Place.Before := by
  induction usage using parts_induction with
  | whole usage ih =>
    cases usage with
    | unspecified => rw [places]; exact .nil
    | primitive name => rw [places]; exact .nil
    | named name arguments =>
      rw [places, placesOfAll_eq_flatMap, List.pairwise_cons, List.pairwise_flatMap]
      refine ⟨fun place listed => ?_, fun argument listed => ?_, ?_⟩
      · obtain ⟨argument, _, inside⟩ := List.mem_flatMap.1 listed
        obtain ⟨inner, _, rfl⟩ := List.mem_map.1 inside
        exact .nil
      · exact pairwise_behind _ (ih (.argument argument.2) argument.1
          (List.mem_zipIdx_iff_getElem?.1 listed))
      · have counted : (arguments.zipIdx.map Prod.snd).Pairwise (· < ·) := by
          rw [List.zipIdx_map_snd]
          exact List.pairwise_lt_range'
        refine (List.pairwise_map.1 counted).imp fun less first here second there => ?_
        obtain ⟨_, _, rfl⟩ := List.mem_map.1 here
        obtain ⟨_, _, rfl⟩ := List.mem_map.1 there
        exact .rel (.argument less)
    | array component =>
      rw [places]
      exact pairwise_behind _ (ih .component component rfl)
    | wildcard upper lower =>
      rw [places]
      cases given : upper.isSpecified with
      | true => exact pairwise_behind _ (ih .upperBound upper (by simp [part?, given]))
      | false =>
        rw [eq_unspecified_of_isSpecified given, places]
        exact .nil
    | typeVar name bounds =>
      rw [places]
      cases bounds with
      | nil => rw [placesOfFirst]; exact .nil
      | cons bound later =>
        rw [placesOfFirst]
        exact pairwise_behind _ (ih .firstBound bound rfl)

/-! ## Sites -/

/-- Behind a step stand the class types of the part that it leads to. -/
theorem map_classAt?_behind (found : usage.part? step = some inner)
    (listed : inner.places.map inner.classAt? = inner.sites.map some) :
    (inner.places.map (step :: ·)).map usage.classAt? = inner.sites.map some := by
  rw [List.map_map, ← listed]
  apply List.map_congr_left
  intro place _
  rw [Function.comp_apply, classAt?, at?, found]
  rfl

/-- The sites of a usage are the class types at its places, in their order. -/
theorem map_classAt?_places (usage : TypeUsage) :
    usage.places.map usage.classAt? = usage.sites.map some := by
  induction usage using parts_induction with
  | whole usage ih =>
    cases usage with
    | unspecified => simp [places, sites]
    | primitive name => simp [places, sites]
    | named name arguments =>
      have inside : ∀ argument ∈ arguments.zipIdx,
          (argument.1.places.map (.argument argument.2 :: ·)).map
              (TypeUsage.named name arguments).classAt? = argument.1.sites.map some := by
        intro argument listed
        have found : (TypeUsage.named name arguments).part? (.argument argument.2) =
            some argument.1 := List.mem_zipIdx_iff_getElem?.1 listed
        exact map_classAt?_behind found (ih _ _ found)
      have uncounted : arguments.flatMap (fun argument => argument.sites.map some) =
          arguments.zipIdx.flatMap fun argument => argument.1.sites.map some := by
        conv_lhs => rw [← List.zipIdx_map_fst 0 arguments]
        rw [List.flatMap_map]
      rw [places, sites, placesOfAll_eq_flatMap, sitesOfAll_eq_flatMap, List.map_cons,
        List.map_cons, List.map_flatMap, List.map_flatMap, List.flatMap_congr inside, uncounted]
      rfl
    | array component =>
      rw [places, sites]
      exact map_classAt?_behind rfl (ih .component component rfl)
    | wildcard upper lower =>
      rw [places, sites]
      cases given : upper.isSpecified with
      | true =>
        have found : (TypeUsage.wildcard upper lower).part? .upperBound = some upper := by
          simp [part?, given]
        exact map_classAt?_behind found (ih .upperBound upper found)
      | false =>
        rw [eq_unspecified_of_isSpecified given, places, sites]
        rfl
    | typeVar name bounds =>
      rw [places, sites]
      cases bounds with
      | nil => rw [placesOfFirst, sitesOfFirst]; rfl
      | cons bound later =>
        rw [placesOfFirst, sitesOfFirst]
        exact map_classAt?_behind rfl (ih .firstBound bound rfl)

/-! ## Peeling -/

namespace PeelsTo

variable {next : TypeUsage}

/-- A turn of peeling goes on with a part. -/
theorem exists_step (turn : PeelsTo usage next) : ∃ step, usage.part? step = some next := by
  cases turn with
  | array component => exact ⟨.component, rfl⟩
  | wildcard given lower => exact ⟨.upperBound, by simp [part?, given]⟩
  | typeVar name bound later => exact ⟨.firstBound, rfl⟩

/-- Peeled usages refer to the same class type. -/
theorem head?_eq (turn : PeelsTo usage next) : usage.head? = next.head? := by
  cases turn with
  | array component => rw [head?]
  | wildcard given lower => rw [head?]
  | typeVar name bound later => rw [head?, headOfFirst?]

/-- Peeled usages reach the same class types. -/
theorem sites_eq (turn : PeelsTo usage next) : usage.sites = next.sites := by
  cases turn with
  | array component => rw [sites]
  | wildcard given lower => rw [sites]
  | typeVar name bound later => rw [sites, sitesOfFirst]

end PeelsTo

/-- A usage is a class type, or it is peeled further, or it refers to nothing. -/
theorem peel_cases (usage : TypeUsage) :
    (∃ name arguments, usage = .named name arguments) ∨
      (∃ next, PeelsTo usage next) ∨
      ((∀ next, ¬PeelsTo usage next) ∧ usage.class? = none ∧ usage.head? = none ∧
        usage.sites = []) := by
  cases usage with
  | unspecified =>
    refine .inr (.inr ⟨?_, by simp [class?, head?, sites]⟩)
    rintro next ⟨⟩
  | primitive name =>
    refine .inr (.inr ⟨?_, by simp [class?, head?, sites]⟩)
    rintro next ⟨⟩
  | named name arguments => exact .inl ⟨name, arguments, rfl⟩
  | array component => exact .inr (.inl ⟨component, .array component⟩)
  | wildcard upper lower =>
    cases given : upper.isSpecified with
    | true => exact .inr (.inl ⟨upper, .wildcard given lower⟩)
    | false =>
      refine .inr (.inr ⟨?_, ?_⟩)
      · rintro next ⟨⟩
        next specified => exact Bool.false_ne_true (given.symm.trans specified)
      · rw [eq_unspecified_of_isSpecified given]
        simp [class?, head?, sites]
  | typeVar name bounds =>
    cases bounds with
    | nil =>
      refine .inr (.inr ⟨?_, by simp [class?, head?, headOfFirst?, sites, sitesOfFirst]⟩)
      rintro next ⟨⟩
    | cons bound later => exact .inr (.inl ⟨bound, .typeVar name bound later⟩)

/-- Peeling ends, and what it ends in is the class type that the usage refers to, if it is one. -/
theorem exists_peeled (usage : TypeUsage) :
    ∃ last, Relation.ReflTransGen PeelsTo usage last ∧ (∀ next, ¬PeelsTo last next) ∧
      usage.head? = last.class? := by
  induction usage using parts_induction with
  | whole usage ih =>
    rcases usage.peel_cases with ⟨name, arguments, rfl⟩ | ⟨next, turn⟩ | ⟨last, none, peeled, _⟩
    · exact ⟨_, .refl, nofun, by rw [head?, class?]⟩
    · obtain ⟨step, found⟩ := turn.exists_step
      obtain ⟨last, turns, ended, peeled⟩ := ih step next found
      exact ⟨last, .head turn turns, ended, turn.head?_eq.trans peeled⟩
    · exact ⟨usage, .refl, last, peeled.trans none.symm⟩

/-- The arguments of the class type that a usage refers to are smaller than the usage. -/
theorem sizeOf_argument {raw : ClassUsage} (peeled : usage.head? = some raw)
    (listed : inner ∈ raw.arguments) : sizeOf inner < sizeOf usage := by
  induction usage using parts_induction with
  | whole usage ih =>
    rcases usage.peel_cases with ⟨name, arguments, rfl⟩ | ⟨next, turn⟩ | ⟨_, _, nothing, _⟩
    · rw [head?] at peeled
      obtain rfl := Option.some.inj peeled
      have smaller : sizeOf inner < sizeOf arguments := List.sizeOf_lt_of_mem listed
      simp
      omega
    · obtain ⟨step, found⟩ := turn.exists_step
      have below := ih step next found (turn.head?_eq.symm.trans peeled)
      exact Nat.lt_trans below (sizeOf_part? found)
    · exact absurd (nothing.symm.trans peeled) (Option.some_ne_none raw).symm

/-- Reading ends: it cannot go on from usage to usage for ever. -/
theorem goesOnWith_wellFounded : WellFounded fun next usage => GoesOnWith usage next := by
  refine Subrelation.wf ?_ (measure (sizeOf : TypeUsage → Nat)).wf
  intro next usage reading
  cases reading with
  | turn peeled =>
    obtain ⟨step, found⟩ := peeled.exists_step
    exact sizeOf_part? found
  | argument peeled listed => exact sizeOf_argument peeled listed

/-- A usage reaches the class type that it refers to and what the arguments of that one reach. -/
theorem sites_eq (usage : TypeUsage) :
    usage.sites = usage.head?.toList.flatMap fun raw => raw :: raw.arguments.flatMap sites := by
  induction usage using parts_induction with
  | whole usage ih =>
    rcases usage.peel_cases with ⟨name, arguments, rfl⟩ | ⟨next, turn⟩ | ⟨_, _, peeled, nothing⟩
    · rw [sites, head?, sitesOfAll_eq_flatMap]
      simp
    · obtain ⟨step, found⟩ := turn.exists_step
      rw [turn.sites_eq, turn.head?_eq]
      exact ih step next found
    · rw [peeled, nothing]
      rfl

/-- The first class type that a usage reaches is the one that it refers to. -/
theorem head?_sites (usage : TypeUsage) : usage.sites.head? = usage.head? := by
  rw [sites_eq]
  cases usage.head? with
  | none => rfl
  | some raw => simp

/-! ## Usages that are left out -/

/-- Arguments can be listed if each can. -/
theorem allHaveSites_iff {usages : List TypeUsage} :
    allHaveSites usages = true ↔ ∀ usage ∈ usages, usage.hasSites = true := by
  induction usages with
  | nil => simp [allHaveSites]
  | cons usage usages ih => simp [allHaveSites, ih]

/-- A usage can be listed if it is one and each of its parts can. -/
theorem hasSites_iff_parts : usage.hasSites = true ↔
    usage ≠ .unspecified ∧ ∀ step inner, usage.part? step = some inner → inner.hasSites = true := by
  cases usage with
  | unspecified => simp [hasSites]
  | primitive name => simp [hasSites, part?]
  | named name arguments =>
    rw [hasSites, allHaveSites_iff]
    constructor
    · refine fun each => ⟨nofun, fun step inner found => ?_⟩
      cases step with
      | argument index => exact each inner (List.mem_of_getElem? found)
      | _ => contradiction
    · rintro ⟨_, parts⟩ argument listed
      obtain ⟨index, found⟩ := List.getElem?_of_mem listed
      exact parts (.argument index) argument found
  | array component =>
    rw [hasSites]
    refine ⟨fun listed => ⟨nofun, fun step inner found => ?_⟩,
      fun parts => parts.2 .component _ rfl⟩
    cases step with
    | component => exact Option.some.inj found ▸ listed
    | _ => contradiction
  | wildcard upper lower =>
    cases given : upper.isSpecified with
    | true =>
      have found : (TypeUsage.wildcard upper lower).part? .upperBound = some upper := by
        simp [part?, given]
      rw [hasSites, given, Bool.not_true, Bool.false_or]
      refine ⟨fun listed => ⟨nofun, fun step inner part => ?_⟩,
        fun parts => parts.2 .upperBound _ found⟩
      cases step with
      | upperBound => exact Option.some.inj (found.symm.trans part) ▸ listed
      | _ => contradiction
    | false =>
      obtain rfl := eq_unspecified_of_isSpecified given
      rw [hasSites, given]
      refine ⟨fun _ => ⟨nofun, fun step inner part => ?_⟩, fun _ => rfl⟩
      cases step with
      | _ => contradiction
  | typeVar name bounds =>
    rw [hasSites]
    cases bounds with
    | nil =>
      rw [firstHasSites]
      exact ⟨fun _ => ⟨nofun, fun _ _ part => by contradiction⟩, fun _ => rfl⟩
    | cons bound later =>
      rw [firstHasSites]
      refine ⟨fun listed => ⟨nofun, fun step inner found => ?_⟩,
        fun parts => parts.2 .firstBound _ rfl⟩
      cases step with
      | firstBound => exact Option.some.inj found ▸ listed
      | _ => contradiction

/-- Listing a usage fails exactly where it meets a usage that is left out. -/
theorem hasSites_iff : usage.hasSites = true ↔ ∀ place, usage.at? place ≠ some .unspecified := by
  induction usage using parts_induction with
  | whole usage ih =>
    rw [hasSites_iff_parts]
    constructor
    · rintro ⟨given, parts⟩ place
      cases place with
      | nil => exact fun left => given (Option.some.inj left)
      | cons step place =>
        rw [at?]
        cases found : usage.part? step with
        | none => exact nofun
        | some inner => exact (ih step inner found).1 (parts step inner found) place
    · intro given
      refine ⟨fun left => given [] (congrArg some left), fun step inner found => ?_⟩
      refine (ih step inner found).2 fun place => ?_
      have behind := given (step :: place)
      rw [at?, found] at behind
      exact behind

/-! ## What is listed -/

/-- The sites of a usage are the class types at its places, one for each place that has one, and the
places come depth first. The first is the class type that the usage refers to, and there is none
exactly if the usage refers to none; the others are the sites of its arguments. An array of the
usage, a wildcard with it as upper bound and a variable with it as first bound have the same sites,
whatever their other bounds are. Peeling ends in what the usage refers to, and reading on through
turns of peeling and arguments ends. It fails exactly where it meets a usage that is left out, which
never happens in a valid one. -/
theorem sites_by_place (usage : TypeUsage) :
    (∃ places : List Place, places.Pairwise Place.Before ∧
      (∀ place, place ∈ places ↔ ∃ site, usage.classAt? place = some site) ∧
      places.map usage.classAt? = usage.sites.map some) ∧
    usage.sites.head? = usage.head? ∧ (usage.sites = [] ↔ usage.head? = none) ∧
    usage.sites = (usage.head?.toList.flatMap fun raw => raw :: raw.arguments.flatMap sites) ∧
    (∀ name lower later, (TypeUsage.array usage).sites = usage.sites ∧
      (TypeUsage.wildcard usage lower).sites = usage.sites ∧
      (TypeUsage.typeVar name (usage :: later)).sites = usage.sites) ∧
    (∃ last, Relation.ReflTransGen PeelsTo usage last ∧ (∀ next, ¬PeelsTo last next) ∧
      usage.head? = last.class?) ∧
    Acc (fun next current => GoesOnWith current next) usage ∧
    (usage.hasSites = true ↔ ∀ place, usage.at? place ≠ some .unspecified) ∧
    (usage.isValid = true → usage.hasSites = true) := by
  refine ⟨⟨usage.places, usage.places_ordered, fun _ => mem_places, usage.map_classAt?_places⟩,
    usage.head?_sites, ?_, usage.sites_eq, fun name lower later => ⟨?_, ?_, ?_⟩,
    usage.exists_peeled, goesOnWith_wellFounded.apply usage, hasSites_iff,
    fun valid => (readable_of_isValid usage valid).2.2⟩
  · rw [← usage.head?_sites, List.head?_eq_none_iff]
  · exact (PeelsTo.array usage).sites_eq
  · rw [sites]
  · exact (PeelsTo.typeVar name usage later).sites_eq

/-- A map to lists of arrays reaches its four class types in the order in which they are written. -/
example : (TypeUsage.named "Map" [.named "String" [], .named "List"
    [.wildcard (.array (.named "Foo" [])) (.named "Bar" [])]]).sites.map (·.name) =
      ["Map", "String", "List", "Foo"] := by
  decide

end ClassAtlas.TypeUsage
