import ClassAtlas.Key
import ClassAtlas.Text.Blank
import ClassAtlas.Text.Identifier
import ClassAtlas.TypeUsage

/-!
# The characters of names

A name can be drawn if it stands on one line and holds no double quote. What is made of such names,
by joining them, cutting them or spelling a type with them, can be drawn too. The same holds of
names that only stand on one line, so the lemmas are about any test that passes what can be drawn.
-/
namespace ClassAtlas

namespace Text

/-- Whether a character stays on its line. -/
def isInline (c : Char) : Bool := c != '\n' && c != '\r'

/-- Whether a character may stand between double quotes. -/
def isQuotable (c : Char) : Bool := isInline c && c != '"'

/-- Whether every character of a text passes a test. -/
def Within (allowed : Char → Bool) (text : String) : Prop :=
  ∀ c ∈ text.toList, allowed c = true

instance (allowed : Char → Bool) (text : String) : Decidable (Within allowed text) :=
  List.decidableBAll (fun c => allowed c = true) text.toList

/-- Whether a test passes whatever may stand between double quotes. -/
def Lenient (allowed : Char → Bool) : Prop := ∀ c, isQuotable c = true → allowed c = true

/-- What may stand between double quotes does so. -/
theorem lenient_isQuotable : Lenient isQuotable := fun _ passed => passed

/-- What may stand between double quotes stays on its line. -/
theorem lenient_isInline : Lenient isInline := by
  intro c passed
  rw [isQuotable, Bool.and_eq_true] at passed
  exact passed.1

variable {allowed : Char → Bool} {text : String}

/-- A text that can be quoted passes every lenient test. -/
theorem Within.of_quotable (quotable : Within isQuotable text) (lenient : Lenient allowed) :
    Within allowed text :=
  fun c member => lenient c (quotable c member)

/-- A text on one line without a double quote can be quoted. -/
theorem Within.quotable (inline : Within isInline text) (unquoted : '"' ∉ text.toList) :
    Within isQuotable text := by
  intro c member
  have other : c ≠ '"' := fun same => unquoted (same ▸ member)
  simp [isQuotable, inline c member, other]

/-- A text that can be quoted holds no double quote. -/
theorem Within.unquoted (quotable : Within isQuotable text) : '"' ∉ text.toList :=
  fun member => absurd (quotable '"' member) (by decide)

/-- Whether no text in a list holds a double quote. -/
def Unquoted (texts : List String) : Prop := ∀ text ∈ texts, '"' ∉ text.toList

/-- No text in a list holds a double quote if neither the first nor another does. -/
@[simp] theorem unquoted_cons {text : String} {texts : List String} :
    Unquoted (text :: texts) ↔ '"' ∉ text.toList ∧ Unquoted texts := List.forall_mem_cons

/-- No text in two lists holds a double quote if none in either does. -/
@[simp] theorem unquoted_append {front back : List String} :
    Unquoted (front ++ back) ↔ Unquoted front ∧ Unquoted back := List.forall_mem_append

/-- No text made from values holds a double quote if none from any value does. -/
@[simp] theorem unquoted_flatMap {α : Type} {block : α → List String} {values : List α} :
    Unquoted (values.flatMap block) ↔ ∀ value ∈ values, Unquoted (block value) :=
  List.forall_mem_flatMap

/-- Texts on one line that hold no double quote can be quoted. -/
theorem Unquoted.quotable {texts : List String} (unquoted : Unquoted texts)
    (inline : ∀ text ∈ texts, Within isInline text) : ∀ text ∈ texts, Within isQuotable text :=
  fun text member => (inline text member).quotable (unquoted text member)

/-! ## Joining and cutting -/

/-- Texts pass a test joined if they pass it apart. -/
@[simp] theorem within_append {left right : String} :
    Within allowed (left ++ right) ↔ Within allowed left ∧ Within allowed right := by
  simp only [Within, String.toList_append, List.forall_mem_append]

/-- A text passes a test if its characters do. -/
theorem within_ofList {chars : List Char} :
    Within allowed (String.ofList chars) ↔ ∀ c ∈ chars, allowed c = true := by
  rw [Within, String.toList_ofList]

/-- Texts pass a test with a separator between them if all of them do. -/
theorem Within.intercalate {separator : String} (between : Within allowed separator)
    {texts : List String} (each : ∀ text ∈ texts, Within allowed text) :
    Within allowed (separator.intercalate texts) := by
  induction texts with
  | nil => exact List.forall_mem_nil _
  | cons first texts ih =>
    have here := each first List.mem_cons_self
    have later := ih fun text member => each text (List.mem_cons_of_mem first member)
    cases texts with
    | nil => simpa [String.intercalate_singleton] using here
    | cons second texts =>
      rw [String.intercalate_cons_cons, within_append, within_append]
      exact ⟨⟨here, between⟩, later⟩

/-- What stands before and behind a cut passes a test that the text passes. -/
theorem Within.of_cutLast {separates : Char → Bool} {before after : String}
    (passed : Within allowed text) (cut : cutLast separates text = some (before, after)) :
    Within allowed before ∧ Within allowed after := by
  obtain ⟨⟨front, back⟩, found, same⟩ := Option.map_eq_some_iff.1 cut
  obtain ⟨rfl, rfl⟩ := Prod.mk.inj same
  obtain ⟨separator, parts, _, _⟩ := splitLast_eq_some found
  rw [within_ofList, within_ofList]
  constructor
  · exact fun c member => passed c (by rw [parts]; simp [member])
  · exact fun c member => passed c (by rw [parts]; simp [member])

/-- What stands before and behind the first cut passes a test that the characters pass. -/
theorem forall_of_splitFirst {separates : Char → Bool} {chars before after : List Char}
    (passed : ∀ c ∈ chars, allowed c = true)
    (cut : splitFirst separates chars = some (before, after)) :
    (∀ c ∈ before, allowed c = true) ∧ ∀ c ∈ after, allowed c = true := by
  induction chars generalizing before with
  | nil => exact absurd cut (Option.some_ne_none _).symm
  | cons c rest ih =>
    obtain ⟨here, later⟩ := List.forall_mem_cons.1 passed
    rw [splitFirst] at cut
    split at cut
    · obtain ⟨rfl, rfl⟩ := Prod.mk.inj (Option.some.inj cut)
      exact ⟨List.forall_mem_nil _, later⟩
    · obtain ⟨⟨front, back⟩, found, same⟩ := Option.map_eq_some_iff.1 cut
      obtain ⟨rfl, rfl⟩ := Prod.mk.inj same
      obtain ⟨first, second⟩ := ih later found
      exact ⟨List.forall_mem_cons.2 ⟨here, first⟩, second⟩

/-- The same of a text. -/
theorem Within.of_cutFirst {separates : Char → Bool} {before after : String}
    (passed : Within allowed text) (cut : cutFirst separates text = some (before, after)) :
    Within allowed before ∧ Within allowed after := by
  obtain ⟨⟨front, back⟩, found, same⟩ := Option.map_eq_some_iff.1 cut
  obtain ⟨rfl, rfl⟩ := Prod.mk.inj same
  rw [within_ofList, within_ofList]
  exact forall_of_splitFirst passed found

/-- The part behind the last separator passes a test that the text passes. -/
theorem Within.afterLast {separates : Char → Bool} (passed : Within allowed text) :
    Within allowed (afterLast separates text) := by
  unfold Text.afterLast
  split
  · next found => exact (passed.of_cutLast found).2
  · exact passed

/-- Replacing a character by one that passes keeps a text passing. -/
theorem Within.replaceChar {old new : Char} (passed : Within allowed text)
    (newPasses : allowed new = true) : Within allowed (replaceChar old new text) := by
  rw [Text.replaceChar, within_ofList]
  intro c member
  obtain ⟨source, here, rfl⟩ := List.mem_map.1 member
  split
  · exact newPasses
  · exact passed source here

/-! ## What a source yields -/

/-- A text without blanks stands on one line. -/
theorem within_squeeze (text : String) : Within isInline (squeeze text) := by
  rw [squeeze, within_ofList]
  intro c member
  obtain ⟨_, kept⟩ := List.mem_filter.1 member
  have feed : c ≠ '\n' := fun same => by simp [same, isBlank] at kept
  have carriage : c ≠ '\r' := fun same => by simp [same, isBlank] at kept
  simp [isInline, feed, carriage]

/-- A test that passes no line end and no double quote passes only what may be quoted. -/
theorem isQuotable_of_test {test : Char → Bool} (feed : test '\n' = false)
    (carriage : test '\r' = false) (quote : test '"' = false) {c : Char}
    (passed : test c = true) : isQuotable c = true := by
  have other {refused : Char} (fails : test refused = false) : c ≠ refused := by
    intro same
    rw [same, fails] at passed
    exact absurd passed Bool.false_ne_true
  simp [isQuotable, isInline, other feed, other carriage, other quote]

/-- The characters of identifiers may stand between double quotes. -/
theorem isQuotable_of_isIdentifierPart {c : Char} (part : isIdentifierPart c = true) :
    isQuotable c = true :=
  isQuotable_of_test (by decide) (by decide) (by decide) part

/-- So may those that start identifiers. -/
theorem isQuotable_of_isIdentifierStart {c : Char} (start : isIdentifierStart c = true) :
    isQuotable c = true :=
  isQuotable_of_test (by decide) (by decide) (by decide) start

end Text

/-! ## Keys -/

namespace Key

open Text (Within Lenient)

variable {allowed : Char → Bool}

/-- A key made of passing parts passes. -/
theorem within_make (lenient : Lenient allowed) {name package : String} {owner : Option Key}
    (named : Within allowed name) (packaged : Within allowed package)
    (owned : ∀ key, owner = some key → Within allowed key) :
    Within allowed (make name package owner) := by
  have placed : Within allowed (make.inPackage name package) := by
    unfold make.inPackage
    split
    · exact named
    · have dot : Within allowed "." := Within.of_quotable (by decide) lenient
      exact Text.within_append.2 ⟨Text.within_append.2 ⟨packaged, dot⟩, named⟩
  unfold make
  split
  · next key =>
    split
    · exact placed
    · have dollar : Within allowed "$" := Within.of_quotable (by decide) lenient
      exact Text.within_append.2 ⟨Text.within_append.2 ⟨owned key rfl, dollar⟩, named⟩
  · exact placed

/-- The source spelling of a passing key passes. -/
theorem within_dotted (lenient : Lenient allowed) {key : Key} (passed : Within allowed key) :
    Within allowed key.dotted :=
  passed.replaceChar (lenient '.' (by decide))

end Key

/-! ## Usages -/

namespace TypeUsage

open Text (Within Lenient)

mutual

/-- The names in a usage. -/
def names : TypeUsage → List String
  | .unspecified => []
  | .primitive name => [name]
  | .named name arguments => name :: namesOfAll arguments
  | .array component => names component
  | .wildcard upper lower => names upper ++ names lower
  | .typeVar name bounds => name :: namesOfAll bounds

/-- The names in usages. -/
def namesOfAll : List TypeUsage → List String
  | [] => []
  | usage :: usages => names usage ++ namesOfAll usages

end

/-- Whether every name in a usage passes a test. -/
def NamesWithin (allowed : Char → Bool) (usage : TypeUsage) : Prop :=
  ∀ name ∈ usage.names, Within allowed name

variable {allowed : Char → Bool}

/-- The names in usages are those in each. -/
theorem namesOfAll_eq_flatMap (usages : List TypeUsage) :
    namesOfAll usages = usages.flatMap names := by
  induction usages with
  | nil => rfl
  | cons usage usages ih => rw [namesOfAll, List.flatMap_cons, ih]

/-- A class type passes a test if its name and its arguments do. -/
theorem namesWithin_named {name : String} {arguments : List TypeUsage} :
    NamesWithin allowed (.named name arguments) ↔
      Within allowed name ∧ ∀ usage ∈ arguments, usage.NamesWithin allowed := by
  rw [NamesWithin, names, List.forall_mem_cons, namesOfAll_eq_flatMap, List.forall_mem_flatMap]
  rfl

/-- A type variable passes a test if its name and its bounds do. -/
theorem namesWithin_typeVar {name : String} {bounds : List TypeUsage} :
    NamesWithin allowed (.typeVar name bounds) ↔
      Within allowed name ∧ ∀ usage ∈ bounds, usage.NamesWithin allowed := by
  rw [NamesWithin, names, List.forall_mem_cons, namesOfAll_eq_flatMap, List.forall_mem_flatMap]
  rfl

/-- A wildcard passes a test if its bounds do. -/
theorem namesWithin_wildcard {upper lower : TypeUsage} :
    NamesWithin allowed (.wildcard upper lower) ↔
      upper.NamesWithin allowed ∧ lower.NamesWithin allowed := by
  rw [NamesWithin, names, List.forall_mem_append]
  rfl

mutual

/-- The spelling of a usage passes a test that its names pass. -/
theorem within_render (lenient : Lenient allowed) : ∀ usage : TypeUsage,
    usage.NamesWithin allowed → Within allowed usage.render
  | .unspecified, _ => by
    rw [render]
    exact Within.of_quotable (by decide) lenient
  | .primitive name, passed => by
    rw [render]
    exact passed name (by simp [names])
  | .named name arguments, passed => by
    obtain ⟨here, inside⟩ := namesWithin_named.1 passed
    rw [render]
    split
    · exact here
    · have separator : Within allowed ", " := Within.of_quotable (by decide) lenient
      have opening : Within allowed "<" := Within.of_quotable (by decide) lenient
      have closing : Within allowed ">" := Within.of_quotable (by decide) lenient
      have joined := separator.intercalate (within_renderAll lenient arguments inside)
      simp only [Text.within_append]
      exact ⟨⟨⟨here, opening⟩, joined⟩, closing⟩
  | .array component, passed => by
    have brackets : Within allowed "[]" := Within.of_quotable (by decide) lenient
    rw [render, Text.within_append]
    exact ⟨within_render lenient component (by simpa [NamesWithin, names] using passed), brackets⟩
  | .wildcard upper lower, passed => by
    obtain ⟨above, below⟩ := namesWithin_wildcard.1 passed
    rw [render]
    split
    · have lead : Within allowed "? extends " := Within.of_quotable (by decide) lenient
      exact Text.within_append.2 ⟨lead, within_render lenient upper above⟩
    · split
      · have lead : Within allowed "? super " := Within.of_quotable (by decide) lenient
        exact Text.within_append.2 ⟨lead, within_render lenient lower below⟩
      · exact Within.of_quotable (by decide) lenient
  | .typeVar name bounds, passed => by
    rw [render]
    exact (namesWithin_typeVar.1 passed).1

/-- So do the spellings of usages. -/
theorem within_renderAll (lenient : Lenient allowed) : ∀ usages : List TypeUsage,
    (∀ usage ∈ usages, usage.NamesWithin allowed) →
      ∀ text ∈ renderAll usages, Within allowed text
  | [], _, text, member => by
    rw [renderAll] at member
    exact absurd member List.not_mem_nil
  | usage :: usages, passed, text, member => by
    obtain ⟨here, later⟩ := List.forall_mem_cons.1 passed
    rw [renderAll] at member
    rcases List.mem_cons.1 member with rfl | inside
    · exact within_render lenient usage here
    · exact within_renderAll lenient usages later text inside

end

mutual

/-- The class types that a usage reaches have names that pass a test that its names pass. -/
theorem within_sites : ∀ (usage : TypeUsage), usage.NamesWithin allowed →
    ∀ site ∈ usage.sites, Within allowed site.name
  | .unspecified, _, site, reached => by
    rw [sites] at reached
    exact absurd reached List.not_mem_nil
  | .primitive _, _, site, reached => by
    rw [sites] at reached
    exact absurd reached List.not_mem_nil
  | .named name arguments, passed, site, reached => by
    obtain ⟨here, inside⟩ := namesWithin_named.1 passed
    rw [sites] at reached
    rcases List.mem_cons.1 reached with rfl | later
    · exact here
    · exact within_sitesOfAll arguments inside site later
  | .array component, passed, site, reached => by
    rw [sites] at reached
    exact within_sites component (by simpa [NamesWithin, names] using passed) site reached
  | .wildcard upper lower, passed, site, reached => by
    rw [sites] at reached
    exact within_sites upper (namesWithin_wildcard.1 passed).1 site reached
  | .typeVar _ bounds, passed, site, reached => by
    rw [sites] at reached
    exact within_sitesOfFirst bounds (namesWithin_typeVar.1 passed).2 site reached

/-- So have those that usages reach. -/
theorem within_sitesOfAll : ∀ (usages : List TypeUsage),
    (∀ usage ∈ usages, usage.NamesWithin allowed) →
      ∀ site ∈ sitesOfAll usages, Within allowed site.name
  | [], _, site, reached => by
    rw [sitesOfAll] at reached
    exact absurd reached List.not_mem_nil
  | usage :: usages, passed, site, reached => by
    obtain ⟨here, later⟩ := List.forall_mem_cons.1 passed
    rw [sitesOfAll] at reached
    rcases List.mem_append.1 reached with first | second
    · exact within_sites usage here site first
    · exact within_sitesOfAll usages later site second

/-- So have those that the first of some bounds reaches. -/
theorem within_sitesOfFirst : ∀ (usages : List TypeUsage),
    (∀ usage ∈ usages, usage.NamesWithin allowed) →
      ∀ site ∈ sitesOfFirst usages, Within allowed site.name
  | [], _, site, reached => by
    rw [sitesOfFirst] at reached
    exact absurd reached List.not_mem_nil
  | usage :: _, passed, site, reached => by
    rw [sitesOfFirst] at reached
    exact within_sites usage (passed usage List.mem_cons_self) site reached

end

mutual

/-- The class type that a usage refers to passes a test that the names in the usage pass. -/
theorem namesWithin_head : ∀ (usage : TypeUsage) (found : ClassUsage),
    usage.NamesWithin allowed → usage.head? = some found →
      NamesWithin allowed (.named found.name found.arguments)
  | .unspecified, _, _, peeled => by
    rw [head?] at peeled
    exact absurd peeled (Option.some_ne_none _).symm
  | .primitive _, _, _, peeled => by
    rw [head?] at peeled
    exact absurd peeled (Option.some_ne_none _).symm
  | .named _ _, _, passed, peeled => by
    rw [head?] at peeled
    rw [← Option.some.inj peeled]
    exact passed
  | .array component, found, passed, peeled => by
    rw [head?] at peeled
    exact namesWithin_head component found (by simpa [NamesWithin, names] using passed) peeled
  | .wildcard upper _, found, passed, peeled => by
    rw [head?] at peeled
    exact namesWithin_head upper found (namesWithin_wildcard.1 passed).1 peeled
  | .typeVar _ bounds, found, passed, peeled => by
    rw [head?] at peeled
    exact namesWithin_headOfFirst bounds found (namesWithin_typeVar.1 passed).2 peeled

/-- So does the one that the first of some bounds refers to. -/
theorem namesWithin_headOfFirst : ∀ (usages : List TypeUsage) (found : ClassUsage),
    (∀ usage ∈ usages, usage.NamesWithin allowed) → headOfFirst? usages = some found →
      NamesWithin allowed (.named found.name found.arguments)
  | [], _, _, peeled => by
    rw [headOfFirst?] at peeled
    exact absurd peeled (Option.some_ne_none _).symm
  | usage :: _, found, passed, peeled => by
    rw [headOfFirst?] at peeled
    exact namesWithin_head usage found (passed usage List.mem_cons_self) peeled

end

end TypeUsage

end ClassAtlas
