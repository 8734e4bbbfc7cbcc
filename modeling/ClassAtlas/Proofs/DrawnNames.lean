import ClassAtlas.Proofs.MemberPartition
import ClassAtlas.Proofs.ReferentialIntegrity
import ClassAtlas.Proofs.ResolvedNames
import ClassAtlas.Proofs.WrittenEvents

/-!
# The diagram of well-formed sources

Every text that the diagram of well-formed sources writes between double quotes stands on one line,
every type in it has a spelling and every node a kind. So there is one thing that a writer can
refuse, a double quote, and it gets into a diagram only by a name that is a stretch of source: a
comment or a string in the name of a package, an import, an annotation or the target of a call.
-/
namespace ClassAtlas

open Text (Within Lenient Unquoted isInline isQuotable)

variable {stretch : Char → Bool}

/-! ## Declarations -/

namespace TypeDeclaration

variable {declaration : TypeDeclaration}

/-- The members of a named declaration are named. -/
theorem Named.member (named : declaration.Named stretch) {member : FieldDecl} {component : Bool}
    (listed : (member, component) ∈ declaration.members) : member.Named stretch := by
  rcases origin_of_mem_members listed with inHead | inBody
  · exact named.components member inHead
  · exact named.fields member inBody

/-- The usages that may become dependencies of a named declaration have names that pass. -/
theorem Named.dependencySite (named : declaration.Named stretch) (lenient : Lenient stretch)
    {usage : TypeUsage} (site : usage ∈ declaration.dependencySites) :
    usage.NamesWithin stretch := by
  rcases origin_of_mem_dependencySites site with
    ⟨member, component, found, listed, peeled, inside⟩ | ⟨constructor, given, written⟩ |
      ⟨method, given, written⟩ | ⟨mention, given, rfl⟩
  · have type := (named.member listed).type.of_quotable lenient
    have head := TypeUsage.namesWithin_head member.type found type.names peeled
    exact (TypeUsage.namesWithin_named.1 head).2 usage inside
  · have type := (named.constructors constructor given).types usage written
    exact (type.of_quotable lenient).names
  · have type := (named.methods method given).types usage written
    exact (type.of_quotable lenient).names
  · have type : mention.type.Named (mention.kind.allows stretch) := named.usages mention given
    intro name member
    have passed := type.names name member
    cases kind : mention.kind with
    | staticCall =>
      rw [kind] at passed
      exact passed
    | _ =>
      rw [kind] at passed
      exact passed.of_quotable lenient

/-- A named declaration has valid usages. -/
theorem Named.hasValidUsages (named : declaration.Named stretch) :
    declaration.HasValidUsages := by
  have fields {decls : List FieldDecl} (each : ∀ field ∈ decls, field.Named stretch) :
      ∀ usage ∈ decls.map (·.type), usage.isValid = true := by
    intro usage member
    obtain ⟨field, listed, rfl⟩ := List.mem_map.1 member
    exact (each field listed).type.valid
  intro usage written
  simp only [writtenUsages, List.mem_append, List.mem_flatMap, or_assoc] at written
  rcases written with ⟨parameter, given, bound⟩ | extended | implemented | field | component |
    ⟨constructor, given, inside⟩ | ⟨method, given, inside⟩ | element | mention
  · exact ((named.typeParameters parameter given).bounds usage bound).valid
  · exact (named.extending usage extended).valid
  · exact (named.implementing usage implemented).valid
  · exact fields named.fields usage field
  · exact fields named.components usage component
  · exact ((named.constructors constructor given).types usage inside).valid
  · exact ((named.methods method given).types usage inside).valid
  · obtain ⟨member, given, rfl⟩ := List.mem_map.1 element
    exact (named.annotationMembers member given).valid
  · obtain ⟨site, given, rfl⟩ := List.mem_map.1 mention
    have type : site.type.Named (site.kind.allows stretch) := named.usages site given
    exact type.valid

end TypeDeclaration

/-! ## Edges -/

/-- An edge is named if its ends, its role and its stereotypes pass a test. -/
structure Edge.Named (allowed : Char → Bool) (edge : Edge) : Prop where
  src : Within allowed edge.src
  dst : Within allowed edge.dst
  role : Within allowed edge.role
  stereotypes : ∀ text ∈ edge.stereotypes, Within allowed text

/-- An edge without role and stereotypes is named if its ends pass. -/
theorem Edge.named_plain {allowed : Char → Bool} {src dst : String} (first : Within allowed src)
    (last : Within allowed dst) (kind : RelationshipKind) (review : Option ReviewFlag) :
    Edge.Named allowed { src, dst, kind, review } where
  src := first
  dst := last
  role := List.forall_mem_nil _
  stereotypes := List.forall_mem_nil _

namespace Resolver

variable {resolver : Resolver} {declared : DeclaredType}

/-- A supertype is drawn under a name that passes. -/
theorem Named.within_supertypeRef (named : resolver.Named stretch) (lenient : Lenient stretch)
    (listed : declared ∈ resolver.index.types) {kind : RelationshipKind} {usage : TypeUsage}
    (clause : (kind, usage) ∈ declared.declaration.supertypeClauses) :
    Within stretch (resolver.supertypeRef declared usage).displayName := by
  have declaration := (named.types declared listed).declaration
  have passed : usage.NamesWithin stretch := by
    rcases TypeDeclaration.origin_of_mem_supertypeClauses clause with ⟨_, written⟩ | ⟨_, written⟩
    · exact ((declaration.extending usage written).of_quotable lenient).names
    · exact ((declaration.implementing usage written).of_quotable lenient).names
  unfold supertypeRef resolveUsage
  cases peeled : usage.head? with
  | none => exact TypeUsage.within_render lenient usage passed
  | some found =>
    have head := TypeUsage.namesWithin_head usage found passed peeled
    exact named.within_resolve listed (TypeUsage.namesWithin_named.1 head).1

/-- Every edge of the diagram is named. -/
theorem Named.edge (named : resolver.Named stretch) (lenient : Lenient stretch) {edge : Edge}
    (member : edge ∈ resolver.classify.edges) : edge.Named stretch := by
  have key {declared : DeclaredType} (listed : declared ∈ resolver.index.types) :
      Within stretch declared.key := (named.types declared listed).key
  simp only [ClassifiedDiagram.edges, List.mem_append, or_assoc] at member
  rcases member with nesting | supertype | association | dependency
  · obtain ⟨declared, listed, proposed⟩ := mem_classify_owns nesting
    obtain ⟨owner, _, owned, rfl⟩ := mem_nestingEdges.1 proposed
    exact Edge.named_plain (named.within_key owned) (key listed) _ _
  · obtain ⟨declared, listed, proposed⟩ := mem_classify_supertypes supertype
    obtain ⟨kind, usage, clause, rfl⟩ := mem_supertypeEdges.1 proposed
    exact Edge.named_plain (key listed) (named.within_supertypeRef lenient listed clause) _ _
  · obtain ⟨declared, listed, proposed⟩ := mem_classify_associations association
    obtain ⟨field, component, target, given, found, _, rfl⟩ := mem_associationEdges.1 proposed
    have grounded := resolveUsage_grounded found
    have drawn := (named.types declared listed).declaration.member given
    exact
      { src := key listed
        dst := named.within_key grounded
        role := drawn.name.of_quotable lenient
        stereotypes := fun text inside => drawn.annotations text (mem_distinctNames.1 inside) }
  · obtain ⟨⟨declared, listed, ref, used, rfl⟩, _⟩ := mem_classify_dependencies dependency
    obtain ⟨site, inside, rfl⟩ := List.mem_map.1 used
    obtain ⟨usage, written, reached⟩ := List.mem_flatMap.1 inside
    have passed := (named.types declared listed).declaration.dependencySite lenient written
    have name := TypeUsage.within_sites usage passed site reached
    exact Edge.named_plain (key listed) (named.within_resolve listed name) _ _

end Resolver

/-! ## Events -/

namespace Event

/-- What draws a named edge is named. -/
theorem named_ofEdge {edge : Edge} (named : edge.Named stretch) :
    (ofEdge edge).Named stretch := by
  have ends : ∀ text ∈ [edge.src, edge.dst], Within stretch text :=
    List.forall_mem_cons.2 ⟨named.src, List.forall_mem_singleton.2 named.dst⟩
  have roles : ∀ text ∈ edge.src :: edge.dst :: edge.role :: edge.stereotypes,
      Within stretch text := by
    simp only [List.forall_mem_cons]
    exact ⟨named.src, named.dst, named.role, named.stereotypes⟩
  unfold ofEdge
  cases edge.kind with
  | association => exact ⟨rfl, List.forall_mem_nil _, roles⟩
  | _ => exact ⟨rfl, List.forall_mem_nil _, ends⟩

/-- An event on one line can be quoted if no quoted text in it holds a double quote. -/
theorem Named.quotable {event : Event} (named : event.Named isInline)
    (unquoted : Unquoted event.quotedTexts) : event.Named isQuotable :=
  { named with texts := unquoted.quotable named.texts }

end Event

/-- A named usage has a spelling. -/
theorem TypeUsage.Named.renders {allowed : Char → Bool} {usage : TypeUsage}
    (named : usage.Named allowed) : usage.renders = true :=
  (TypeUsage.readable_of_isValid usage named.valid).2.1

namespace Resolver

variable {resolver : Resolver} {declared : DeclaredType}

/-- The events of a named type's node are named. -/
theorem Named.node (named : resolver.Named stretch) (listed : declared ∈ resolver.index.types) :
    ∀ event ∈ (resolver.classifyType declared).events, event.Named stretch := by
  have type := named.types declared listed
  have own := type.declaration
  have opening : (Event.declareNode declared.key (some declared.declaration.kind)
      (distinctNames declared.declaration.annotations)
      declared.declaration.modifiers.names).Named stretch := by
    have texts : ∀ text ∈ declared.key :: distinctNames declared.declaration.annotations,
        Within stretch text :=
      List.forall_mem_cons.2 ⟨type.key, fun text member =>
        own.annotations text (mem_distinctNames.1 member)⟩
    exact ⟨rfl, List.forall_mem_nil _, texts⟩
  have closing : (Event.endNode declared.key).Named stretch := by
    simp [Event.named_iff, type.key]
  rw [ClassifiedType.events, attributes_classifyType]
  simp only [List.forall_mem_append, List.forall_mem_singleton, List.forall_mem_map]
  refine ⟨⟨⟨⟨⟨⟨opening, ?constants⟩, ?attributes⟩, ?constructors⟩, ?methods⟩, ?elements⟩, closing⟩
  case constants => exact fun name _ => by simp [Event.named_iff]
  case attributes =>
    rintro ⟨member, component⟩ inside
    have field := own.member (List.mem_filter.1 inside).1
    exact ⟨rfl, List.forall_mem_singleton.2 field.type.renders, field.annotations⟩
  case constructors =>
    intro constructor given
    have held := own.constructors constructor given
    have types : ∀ usage ∈ constructor.parameters.map (·.type), usage.renders = true :=
      fun usage member => (held.types usage (List.mem_append_left _ member)).renders
    exact ⟨rfl, types, held.annotations⟩
  case methods =>
    intro method given
    have held := own.methods method given
    have types : ∀ usage ∈ method.returnType :: method.parameters.map (·.type),
        usage.renders = true := by
      intro usage member
      rw [← List.singleton_append] at member
      refine (held.types usage (List.mem_append_right _ ?_)).renders
      rw [← List.singleton_append, ← List.append_assoc]
      exact List.mem_append_left _ member
    exact ⟨rfl, types, held.annotations⟩
  case elements =>
    intro member given
    have type := own.annotationMembers member given
    exact ⟨rfl, List.forall_mem_singleton.2 type.renders, List.forall_mem_nil _⟩

/-- The events of a package's block are named. -/
theorem Named.block (named : resolver.Named stretch) {block : PackageBlock}
    (member : block ∈ resolver.outline.blocks) :
    ∀ event ∈ block.events, event.Named stretch := by
  obtain ⟨package, known, rfl⟩ := List.mem_map.1 member
  have passed : Within stretch package := by
    obtain ⟨declared, entry, rfl⟩ := Index.mem_packages.1 known
    exact (named.types declared (Index.mem_types_iff.2 entry)).package
  have nodes : ∀ event ∈ ((resolver.index.typesIn package).map fun declared =>
      (resolver.classifyType declared).block).flatMap NodeBlock.events, event.Named stretch := by
    refine List.forall_mem_flatMap.2 fun node inside => ?_
    obtain ⟨declared, listed, rfl⟩ := List.mem_map.1 inside
    have entry := (Index.mem_typesIn.1 listed).1
    rw [← ClassifiedType.events_eq_block]
    exact named.node (Index.mem_types_iff.2 entry)
  have opening : (Event.beginPackage package).Named stretch := by simp [Event.named_iff, passed]
  have closing : (Event.endPackage package).Named stretch := by simp [Event.named_iff, passed]
  unfold PackageBlock.events
  dsimp only
  split
  · exact nodes
  · refine List.forall_mem_cons.2 ⟨opening, List.forall_mem_append.2 ⟨nodes, ?_⟩⟩
    exact List.forall_mem_singleton.2 closing

/-- Every event of the diagram is named. -/
theorem Named.event (named : resolver.Named stretch) (lenient : Lenient stretch) {name : String}
    (titled : Within stretch name) :
    ∀ event ∈ resolver.classify.events name, event.Named stretch := by
  have edges : ∀ event ∈ resolver.outline.edges, event.Named stretch := by
    intro event member
    obtain ⟨edge, drawn, rfl⟩ := List.mem_map.1 member
    exact Event.named_ofEdge (named.edge lenient drawn)
  have opening : (Event.beginDiagram name).Named stretch := by simp [Event.named_iff, titled]
  have closing : (Event.endDiagram name).Named stretch := by simp [Event.named_iff, titled]
  rw [events_eq_outline, Outline.events]
  simp only [List.forall_mem_cons, List.forall_mem_append, List.forall_mem_flatMap]
  exact ⟨opening, fun block member => named.block member, edges, closing, List.forall_mem_nil _⟩

end Resolver

/-! ## Sources -/

/-- The units that sources are read into, each given with its path. -/
def Java.unitsOf (sources : List (String × String)) : List CompilationUnit :=
  sources.map fun (text, path) => (Java.parse text path).1

/-- For well-formed sources, with no oracle or the import oracle, a diagram is generated, and every
text that it writes between double quotes or as a stereotype stands on one line. A writer gets to
the end of it exactly when none of these texts holds a double quote, whatever its header and tag
are. They hold none if the packages, imports, annotations and targets of calls of the declared
types, which are stretches of source, hold none. -/
theorem sources_written (sources : List (String × String))
    (wellFormed : ∀ source ∈ sources, (Java.parse source.1 source.2).2 = [])
    (choice : OracleChoice) (plain : choice = .none ∨ choice = .imports)
    (carried : List Diagnostic) (name : String)
    (titled : PlantUml.checkText "name" name = .ok ()) (writer : PlantUml.Writer) :
    let units := Java.unitsOf sources
    let generation := generate units choice carried
    let stream := generation.classified.events name
    generate? units choice carried = .ok generation ∧
      (∀ event ∈ stream, ∀ text ∈ event.quotedTexts, '\n' ∉ text.toList ∧ '\r' ∉ text.toList) ∧
      ((writer.writeAll stream).2 = none ↔
        ∀ event ∈ stream, ∀ text ∈ event.quotedTexts, '"' ∉ text.toList) ∧
      ((∀ declared ∈ generation.index.types, ∀ text ∈ declared.stretches, '"' ∉ text.toList) →
        (writer.writeAll stream).2 = none) := by
  intro units generation stream
  have parsed : ∀ unit ∈ units, unit.Named := by
    intro unit member
    obtain ⟨source, listed, rfl⟩ := List.mem_map.1 member
    exact Java.named_parse (wellFormed source listed)
  have inline : ∀ declared ∈ generation.index.types, declared.Named isInline :=
    fun declared listed => Index.named_ofUnits parsed declared (Index.mem_types_iff.1 listed)
  have title : Within isQuotable name := PlantUml.isOk_checkText.1 (by rw [titled]; rfl)
  have told : ∀ event ∈ stream, event.Named isInline := by
    have resolver := OracleChoice.named_resolver Text.lenient_isInline plain inline
    exact resolver.event Text.lenient_isInline (title.of_quotable Text.lenient_isInline)
  have valid : ∀ declared ∈ generation.index.types, declared.declaration.HasValidUsages :=
    fun declared listed => (inline declared listed).declaration.hasValidUsages
  refine ⟨generate?_of_valid choice valid, ?_, ?_, ?_⟩
  · intro event member text quoted
    have passed := (told event member).texts text quoted
    exact ⟨fun feed => absurd (passed _ feed) (by decide),
      fun carriage => absurd (passed _ carriage) (by decide)⟩
  · rw [PlantUml.Writer.writeAll_complete_iff]
    constructor
    · intro named event member text quoted
      exact ((named event member).texts text quoted).unquoted
    · intro unquoted event member
      exact (told event member).quotable (unquoted event member)
  · intro unquoted
    have quotable : ∀ declared ∈ generation.index.types, declared.Named isQuotable := by
      intro declared listed
      refine Index.named_of_unquoted (Index.named_ofUnits parsed) ?_ declared
        (Index.mem_types_iff.1 listed)
      exact fun other entry => unquoted other (Index.mem_types_iff.2 entry)
    have resolver := OracleChoice.named_resolver Text.lenient_isQuotable plain quotable
    rw [PlantUml.Writer.writeAll_complete_iff]
    exact resolver.event Text.lenient_isQuotable title

/-- A string and a comment that belong to no name do not keep a diagram from being written. -/
theorem sources_written_annotated :
    let source := "package p;\nimport q.T;\n@A(\"x\") /* \" */ class C \x7b T t; \x7d\n"
    let units := Java.unitsOf [(source, "p/C.java")]
    (Java.parse source "p/C.java").2 = [] ∧
      generate? units .imports [] = .ok (generate units .imports []) ∧
      (({} : PlantUml.Writer).writeAll
        ((generate units .imports []).classified.events "d")).2 = none := by
  intro source units
  have wellFormed : (Java.parse source "p/C.java").2 = [] := by decide +kernel
  obtain ⟨generated, _, _, written⟩ := sources_written [(source, "p/C.java")]
    (List.forall_mem_singleton.2 wellFormed) .imports (.inr rfl) [] "d" rfl {}
  have index : Index.ofUnits units [] =
      units.foldl (fun index unit => (index.acceptUnit unit).1) {} :=
    ofUnits_eq_of_sorted (List.Perm.refl units) (List.pairwise_singleton _ _) []
  refine ⟨wellFormed, generated, written ?_⟩
  change ∀ declared ∈ (Index.ofUnits units []).types, _
  rw [index]
  decide +kernel

/-- A comment stays in the name of a package and a string in the target of a call, so a double quote
inside keeps the diagram of a well-formed source from being written. -/
theorem sources_refused :
    let refusal := fun source choice =>
      (({} : PlantUml.Writer).writeAll
        ((generate (Java.unitsOf [(source, "C.java")]) choice []).classified.events "d")).2
    let package := "package a./*\"*/b;\nclass C \x7b\x7d\n"
    let call := "class C \x7b void m() \x7b foo(\"x\").Bar.baz(); \x7d \x7d\n"
    (Java.parse package "C.java").2 = [] ∧ (Java.parse call "C.java").2 = [] ∧
      ∀ choice ∈ [OracleChoice.none, .imports],
        refusal package choice = some (.quoteInside "name" "a./*\"*/b") ∧
          refusal call choice = some (.quoteInside "name" "foo(\"x\").Bar") := by
  intro refusal package call
  have index (source : String) : Index.ofUnits (Java.unitsOf [(source, "C.java")]) [] =
      (Java.unitsOf [(source, "C.java")]).foldl
        (fun index unit => (index.acceptUnit unit).1) {} :=
    ofUnits_eq_of_sorted (List.Perm.refl _) (List.pairwise_singleton _ _) []
  refine ⟨by decide +kernel, by decide +kernel, fun choice listed => ?_⟩
  simp only [refusal, generate, index]
  rcases List.mem_cons.1 listed with rfl | last
  · decide +kernel
  · obtain rfl := List.mem_singleton.1 last
    decide +kernel

end ClassAtlas
