import ClassAtlas.Proofs.MemberPartition
import ClassAtlas.Proofs.WrittenLines

/-!
# The texts that keep a diagram from being written

A diagram with valid usages is refused for one reason only: a text that has to be quoted has a line
end or a double quote in it. These texts are the name of the diagram and the packages and keys of
its types, the annotations of types, constructors, methods and of those members that are drawn, and
the ends and roles of the edges. A writer that stops stands at the first event with such a text, and
has written whole lines.
-/
namespace ClassAtlas

open Text (Within Lined isInline isQuotable)

/-- A text can be quoted unless it holds a line end or a double quote. -/
theorem Text.not_quotable_iff {text : String} :
    ¬Within isQuotable text ↔ '\n' ∈ text.toList ∨ '\r' ∈ text.toList ∨ '"' ∈ text.toList := by
  constructor
  · intro refused
    by_contra plain
    obtain ⟨feed, carriage, quote⟩ : '\n' ∉ text.toList ∧ '\r' ∉ text.toList ∧
        '"' ∉ text.toList := by simpa only [not_or] using plain
    refine refused (Within.quotable (fun c member => ?_) quote)
    have first : c ≠ '\n' := fun same => feed (same ▸ member)
    have second : c ≠ '\r' := fun same => carriage (same ▸ member)
    simp [isInline, first, second]
  · rintro (feed | carriage | quote) quotable
    · exact absurd (quotable _ feed) (by decide)
    · exact absurd (quotable _ carriage) (by decide)
    · exact quotable.unquoted quote

/-! ## What has to be quoted -/

namespace Resolver

/-- The texts that the diagram of an index has to quote. -/
inductive MustQuote (resolver : Resolver) (name : String) : String → Prop
  /-- The name of the diagram. -/
  | title : MustQuote resolver name name
  /-- The package of a type, unless it is the default one. -/
  | package {declared : DeclaredType} (listed : declared ∈ resolver.index.types)
      (named : declared.package ≠ "") : MustQuote resolver name declared.package
  /-- The key of a type. -/
  | key {declared : DeclaredType} (listed : declared ∈ resolver.index.types) :
      MustQuote resolver name declared.key
  /-- An annotation of a type. -/
  | onType {declared : DeclaredType} {text : String}
      (listed : declared ∈ resolver.index.types)
      (written : text ∈ declared.declaration.annotations) : MustQuote resolver name text
  /-- An annotation of a member that is drawn as an attribute. -/
  | onAttribute {declared : DeclaredType} {member : FieldDecl} {component : Bool} {text : String}
      (listed : declared ∈ resolver.index.types)
      (kept : (member, component) ∈ resolver.attributesOf declared)
      (written : text ∈ member.annotations) : MustQuote resolver name text
  /-- An annotation of a member that is drawn as an association. -/
  | onAssociation {declared : DeclaredType} {member : FieldDecl} {component : Bool} {target : Key}
      {text : String} (listed : declared ∈ resolver.index.types)
      (drawn : ((member, component), target) ∈ resolver.drawnAssociationsOf declared)
      (written : text ∈ member.annotations) : MustQuote resolver name text
  /-- An annotation of a constructor. -/
  | onConstructor {declared : DeclaredType} {made : ConstructorDecl} {text : String}
      (listed : declared ∈ resolver.index.types)
      (given : made ∈ declared.declaration.constructors)
      (written : text ∈ made.annotations) : MustQuote resolver name text
  /-- An annotation of a method. -/
  | onMethod {declared : DeclaredType} {called : MethodDecl} {text : String}
      (listed : declared ∈ resolver.index.types)
      (given : called ∈ declared.declaration.methods)
      (written : text ∈ called.annotations) : MustQuote resolver name text
  /-- Where an edge starts. -/
  | source {edge : Edge} (drawn : edge ∈ resolver.classify.edges) :
      MustQuote resolver name edge.src
  /-- Where an edge ends, flagged or not. -/
  | target {edge : Edge} (drawn : edge ∈ resolver.classify.edges) :
      MustQuote resolver name edge.dst
  /-- The role of an association. -/
  | role {edge : Edge} (drawn : edge ∈ resolver.classify.edges)
      (kind : edge.kind = .association) : MustQuote resolver name edge.role

variable {resolver : Resolver} {declared : DeclaredType} {name text : String}

/-- What the events of a node quote has to be quoted. -/
theorem MustQuote.of_node (listed : declared ∈ resolver.index.types) {event : Event}
    (told : event ∈ (resolver.classifyType declared).events) (quoted : text ∈ event.quotedTexts) :
    resolver.MustQuote name text := by
  rcases mem_events_classifyType.1 told with rfl | ⟨_, _, rfl⟩ | ⟨⟨_, _⟩, kept, rfl⟩ |
    ⟨_, given, rfl⟩ | ⟨_, given, rfl⟩ | ⟨_, _, rfl⟩ | rfl
  · rcases List.mem_cons.1 quoted with rfl | stereotype
    · exact .key listed
    · exact .onType listed (mem_distinctNames.1 stereotype)
  · exact absurd quoted List.not_mem_nil
  · exact .onAttribute listed kept quoted
  · exact .onConstructor listed given quoted
  · exact .onMethod listed given quoted
  · exact absurd quoted List.not_mem_nil
  · rw [List.mem_singleton.1 quoted]
    exact .key listed

/-- The associations among the edges of the diagram are the members that are drawn so. -/
theorem mem_edges_association {edge : Edge} :
    edge ∈ resolver.classify.edges ∧ edge.kind = .association ↔
      ∃ declared ∈ resolver.index.types,
        ∃ drawn ∈ resolver.drawnAssociationsOf declared, edge = associationEdge declared drawn := by
  have drawn : edge ∈ resolver.classify.associations ↔ ∃ declared ∈ resolver.index.types,
      ∃ drawn ∈ resolver.drawnAssociationsOf declared, edge = associationEdge declared drawn := by
    simp only [associations_by_type, List.mem_flatMap, List.mem_map, eq_comm (a := edge)]
  rw [← drawn]
  constructor
  · rintro ⟨member, kind⟩
    have structural : edge.kind.isStructural = true := by rw [kind]; rfl
    rcases List.mem_append.1 (mem_structural_of_kind member structural) with supertype | found
    · rcases kind_of_mem_supertypes supertype with other | other
      · exact RelationshipKind.noConfusion (kind.symm.trans other)
      · exact RelationshipKind.noConfusion (kind.symm.trans other)
    · exact found
  · intro found
    refine ⟨?_, kind_of_mem_associations found⟩
    simp only [ClassifiedDiagram.edges, List.mem_append, found, or_true, true_or]

end Resolver

/-- What draws an edge quotes its ends, and the role and the stereotypes of an association. -/
theorem Event.mem_quotedTexts_ofEdge {edge : Edge} {text : String} :
    text ∈ (ofEdge edge).quotedTexts ↔ text = edge.src ∨ text = edge.dst ∨
      edge.kind = .association ∧ (text = edge.role ∨ text ∈ edge.stereotypes) := by
  unfold ofEdge
  cases edge.kind with
  | association => simp
  | _ => simp

namespace Resolver

variable {resolver : Resolver} {name text : String}

/-- What draws an edge of the diagram quotes what has to be quoted. -/
theorem MustQuote.of_edge {edge : Edge} (drawn : edge ∈ resolver.classify.edges)
    (quoted : text ∈ (Event.ofEdge edge).quotedTexts) : resolver.MustQuote name text := by
  rcases Event.mem_quotedTexts_ofEdge.1 quoted with rfl | rfl | ⟨kind, rfl | stereotype⟩
  · exact .source drawn
  · exact .target drawn
  · exact .role drawn kind
  · obtain ⟨declared, listed, ⟨⟨member, component⟩, target⟩, chosen, rfl⟩ :=
      mem_edges_association.1 ⟨drawn, kind⟩
    exact .onAssociation listed chosen (mem_distinctNames.1 stereotype)

/-- The texts that have to be quoted are those that the events of the stream quote. -/
theorem mustQuote_iff :
    resolver.MustQuote name text ↔
      ∃ event ∈ resolver.classify.events name, text ∈ event.quotedTexts := by
  constructor
  · intro required
    have node {declared : DeclaredType} (listed : declared ∈ resolver.index.types) {event : Event}
        (told : event ∈ (resolver.classifyType declared).events) :
        event ∈ resolver.classify.events name :=
      mem_events.2 (.inr (.inr (.inl ⟨declared, listed, told⟩)))
    have edge {edge : Edge} (drawn : edge ∈ resolver.classify.edges) :
        Event.ofEdge edge ∈ resolver.classify.events name :=
      mem_events.2 (.inr (.inr (.inr (.inl ⟨edge, drawn, rfl⟩))))
    cases required with
    | title => exact ⟨.beginDiagram name, mem_events.2 (.inl rfl), List.mem_singleton_self _⟩
    | package listed named =>
      exact ⟨_, mem_events.2 (.inr (.inl ⟨_, listed, named, .inl rfl⟩)), List.mem_singleton_self _⟩
    | key listed =>
      exact ⟨_, node listed (mem_events_classifyType.2 (.inl rfl)), List.mem_cons_self⟩
    | onType listed written =>
      exact ⟨_, node listed (mem_events_classifyType.2 (.inl rfl)),
        List.mem_cons_of_mem _ (mem_distinctNames.2 written)⟩
    | onAttribute listed kept written =>
      exact ⟨_, node listed (mem_events_classifyType.2 (.inr (.inr (.inl ⟨_, kept, rfl⟩)))),
        written⟩
    | onAssociation listed chosen written =>
      obtain ⟨drawn, kind⟩ := mem_edges_association.2 ⟨_, listed, _, chosen, rfl⟩
      exact ⟨_, edge drawn, Event.mem_quotedTexts_ofEdge.2
        (.inr (.inr ⟨kind, .inr (mem_distinctNames.2 written)⟩))⟩
    | @onConstructor declared made _ listed given written =>
      refine ⟨.addConstructor declared.key made, node listed ?_, written⟩
      rw [mem_events_classifyType]
      exact .inr (.inr (.inr (.inl ⟨_, given, rfl⟩)))
    | @onMethod declared called _ listed given written =>
      refine ⟨.addMethod declared.key called, node listed ?_, written⟩
      rw [mem_events_classifyType]
      exact .inr (.inr (.inr (.inr (.inl ⟨_, given, rfl⟩))))
    | source drawn => exact ⟨_, edge drawn, Event.mem_quotedTexts_ofEdge.2 (.inl rfl)⟩
    | target drawn => exact ⟨_, edge drawn, Event.mem_quotedTexts_ofEdge.2 (.inr (.inl rfl))⟩
    | role drawn kind =>
      exact ⟨_, edge drawn, Event.mem_quotedTexts_ofEdge.2 (.inr (.inr ⟨kind, .inl rfl⟩))⟩
  · rintro ⟨event, told, quoted⟩
    rcases mem_events.1 told with rfl | ⟨declared, listed, named, rfl | rfl⟩ |
      ⟨declared, listed, inside⟩ | ⟨edge, drawn, rfl⟩ | rfl
    · rw [List.mem_singleton.1 quoted]
      exact .title
    · rw [List.mem_singleton.1 quoted]
      exact .package listed named
    · rw [List.mem_singleton.1 quoted]
      exact .package listed named
    · exact .of_node listed inside quoted
    · exact .of_edge drawn quoted
    · rw [List.mem_singleton.1 quoted]
      exact .title

/-! ## What has to be spelled -/

variable {allowed : Char → Bool}

/-- Where a declaration has valid usages, an event of its node is named if the texts that it quotes
pass. -/
theorem named_of_node {declared : DeclaredType} (valid : declared.declaration.HasValidUsages)
    {event : Event} (told : event ∈ (resolver.classifyType declared).events)
    (texts : ∀ text ∈ event.quotedTexts, Within allowed text) : event.Named allowed := by
  have spelled {usage : TypeUsage} (written : usage ∈ declared.declaration.writtenUsages) :
      usage.renders = true := (TypeUsage.readable_of_isValid usage (valid usage written)).2.1
  have types : ∀ usage ∈ event.spelledTypes, usage ∈ declared.declaration.writtenUsages := by
    intro usage inside
    simp only [TypeDeclaration.writtenUsages, List.mem_append]
    rcases mem_events_classifyType.1 told with rfl | ⟨_, _, rfl⟩ | ⟨_, kept, rfl⟩ |
      ⟨made, given, rfl⟩ | ⟨called, given, rfl⟩ | ⟨element, given, rfl⟩ | rfl
    · exact absurd inside List.not_mem_nil
    · exact absurd inside List.not_mem_nil
    · have listed := TypeDeclaration.member_type_written (List.mem_filter.1 kept).1
      rw [List.mem_singleton.1 inside]
      simpa only [TypeDeclaration.writtenUsages, List.mem_append] using listed
    · have here : usage ∈ declared.declaration.constructors.flatMap (·.writtenUsages) :=
        List.mem_flatMap.2 ⟨made, given, List.mem_append_left _ inside⟩
      simp only [here, true_or, or_true]
    · have here : usage ∈ declared.declaration.methods.flatMap (·.writtenUsages) := by
        refine List.mem_flatMap.2 ⟨called, given, List.mem_append_right _ ?_⟩
        rw [← List.cons_append]
        exact List.mem_append_left _ inside
      simp only [here, true_or, or_true]
    · have here : element.type ∈ declared.declaration.annotationMembers.map (·.type) :=
        List.mem_map_of_mem given
      rw [List.mem_singleton.1 inside]
      simp only [here, true_or, or_true]
    · exact absurd inside List.not_mem_nil
  have kind : event.hasKind = true := by
    rcases mem_events_classifyType.1 told with rfl | ⟨_, _, rfl⟩ | ⟨_, _, rfl⟩ | ⟨_, _, rfl⟩ |
      ⟨_, _, rfl⟩ | ⟨_, _, rfl⟩ | rfl
    all_goals rfl
  exact ⟨kind, fun usage inside => spelled (types usage inside), texts⟩

/-- Where the declarations of the index have valid usages, an event of the stream is named if the
texts that it quotes pass. -/
theorem named_of_valid
    (valid : ∀ declared ∈ resolver.index.types, declared.declaration.HasValidUsages)
    {event : Event} (told : event ∈ resolver.classify.events name)
    (texts : ∀ text ∈ event.quotedTexts, Within allowed text) : event.Named allowed := by
  rcases mem_events.1 told with rfl | ⟨declared, _, _, rfl | rfl⟩ |
    ⟨declared, listed, inside⟩ | ⟨edge, _, rfl⟩ | rfl
  · exact ⟨rfl, List.forall_mem_nil _, texts⟩
  · exact ⟨rfl, List.forall_mem_nil _, texts⟩
  · exact ⟨rfl, List.forall_mem_nil _, texts⟩
  · exact named_of_node (valid declared listed) inside texts
  · refine ⟨?_, ?_, texts⟩
    · unfold Event.ofEdge
      cases edge.kind <;> rfl
    · unfold Event.ofEdge
      cases edge.kind <;> exact List.forall_mem_nil _
  · exact ⟨rfl, List.forall_mem_nil _, texts⟩

/-- Where the declarations of the index have valid usages, the stream is written to its end exactly
when all that has to be quoted can be. -/
theorem writeAll_complete_iff_mustQuote (writer : PlantUml.Writer)
    (valid : ∀ declared ∈ resolver.index.types, declared.declaration.HasValidUsages) :
    (writer.writeAll (resolver.classify.events name)).2 = none ↔
      ∀ text, resolver.MustQuote name text → Within isQuotable text := by
  rw [PlantUml.Writer.writeAll_complete_iff]
  constructor
  · intro named text required
    obtain ⟨event, told, quoted⟩ := mustQuote_iff.1 required
    exact (named event told).texts text quoted
  · intro quotable event told
    refine named_of_valid valid told fun text quoted => quotable text ?_
    exact mustQuote_iff.2 ⟨event, told, quoted⟩

end Resolver

/-! ## Refused diagrams -/

/-- Events whose nodes have kinds and whose types have spellings are refused at the first one with a
text that can not be quoted, and for such a text; the events before it have been written. -/
theorem PlantUml.Writer.exists_first_refused {writer : PlantUml.Writer} {events : List Event}
    (spelled : ∀ event ∈ events, event.Named fun _ => true) {fault : Fault}
    (stopped : (writer.writeAll events).2 = some fault) :
    fault.isAboutText = true ∧
      ∃ before event later pieces, events = before ++ event :: later ∧
        (∀ earlier ∈ before, ∀ text ∈ earlier.quotedTexts, Within isQuotable text) ∧
        (∃ text ∈ event.quotedTexts, ¬Within isQuotable text) ∧
        writer.texts before = pieces.map .ok ∧
        (writer.after before).text event = .error fault ∧
        (writer.writeAll events).1 = String.join pieces := by
  obtain ⟨before, event, later, pieces, rfl, given, refused, written⟩ := exists_refused stopped
  have readable := spelled event (List.mem_append_right _ List.mem_cons_self)
  have reached : (writer.writeAll before).2 = none := by rw [writeAll_of_texts given]
  have earlier := (writer.writeAll_complete_iff before).1 reached
  refine ⟨isAboutText_of_refused readable.kind readable.types refused, before, event, later, pieces,
    rfl, fun other inside => (earlier other inside).texts, ?_, given, refused, written⟩
  by_contra quotable
  have named : event.Named isQuotable :=
    { readable with texts := by simpa using quotable }
  have accepted := ((writer.after before).isOk_text event).2 named
  rw [refused] at accepted
  exact Bool.false_ne_true accepted

/-- Where the declarations of the index have valid usages the diagram is generated, whatever the
oracle says, and writing it is refused exactly when a text that has to be quoted holds a line end or
a double quote. Whole lines are written in any case. A refusal is about such a text, at the first
event that has one, and what has been written is what the events before it append. -/
theorem generate_refused_iff (units : List CompilationUnit) (choice : OracleChoice)
    (carried : List Diagnostic) (name : String) (writer : PlantUml.Writer)
    (valid : ∀ declared ∈ (generate units choice carried).index.types,
      declared.declaration.HasValidUsages) :
    let generation := generate units choice carried
    let resolver := choice.resolver generation.index
    let stream := generation.classified.events name
    generate? units choice carried = .ok generation ∧
      ((∃ fault, (writer.writeAll stream).2 = some fault) ↔
        ∃ text, resolver.MustQuote name text ∧
          ('\n' ∈ text.toList ∨ '\r' ∈ text.toList ∨ '"' ∈ text.toList)) ∧
      (∃ count, Lined (fun _ => true) count (writer.writeAll stream).1) ∧
      ∀ fault, (writer.writeAll stream).2 = some fault →
        fault.isAboutText = true ∧
        ∃ before event later pieces, stream = before ++ event :: later ∧
          (∀ earlier ∈ before, ∀ text ∈ earlier.quotedTexts, Within isQuotable text) ∧
          (∃ text ∈ event.quotedTexts, ¬Within isQuotable text) ∧
          writer.texts before = pieces.map .ok ∧
          (writer.after before).text event = .error fault ∧
          (writer.writeAll stream).1 = String.join pieces := by
  intro generation resolver stream
  have complete : (writer.writeAll stream).2 = none ↔
      ∀ text, resolver.MustQuote name text → Within isQuotable text :=
    Resolver.writeAll_complete_iff_mustQuote writer valid
  have spelled : ∀ event ∈ stream, event.Named fun _ => true := fun event told =>
    Resolver.named_of_valid valid told fun _ _ _ _ => rfl
  refine ⟨generate?_of_valid choice valid, ?_, writer.lined_writeAll stream, fun fault stopped =>
    PlantUml.Writer.exists_first_refused spelled stopped⟩
  rw [← Option.ne_none_iff_exists', Ne, complete]
  simp only [not_forall, Text.not_quotable_iff, exists_prop]

/-- Of two members with one name and one target the first is drawn. A double quote in an annotation
of it is refused at its edge, behind all nodes; one in an annotation of the other is not written. -/
theorem generate_refused_repeated_role :
    let other : TypeDeclaration := { name := "Other" }
    let pair (drawn repeated : String) : TypeDeclaration :=
      { name := "Pair"
        fields :=
          [{ name := "left", type := .named "Other" [], annotations := [drawn] },
            { name := "left", type := .array (.named "Other" []), annotations := [repeated] }] }
    let units (drawn repeated : String) : List CompilationUnit :=
      [{ package := "p", types := [other, pair drawn repeated] }]
    let generation (drawn repeated : String) := generate (units drawn repeated) .none []
    let outcome (drawn repeated : String) :=
      ({} : PlantUml.Writer).writeAll ((generation drawn repeated).classified.events "d")
    (∀ declared ∈ (generation "A\"" "B").index.types, declared.declaration.HasValidUsages) ∧
      generate? (units "A\"" "B") .none [] = .ok (generation "A\"" "B") ∧
      (∃ fault, (outcome "A\"" "B").2 = some fault ∧ fault.isAboutText = true) ∧
      (outcome "A\"" "B").1 = String.join
        ["@startuml d\n",
          "package \"p\" \x7b /' @umlgraph:begin package \"p\" '/\n",
          "  class \"p.Other\" \x7b /' @umlgraph:begin class \"p.Other\" '/\n",
          "  \x7d /' @umlgraph:end class \"p.Other\" '/\n",
          "  class \"p.Pair\" \x7b /' @umlgraph:begin class \"p.Pair\" '/\n",
          "  \x7d /' @umlgraph:end class \"p.Pair\" '/\n",
          "\x7d /' @umlgraph:end package \"p\" '/\n"] ∧
      (outcome "A" "B\"").2 = none := by
  intro other pair units generation outcome
  have valid : ∀ declared ∈ (generation "A\"" "B").index.types,
      declared.declaration.HasValidUsages := by
    decide +kernel
  have drawn : ∃ declared ∈ (generation "A\"" "B").index.types,
      ∃ entry ∈ Resolver.drawnAssociationsOf (.mk (generation "A\"" "B").index none) declared,
        "A\"" ∈ entry.1.1.annotations := by
    decide +kernel
  obtain ⟨generated, refused, _, stopped⟩ :=
    generate_refused_iff (units "A\"" "B") .none [] "d" {} valid
  obtain ⟨declared, listed, entry, chosen, written⟩ := drawn
  obtain ⟨fault, found⟩ := refused.2 ⟨"A\"", .onAssociation listed chosen written, by decide⟩
  refine ⟨valid, generated, ⟨fault, found, (stopped fault found).1⟩, ?_, ?_⟩
  · decide +kernel
  · decide +kernel

end ClassAtlas
