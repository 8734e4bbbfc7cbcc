import ClassAtlas.Proofs.EventStream

/-!
# Members as attributes and associations

A member whose type refers to another declared type is drawn as an association, any other one as an
attribute. The attributes are told inside the node of their type and the associations behind all
nodes, each by a pass of its own; said of one type, the stream holds its attributes in member order
and its associations in member order, the first of each role and target. Together these are all its
members, each once.
-/
namespace ClassAtlas

/-! ## What a member refers to -/

/-- What becomes of a member that refers to another declared type, or to none. -/
def MemberOutcome.towards (member : FieldDecl) (component : Bool) : Option Key → MemberOutcome
  | none => .attribute member component
  | some target => .association member target component

/-- The members of a declaration are its record components, which only a record has, and then its
fields, which an annotation type has none of. -/
theorem TypeDeclaration.members_eq (declaration : TypeDeclaration) :
    declaration.members =
      (if declaration.kind = .record then declaration.components.map (·, true) else []) ++
        (if declaration.kind = .annotationType then [] else declaration.fields.map (·, false)) := by
  unfold members
  cases declaration.kind <;> rfl

namespace Resolver

/-- The other declared type that the type of a member refers to. -/
def memberTarget? (resolver : Resolver) (declared : DeclaredType) (member : FieldDecl) :
    Option Key :=
  (resolver.resolveUsage member.type declared.context).bind fun
    | .declared target => if target = declared.key then none else some target
    | _ => none

/-- The members of a type that refer to no other declared type. -/
def attributesOf (resolver : Resolver) (declared : DeclaredType) : List (FieldDecl × Bool) :=
  declared.declaration.members.filter fun (member, _) =>
    (resolver.memberTarget? declared member).isNone

/-- The members of a type that refer to another declared type, each with that type. -/
def associationsOf (resolver : Resolver) (declared : DeclaredType) :
    List ((FieldDecl × Bool) × Key) :=
  declared.declaration.members.filterMap fun listed =>
    (resolver.memberTarget? declared listed.1).map (listed, ·)

/-- The edge that draws a member with its target. -/
def associationEdge (declared : DeclaredType) : (FieldDecl × Bool) × Key → Edge
  | ((member, _), target) =>
    { src := declared.key, dst := target, kind := .association, role := member.name
      stereotypes := distinctNames member.annotations }

variable {resolver : Resolver} {declared : DeclaredType}

/-- A member refers to another declared type if the class type at the head of its type resolves to
one. -/
theorem memberTarget?_eq_some_iff {member : FieldDecl} {target : Key} :
    resolver.memberTarget? declared member = some target ↔
      ∃ head, member.type.head? = some head ∧
        resolver.resolve head declared.context = .declared target ∧ target ≠ declared.key := by
  unfold memberTarget? resolveUsage
  cases member.type.head? with
  | none => simp
  | some head =>
    simp only [Option.map_some, Option.bind_some, Option.some.injEq, exists_eq_left']
    cases resolver.resolve head declared.context with
    | declared key =>
      by_cases own : key = declared.key
      · simp only [own, if_true, reduceCtorEq, TypeRef.declared.injEq, false_iff]
        rintro ⟨rfl, elsewhere⟩
        exact elsewhere rfl
      · simp only [own, if_false, Option.some.injEq, TypeRef.declared.injEq]
        refine ⟨?_, And.left⟩
        rintro rfl
        exact ⟨rfl, own⟩
    | external name => simp
    | unresolved name => simp

/-- A member becomes what it refers to makes of it. -/
theorem classifyMember_eq (member : FieldDecl) (component : Bool) :
    resolver.classifyMember declared member component =
      .towards member component (resolver.memberTarget? declared member) := by
  unfold classifyMember memberTarget?
  split
  · next key found =>
    rw [found, Option.bind_some]
    by_cases own : key = declared.key
    · simp only [own, if_true, MemberOutcome.towards]
    · simp only [own, if_false, MemberOutcome.towards]
  · next undeclared =>
    cases found : resolver.resolveUsage member.type declared.context with
    | none => rfl
    | some ref =>
      cases ref with
      | declared key => exact absurd found (undeclared key)
      | external name => rfl
      | unresolved name => rfl

/-- The attributes of a classified type are the members that refer to no other declared type. -/
theorem attributes_classifyType (resolver : Resolver) (declared : DeclaredType) :
    (resolver.classifyType declared).attributes = resolver.attributesOf declared := by
  rw [ClassifiedType.attributes, classifyType, attributesOf, List.filterMap_map,
    ← List.filterMap_eq_filter]
  refine List.filterMap_congr fun listed _ => ?_
  obtain ⟨member, component⟩ := listed
  simp only [Function.comp_apply, classifyMember_eq]
  cases found : resolver.memberTarget? declared member with
  | none => simp [MemberOutcome.towards, Option.guard, found]
  | some target => simp [MemberOutcome.towards, Option.guard, found]

/-- The node of a type is told by its begin and its end, its constants, the members that refer to no
other declared type, its constructors, its methods and its annotation members. -/
theorem mem_events_classifyType {event : Event} :
    event ∈ (resolver.classifyType declared).events ↔
      event = .declareNode declared.key declared.declaration.kind
        (distinctNames declared.declaration.annotations) declared.declaration.modifiers.names ∨
      (∃ constant ∈ declared.declaration.enumConstants,
        event = .addEnumConstant declared.key constant) ∨
      (∃ entry ∈ resolver.attributesOf declared,
        event = .addAttribute declared.key entry.1 entry.2) ∨
      (∃ made ∈ declared.declaration.constructors, event = .addConstructor declared.key made) ∨
      (∃ called ∈ declared.declaration.methods, event = .addMethod declared.key called) ∨
      (∃ element ∈ declared.declaration.annotationMembers,
        event = .addAnnotationMember declared.key element) ∨
      event = .endNode declared.key := by
  rw [ClassifiedType.events, attributes_classifyType]
  simp only [List.mem_append, List.mem_map, List.mem_singleton, or_assoc, eq_comm (a := event)]
  rfl

/-- The edges that a classified type proposes draw the members that refer to another declared
type. -/
theorem associationEdges_classifyType (resolver : Resolver) (declared : DeclaredType) :
    (resolver.classifyType declared).associationEdges =
      (resolver.associationsOf declared).map (associationEdge declared) := by
  rw [ClassifiedType.associationEdges, classifyType, associationsOf, List.filterMap_map,
    List.map_filterMap]
  refine List.filterMap_congr fun listed _ => ?_
  obtain ⟨member, component⟩ := listed
  simp only [Function.comp_apply, classifyMember_eq]
  cases resolver.memberTarget? declared member with
  | none => rfl
  | some target => rfl

/-- A member that is drawn with a target refers to it, and the target is another type. -/
theorem mem_associationsOf {listed : FieldDecl × Bool} {target : Key} :
    (listed, target) ∈ resolver.associationsOf declared ↔
      listed ∈ declared.declaration.members ∧
        resolver.memberTarget? declared listed.1 = some target := by
  simp only [associationsOf, List.mem_filterMap, Option.map_eq_some_iff, Prod.mk.injEq]
  constructor
  · rintro ⟨_, member, _, found, rfl, rfl⟩
    exact ⟨member, found⟩
  · rintro ⟨member, found⟩
    exact ⟨listed, member, target, found, rfl, rfl⟩

/-- The members of a type are its attributes and its associations. -/
theorem members_perm (resolver : Resolver) (declared : DeclaredType) :
    (resolver.attributesOf declared ++ (resolver.associationsOf declared).map Prod.fst).Perm
      declared.declaration.members := by
  have associated : (resolver.associationsOf declared).map Prod.fst =
      declared.declaration.members.filter fun listed =>
        !(resolver.memberTarget? declared listed.1).isNone := by
    rw [associationsOf, List.map_filterMap, ← List.filterMap_eq_filter]
    refine List.filterMap_congr fun listed _ => ?_
    cases found : resolver.memberTarget? declared listed.1 with
    | none => simp [Option.guard, found]
    | some target => simp [Option.guard, found]
  rw [associated]
  exact List.filter_append_perm _ _

/-! ## The pass over the members -/

/-- The associations of a type that are drawn: the first of each role and target. -/
def drawnAssociationsOf (resolver : Resolver) (declared : DeclaredType) :
    List ((FieldDecl × Bool) × Key) :=
  firstOfEach (fun ((member, _), target) => (member.name, target))
    (resolver.associationsOf declared)

/-- No association has the key of a nesting or a supertype, so the third pass refuses only edges
from a name to itself and repeats. -/
theorem classify_associations_eq (resolver : Resolver) :
    resolver.classify.associations =
      firstOfEach Edge.key (resolver.associationEdges.filter fun edge => edge.src != edge.dst) := by
  rw [classify_associations]
  refine EdgeRegistry.registerAll_fresh fun edge proposed seen => ?_
  obtain ⟨declared, _, inside⟩ := List.mem_flatMap.1 proposed
  rw [seen_afterSupertypes, List.mem_reverse] at seen
  obtain ⟨earlier, member, same⟩ := List.mem_map.1 seen
  have kind : earlier.kind = .association :=
    (congrArg EdgeKey.kind same).trans (kind_of_mem_associationEdges inside)
  rcases List.mem_append.1 member with nesting | supertype
  · rw [kind_of_mem_owns nesting] at kind
    exact absurd kind (by decide)
  · rcases kind_of_mem_supertypes supertype with inherited | realized
    · rw [inherited] at kind
      exact absurd kind (by decide)
    · rw [realized] at kind
      exact absurd kind (by decide)

/-- The edges handed out for the members of a type are the first of each role and target. -/
theorem firstOfEach_associationEdges (resolver : Resolver) (declared : DeclaredType) :
    firstOfEach Edge.key ((resolver.classifyType declared).associationEdges.filter
        fun edge => edge.src != edge.dst) =
      (resolver.drawnAssociationsOf declared).map (associationEdge declared) := by
  have apart : (resolver.classifyType declared).associationEdges.filter
      (fun edge => edge.src != edge.dst) =
        (resolver.associationsOf declared).map (associationEdge declared) := by
    rw [associationEdges_classifyType]
    refine List.filter_eq_self.2 fun edge proposed => ?_
    obtain ⟨⟨listed, target⟩, drawn, rfl⟩ := List.mem_map.1 proposed
    obtain ⟨_, _, _, elsewhere⟩ := memberTarget?_eq_some_iff.1 (mem_associationsOf.1 drawn).2
    simpa [associationEdge] using elsewhere.symm
  rw [apart, firstOfEach_map, drawnAssociationsOf]
  refine congrArg (List.map _) (firstOfEach_congr fun left right => ?_)
  simp [Edge.key, associationEdge, and_comm]

/-- The associations that the passes hand out are those of each type. -/
theorem associations_by_type (resolver : Resolver) :
    resolver.classify.associations = resolver.index.types.flatMap fun declared =>
      (resolver.drawnAssociationsOf declared).map (associationEdge declared) := by
  rw [classify_associations_eq, associationEdges, List.filter_flatMap, firstOfEach_types]
  · simp only [firstOfEach_associationEdges]
  · intro declared edge proposed
    obtain ⟨_, _, _, _, _, _, rfl⟩ := mem_associationEdges.1 (List.mem_filter.1 proposed).1
    rfl

end Resolver

/-! ## The stream -/

namespace Event

/-- Whether an event begins or ends the diagram or a package. -/
def isFrame : Event → Bool
  | .beginDiagram _ | .endDiagram _ | .beginPackage _ | .endPackage _ => true
  | _ => false

/-- Whether an event adds an attribute to a node. -/
def addsAttributeTo (owner : Key) : Event → Bool
  | .addAttribute key _ _ => key == owner
  | _ => false

/-- Whether an event draws an association from a node. -/
def associatesFrom (owner : Key) : Event → Bool
  | .connectAssociation key _ _ _ => key == owner
  | _ => false

/-- No attribute is added where a diagram or a package begins or ends. -/
theorem addsAttributeTo_frame {owner : Key} (event : Event) (frame : event.isFrame = true) :
    addsAttributeTo owner event = false := by
  cases event <;> simp_all [isFrame, addsAttributeTo]

/-- No association is drawn there. -/
theorem associatesFrom_frame {owner : Key} (event : Event) (frame : event.isFrame = true) :
    associatesFrom owner event = false := by
  cases event <;> simp_all [isFrame, associatesFrom]

/-- What draws an edge adds no attribute. -/
theorem addsAttributeTo_ofEdge (owner : Key) (edge : Edge) :
    addsAttributeTo owner (ofEdge edge) = false := by
  unfold ofEdge
  cases edge.kind <;> rfl

/-- An association is drawn from where its edge starts. -/
theorem associatesFrom_ofEdge (owner : Key) (edge : Edge) :
    associatesFrom owner (ofEdge edge) =
      (decide (edge.kind = .association) && edge.src == owner) := by
  unfold ofEdge
  cases edge.kind <;> rfl

end Event

/-- What a test that passes over packages keeps of the events of types is what it keeps of each
type. -/
theorem filter_nodeEvents {test : Event → Bool}
    (framed : ∀ event, event.isFrame = true → test event = false) (types : List ClassifiedType)
    (open? : Option String) :
    (nodeEvents open? types).filter test =
      types.flatMap fun classified => classified.events.filter test := by
  have closing (open? : Option String) : (nodeEvents.closing open?).filter test = [] := by
    unfold nodeEvents.closing
    split
    · rfl
    · next package =>
      have passed := framed (.endPackage package) rfl
      split <;> simp [passed]
  have opening (package : String) : (nodeEvents.opening package).filter test = [] := by
    unfold nodeEvents.opening
    have passed := framed (.beginPackage package) rfl
    split <;> simp [passed]
  induction types generalizing open? with
  | nil => exact closing open?
  | cons classified types ih =>
    rw [nodeEvents, List.flatMap_cons]
    split
    · rw [List.filter_append, ih]
    · simp only [List.filter_append, closing, opening, ih, List.nil_append]

/-- What such a test keeps of a stream is what it keeps of each type, and then of the edges. -/
theorem ClassifiedDiagram.filter_events {test : Event → Bool}
    (framed : ∀ event, event.isFrame = true → test event = false) (diagram : ClassifiedDiagram)
    (name : String) :
    (diagram.events name).filter test =
      diagram.types.flatMap (fun classified => classified.events.filter test) ++
        (diagram.edges.filter fun edge => test (Event.ofEdge edge)).map Event.ofEdge := by
  have begun := framed (.beginDiagram name) rfl
  have ended := framed (.endDiagram name) rfl
  rw [events, List.filter_append, List.filter_append, List.filter_append,
    filter_nodeEvents framed, List.filter_map, List.filter_cons_of_neg (by simp [begun]),
    List.filter_cons_of_neg (by simp [ended]), List.filter_nil, List.append_nil]
  rfl

/-- Where keys differ, blocks that are empty but for the values with one key leave the block of the
one value that has it. -/
theorem flatMap_eq_of_key {α β κ : Type} {key : α → κ} {values : List α}
    (distinct : (values.map key).Nodup) {value : α} (member : value ∈ values)
    {block : α → List β} (others : ∀ other, key other ≠ key value → block other = []) :
    values.flatMap block = block value := by
  induction values with
  | nil => exact absurd member List.not_mem_nil
  | cons head values ih =>
    obtain ⟨alone, later⟩ := List.nodup_cons.1 distinct
    rw [List.flatMap_cons]
    rcases List.mem_cons.1 member with rfl | inside
    · have rest : values.flatMap block = [] := by
        refine List.flatMap_eq_nil_iff.2 fun other there => others other fun same => alone ?_
        exact same ▸ List.mem_map_of_mem there
      rw [rest, List.append_nil]
    · have apart : key head ≠ key value := fun same =>
        alone (same ▸ List.mem_map_of_mem inside)
      rw [others head apart, List.nil_append, ih later inside]

namespace ClassifiedType

/-- The attributes told of a node are those of its type. -/
theorem filter_attributes (classified : ClassifiedType) (owner : Key) :
    classified.events.filter (Event.addsAttributeTo owner) =
      if classified.key = owner then
        classified.attributes.map fun (member, component) => .addAttribute owner member component
      else [] := by
  simp only [events, List.filter_append, List.filter_map, Function.comp_def]
  by_cases own : classified.key = owner
  · simp [Event.addsAttributeTo, own]
  · simp [Event.addsAttributeTo, own]

/-- No association is told inside a node. -/
theorem filter_associations (classified : ClassifiedType) (owner : Key) :
    classified.events.filter (Event.associatesFrom owner) = [] := by
  simp [events, List.filter_append, List.filter_map, Function.comp_def, Event.associatesFrom]

end ClassifiedType

namespace Resolver

/-- How a stream tells the members of a declared type. -/
structure TellsMembers (resolver : Resolver) (declared : DeclaredType) (stream : List Event) :
    Prop where
  /-- The attributes of its node are the members that refer to no other declared type. -/
  attributes : stream.filter (Event.addsAttributeTo declared.key) =
    (resolver.attributesOf declared).map fun (member, component) =>
      .addAttribute declared.key member component
  /-- The associations from its node are the other members, the first of each role and target. -/
  associations : stream.filter (Event.associatesFrom declared.key) =
    (resolver.drawnAssociationsOf declared).map fun ((member, _), target) =>
      .connectAssociation declared.key target member.name (distinctNames member.annotations)
  /-- Attributes and associations are the members, each once. -/
  members : (resolver.attributesOf declared ++
    (resolver.associationsOf declared).map Prod.fst).Perm declared.declaration.members
  /-- A member that refers to another declared type is told as an association with its role and
  target, and never as an attribute. -/
  associated : ∀ listed ∈ declared.declaration.members, ∀ target,
    resolver.memberTarget? declared listed.1 = some target →
      (∃ stereotypes,
        .connectAssociation declared.key target listed.1.name stereotypes ∈ stream) ∧
      ∀ component, .addAttribute declared.key listed.1 component ∉ stream
  /-- Any other member is told as an attribute. -/
  retained : ∀ listed ∈ declared.declaration.members,
    resolver.memberTarget? declared listed.1 = none →
      .addAttribute declared.key listed.1 listed.2 ∈ stream

variable {resolver : Resolver} {declared : DeclaredType}

/-- The attributes told of a type are the members that refer to no other declared type. -/
theorem events_attributes (listed : declared ∈ resolver.index.types) (name : String) :
    (resolver.classify.events name).filter (Event.addsAttributeTo declared.key) =
      (resolver.attributesOf declared).map fun (member, component) =>
        .addAttribute declared.key member component := by
  have types : resolver.classify.types = resolver.index.types.map resolver.classifyType := rfl
  have nodes : resolver.index.types.flatMap (fun other =>
      (resolver.classifyType other).events.filter (Event.addsAttributeTo declared.key)) =
        (resolver.classifyType declared).events.filter (Event.addsAttributeTo declared.key) := by
    refine flatMap_eq_of_key resolver.index.types_nodup listed fun other apart => ?_
    rw [ClassifiedType.filter_attributes]
    exact if_neg apart
  rw [ClassifiedDiagram.filter_events Event.addsAttributeTo_frame, types, List.flatMap_map, nodes,
    ClassifiedType.filter_attributes, attributes_classifyType]
  simp [Event.addsAttributeTo_ofEdge, ClassifiedType.key, classifyType]

/-- Of the four passes only the third one draws associations. -/
theorem filter_edges_associations (resolver : Resolver) (owner : Key) :
    (resolver.classify.edges.filter fun edge => Event.associatesFrom owner (Event.ofEdge edge)) =
      resolver.classify.associations.filter fun edge => edge.src == owner := by
  have others {edges : List Edge} (kinds : ∀ edge ∈ edges, edge.kind ≠ .association) :
      edges.filter (fun edge => Event.associatesFrom owner (Event.ofEdge edge)) = [] :=
    List.filter_eq_nil_iff.2 fun edge member => by
      simp [Event.associatesFrom_ofEdge, kinds edge member]
  have owns := others fun edge (member : edge ∈ resolver.classify.owns) => by
    rw [kind_of_mem_owns member]
    decide
  have supertypes := others fun edge (member : edge ∈ resolver.classify.supertypes) => by
    rcases kind_of_mem_supertypes member with kind | kind
    · rw [kind]
      decide
    · rw [kind]
      decide
  have dependencies := others fun edge (member : edge ∈ resolver.classify.dependencies) => by
    obtain ⟨⟨_, _, _, _, rfl⟩, _⟩ := mem_classify_dependencies member
    exact RelationshipKind.noConfusion
  rw [ClassifiedDiagram.edges, List.filter_append, List.filter_append, List.filter_append, owns,
    supertypes, dependencies, List.append_nil, List.nil_append]
  refine List.filter_congr fun edge member => ?_
  simp [Event.associatesFrom_ofEdge, kind_of_mem_associations member]

/-- The associations that start at a type are those of its members that are drawn. -/
theorem associations_from (listed : declared ∈ resolver.index.types) :
    (resolver.classify.associations.filter fun edge => edge.src == declared.key) =
      (resolver.drawnAssociationsOf declared).map (associationEdge declared) := by
  rw [associations_by_type, List.filter_flatMap,
    flatMap_eq_of_key resolver.index.types_nodup listed]
  · refine List.filter_eq_self.2 fun edge member => ?_
    obtain ⟨_, _, rfl⟩ := List.mem_map.1 member
    exact beq_self_eq_true declared.key
  · intro other apart
    refine List.filter_eq_nil_iff.2 fun edge member same => apart ?_
    obtain ⟨_, _, rfl⟩ := List.mem_map.1 member
    exact eq_of_beq same

/-- The associations told from a type are those of its members that are drawn. -/
theorem events_associations (listed : declared ∈ resolver.index.types) (name : String) :
    (resolver.classify.events name).filter (Event.associatesFrom declared.key) =
      (resolver.drawnAssociationsOf declared).map fun ((member, _), target) =>
        .connectAssociation declared.key target member.name
          (distinctNames member.annotations) := by
  have nodes : resolver.classify.types.flatMap (fun classified =>
      classified.events.filter (Event.associatesFrom declared.key)) = [] :=
    List.flatMap_eq_nil_iff.2 fun classified _ => classified.filter_associations declared.key
  rw [ClassifiedDiagram.filter_events Event.associatesFrom_frame, nodes,
    filter_edges_associations, associations_from listed, List.map_map]
  rfl

/-- An attribute is told of a type exactly when the member refers to no other declared type. -/
theorem mem_events_attribute (listed : declared ∈ resolver.index.types) (name : String)
    {member : FieldDecl} {component : Bool} :
    .addAttribute declared.key member component ∈ resolver.classify.events name ↔
      (member, component) ∈ declared.declaration.members ∧
        resolver.memberTarget? declared member = none := by
  have kept : Event.addsAttributeTo declared.key
      (.addAttribute declared.key member component) = true := beq_self_eq_true declared.key
  rw [← and_iff_left (a := _ ∈ _) kept, ← List.mem_filter, events_attributes listed, List.mem_map]
  simp [attributesOf]

/-- A member that refers to another declared type has an association with its role and target. -/
theorem exists_event_association (listed : declared ∈ resolver.index.types) (name : String)
    {entry : FieldDecl × Bool} (member : entry ∈ declared.declaration.members) {target : Key}
    (found : resolver.memberTarget? declared entry.1 = some target) :
    ∃ stereotypes, .connectAssociation declared.key target entry.1.name stereotypes ∈
      resolver.classify.events name := by
  have proposed : (entry, target) ∈ resolver.associationsOf declared :=
    mem_associationsOf.2 ⟨member, found⟩
  obtain ⟨⟨first, reached⟩, drawn, same⟩ := exists_mem_firstOfEach
    (fun (association : (FieldDecl × Bool) × Key) => (association.1.1.name, association.2))
    proposed
  obtain ⟨role, rfl⟩ : first.1.name = entry.1.name ∧ reached = target := Prod.mk.inj same
  refine ⟨distinctNames first.1.annotations, ?_⟩
  have told : .connectAssociation declared.key reached first.1.name
      (distinctNames first.1.annotations) ∈
        (resolver.classify.events name).filter (Event.associatesFrom declared.key) := by
    rw [events_associations listed]
    exact List.mem_map.2 ⟨(first, reached), drawn, rfl⟩
  rw [← role]
  exact (List.mem_filter.1 told).1

/-- The stream of a corpus tells the members of every type of the index. -/
theorem tellsMembers (listed : declared ∈ resolver.index.types) (name : String) :
    resolver.TellsMembers declared (resolver.classify.events name) where
  attributes := events_attributes listed name
  associations := events_associations listed name
  members := resolver.members_perm declared
  associated := by
    intro entry member target found
    refine ⟨exists_event_association listed name member found, fun component told => ?_⟩
    rw [mem_events_attribute listed, found] at told
    exact Option.some_ne_none target told.2
  retained := fun entry member none => (mem_events_attribute listed name).2 ⟨member, none⟩

end Resolver

/-- The members of every declared type are classified one by one in order, record components before
fields: a member becomes an association if the class type at the head of its type resolves to
another declared type, and an attribute otherwise, whatever the oracle says. The stream recorded for
the corpus tells them so, and where the declarations of the index have valid usages there is a
stream to record. -/
theorem generate_members_partition (units : List CompilationUnit) (choice : OracleChoice)
    (carried : List Diagnostic) (name : String) :
    let generation := generate units choice carried
    let resolver := choice.resolver generation.index
    (∀ declared ∈ generation.index.types,
      declared.declaration.members =
        (if declared.declaration.kind = .record then
          declared.declaration.components.map (·, true) else []) ++
        (if declared.declaration.kind = .annotationType then []
          else declared.declaration.fields.map (·, false)) ∧
      (∀ member target, resolver.memberTarget? declared member = some target ↔
        ∃ head, member.type.head? = some head ∧
          resolver.resolve head declared.context = .declared target ∧ target ≠ declared.key) ∧
      resolver.TellsMembers declared
        ((generation.classified.events name).map Event.recorded)) ∧
    generation.classified.types = generation.index.types.map (fun declared =>
      { declared
        members := declared.declaration.members.map fun (member, component) =>
          .towards member component (resolver.memberTarget? declared member) }) ∧
    ((∀ declared ∈ generation.index.types, declared.declaration.HasValidUsages) →
      generate? units choice carried = .ok generation) := by
  intro generation resolver
  refine ⟨fun declared listed => ⟨declared.declaration.members_eq, ?_, ?_⟩, ?_,
    generate?_of_valid choice⟩
  · exact fun member target => Resolver.memberTarget?_eq_some_iff
  · rw [ClassifiedDiagram.recorded_events]
    exact Resolver.tellsMembers listed name
  · refine List.map_congr_left fun declared _ => ?_
    simp only [Resolver.classifyType, Resolver.classifyMember_eq]
    rfl

/-- Of a record that refers to another type twice under one name, once as an array, and to itself,
one association is told, and the members left are attributes. -/
theorem generate_members_partition_record :
    let other : TypeDeclaration := { name := "Other" }
    let pair : TypeDeclaration :=
      { name := "Pair", kind := .record
        components :=
          [{ name := "left", type := .array (.named "Other" []) },
            { name := "next", type := .named "Pair" [] }]
        fields :=
          [{ name := "left", type := .named "Other" [] },
            { name := "count", type := .primitive "int" }] }
    let units : List CompilationUnit := [{ package := "p", types := [other, pair] }]
    let generation := generate units .none []
    let resolver := OracleChoice.none.resolver generation.index
    (∀ declared ∈ generation.index.types, declared.declaration.HasValidUsages) ∧
      generate? units .none [] = .ok generation ∧
      ∃ declared ∈ generation.index.types, declared.key = "p.Pair" ∧
        ((resolver.attributesOf declared).map fun (member, component) =>
          (member.name, component)) = [("next", true), ("count", false)] ∧
        ((resolver.drawnAssociationsOf declared).map fun ((member, _), target) =>
          (member.name, target)) = [("left", "p.Other")] ∧
        resolver.TellsMembers declared
          ((generation.classified.events "d").map Event.recorded) := by
  intro other pair units generation resolver
  have valid : ∀ declared ∈ generation.index.types, declared.declaration.HasValidUsages := by
    decide +kernel
  have drawn : ∃ declared ∈ generation.index.types, declared.key = "p.Pair" ∧
      ((resolver.attributesOf declared).map fun (member, component) =>
        (member.name, component)) = [("next", true), ("count", false)] ∧
      ((resolver.drawnAssociationsOf declared).map fun ((member, _), target) =>
        (member.name, target)) = [("left", "p.Other")] := by
    decide +kernel
  obtain ⟨declared, listed, key, attributes, associations⟩ := drawn
  obtain ⟨told, _, returned⟩ := generate_members_partition units .none [] "d"
  exact ⟨valid, returned valid, declared, listed, key, attributes, associations,
    (told declared listed).2.2⟩

end ClassAtlas
