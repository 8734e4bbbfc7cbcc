import Mathlib.Data.List.Sort
import ClassAtlas.Proofs.EdgeLaws
import ClassAtlas.Proofs.InputOrder
import ClassAtlas.Proofs.Nesting
import ClassAtlas.Proofs.ValidUsages

/-!
# The shape of the event stream

A diagram is told in blocks. A node's block holds its members between its declaration and its end,
a package's block holds the blocks of its nodes, and the edges follow the last package. An outline
is a stream in that form. The stream of every corpus has an outline whose packages and keys stand
in increasing order, with every declared type in one place, every owner before the types it owns,
and members and edges in the order of their kinds.
-/
namespace ClassAtlas

namespace Event

/-- The node that an event adds a member to. -/
def memberOf? : Event → Option Key
  | .addEnumConstant owner _ | .addAttribute owner _ _ | .addConstructor owner _
  | .addMethod owner _ | .addAnnotationMember owner _ => some owner
  | _ => none

/-- The place of an event among those of a node: enum constants come first, then attributes,
constructors, methods and annotation members. -/
def memberRank : Event → Nat
  | .addEnumConstant .. => 0
  | .addAttribute .. => 1
  | .addConstructor .. => 2
  | .addMethod .. => 3
  | _ => 4

/-- The place of an event among those that draw edges: nesting comes first, then inheritance and
realization, associations and dependencies. -/
def edgeRank : Event → Nat
  | .connectOwns .. => 0
  | .connectInheritance .. | .connectRealization .. => 1
  | .connectAssociation .. => 2
  | _ => 3

/-- What draws an edge is an edge event. -/
theorem isEdge_ofEdge (edge : Edge) : (ofEdge edge).isEdge = true := by
  unfold ofEdge
  cases edge.kind <;> rfl

end Event

/-- The telling of a node. -/
structure NodeBlock where
  /-- Its key. -/
  key : Key
  /-- Its kind. -/
  kind : TypeKind
  /-- Its stereotypes. -/
  stereotypes : List String
  /-- Its modifiers. -/
  modifiers : List String
  /-- What stands between its declaration and its end. -/
  members : List Event

/-- The events of a node's block. -/
def NodeBlock.events (node : NodeBlock) : List Event :=
  .declareNode node.key (some node.kind) node.stereotypes node.modifiers ::
    (node.members ++ [.endNode node.key])

/-- What holds of the members in a node's block. -/
structure NodeBlock.Ordered (node : NodeBlock) : Prop where
  /-- They are members, and of this node. -/
  own : ∀ event ∈ node.members, event.memberOf? = some node.key
  /-- They stand in the order of their kinds. -/
  ranked : node.members.Pairwise fun left right => left.memberRank ≤ right.memberRank

/-- The telling of a package. -/
structure PackageBlock where
  /-- Its name. -/
  package : String
  /-- Its nodes. -/
  nodes : List NodeBlock

/-- The events of a package's block; only a named package is opened and closed. -/
def PackageBlock.events (block : PackageBlock) : List Event :=
  let nodes := block.nodes.flatMap NodeBlock.events
  if block.package = "" then nodes
  else .beginPackage block.package :: (nodes ++ [.endPackage block.package])

/-- The telling of a diagram. -/
structure Outline where
  /-- Its packages. -/
  blocks : List PackageBlock
  /-- What draws its edges. -/
  edges : List Event

/-- The events of an outline. -/
def Outline.events (outline : Outline) (name : String) : List Event :=
  .beginDiagram name ::
    (outline.blocks.flatMap PackageBlock.events ++ (outline.edges ++ [.endDiagram name]))

/-- The keys of the nodes of an outline, in order. -/
def Outline.keys (outline : Outline) : List Key :=
  outline.blocks.flatMap fun block => block.nodes.map (·.key)

/-- What holds of the outline of a diagram with the types of an index. -/
structure Outline.Canonical (outline : Outline) (index : Index) : Prop where
  /-- The packages stand in increasing order, so none is told twice. -/
  packages_increasing : (outline.blocks.map (·.package)).Pairwise (· < ·)
  /-- They are the packages of the declared types. -/
  packages : ∀ package, package ∈ outline.blocks.map (·.package) ↔
    ∃ declared ∈ index.entries, declared.package = package
  /-- The nodes of a package stand in increasing order. -/
  keys_increasing : ∀ block ∈ outline.blocks, (block.nodes.map (·.key)).Pairwise (· < ·)
  /-- They are the types that the package declares. -/
  keys : ∀ block ∈ outline.blocks, ∀ key, key ∈ block.nodes.map (·.key) ↔
    ∃ declared ∈ index.entries, declared.package = block.package ∧ declared.key = key
  /-- Every declared type is told once. -/
  once : outline.keys.Perm (index.entries.map (·.key))
  /-- An owner is told before the types it owns. -/
  owners : ∀ declared ∈ index.entries, ∀ owner, declared.owner = some owner →
    [owner, declared.key].Sublist outline.keys
  /-- The members of every node are its own and stand in the order of their kinds. -/
  nodes : ∀ block ∈ outline.blocks, ∀ node ∈ block.nodes, node.Ordered
  /-- What follows the packages draws edges. -/
  edges : ∀ event ∈ outline.edges, event.isEdge = true
  /-- Edges stand in the order of their kinds. -/
  edges_ranked : outline.edges.Pairwise fun left right => left.edgeRank ≤ right.edgeRank

/-! ## Ranks -/

/-- Events stand in the order of a rank that is at most a given one. -/
structure Event.RankedUpTo (rank : Event → Nat) (most : Nat) (events : List Event) : Prop where
  /-- No event stands before one of a smaller rank. -/
  ranked : events.Pairwise fun left right => rank left ≤ rank right
  /-- No event has a greater rank. -/
  bounded : ∀ event ∈ events, rank event ≤ most

/-- Events of one rank stand in its order. -/
theorem Event.RankedUpTo.of_level {rank : Event → Nat} {most : Nat} {events : List Event}
    (level : ∀ event ∈ events, rank event = most) : RankedUpTo rank most events := by
  refine ⟨List.pairwise_of_forall_mem_list fun left here right there => ?_, ?_⟩
  · rw [level left here, level right there]
  · exact fun event member => (level event member).le

/-- Events of the next rank may stand behind ordered events. -/
theorem Event.RankedUpTo.append {rank : Event → Nat} {most : Nat} {front back : List Event}
    (earlier : RankedUpTo rank most front) (level : ∀ event ∈ back, rank event = most + 1) :
    RankedUpTo rank (most + 1) (front ++ back) := by
  have later := of_level level
  constructor
  · refine List.pairwise_append.2 ⟨earlier.ranked, later.ranked, fun left here right there => ?_⟩
    have low := earlier.bounded left here
    rw [level right there]
    omega
  · intro event member
    rcases List.mem_append.1 member with here | there
    · exact (earlier.bounded event here).trans (Nat.le_succ most)
    · exact later.bounded event there

/-! ## Nodes -/

namespace ClassifiedType

/-- The block of a classified type. -/
def block (classified : ClassifiedType) : NodeBlock :=
  let declaration := classified.declared.declaration
  let key := classified.key
  { key
    kind := declaration.kind
    stereotypes := classified.stereotypes
    modifiers := declaration.modifiers.names
    members := declaration.enumConstants.map (.addEnumConstant key)
      ++ classified.attributes.map (fun (member, component) => .addAttribute key member component)
      ++ declaration.constructors.map (.addConstructor key)
      ++ declaration.methods.map (.addMethod key)
      ++ declaration.annotationMembers.map (.addAnnotationMember key) }

/-- A classified type is told in its block. -/
theorem events_eq_block (classified : ClassifiedType) :
    classified.events = classified.block.events := by
  simp [events, block, NodeBlock.events]

/-- The members in the block of a classified type are its own, in the order of their kinds. -/
theorem block_ordered (classified : ClassifiedType) : classified.block.Ordered := by
  constructor
  · intro event member
    simp only [block, List.mem_append, List.mem_map, Prod.exists] at member
    rcases member with (((⟨_, _, rfl⟩ | ⟨_, _, _, rfl⟩) | ⟨_, _, rfl⟩) | ⟨_, _, rfl⟩) | ⟨_, _, rfl⟩
    all_goals rfl
  · have ordered : Event.RankedUpTo Event.memberRank 4 classified.block.members := by
      refine .append (.append (.append (.append (.of_level ?_) ?_) ?_) ?_) ?_
      all_goals
        intro event member
        obtain ⟨_, _, rfl⟩ := List.mem_map.1 member
        rfl
    exact ordered.ranked

end ClassifiedType

/-! ## Packages -/

/-- A named package is opened before its nodes and closed behind them. -/
theorem PackageBlock.events_eq (block : PackageBlock) :
    block.events = nodeEvents.opening block.package
      ++ (block.nodes.flatMap NodeBlock.events ++ nodeEvents.closing (some block.package)) := by
  by_cases unnamed : block.package = ""
  · simp [events, nodeEvents.opening, nodeEvents.closing, unnamed]
  · simp [events, nodeEvents.opening, nodeEvents.closing, unnamed]

/-- A package's block holds the begin and the end of a named package and the events of its nodes. -/
theorem PackageBlock.mem_events {block : PackageBlock} {event : Event} :
    event ∈ block.events ↔
      (block.package ≠ "" ∧
        (event = .beginPackage block.package ∨ event = .endPackage block.package)) ∨
      ∃ node ∈ block.nodes, event ∈ node.events := by
  unfold events
  dsimp only
  split
  · next unnamed => simp [unnamed]
  · next named =>
    simp only [List.mem_cons, List.mem_append, List.mem_flatMap, List.not_mem_nil, or_false, named,
      ne_eq, not_false_eq_true, true_and]
    rw [or_comm (a := ∃ node ∈ block.nodes, event ∈ node.events), or_assoc]

/-- Types of the open package are told one after the other. -/
theorem nodeEvents_append_of_open {package : String} {types : List ClassifiedType}
    (placed : ∀ classified ∈ types, classified.package = package) (rest : List ClassifiedType) :
    nodeEvents (some package) (types ++ rest) =
      (types.map (·.block)).flatMap NodeBlock.events ++ nodeEvents (some package) rest := by
  induction types with
  | nil => rfl
  | cons classified types ih =>
    have here := placed classified List.mem_cons_self
    have later := ih fun other member => placed other (List.mem_cons_of_mem _ member)
    rw [List.cons_append, nodeEvents, if_pos (by rw [here]), later, classified.events_eq_block]
    simp

/-- Types of a package that is not open are told behind the end of the open one. -/
theorem nodeEvents_append {open? : Option String} {package : String}
    {types : List ClassifiedType} (fresh : open? ≠ some package) (filled : types ≠ [])
    (placed : ∀ classified ∈ types, classified.package = package) (rest : List ClassifiedType) :
    nodeEvents open? (types ++ rest) = nodeEvents.closing open?
      ++ (nodeEvents.opening package ++ ((types.map (·.block)).flatMap NodeBlock.events
        ++ nodeEvents (some package) rest)) := by
  cases types with
  | nil => exact absurd rfl filled
  | cons classified types =>
    have here := placed classified List.mem_cons_self
    have later := nodeEvents_append_of_open
      (fun other member => placed other (List.mem_cons_of_mem classified member)) rest
    rw [List.cons_append, nodeEvents, here, if_neg fresh, later, classified.events_eq_block]
    simp

/-- Types in groups, each of a package of its own, are told in the blocks of the packages. -/
theorem nodeEvents_groups {packages : List String} {group : String → List ClassifiedType}
    {open? : Option String} (distinct : packages.Nodup)
    (fresh : ∀ package ∈ packages, open? ≠ some package)
    (filled : ∀ package ∈ packages, group package ≠ [])
    (placed : ∀ package ∈ packages, ∀ classified ∈ group package,
      classified.package = package) :
    nodeEvents open? (packages.flatMap group) = nodeEvents.closing open?
      ++ packages.flatMap fun package =>
        PackageBlock.events ⟨package, (group package).map (·.block)⟩ := by
  -- The package that is closed last belongs to the block before, so the open one is general.
  induction packages generalizing open? with
  | nil => simp [nodeEvents]
  | cons package packages ih =>
    obtain ⟨alone, others⟩ := List.nodup_cons.1 distinct
    obtain ⟨freshHere, -⟩ := List.forall_mem_cons.1 fresh
    obtain ⟨filledHere, filledLater⟩ := List.forall_mem_cons.1 filled
    obtain ⟨placedHere, placedLater⟩ := List.forall_mem_cons.1 placed
    have apart : ∀ other ∈ packages, some package ≠ some other := by
      intro other member same
      rw [Option.some.inj same] at alone
      exact alone member
    rw [List.flatMap_cons, nodeEvents_append freshHere filledHere placedHere,
      ih others apart filledLater placedLater, List.flatMap_cons, PackageBlock.events_eq]
    simp only [List.append_assoc]

/-! ## The types of an index -/

namespace Index

/-- The entries of a package in the order of their keys. -/
def typesIn (index : Index) (package : String) : List DeclaredType :=
  (index.keysInPackage package).filterMap index.get?

/-- The types of an index are those of its packages. -/
theorem types_eq_flatMap (index : Index) : index.types = index.packages.flatMap index.typesIn := by
  rw [types, keys, List.filterMap_flatMap]
  rfl

/-- The packages of an index are those of its entries. -/
theorem mem_packages {index : Index} {package : String} :
    package ∈ index.packages ↔ ∃ declared ∈ index.entries, declared.package = package := by
  simp [packages]

/-- The types of a package are the entries that lie in it. -/
theorem mem_typesIn {index : Index} {package : String} {declared : DeclaredType} :
    declared ∈ index.typesIn package ↔
      declared ∈ index.entries ∧ declared.package = package := by
  rw [typesIn, List.mem_filterMap]
  constructor
  · rintro ⟨key, listed, found⟩
    obtain ⟨other, entry, placed, named⟩ := mem_keysInPackage.1 listed
    obtain ⟨member, same⟩ := get?_eq_some_iff.1 found
    rw [entry_eq_of_key_eq member entry (same.trans named.symm)]
    exact ⟨entry, placed⟩
  · rintro ⟨member, placed⟩
    exact ⟨declared.key, mem_keysInPackage.2 ⟨declared, member, placed, rfl⟩,
      get?_eq_some_iff.2 ⟨member, rfl⟩⟩

/-- The types of a package have its keys, one after the other. -/
theorem map_key_typesIn (index : Index) (package : String) :
    (index.typesIn package).map (·.key) = index.keysInPackage package := by
  refine map_key_get? fun key listed => ?_
  obtain ⟨declared, entry, _, named⟩ := mem_keysInPackage.1 listed
  exact contains_iff.2 ⟨declared, entry, named⟩

/-- The listed keys are those of the entries, each once. -/
theorem keys_perm_entries (index : Index) : index.keys.Perm (index.entries.map (·.key)) := by
  refine (List.perm_ext_iff_of_nodup index.keys_nodup index.distinct).2 fun key => ?_
  rw [mem_keys_iff, contains_iff, List.mem_map]

/-- Of two keys of one package the smaller one is listed first. -/
theorem sublist_keys {index : Index} {package : String} {first second : Key}
    (one : first ∈ index.keysInPackage package) (other : second ∈ index.keysInPackage package)
    (less : first < second) : [first, second].Sublist index.keys := by
  have pair : [first, second].Pairwise (· < ·) := List.pairwise_pair.2 less
  have within : [first, second].Sublist (index.keysInPackage package) := by
    refine List.sublist_of_subperm_of_pairwise ?_ pair (distinctNames_pairwise _)
    exact List.subperm_of_subset (nodup_of_increasing pair) (by simp [one, other])
  have listed : package ∈ index.packages := by
    obtain ⟨declared, entry, placed, _⟩ := mem_keysInPackage.1 one
    exact mem_packages.2 ⟨declared, entry, placed⟩
  exact within.trans (List.sublist_flatten_of_mem (List.mem_map_of_mem listed))

/-- In the index of a corpus an owner is listed before the types it owns. -/
theorem owner_listed_before {units : List CompilationUnit} {carried : List Diagnostic}
    {declared : DeclaredType} (member : declared ∈ (ofUnits units carried).entries) {owner : Key}
    (owned : declared.owner = some owner) :
    [owner, declared.key].Sublist (ofUnits units carried).keys := by
  obtain ⟨outer, entry, rfl, nested⟩ := nestedIn_of_owner member owned
  refine sublist_keys ?_ (mem_keysInPackage.2 ⟨declared, member, rfl, rfl⟩)
    (owner_lt_key member entry nested)
  exact mem_keysInPackage.2 ⟨outer, entry, nested.package.symm, rfl⟩

end Index

/-! ## Diagrams -/

namespace Resolver

/-- The outline of a classified corpus. -/
def outline (resolver : Resolver) : Outline where
  blocks := resolver.index.packages.map fun package =>
    ⟨package, (resolver.index.typesIn package).map fun declared =>
      (resolver.classifyType declared).block⟩
  edges := resolver.classify.edges.map Event.ofEdge

/-- A classified corpus is told by its outline. -/
theorem events_eq_outline (resolver : Resolver) (name : String) :
    resolver.classify.events name = resolver.outline.events name := by
  have types : resolver.classify.types = resolver.index.packages.flatMap fun package =>
      (resolver.index.typesIn package).map resolver.classifyType := by
    rw [← List.map_flatMap, ← Index.types_eq_flatMap]
    rfl
  have told := @nodeEvents_groups resolver.index.packages
    (fun package => (resolver.index.typesIn package).map resolver.classifyType) none
    (nodup_of_increasing (distinctNames_pairwise _)) (by simp) ?filled ?placed
  case filled =>
    intro package listed
    obtain ⟨declared, entry, placed⟩ := Index.mem_packages.1 listed
    exact List.ne_nil_of_mem (List.mem_map_of_mem (Index.mem_typesIn.2 ⟨entry, placed⟩))
  case placed =>
    intro package _ classified member
    obtain ⟨declared, listed, rfl⟩ := List.mem_map.1 member
    exact (Index.mem_typesIn.1 listed).2
  rw [ClassifiedDiagram.events, types, told]
  simp [outline, Outline.events, nodeEvents.closing, List.flatMap_map, Function.comp_def]

/-- A stream holds its begin and its end, those of the named packages of the index, the events of
its types and what draws the edges. -/
theorem mem_events {resolver : Resolver} {name : String} {event : Event} :
    event ∈ resolver.classify.events name ↔
      event = .beginDiagram name ∨
      (∃ declared ∈ resolver.index.types, declared.package ≠ "" ∧
        (event = .beginPackage declared.package ∨ event = .endPackage declared.package)) ∨
      (∃ declared ∈ resolver.index.types, event ∈ (resolver.classifyType declared).events) ∨
      (∃ edge ∈ resolver.classify.edges, event = .ofEdge edge) ∨
      event = .endDiagram name := by
  have blocks : event ∈ resolver.outline.blocks.flatMap PackageBlock.events ↔
      (∃ declared ∈ resolver.index.types, declared.package ≠ "" ∧
        (event = .beginPackage declared.package ∨ event = .endPackage declared.package)) ∨
      ∃ declared ∈ resolver.index.types, event ∈ (resolver.classifyType declared).events := by
    simp only [outline, List.flatMap_map, List.mem_flatMap, PackageBlock.mem_events, List.mem_map,
      Index.mem_packages, Index.mem_typesIn, Index.mem_types_iff, ClassifiedType.events_eq_block]
    constructor
    · rintro ⟨package, ⟨declared, entry, rfl⟩, framed | ⟨node, ⟨other, ⟨inside, _⟩, rfl⟩, told⟩⟩
      · exact .inl ⟨declared, entry, framed⟩
      · exact .inr ⟨other, inside, told⟩
    · rintro (⟨declared, entry, framed⟩ | ⟨declared, entry, told⟩)
      · exact ⟨declared.package, ⟨declared, entry, rfl⟩, .inl framed⟩
      · exact ⟨declared.package, ⟨declared, entry, rfl⟩,
          .inr ⟨_, ⟨declared, ⟨entry, rfl⟩, rfl⟩, told⟩⟩
  have edges : event ∈ resolver.outline.edges ↔
      ∃ edge ∈ resolver.classify.edges, event = .ofEdge edge := by
    simp only [outline, List.mem_map, eq_comm]
  rw [events_eq_outline, Outline.events, List.mem_cons, List.mem_append, List.mem_append,
    List.mem_singleton, blocks, edges, or_assoc]

/-- The outline ends with the edges of the diagram. -/
theorem edges_outline (resolver : Resolver) :
    resolver.outline.edges = resolver.classify.edges.map Event.ofEdge := rfl

/-- The outline has the packages of the index, in the same order. -/
theorem packages_outline (resolver : Resolver) :
    resolver.outline.blocks.map (·.package) = resolver.index.packages := by
  rw [outline, List.map_map]
  exact List.map_id _

/-- The block of a package has the keys of the package, in the same order. -/
theorem keys_of_mem_outline {resolver : Resolver} {block : PackageBlock}
    (member : block ∈ resolver.outline.blocks) :
    block.nodes.map (·.key) = resolver.index.keysInPackage block.package := by
  obtain ⟨package, _, rfl⟩ := List.mem_map.1 member
  rw [← Index.map_key_typesIn, List.map_map]
  rfl

/-- The outline has the keys of the index, in the same order. -/
theorem keys_outline (resolver : Resolver) : resolver.outline.keys = resolver.index.keys := by
  have blocks : resolver.outline.keys = resolver.outline.blocks.flatMap
      fun block => resolver.index.keysInPackage block.package :=
    List.flatMap_congr fun block member => keys_of_mem_outline member
  rw [blocks, Index.keys, ← packages_outline, List.flatMap_map]

/-- The edges of a classified corpus stand in the order of their kinds. -/
theorem edges_ranked (resolver : Resolver) :
    Event.RankedUpTo Event.edgeRank 3 (resolver.classify.edges.map Event.ofEdge) := by
  rw [ClassifiedDiagram.edges, List.map_append, List.map_append, List.map_append]
  refine .append (.append (.append (.of_level ?_) ?_) ?_) ?_
  all_goals
    intro event member
    obtain ⟨edge, listed, rfl⟩ := List.mem_map.1 member
  · simp [Event.ofEdge, kind_of_mem_owns listed, Event.edgeRank]
  · rcases kind_of_mem_supertypes listed with kind | kind
    · simp [Event.ofEdge, kind, Event.edgeRank]
    · simp [Event.ofEdge, kind, Event.edgeRank]
  · simp [Event.ofEdge, kind_of_mem_associations listed, Event.edgeRank]
  · obtain ⟨⟨_, _, _, _, rfl⟩, _⟩ := mem_classify_dependencies listed
    rfl

/-- The outline of the index of a corpus is canonical, whatever the oracle says. -/
theorem outline_canonical {resolver : Resolver} {units : List CompilationUnit}
    {carried : List Diagnostic} (built : resolver.index = Index.ofUnits units carried) :
    resolver.outline.Canonical resolver.index where
  packages_increasing := by
    rw [packages_outline]
    exact distinctNames_pairwise _
  packages := by
    intro package
    rw [packages_outline, Index.mem_packages]
  keys_increasing := by
    intro block member
    rw [keys_of_mem_outline member]
    exact distinctNames_pairwise _
  keys := by
    intro block member key
    rw [keys_of_mem_outline member, Index.mem_keysInPackage]
  once := by
    rw [keys_outline]
    exact resolver.index.keys_perm_entries
  owners := by
    rw [keys_outline, built]
    exact fun declared member owner owned => Index.owner_listed_before member owned
  nodes := by
    intro block member node inside
    obtain ⟨package, _, rfl⟩ := List.mem_map.1 member
    obtain ⟨declared, _, rfl⟩ := List.mem_map.1 inside
    exact (resolver.classifyType declared).block_ordered
  edges := by
    intro event member
    obtain ⟨edge, _, rfl⟩ := List.mem_map.1 member
    exact Event.isEdge_ofEdge edge
  edges_ranked := resolver.edges_ranked.ranked

end Resolver

/-! ## Recorded events -/

/-- What draws an edge is recorded as it is. -/
theorem Event.recorded_ofEdge (edge : Edge) : (ofEdge edge).recorded = ofEdge edge := by
  unfold ofEdge
  cases edge.kind <;> rfl

/-- The modifiers of a declared type are in order, so the events of its node are recorded as they
are. -/
theorem ClassifiedType.recorded_events (classified : ClassifiedType) :
    classified.events.map Event.recorded = classified.events := by
  have sorted : (classified.declared.declaration.modifiers.names.mergeSort
      fun left right => !(right < left)) = classified.declared.declaration.modifiers.names := by
    refine List.mergeSort_of_pairwise ?_
    refine classified.declared.declaration.modifiers.increasing.imp fun {left right} less => ?_
    simpa using String.lt_asymm less
  simp only [events, List.map_append, List.map_map, List.map_cons, List.map_nil, Event.recorded,
    sorted]
  rfl

/-- The events of types are recorded as they are. -/
theorem recorded_nodeEvents (types : List ClassifiedType) (open? : Option String) :
    (nodeEvents open? types).map Event.recorded = nodeEvents open? types := by
  have closed (open? : Option String) :
      (nodeEvents.closing open?).map Event.recorded = nodeEvents.closing open? := by
    unfold nodeEvents.closing
    split
    · rfl
    · split <;> rfl
  have opened (package : String) :
      (nodeEvents.opening package).map Event.recorded = nodeEvents.opening package := by
    unfold nodeEvents.opening
    split <;> rfl
  induction types generalizing open? with
  | nil => exact closed open?
  | cons classified types ih =>
    rw [nodeEvents]
    split
    · rw [List.map_append, classified.recorded_events, ih]
    · simp only [List.map_append, closed, opened, classified.recorded_events, ih]

/-- The events of a diagram are recorded as they are. -/
theorem ClassifiedDiagram.recorded_events (diagram : ClassifiedDiagram) (name : String) :
    (diagram.events name).map Event.recorded = diagram.events name := by
  have edges : (diagram.edges.map Event.ofEdge).map Event.recorded =
      diagram.edges.map Event.ofEdge := by
    rw [List.map_map]
    exact List.map_congr_left fun edge _ => Event.recorded_ofEdge edge
  simp only [events, List.map_append, recorded_nodeEvents, edges]
  rfl

/-! ## Corpora -/

/-- The stream recorded for a corpus has an outline that is canonical for the index of the corpus
and ends with the edges of the diagram, whatever the oracle says. And where the declarations of the
index have valid usages there is a stream to record: generating the diagram does not fail. -/
theorem generate_events_canonical (units : List CompilationUnit) (choice : OracleChoice)
    (carried : List Diagnostic) (name : String) :
    let generation := generate units choice carried
    (∃ outline : Outline,
      (generation.classified.events name).map Event.recorded = outline.events name ∧
        outline.edges = generation.classified.edges.map Event.ofEdge ∧
        outline.Canonical generation.index) ∧
      ((∀ declared ∈ generation.index.types, declared.declaration.HasValidUsages) →
        generate? units choice carried = .ok generation) := by
  intro generation
  let resolver := choice.resolver generation.index
  have canonical : resolver.outline.Canonical resolver.index := Resolver.outline_canonical rfl
  have told : (resolver.classify.events name).map Event.recorded =
      resolver.outline.events name := by
    rw [ClassifiedDiagram.recorded_events, resolver.events_eq_outline]
  exact ⟨⟨resolver.outline, told, resolver.edges_outline, canonical⟩, generate?_of_valid choice⟩

/-- A package stays one block where the name of another one is the key of its own type: in the
order of their keys the type of `p.q` would stand between the two types of `p`. -/
theorem generate_events_key_as_package :
    let outer : CompilationUnit :=
      { package := "p", types := [{ name := "z" }, { name := "q" }], path := "p/z.java" }
    let inner : CompilationUnit :=
      { package := "p.q", types := [{ name := "A" }], path := "p/q/A.java" }
    let generation := generate [inner, outer] .imports []
    (∀ declared ∈ generation.index.types, declared.declaration.HasValidUsages) ∧
      generate? [inner, outer] .imports [] = .ok generation ∧
      generation.index.keys = ["p.q", "p.z", "p.q.A"] ∧
      ∃ outline : Outline,
        (generation.classified.events "d").map Event.recorded = outline.events "d" ∧
          outline.Canonical generation.index := by
  intro outer inner generation
  have index : generation.index =
      [outer, inner].foldl (fun index unit => (index.acceptUnit unit).1) {} :=
    ofUnits_eq_of_sorted (List.Perm.swap inner outer []) (by decide +kernel) []
  have valid : ∀ declared ∈ generation.index.types, declared.declaration.HasValidUsages := by
    rw [index]
    decide +kernel
  have keys : generation.index.keys = ["p.q", "p.z", "p.q.A"] := by
    rw [index]
    decide +kernel
  have told := generate_events_canonical [inner, outer] .imports [] "d"
  obtain ⟨outline, recorded, _, canonical⟩ := told.1
  exact ⟨valid, told.2 valid, keys, outline, recorded, canonical⟩

end ClassAtlas
