import ClassAtlas.Proofs.DotLines
import ClassAtlas.Proofs.MemberPartition
import ClassAtlas.Proofs.ReferentialIntegrity

/-!
# DOT text under a focus

The text of a diagram has a box for each drawn type, and then the edges, a flagged one
behind the grey node of an end that no type has. A focus keeps the edges at the types it names and
the types at their ends. The edges of a corpus start at declared types, and lead to declared types
or need review, so both ends of every edge in the text have a statement of their own.
-/
namespace ClassAtlas

namespace Dot

/-! ## What a focus selects -/

namespace Statement

/-- The declared type that a statement draws. -/
def boxed? : Statement → Option Key
  | .box key _ => some key
  | _ => none

/-- The edge that a statement draws. -/
def edge? : Statement → Option Arrow
  | .edge arrow => some arrow
  | _ => none

end Statement

/-- The types that statements draw, in order. -/
def boxes (statements : List Statement) : List Key := statements.filterMap (·.boxed?)

/-- The edges that statements draw, in order. -/
def drawn (statements : List Statement) : List Arrow := statements.filterMap (·.edge?)

/-- The nodes that a focus names: it is their key or their simple name. -/
def named (nodes : List Key) (focus : String) : List Key :=
  nodes.filter fun key => key = focus ∨ Key.simpleName key = focus

/-- How statements draw what a focus selects from nodes and edges. -/
structure Shows (nodes : List Key) (edges : List Arrow) (focus : String)
    (statements : List Statement) : Prop where
  /-- Without a focus, or under one that names nothing, everything is drawn in order. -/
  whole : focus = "" ∨ named nodes focus = [] → boxes statements = nodes ∧ drawn statements = edges
  /-- Under any other focus the edges at the types that it names are drawn, in order. -/
  near : focus ≠ "" → named nodes focus ≠ [] →
    drawn statements = edges.filter fun edge =>
      edge.src ∈ named nodes focus ∨ edge.dst ∈ named nodes focus
  /-- Then these types and the nodes at the ends of the edges have boxes, in increasing order. -/
  increasing : focus ≠ "" → named nodes focus ≠ [] → (boxes statements).Pairwise (· < ·)
  /-- No others have. -/
  boxed : focus ≠ "" → named nodes focus ≠ [] → ∀ key, key ∈ boxes statements ↔
    key ∈ named nodes focus ∨
      key ∈ nodes ∧ ∃ edge ∈ drawn statements, key = edge.src ∨ key = edge.dst
  /-- The start of a drawn edge has one box. -/
  src : ∀ edge ∈ drawn statements, (boxes statements).count edge.src = 1
  /-- Its end has one box if it is a node. -/
  dst : ∀ edge ∈ drawn statements, edge.dst ∈ nodes → (boxes statements).count edge.dst = 1
  /-- If it is none, the edge is flagged and its end has a grey node. -/
  ghost : ∀ edge ∈ drawn statements, edge.dst ∉ nodes →
    edge.review ≠ none ∧ .ghost edge.dst ∈ statements
  /-- No other names have grey nodes. -/
  grey : ∀ name, .ghost name ∈ statements →
    name ∉ nodes ∧ ∃ edge ∈ drawn statements, edge.dst = name

section Shows

variable {keys : List Key} {edges : List Arrow} {focus : String} {statements : List Statement}

/-- Only nodes have boxes. -/
theorem Shows.boxes_subset (shows : Shows keys edges focus statements) {key : Key}
    (member : key ∈ boxes statements) : key ∈ keys := by
  by_cases idle : focus = "" ∨ named keys focus = []
  · exact (shows.whole idle).1 ▸ member
  · obtain ⟨given, answered⟩ := not_or.1 idle
    rcases (shows.boxed given answered key).1 member with direct | reached
    · exact (List.mem_filter.1 direct).1
    · exact reached.1

/-- Only edges of the diagram are drawn. -/
theorem Shows.drawn_subset (shows : Shows keys edges focus statements) {edge : Arrow}
    (member : edge ∈ drawn statements) : edge ∈ edges := by
  by_cases idle : focus = "" ∨ named keys focus = []
  · exact (shows.whole idle).2 ▸ member
  · obtain ⟨given, answered⟩ := not_or.1 idle
    rw [shows.near given answered] at member
    exact (List.mem_filter.1 member).1

/-- Statements about readable names can be read back. -/
theorem Shows.legible (shows : Shows keys edges focus statements)
    (readable : ∀ key ∈ keys, IsReadable key)
    (ended : ∀ edge ∈ edges, IsReadable edge.dst ∧ Text.Within Text.isInline edge.role) :
    ∀ statement ∈ statements, statement.Legible := by
  intro statement listed
  cases statement with
  | box key kind =>
    exact readable key (shows.boxes_subset (List.mem_filterMap.2 ⟨_, listed, rfl⟩))
  | ghost name =>
    obtain ⟨_, edge, member, rfl⟩ := shows.grey name listed
    exact (ended edge (shows.drawn_subset member)).1
  | edge arrow =>
    have member : arrow ∈ drawn statements := List.mem_filterMap.2 ⟨_, listed, rfl⟩
    have boxed : 0 < (boxes statements).count arrow.src := by
      rw [shows.src arrow member]
      exact Nat.one_pos
    have start := readable _ (shows.boxes_subset (List.count_pos_iff.1 boxed))
    exact ⟨start, ended arrow (shows.drawn_subset member)⟩

end Shows

/-- The box of a key, if it is a node that has a kind. -/
def box? (nodes : Nodes) (key : Key) : Option Statement :=
  match nodes.find? (·.1 == key) with
  | some (_, some kind) => some (.box key kind)
  | _ => none

/-- The statements of an edge. -/
def edgeStatements (nodes : Nodes) (arrow : Arrow) : List Statement :=
  if arrow.review.isSome && !nodes.contains arrow.dst then [.ghost arrow.dst, .edge arrow]
  else [.edge arrow]

/-- The statements of the part of a diagram that is drawn. -/
def View.statements (nodes : Nodes) (view : View) : List Statement :=
  view.keys.filterMap (box? nodes) ++ view.arrows.flatMap (edgeStatements nodes)

variable {nodes : Nodes} {arrows : List Arrow} {focus : String}

/-- A key is a node if one has it. -/
theorem contains_iff {key : Key} : nodes.contains key = true ↔ key ∈ nodes.map (·.1) := by
  simp [Nodes.contains]

/-- A node that has a kind has a box. -/
theorem box?_of_mem (kinds : ∀ node ∈ nodes, node.2.isSome = true) {key : Key}
    (member : key ∈ nodes.map (·.1)) : ∃ kind, (key, some kind) ∈ nodes ∧
      box? nodes key = some (.box key kind) := by
  have found : (nodes.find? (·.1 == key)).isSome = true := by
    simpa [List.find?_isSome] using member
  obtain ⟨⟨other, kind?⟩, at_key⟩ := Option.isSome_iff_exists.1 found
  have inside := List.mem_of_find?_eq_some at_key
  have same : other = key := by simpa using List.find?_some at_key
  obtain ⟨kind, rfl⟩ := Option.isSome_iff_exists.1 (kinds _ inside)
  subst same
  exact ⟨kind, inside, by rw [box?, at_key]⟩

/-- The line of a key is that of its box. -/
theorem nodeLines_eq (kinds : ∀ node ∈ nodes, node.2.isSome = true) (key : Key) :
    nodeLines nodes key = pure ((box? nodes key).toList.map Statement.line) := by
  rw [nodeLines, box?]
  cases found : nodes.find? (·.1 == key) with
  | none => rfl
  | some node =>
    obtain ⟨kind, known⟩ := Option.isSome_iff_exists.1 (kinds _ (List.mem_of_find?_eq_some found))
    obtain ⟨other, kind?⟩ := node
    obtain rfl : kind? = some kind := known
    exact congrArg (fun line => Except.ok [line]) (nodeLine_eq key kind)

/-- The lines of an edge are those of its statements. -/
theorem arrowLines_eq (nodes : Nodes) (arrow : Arrow) :
    arrowLines nodes arrow = (edgeStatements nodes arrow).map Statement.line := by
  unfold arrowLines edgeStatements
  rw [arrowLine_eq, ghostLine_eq]
  split
  · rfl
  · rfl

/-- Where every node has a kind, the text of events is that of the statements under the focus. -/
theorem render_eq_text {events : List Event}
    (kinds : ∀ node ∈ nodesOf events, node.2.isSome = true) (focus : String) :
    render events focus = .ok (text
      ((view (nodesOf events) (arrowsOf events) focus).statements (nodesOf events))) := by
  have lines : nodeLines (nodesOf events) =
      fun key => pure ((box? (nodesOf events) key).toList.map Statement.line) :=
    funext (nodeLines_eq kinds)
  have boxed (keys : List Key) :
      (keys.map fun key => (box? (nodesOf events) key).toList.map Statement.line).flatten =
        (keys.filterMap (box? (nodesOf events))).map Statement.line := by
    rw [List.filterMap_eq_flatMap_toList, List.map_flatMap, List.flatMap_def]
  have ended (statements : List Statement) :
      text statements = "\n".intercalate (Dot.lines statements) ++ "\n" :=
    (Text.intercalate_ended (List.cons_ne_nil _ _)).symm
  rw [render, lines, List.mapM_pure, ended]
  simp only [pure_bind, boxed, Dot.lines, View.statements, List.map_append, List.map_flatMap,
    ← arrowLines_eq, List.append_assoc]
  rfl

/-! ## What is drawn -/

/-- The boxes in the statements of a view are those of its keys. -/
theorem boxes_statements (kinds : ∀ node ∈ nodes, node.2.isSome = true) {view : View}
    (known : ∀ key ∈ view.keys, key ∈ nodes.map (·.1)) :
    boxes (view.statements nodes) = view.keys := by
  have edges : (view.arrows.flatMap (edgeStatements nodes)).filterMap Statement.boxed? = [] := by
    apply List.filterMap_eq_nil_iff.2
    intro statement member
    obtain ⟨arrow, _, inside⟩ := List.mem_flatMap.1 member
    unfold edgeStatements at inside
    split at inside
    · rcases List.mem_pair.1 inside with rfl | rfl
      · rfl
      · rfl
    · rw [List.mem_singleton.1 inside]
      rfl
  have keys : ∀ key ∈ view.keys, (box? nodes key).bind Statement.boxed? = some key := by
    intro key member
    obtain ⟨kind, _, box⟩ := box?_of_mem kinds (known key member)
    rw [box]
    rfl
  rw [boxes, View.statements, List.filterMap_append, edges, List.append_nil,
    List.filterMap_filterMap, List.filterMap_congr keys, List.filterMap_some]

/-- The edges in the statements of a view are its edges. -/
theorem drawn_statements (nodes : Nodes) (view : View) :
    drawn (view.statements nodes) = view.arrows := by
  have keys : (view.keys.filterMap (box? nodes)).filterMap Statement.edge? = [] := by
    apply List.filterMap_eq_nil_iff.2
    intro statement member
    obtain ⟨key, _, found⟩ := List.mem_filterMap.1 member
    unfold box? at found
    split at found
    · rw [← Option.some.inj found]
      rfl
    · exact absurd found (Option.some_ne_none _).symm
  have edges (arrow : Arrow) :
      (edgeStatements nodes arrow).filterMap Statement.edge? = [arrow] := by
    unfold edgeStatements
    split
    · rfl
    · rfl
  rw [drawn, View.statements, List.filterMap_append, keys, List.nil_append,
    List.filterMap_flatMap]
  simp only [edges]
  exact List.flatMap_singleton' view.arrows

/-- A box in the statements of a view is that of a node. -/
theorem mem_of_box_mem {view : View} {key : Key} {kind : TypeKind}
    (member : .box key kind ∈ view.statements nodes) : (key, some kind) ∈ nodes := by
  rcases List.mem_append.1 member with boxed | edged
  · obtain ⟨other, _, made⟩ := List.mem_filterMap.1 boxed
    unfold box? at made
    split at made
    · next first known found =>
      obtain ⟨rfl, rfl⟩ := Statement.box.inj (Option.some.inj made)
      have same : first = other := by simpa using List.find?_some found
      exact same ▸ List.mem_of_find?_eq_some found
    · exact absurd made (Option.some_ne_none _).symm
  · obtain ⟨arrow, _, inside⟩ := List.mem_flatMap.1 edged
    unfold edgeStatements at inside
    split at inside
    · simp at inside
    · simp at inside

/-- A grey node in the statements of a view is that of the end of an edge, which is no node. -/
theorem exists_edge_of_ghost_mem {view : View} {name : String}
    (member : .ghost name ∈ view.statements nodes) :
    name ∉ nodes.map (·.1) ∧ ∃ edge ∈ view.arrows, edge.dst = name := by
  rcases List.mem_append.1 member with boxed | edged
  · obtain ⟨other, _, made⟩ := List.mem_filterMap.1 boxed
    unfold box? at made
    split at made
    · exact absurd (Option.some.inj made) (by simp)
    · exact absurd made (Option.some_ne_none _).symm
  · obtain ⟨arrow, drawn, inside⟩ := List.mem_flatMap.1 edged
    unfold edgeStatements at inside
    split at inside
    · next undeclared =>
      have same : name = arrow.dst := by simpa using inside
      subst same
      refine ⟨fun known => ?_, arrow, drawn, rfl⟩
      simp [contains_iff.2 known] at undeclared
    · simp at inside

/-- The keys that a focus names are those it is, or is the simple name of. -/
theorem focused_eq (nodes : Nodes) (focus : String) :
    focused nodes focus = named (nodes.map (·.1)) focus := by
  apply List.filter_congr
  intro key _
  rw [Bool.eq_iff_iff]
  simp only [Bool.or_eq_true, beq_iff_eq, decide_eq_true_eq, eq_comm (a := focus)]

/-- Without a focus, or under one that names nothing, the view is the whole diagram. -/
theorem view_whole (idle : focus = "" ∨ named (nodes.map (·.1)) focus = []) :
    view nodes arrows focus = ⟨nodes.map (·.1), arrows⟩ := by
  unfold view
  rw [focused_eq]
  apply if_pos
  simpa using idle

/-- Under any other focus the view is what is near the types that it names. -/
theorem view_near (given : focus ≠ "") (answered : named (nodes.map (·.1)) focus ≠ []) :
    view nodes arrows focus =
      let names := named (nodes.map (·.1)) focus
      let near := arrows.filter fun arrow => arrow.src ∈ names ∨ arrow.dst ∈ names
      let ends := (near.flatMap fun arrow => [arrow.src, arrow.dst]).filter nodes.contains
      ⟨distinctNames (names ++ ends), near⟩ := by
  unfold view
  rw [focused_eq, if_neg (by simp [given, answered])]
  simp [Bool.decide_or]

/-- The keys of a view are nodes. -/
theorem view_keys_known {key : Key} (member : key ∈ (view nodes arrows focus).keys) :
    key ∈ nodes.map (·.1) := by
  by_cases idle : focus = "" ∨ named (nodes.map (·.1)) focus = []
  · rwa [view_whole idle] at member
  · obtain ⟨given, answered⟩ := not_or.1 idle
    rw [view_near given answered, mem_distinctNames, List.mem_append] at member
    rcases member with direct | reached
    · exact (List.mem_filter.1 direct).1
    · exact contains_iff.1 (List.mem_filter.1 reached).2

/-- The edges of a view are those of the diagram. -/
theorem view_arrows_known {arrow : Arrow} (member : arrow ∈ (view nodes arrows focus).arrows) :
    arrow ∈ arrows := by
  by_cases idle : focus = "" ∨ named (nodes.map (·.1)) focus = []
  · rwa [view_whole idle] at member
  · obtain ⟨given, answered⟩ := not_or.1 idle
    rw [view_near given answered] at member
    exact (List.mem_filter.1 member).1

/-- The keys of a view differ where those of the nodes do. -/
theorem view_keys_nodup (distinct : (nodes.map (·.1)).Nodup) :
    (view nodes arrows focus).keys.Nodup := by
  by_cases idle : focus = "" ∨ named (nodes.map (·.1)) focus = []
  · rwa [view_whole idle]
  · obtain ⟨given, answered⟩ := not_or.1 idle
    rw [view_near given answered]
    exact nodup_of_increasing (distinctNames_pairwise _)

/-- The nodes at the ends of the edges of a view are among its keys. -/
theorem end_mem_view {arrow : Arrow} (member : arrow ∈ (view nodes arrows focus).arrows)
    {key : Key} (ended : key = arrow.src ∨ key = arrow.dst) (known : key ∈ nodes.map (·.1)) :
    key ∈ (view nodes arrows focus).keys := by
  by_cases idle : focus = "" ∨ named (nodes.map (·.1)) focus = []
  · rwa [view_whole idle]
  · obtain ⟨given, answered⟩ := not_or.1 idle
    rw [view_near given answered] at member ⊢
    apply mem_distinctNames.2
    apply List.mem_append_right
    apply List.mem_filter.2
    refine ⟨List.mem_flatMap.2 ⟨arrow, member, ?_⟩, contains_iff.2 known⟩
    simpa using ended

/-- Where every edge starts at a node, and ends at one or is flagged, the statements of a view draw
what the focus selects. -/
theorem shows_view (kinds : ∀ node ∈ nodes, node.2.isSome = true)
    (distinct : (nodes.map (·.1)).Nodup)
    (anchored : ∀ arrow ∈ arrows, arrow.src ∈ nodes.map (·.1) ∧
      (arrow.review = none → arrow.dst ∈ nodes.map (·.1))) (focus : String) :
    Shows (nodes.map (·.1)) arrows focus ((view nodes arrows focus).statements nodes) := by
  have known : ∀ key ∈ (view nodes arrows focus).keys, key ∈ nodes.map (·.1) :=
    fun _ member => view_keys_known member
  have boxed := boxes_statements kinds known
  have edges := drawn_statements nodes (view nodes arrows focus)
  have single {key : Key} (member : key ∈ (view nodes arrows focus).keys) :
      (view nodes arrows focus).keys.count key = 1 :=
    List.count_eq_one_of_mem (view_keys_nodup distinct) member
  constructor
  case whole =>
    intro idle
    rw [boxed, edges, view_whole idle]
    exact ⟨rfl, rfl⟩
  case near =>
    intro given answered
    rw [edges, view_near given answered]
  case increasing =>
    intro given answered
    rw [boxed, view_near given answered]
    exact distinctNames_pairwise _
  case boxed =>
    intro given answered key
    rw [boxed, edges, view_near given answered]
    simp only [mem_distinctNames, List.mem_append, List.mem_filter, List.mem_flatMap,
      List.mem_pair, contains_iff]
    rw [and_comm (b := key ∈ nodes.map (·.1))]
  case src =>
    intro arrow member
    rw [boxed]
    rw [edges] at member
    exact single (end_mem_view member (.inl rfl) (anchored arrow (view_arrows_known member)).1)
  case dst =>
    intro arrow member known
    rw [boxed]
    rw [edges] at member
    exact single (end_mem_view member (.inr rfl) known)
  case ghost =>
    intro arrow member unknown
    rw [edges] at member
    have flagged : arrow.review ≠ none := fun plain =>
      unknown ((anchored arrow (view_arrows_known member)).2 plain)
    refine ⟨flagged, ?_⟩
    apply List.mem_append_right
    apply List.mem_flatMap.2
    refine ⟨arrow, member, ?_⟩
    have missing : nodes.contains arrow.dst = false := by
      rw [Bool.eq_false_iff]
      exact fun found => unknown (contains_iff.1 found)
    have reviewed : arrow.review.isSome = true := Option.isSome_iff_ne_none.2 flagged
    simp [edgeStatements, missing, reviewed]
  case grey =>
    intro name listed
    rw [edges]
    exact exists_edge_of_ghost_mem listed

/-! ## Streams -/

/-- The node that an event declares. -/
def declared? : Event → Option (Key × Option TypeKind)
  | .declareNode key kind _ _ => some (key, kind)
  | _ => none

/-- The edge that is drawn for an edge of a diagram. -/
def Arrow.ofEdge (edge : Edge) : Arrow :=
  { src := edge.src, dst := edge.dst, kind := edge.kind, role := edge.role
    review := edge.review }

/-- Nodes with different keys are listed as events declare them. -/
theorem nodesOf_eq {events : List Event} (distinct : (nodeKeys events).Nodup) :
    nodesOf events = events.filterMap declared? := by
  -- What has been declared before stands in front, and no event declares it again.
  have further (events : List Event) (before : Nodes)
      (distinct : (before.map (·.1) ++ nodeKeys events).Nodup) :
      events.foldl (fun nodes event =>
        match event with
        | .declareNode key kind _ _ => nodes.declare key kind
        | _ => nodes) before = before ++ events.filterMap declared? := by
    induction events generalizing before with
    | nil => simp
    | cons event events ih =>
      cases event with
      | declareNode key kind stereotypes modifiers =>
        have keys : nodeKeys (.declareNode key kind stereotypes modifiers :: events) =
            key :: nodeKeys events := rfl
        rw [keys] at distinct
        have fresh : ¬(before.any (·.1 == key)) = true := by
          intro taken
          have known : key ∈ before.map (·.1) := contains_iff.1 taken
          exact (List.nodup_append.1 distinct).2.2 key known key List.mem_cons_self rfl
        have declared : before.declare key kind = before ++ [(key, kind)] := if_neg fresh
        rw [List.foldl_cons]
        change events.foldl _ (before.declare key kind) = _
        rw [declared, ih]
        · simp [declared?]
        · simpa using distinct
      | _ =>
        rw [List.foldl_cons, ih before distinct]
        rfl
  exact further events [] distinct

end Dot

/-- What is taken from the events of a stream, but for those that begin or end it or a package, is
what is taken from each type and then from the edges. -/
theorem ClassifiedDiagram.filterMap_events {β : Type} {take : Event → Option β}
    (framed : ∀ event, event.isFrame = true → take event = none) (diagram : ClassifiedDiagram)
    (name : String) :
    (diagram.events name).filterMap take =
      diagram.types.flatMap (fun classified => classified.events.filterMap take) ++
        diagram.edges.filterMap fun edge => take (Event.ofEdge edge) := by
  have kept (events : List Event) :
      (events.filter fun event => (take event).isSome).filterMap take = events.filterMap take := by
    rw [List.filterMap_filter]
    apply List.filterMap_congr
    intro event _
    cases take event with
    | none => rfl
    | some value => rfl
  have passed : ∀ event, event.isFrame = true → (take event).isSome = false := by
    intro event frame
    rw [framed event frame]
    rfl
  have edges : ((diagram.edges.filter fun edge => (take (Event.ofEdge edge)).isSome).map
      Event.ofEdge).filterMap take =
        diagram.edges.filterMap fun edge => take (Event.ofEdge edge) := by
    have all := kept (diagram.edges.map Event.ofEdge)
    rwa [List.filter_map, List.filterMap_map (l := diagram.edges)] at all
  rw [← kept, filter_events passed, List.filterMap_append, List.filterMap_flatMap, edges]
  simp only [kept]

namespace Resolver

variable {resolver : Resolver} {edge : Edge}

/-- The nodes of the stream of a classified corpus are its types with their kinds, in order. -/
theorem filterMap_declared (resolver : Resolver) (name : String) :
    (resolver.classify.events name).filterMap Dot.declared? =
      resolver.index.types.map fun declared => (declared.key, some declared.declaration.kind) := by
  have framed : ∀ event, event.isFrame = true → Dot.declared? event = none := by
    intro event frame
    cases event <;> simp_all [Event.isFrame, Dot.declared?]
  have node (classified : ClassifiedType) : classified.events.filterMap Dot.declared? =
      [(classified.key, some classified.declared.declaration.kind)] := by
    simp [ClassifiedType.events, List.filterMap_append, List.filterMap_map, Function.comp_def,
      Dot.declared?]
  have edges : (resolver.classify.edges.filterMap fun edge =>
      Dot.declared? (Event.ofEdge edge)) = [] := by
    apply List.filterMap_eq_nil_iff.2
    intro edge _
    unfold Event.ofEdge
    cases edge.kind <;> rfl
  rw [ClassifiedDiagram.filterMap_events framed, edges, List.append_nil]
  simp only [node]
  change (resolver.index.types.map resolver.classifyType).flatMap _ = _
  rw [List.flatMap_map]
  exact List.map_eq_flatMap.symm

/-- The keys of the nodes of the stream are those of the index, in order. -/
theorem nodeKeys_events (resolver : Resolver) (name : String) :
    nodeKeys (resolver.classify.events name) = resolver.index.keys := by
  have keys : nodeKeys (resolver.classify.events name) =
      ((resolver.classify.events name).filterMap Dot.declared?).map (·.1) := by
    rw [nodeKeys, List.map_filterMap]
    apply List.filterMap_congr
    intro event _
    cases event <;> rfl
  rw [keys, filterMap_declared, List.map_map, ← Index.map_key_types]
  rfl

/-- The text of the stream is made from the types with their kinds. -/
theorem nodesOf_events (resolver : Resolver) (name : String) :
    Dot.nodesOf (resolver.classify.events name) =
      resolver.index.types.map fun declared => (declared.key, some declared.declaration.kind) := by
  have distinct : (nodeKeys (resolver.classify.events name)).Nodup := by
    rw [nodeKeys_events]
    exact resolver.index.keys_nodup
  rw [Dot.nodesOf_eq distinct, filterMap_declared]

/-- Only associations have a role. -/
theorem role_of_mem (member : edge ∈ resolver.classify.edges) (other : edge.kind ≠ .association) :
    edge.role = "" := by
  simp only [ClassifiedDiagram.edges, List.mem_append, or_assoc] at member
  rcases member with nesting | supertype | association | dependency
  · obtain ⟨declared, _, proposed⟩ := mem_classify_owns nesting
    obtain ⟨owner, _, _, rfl⟩ := mem_nestingEdges.1 proposed
    rfl
  · obtain ⟨declared, _, proposed⟩ := mem_classify_supertypes supertype
    obtain ⟨kind, usage, _, rfl⟩ := mem_supertypeEdges.1 proposed
    rfl
  · exact absurd (kind_of_mem_associations association) other
  · obtain ⟨⟨declared, _, ref, _, rfl⟩, _⟩ := mem_classify_dependencies dependency
    rfl

/-- The edges of the stream of a classified corpus are those of the diagram, in order. -/
theorem arrowsOf_events (resolver : Resolver) (name : String) :
    Dot.arrowsOf (resolver.classify.events name) =
      resolver.classify.edges.map Dot.Arrow.ofEdge := by
  have framed : ∀ event, event.isFrame = true → Dot.Arrow.ofEvent? event = none := by
    intro event frame
    cases event <;> simp_all [Event.isFrame, Dot.Arrow.ofEvent?]
  have node (classified : ClassifiedType) :
      classified.events.filterMap Dot.Arrow.ofEvent? = [] := by
    simp only [ClassifiedType.events, List.filterMap_append, List.filterMap_map]
    simp [Function.comp_def, Dot.Arrow.ofEvent?]
  have edges : ∀ edge ∈ resolver.classify.edges,
      Dot.Arrow.ofEvent? (Event.ofEdge edge) = some (Dot.Arrow.ofEdge edge) := by
    intro edge member
    have unflagged := (classify_anchored member).unflagged
    have role := role_of_mem member
    unfold Event.ofEdge Dot.Arrow.ofEdge
    cases kind : edge.kind <;> simp_all [Dot.Arrow.ofEvent?]
  rw [Dot.arrowsOf, ClassifiedDiagram.filterMap_events framed, List.filterMap_congr edges]
  simp [node]

end Resolver

/-- The DOT text of the stream of a corpus is that of statements that draw what the focus selects
from the declared nodes and the edges, both in the order of the stream: everything if the focus is
empty or names no node, else the edges at the nodes that it names and these nodes with the declared
ends of the edges. Both ends of every edge have a statement, a declared one its only box. What the
statements tell is read back from the text if the names can be told apart in it. -/
theorem generate_dot_focus (units : List CompilationUnit) (choice : OracleChoice)
    (carried : List Diagnostic) (name focus : String) :
    let generation := generate units choice carried
    let events := (generation.classified.events name).map Event.recorded
    nodeKeys events = generation.index.keys ∧
      ∃ statements : List Dot.Statement,
        Dot.render events focus = .ok (Dot.text statements) ∧
        Dot.Shows (nodeKeys events) (generation.classified.edges.map Dot.Arrow.ofEdge) focus
          statements ∧
        (∀ key kind, .box key kind ∈ statements →
          ∃ declared, generation.index.get? key = some declared ∧
            declared.declaration.kind = kind) ∧
        ((∀ key ∈ nodeKeys events, Dot.IsReadable key) →
          (∀ edge ∈ generation.classified.edges,
            Dot.IsReadable edge.dst ∧ Text.Within Text.isInline edge.role) →
          Dot.readText (Dot.text statements) = statements.map Dot.Statement.told) := by
  intro generation events
  let resolver := choice.resolver generation.index
  have told : events = resolver.classify.events name :=
    ClassifiedDiagram.recorded_events resolver.classify name
  have nodes : Dot.nodesOf events =
      generation.index.types.map fun declared =>
        (declared.key, some declared.declaration.kind) := by
    rw [told]
    exact resolver.nodesOf_events name
  have keys : nodeKeys events = generation.index.keys := by
    rw [told]
    exact resolver.nodeKeys_events name
  have arrows : Dot.arrowsOf events = generation.classified.edges.map Dot.Arrow.ofEdge := by
    rw [told]
    exact resolver.arrowsOf_events name
  have listed : (Dot.nodesOf events).map (·.1) = generation.index.keys := by
    rw [nodes, List.map_map, ← Index.map_key_types]
    rfl
  have kinds : ∀ node ∈ Dot.nodesOf events, node.2.isSome = true := by
    intro node member
    rw [nodes] at member
    obtain ⟨_, _, rfl⟩ := List.mem_map.1 member
    rfl
  have anchored : ∀ arrow ∈ Dot.arrowsOf events,
      arrow.src ∈ (Dot.nodesOf events).map (·.1) ∧
        (arrow.review = none → arrow.dst ∈ (Dot.nodesOf events).map (·.1)) := by
    intro arrow member
    rw [arrows] at member
    obtain ⟨edge, drawn, rfl⟩ := List.mem_map.1 member
    have held : generation.index.Anchors edge := Resolver.classify_anchored drawn
    rw [listed]
    exact ⟨Index.mem_keys_iff.2 held.src, fun plain => Index.mem_keys_iff.2 (held.dst plain)⟩
  have distinct : ((Dot.nodesOf events).map (·.1)).Nodup := by
    rw [listed]
    exact generation.index.keys_nodup
  have shown := Dot.shows_view kinds distinct anchored focus
  rw [listed, ← keys] at shown
  refine ⟨keys, _, Dot.render_eq_text kinds focus, ?_, ?_, fun readable ended => ?_⟩
  · rw [← arrows]
    exact shown
  · intro key kind member
    have node := Dot.mem_of_box_mem member
    rw [nodes] at node
    obtain ⟨declared, entry, same⟩ := List.mem_map.1 node
    obtain ⟨rfl, known⟩ := Prod.mk.inj same
    have found := Index.get?_eq_some_iff.2 ⟨Index.mem_types_iff.1 entry, rfl⟩
    exact ⟨declared, found, Option.some.inj known⟩
  · refine Dot.readText_text (shown.legible readable fun arrow drawn => ?_)
    rw [arrows] at drawn
    obtain ⟨edge, member, rfl⟩ := List.mem_map.1 drawn
    exact ended edge member

/-- Under a focus on a class, the class that its field mentions has a box and the missing class that
it extends a grey node; a class that nothing joins to it is left out. -/
theorem generate_dot_focus_missing_supertype :
    let units : List CompilationUnit :=
      [{ package := "p"
         types :=
          [{ name := "Side" },
            { name := "Main", extending := [.named "Gone" []]
              fields := [{ name := "part", type := .named "Part" [] }] },
            { name := "Part", kind := .interface }] }]
    let generation := generate units .none []
    let events := (generation.classified.events "d").map Event.recorded
    let told : List Dot.Told :=
      [.box "p.Main", .box "p.Part", .ghost "Gone", .edge "p.Main" "Gone",
        .edge "p.Main" "p.Part"]
    let drawn := "digraph ClassDiagram \x7b\n  rankdir=LR;\n  node [shape=box];\n"
      ++ "  \"p.Main\" [label=\"class\\np.Main\"];\n"
      ++ "  \"p.Part\" [label=\"interface\\np.Part\"];\n"
      ++ "  \"Gone\" [color=grey, fontcolor=grey];\n"
      ++ "  \"p.Main\" -> \"Gone\" [arrowhead=onormal, label=\"extends\", color=grey, "
      ++ "fontcolor=grey, style=\"dashed\"];\n"
      ++ "  \"p.Main\" -> \"p.Part\" [arrowhead=vee, label=\"part\"];\n\x7d\n"
    nodeKeys events = ["p.Main", "p.Part", "p.Side"] ∧
      Dot.render events "Main" = .ok drawn ∧
      Dot.readText drawn = told ∧
      ∃ statements, Dot.text statements = drawn ∧ statements.map Dot.Statement.told = told ∧
        Dot.Shows (nodeKeys events) (generation.classified.edges.map Dot.Arrow.ofEdge) "Main"
          statements := by
  intro units generation events told drawn
  have keys : nodeKeys events = ["p.Main", "p.Part", "p.Side"] := by decide +kernel
  have written : Dot.render events "Main" = .ok drawn := by decide +kernel
  have listed : Dot.readText drawn = told := by
    let shown : List Dot.Statement :=
      [.box "p.Main" .classType, .box "p.Part" .interface, .ghost "Gone",
        .edge { src := "p.Main", dst := "Gone", kind := .inheritance, review := some .unresolved },
        .edge { src := "p.Main", dst := "p.Part", kind := .association, role := "part" }]
    have spelled : Dot.text shown = drawn := by decide +kernel
    rw [← spelled]
    exact Dot.readText_text (by decide +kernel)
  have readable : ∀ key ∈ nodeKeys events, Dot.IsReadable key := by
    rw [keys]
    decide
  have ended : ∀ edge ∈ generation.classified.edges,
      Dot.IsReadable edge.dst ∧ Text.Within Text.isInline edge.role := by decide +kernel
  obtain ⟨_, statements, rendered, shown, _, read⟩ :=
    generate_dot_focus units .none [] "d" "Main"
  have same : Dot.text statements = drawn := Except.ok.inj (rendered.symm.trans written)
  have back := read readable ended
  rw [same, listed] at back
  exact ⟨keys, written, listed, statements, same, back.symm, shown⟩

end ClassAtlas
