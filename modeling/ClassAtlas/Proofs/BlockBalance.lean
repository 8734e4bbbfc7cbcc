import Mathlib.Data.List.Induction
import ClassAtlas.Proofs.MemberPartition
import ClassAtlas.Proofs.WrittenLines

/-!
# The blocks of a PlantUML text

A writer keeps the number of its open blocks and the keywords of its open nodes. It does not check
that blocks are closed in order, nor that they are closed at all: that they are is a matter of the
stream. The open blocks of a stream form a stack, told by its events alone. In the stream of a
corpus each event fits the blocks that are open before it, so the writer's count is the depth of
the stack and its keyword is that of the block on top.
-/
namespace ClassAtlas

open Text (Within Lined isInline isQuotable)

/-! ## Open blocks -/

/-- A block that is open. -/
inductive OpenBlock where
  | package (name : String)
  | node (key : Key) (kind : TypeKind) (modifiers : NameSet)

namespace OpenBlock

/-- The keyword of a block. -/
def keyword : OpenBlock → String
  | .package _ => "package"
  | .node _ kind modifiers => PlantUml.keyword kind modifiers

/-- The name of a block. -/
def name : OpenBlock → String
  | .package name => name
  | .node key _ _ => key

/-- A node's key and keyword. -/
def node? : OpenBlock → Option (Key × String)
  | .package _ => none
  | .node key kind modifiers => some (key, PlantUml.keyword kind modifiers)

end OpenBlock

namespace Event

/-- The block that an event opens. -/
def opens? : Event → Option OpenBlock
  | .beginPackage name => some (.package name)
  | .declareNode key (some kind) _ modifiers => some (.node key kind (.ofList modifiers))
  | _ => none

/-- Whether an event closes a block. -/
def closes : Event → Bool
  | .endPackage _ | .endNode _ => true
  | _ => false

/-- The blocks that are open behind an event, the last one opened first. -/
def blocks (outer : List OpenBlock) (event : Event) : List OpenBlock :=
  match event.opens? with
  | some block => block :: outer
  | none => if event.closes then outer.tail else outer

/-- Whether an event fits the blocks that are open before it. Packages stand in no block, nodes at
most in a package, members in their node; what ends is the last block opened. -/
def Fits (outer : List OpenBlock) : Event → Prop
  | .declareNode _ kind _ _ =>
    kind.isSome = true ∧ outer.length ≤ 1 ∧ outer.filterMap (·.node?) = []
  | .endPackage name => outer = [.package name]
  | .endNode key | .addAttribute key _ _ | .addEnumConstant key _ | .addConstructor key _
  | .addMethod key _ | .addAnnotationMember key _ =>
    ∃ kind modifiers rest, outer = .node key kind modifiers :: rest
  | _ => outer = []

end Event

/-- The blocks that are open behind events. -/
def openBlocks (events : List Event) : List OpenBlock := events.foldl Event.blocks []

/-- More events change the blocks that the first ones leave open. -/
theorem openBlocks_append (front back : List Event) :
    openBlocks (front ++ back) = back.foldl Event.blocks (openBlocks front) :=
  List.foldl_append

/-- An event behind others changes the blocks that they leave open. -/
theorem openBlocks_concat (front : List Event) (event : Event) :
    openBlocks (front ++ [event]) = event.blocks (openBlocks front) :=
  openBlocks_append front [event]

/-- A block that is open was opened by an event, and has been open from there on: the blocks below
it are those that were open before the event, and none of the events behind it reaches them. -/
theorem exists_opening {events : List Event} {upper lower : List OpenBlock} {block : OpenBlock}
    (found : openBlocks events = upper ++ block :: lower) :
    ∃ front opening inner, events = front ++ opening :: inner ∧
      opening.opens? = some block ∧ openBlocks front = lower ∧
      ∀ part, part <+: inner →
        ∃ nested, openBlocks (front ++ opening :: part) = nested ++ block :: lower := by
  -- The induction goes from the back, where the last event may open or close a block above it.
  induction events using List.reverseRecOn generalizing upper with
  | nil => exact absurd found (by simp [openBlocks])
  | append_singleton events last ih =>
    -- An event that leaves the block open carries on what holds up to it.
    have carry (above : List OpenBlock) (before : openBlocks events = above ++ block :: lower) :
        ∃ front opening inner, events ++ [last] = front ++ opening :: inner ∧
          opening.opens? = some block ∧ openBlocks front = lower ∧
          ∀ part, part <+: inner →
            ∃ nested, openBlocks (front ++ opening :: part) = nested ++ block :: lower := by
      obtain ⟨front, opening, inner, rfl, opened, below, inside⟩ := ih before
      refine ⟨front, opening, inner ++ [last], by simp, opened, below, fun part reached => ?_⟩
      rcases List.prefix_concat_iff.1 reached with rfl | earlier
      · exact ⟨upper, by simpa using found⟩
      · exact inside part earlier
    rw [openBlocks_concat, Event.blocks] at found
    cases opened : last.opens? with
    | some other =>
      simp only [opened] at found
      cases upper with
      | nil =>
        obtain ⟨rfl, below⟩ := List.cons.inj found
        refine ⟨events, last, [], rfl, opened, below, fun part reached => ⟨[], ?_⟩⟩
        rw [List.prefix_nil.1 reached, openBlocks_concat, Event.blocks, opened, below]
        rfl
      | cons top upper => exact carry upper (List.cons.inj found).2
    | none =>
      simp only [opened] at found
      split at found
      · cases before : openBlocks events with
        | nil => exact absurd found (by simp [before])
        | cons top rest =>
          rw [before, List.tail_cons] at found
          exact carry (top :: upper) (by rw [before, found, List.cons_append])
      · exact carry upper found

/-! ## Balanced events -/

/-- Whether each of some events fits the blocks that are open before it. -/
def Nests (outer : List OpenBlock) : List Event → Prop
  | [] => True
  | event :: events => event.Fits outer ∧ Nests (event.blocks outer) events

/-- More events fit if they do behind the first ones. -/
theorem nests_append {outer : List OpenBlock} {front back : List Event} :
    Nests outer (front ++ back) ↔
      Nests outer front ∧ Nests (front.foldl Event.blocks outer) back := by
  induction front generalizing outer with
  | nil => simp [Nests]
  | cons event front ih => rw [List.cons_append, Nests, Nests, ih, List.foldl_cons, and_assoc]

/-- Events that fit and leave open what was open before them. -/
structure Balanced (outer : List OpenBlock) (events : List Event) : Prop where
  /-- Each event fits. -/
  nests : Nests outer events
  /-- The blocks opened by the events are closed by them, and no others. -/
  restored : events.foldl Event.blocks outer = outer

namespace Balanced

variable {outer : List OpenBlock}

/-- Balanced events behind balanced events are balanced. -/
theorem append {front back : List Event} (first : Balanced outer front)
    (second : Balanced outer back) : Balanced outer (front ++ back) where
  nests := by
    rw [nests_append, first.restored]
    exact ⟨first.nests, second.nests⟩
  restored := by rw [List.foldl_append, first.restored, second.restored]

/-- Balanced blocks one after the other are balanced. -/
theorem flatMap {α : Type} {values : List α} {block : α → List Event}
    (each : ∀ value ∈ values, Balanced outer (block value)) :
    Balanced outer (values.flatMap block) := by
  induction values with
  | nil => exact ⟨trivial, rfl⟩
  | cons value values ih =>
    obtain ⟨here, later⟩ := List.forall_mem_cons.1 each
    exact here.append (ih later)

/-- Events that open and close nothing are balanced where they fit. -/
theorem of_level {events : List Event}
    (each : ∀ event ∈ events, event.Fits outer ∧ event.blocks outer = outer) :
    Balanced outer events := by
  induction events with
  | nil => exact ⟨trivial, rfl⟩
  | cons event events ih =>
    obtain ⟨⟨fits, same⟩, later⟩ := List.forall_mem_cons.1 each
    have rest := ih later
    exact ⟨⟨fits, same.symm ▸ rest.nests⟩, by rw [List.foldl_cons, same, rest.restored]⟩

/-- Balanced events are so between the begin and the end of a block. -/
theorem wrap {opening closing : Event} {block : OpenBlock} {inner : List Event}
    (begins : opening.Fits outer) (opened : opening.blocks outer = block :: outer)
    (inside : Balanced (block :: outer) inner) (ends : closing.Fits (block :: outer))
    (closed : closing.blocks (block :: outer) = outer) :
    Balanced outer (opening :: (inner ++ [closing])) where
  nests := by
    rw [Nests, opened, nests_append, inside.restored]
    exact ⟨begins, inside.nests, ends, trivial⟩
  restored := by
    rw [List.foldl_cons, opened, List.foldl_append, inside.restored]
    exact closed

end Balanced

/-- A member stands in its node and opens and closes nothing. -/
theorem Event.fits_of_memberOf? {event : Event} {key : Key} (member : event.memberOf? = some key)
    {kind : TypeKind} {modifiers : NameSet} {rest : List OpenBlock} :
    event.Fits (.node key kind modifiers :: rest) ∧
      event.blocks (.node key kind modifiers :: rest) = .node key kind modifiers :: rest := by
  cases event with
  | addAttribute owner | addEnumConstant owner | addConstructor owner | addMethod owner
  | addAnnotationMember owner =>
    obtain rfl := Option.some.inj member
    exact ⟨⟨kind, modifiers, rest, rfl⟩, rfl⟩
  | _ => exact absurd member (Option.some_ne_none key).symm

/-- An edge stands in no block and opens and closes nothing. -/
theorem Event.fits_of_isEdge {event : Event} (edge : event.isEdge = true) :
    event.Fits [] ∧ event.blocks [] = [] := by
  cases event with
  | connectOwns | connectInheritance | connectRealization | connectAssociation
  | connectDependency => exact ⟨rfl, rfl⟩
  | _ => exact absurd edge Bool.false_ne_true

/-- The block of a node is balanced in no block and in a package. -/
theorem NodeBlock.Ordered.balanced {node : NodeBlock} (ordered : node.Ordered)
    {outer : List OpenBlock} (depth : outer.length ≤ 1)
    (packages : outer.filterMap (·.node?) = []) : Balanced outer node.events := by
  have members : Balanced (.node node.key node.kind (.ofList node.modifiers) :: outer)
      node.members :=
    .of_level fun event listed => Event.fits_of_memberOf? (ordered.own event listed)
  exact members.wrap ⟨rfl, depth, packages⟩ rfl ⟨node.kind, _, outer, rfl⟩ rfl

/-- The block of a package is balanced in no block. -/
theorem PackageBlock.balanced {block : PackageBlock}
    (ordered : ∀ node ∈ block.nodes, node.Ordered) : Balanced [] block.events := by
  unfold events
  dsimp only
  split
  · exact .flatMap fun node listed => (ordered node listed).balanced (Nat.zero_le 1) rfl
  · have nodes : Balanced [.package block.package] (block.nodes.flatMap NodeBlock.events) :=
      .flatMap fun node listed => (ordered node listed).balanced (Nat.le_refl 1) rfl
    exact nodes.wrap rfl rfl rfl rfl

/-- An outline with members in their nodes and edges behind the packages is balanced. -/
theorem Outline.Canonical.balanced {outline : Outline} {index : Index}
    (canonical : outline.Canonical index) (name : String) : Balanced [] (outline.events name) := by
  have blocks : Balanced [] (outline.blocks.flatMap PackageBlock.events) :=
    .flatMap fun block listed => PackageBlock.balanced (canonical.nodes block listed)
  have edges : Balanced [] outline.edges :=
    .of_level fun event listed => Event.fits_of_isEdge (canonical.edges event listed)
  have title : Balanced [] [.beginDiagram name] := ⟨⟨rfl, trivial⟩, rfl⟩
  have closing : Balanced [] [.endDiagram name] := ⟨⟨rfl, trivial⟩, rfl⟩
  exact title.append (blocks.append (edges.append closing))

/-- The stream of a corpus is balanced, whatever the oracle says. -/
theorem Resolver.balanced_events (resolver : Resolver) {units : List CompilationUnit}
    {carried : List Diagnostic} (built : resolver.index = Index.ofUnits units carried)
    (name : String) : Balanced [] (resolver.classify.events name) := by
  rw [resolver.events_eq_outline]
  exact (outline_canonical built).balanced name

/-! ## Writers -/

namespace PlantUml.Writer

/-- What a writer keeps of the blocks that are open. -/
structure Holds (writer : Writer) (blocks : List OpenBlock) : Prop where
  /-- Their number. -/
  indent : writer.indent = blocks.length
  /-- The keys and keywords of the nodes among them. -/
  nodes : writer.openNodes = blocks.filterMap (·.node?)
  /-- They are at most a node in a package. -/
  depth : blocks.length ≤ 2
  /-- No node is open but in the last place. -/
  outer : blocks.tail.filterMap (·.node?) = []

/-- A writer that has written nothing holds no block. -/
theorem holds_fresh (header : List String) (tag : String) : Holds { header, tag } [] :=
  ⟨rfl, rfl, Nat.zero_le 2, rfl⟩

variable {writer : Writer} {blocks : List OpenBlock} {event : Event}

/-- A node that can be written has its stereotypes written. -/
theorem exists_nodeSuffix {key : Key} {kind : Option TypeKind} {stereotypes modifiers : List String}
    (named : (Event.declareNode key kind stereotypes modifiers).Named isQuotable) :
    ∃ suffix, stereotypeSuffix (nodeStereotypes kind (.ofList modifiers) stereotypes) =
      .ok suffix := by
  refine exists_of_isOk (isOk_stereotypeSuffix.2 (forall_nodeStereotypes.2 fun text listed => ?_))
  exact named.texts text (List.mem_cons_of_mem key listed)

/-- The writer enters a block whose name can be quoted. -/
theorem enter_of_quotable {name : String} (quotable : Within isQuotable name) :
    writer.enter name = { writer with indent := writer.indent + 1 } := by
  have accepted : (checkText "name" name).isOk = true := isOk_checkText.2 quotable
  obtain ⟨_, given⟩ := exists_of_isOk accepted
  rw [enter, given]

/-- What a writer keeps of the blocks that are open, it keeps behind an event that fits them. -/
theorem Holds.next (holds : writer.Holds blocks) (fits : event.Fits blocks)
    (named : event.Named isQuotable) : (writer.next event).Holds (event.blocks blocks) := by
  obtain ⟨indent, nodes, depth, outer⟩ := holds
  cases event with
  | beginPackage name =>
    obtain rfl : blocks = [] := fits
    have quotable : Within isQuotable name := named.texts name List.mem_cons_self
    rw [Writer.next, enter_of_quotable quotable]
    exact ⟨congrArg (· + 1) indent, nodes, Nat.le_succ 1, rfl⟩
  | endPackage name =>
    obtain rfl : blocks = [.package name] := fits
    exact ⟨congrArg (· - 1) indent, nodes, Nat.zero_le 2, rfl⟩
  | declareNode key kind stereotypes modifiers =>
    obtain ⟨given, shallow, packages⟩ := fits
    obtain ⟨kind, rfl⟩ := Option.isSome_iff_exists.1 given
    obtain ⟨suffix, written⟩ := exists_nodeSuffix named
    have quotable : Within isQuotable key := named.texts key List.mem_cons_self
    have entered : writer.next (.declareNode key (some kind) stereotypes modifiers) =
        { writer with
          indent := writer.indent + 1
          openNodes := [(key, keyword kind (.ofList modifiers))] } := by
      rw [Writer.next, keyword?, written]
      dsimp only
      rw [enter_of_quotable quotable, openNode, nodes, packages]
      rfl
    rw [entered]
    refine ⟨congrArg (· + 1) indent, ?_, Nat.succ_le_succ shallow, packages⟩
    change _ = List.filterMap _ (.node key kind (.ofList modifiers) :: blocks)
    rw [List.filterMap_cons, packages]
    rfl
  | endNode key =>
    obtain ⟨kind, modifiers, rest, rfl⟩ := fits
    rw [List.tail_cons] at outer
    have alone : writer.openNodes = [(key, keyword kind modifiers)] := by
      rw [nodes, List.filterMap_cons, outer]
      rfl
    refine ⟨congrArg (· - 1) indent, ?_, ?_, ?_⟩
    · simp [Writer.next, leave, alone, Event.blocks, Event.opens?, Event.closes, outer]
    · exact Nat.le_of_succ_le depth
    · rw [List.filterMap_eq_nil_iff] at outer ⊢
      exact fun block listed => outer block (List.mem_of_mem_tail listed)
  | _ => exact ⟨indent, nodes, depth, outer⟩

/-- The same holds behind events that fit one after the other. -/
theorem Holds.after {events : List Event} (holds : writer.Holds blocks)
    (nests : Nests blocks events) (named : ∀ event ∈ events, event.Named isQuotable) :
    (writer.after events).Holds (events.foldl Event.blocks blocks) := by
  induction events generalizing writer blocks with
  | nil => exact holds
  | cons event events ih =>
    obtain ⟨here, later⟩ := List.forall_mem_cons.1 named
    exact ih (holds.next nests.1 here) nests.2 later

/-- An event changes neither the header nor the tag. -/
theorem next_header_tag (writer : Writer) (event : Event) :
    (writer.next event).header = writer.header ∧ (writer.next event).tag = writer.tag := by
  have enter (writer : Writer) (name : String) :
      (writer.enter name).header = writer.header ∧ (writer.enter name).tag = writer.tag := by
    unfold enter
    split <;> exact ⟨rfl, rfl⟩
  cases event with
  | beginPackage name => exact enter writer name
  | declareNode key kind stereotypes modifiers =>
    unfold next
    dsimp only
    split
    · exact enter _ key
    · exact ⟨rfl, rfl⟩
  | _ => exact ⟨rfl, rfl⟩

/-- So do several events. -/
theorem after_header_tag (writer : Writer) (events : List Event) :
    (writer.after events).header = writer.header ∧ (writer.after events).tag = writer.tag := by
  induction events generalizing writer with
  | nil => exact ⟨rfl, rfl⟩
  | cons event events ih =>
    obtain ⟨header, tag⟩ := writer.next_header_tag event
    obtain ⟨headers, tags⟩ := ih (writer.next event)
    exact ⟨headers.trans header, tags.trans tag⟩

/-- The opening line of a block stands at the depth of the blocks around it. -/
theorem Holds.text_opening (holds : writer.Holds blocks) (named : event.Named isQuotable)
    {block : OpenBlock} (opened : event.opens? = some block) :
    ∃ suffix, writer.text event =
      lineText blocks.length <$> openingLine writer.tag block.keyword suffix block.name := by
  rw [← holds.indent]
  cases event with
  | beginPackage name =>
    obtain rfl := Option.some.inj opened
    exact ⟨"", rfl⟩
  | declareNode key kind stereotypes modifiers =>
    obtain ⟨suffix, written⟩ := exists_nodeSuffix named
    cases kind with
    | none => exact absurd opened (Option.some_ne_none block).symm
    | some kind =>
      obtain rfl := Option.some.inj opened
      refine ⟨suffix, ?_⟩
      unfold text
      dsimp only
      rw [written]
      rfl
  | _ => exact absurd opened (Option.some_ne_none block).symm

/-- The closing line of a block stands at the same depth and has the block's keyword and name. -/
theorem Holds.text_closing (holds : writer.Holds blocks) (fits : event.Fits blocks)
    (closing : event.closes = true) :
    ∃ block rest, blocks = block :: rest ∧ writer.text event =
      lineText rest.length <$> closingLine writer.tag block.keyword block.name := by
  cases event with
  | endPackage name =>
    obtain rfl : blocks = [.package name] := fits
    refine ⟨.package name, [], rfl, ?_⟩
    unfold text
    dsimp only
    rw [holds.indent]
    rfl
  | endNode key =>
    obtain ⟨kind, modifiers, rest, rfl⟩ := fits
    have recorded : writer.openKeyword key = keyword kind modifiers := by
      rw [openKeyword, holds.nodes]
      simp [OpenBlock.node?]
    refine ⟨.node key kind modifiers, rest, rfl, ?_⟩
    unfold text
    dsimp only
    rw [holds.indent, recorded]
    rfl
  | _ => exact absurd closing Bool.false_ne_true

/-- The keyword that a writer has for a key is a word. -/
theorem Holds.worded (holds : writer.Holds blocks) (key : Key) :
    Within isInline (writer.openKeyword key) := by
  rw [openKeyword, holds.nodes]
  cases found : (blocks.filterMap (·.node?)).find? (·.1 == key) with
  | none => decide
  | some entry =>
    obtain ⟨block, _, recorded⟩ := List.mem_filterMap.1 (List.mem_of_find?_eq_some found)
    cases block with
    | package name => exact absurd recorded (Option.some_ne_none entry).symm
    | node owner kind modifiers =>
      obtain rfl := Option.some.inj recorded
      exact within_keyword Text.wide_isInline kind modifiers

/-- An event on whose names no line ends appends as many lines as it counts. -/
theorem Holds.lines (holds : writer.Holds blocks) (named : event.Named isQuotable)
    (names : ∀ name ∈ event.plainNames, Within isInline name) (tagged : Within isInline writer.tag)
    (headed : ∀ line ∈ writer.header, Within isInline line) :
    ∃ text, writer.text event = .ok text ∧ Lined isInline (writer.lineCount event) text := by
  have gives :=
    text_gives Text.wide_isInline named.kind named.types names tagged headed holds.worded
  obtain ⟨text, written⟩ := exists_of_isOk ((writer.isOk_text event).2 named)
  rw [written] at gives
  exact ⟨text, written, gives⟩

/-! ## Streams -/

/-- How the lines of a block that is closed answer each other: the block that the opening event
opens is the last one open before the closing event and is open all the way, and both lines stand at
the depth of the blocks around it and have its keyword and name. -/
structure Matches (writer : Writer) (front : List Event) (opening : Event) (inner : List Event)
    (closing : Event) (block : OpenBlock) : Prop where
  opened : opening.opens? = some block
  inside : ∀ part, part <+: inner →
    ∃ nested, openBlocks (front ++ opening :: part) = nested ++ block :: openBlocks front
  innermost : openBlocks (front ++ opening :: inner) = block :: openBlocks front
  openingText : ∃ suffix, (writer.after front).text opening =
    lineText (openBlocks front).length <$> openingLine writer.tag block.keyword suffix block.name
  closingText : (writer.after (front ++ opening :: inner)).text closing =
    lineText (openBlocks front).length <$> closingLine writer.tag block.keyword block.name

/-- How a writer keeps the blocks of a stream. -/
structure KeepsBlocks (writer : Writer) (stream : List Event) : Prop where
  /-- Its depth is the number of open blocks, at most two. -/
  depth : ∀ before, before <+: stream →
    (writer.after before).indent = (openBlocks before).length ∧ (openBlocks before).length ≤ 2
  /-- Every closing line answers the opening line of its block. -/
  closings : ∀ before closing later, stream = before ++ closing :: later →
    closing.closes = true →
      ∃ front opening inner block, before = front ++ opening :: inner ∧
        writer.Matches front opening inner closing block
  /-- The lines of the diagram itself and those of edges stand in no block. -/
  unindented : ∀ before event later, stream = before ++ event :: later →
    (event.isEdge = true ∨ ∃ title, event = .beginDiagram title ∨ event = .endDiagram title) →
      (writer.after before).indent = 0
  /-- At the end no block is open, and none is kept. -/
  settled : openBlocks stream = [] ∧ (writer.after stream).indent = 0 ∧
    (writer.after stream).openNodes = []

/-- What fits only where no block is open: edges, and the begin and the end of the diagram. -/
theorem blocks_eq_nil_of_fits (fits : event.Fits blocks)
    (plain : event.isEdge = true ∨
      ∃ title, event = .beginDiagram title ∨ event = .endDiagram title) : blocks = [] := by
  rcases plain with edge | ⟨title, rfl | rfl⟩
  · cases event with
    | connectOwns | connectInheritance | connectRealization | connectAssociation
    | connectDependency => exact fits
    | _ => exact absurd edge Bool.false_ne_true
  · exact fits
  · exact fits

/-- Wherever a balanced stream that can be written is cut, the writer holds the blocks that are open
there, and the rest fits them. -/
theorem Holds.cut {before later : List Event} (fresh : writer.Holds [])
    (balanced : Balanced [] (before ++ later))
    (named : ∀ event ∈ before ++ later, event.Named isQuotable) :
    (writer.after before).Holds (openBlocks before) ∧ Nests (openBlocks before) later ∧
      ∀ event ∈ later, event.Named isQuotable := by
  obtain ⟨first, second⟩ := nests_append.1 balanced.nests
  obtain ⟨earlier, further⟩ := List.forall_mem_append.1 named
  exact ⟨fresh.after first earlier, second, further⟩

/-- A writer keeps the blocks of a balanced stream that can be written. -/
theorem keepsBlocks {stream : List Event} (fresh : writer.Holds []) (balanced : Balanced [] stream)
    (named : ∀ event ∈ stream, event.Named isQuotable) : writer.KeepsBlocks stream := by
  have cut {before later : List Event} (parts : stream = before ++ later) :=
    fresh.cut (parts ▸ balanced) (parts ▸ named)
  constructor
  case depth =>
    rintro before ⟨later, parts⟩
    have holds := (cut parts.symm).1
    exact ⟨holds.indent, holds.depth⟩
  case closings =>
    intro before closing later parts closes
    obtain ⟨holds, nests, _⟩ := cut parts
    obtain ⟨block, rest, top, closed⟩ := holds.text_closing nests.1 closes
    have above : openBlocks before = [] ++ block :: rest := top
    obtain ⟨front, opening, inner, rfl, opened, rfl, inside⟩ := exists_opening above
    have around : stream = front ++ opening :: (inner ++ closing :: later) := by
      rw [parts, List.append_assoc, List.cons_append]
    obtain ⟨outside, _, further⟩ := cut around
    have tag (events : List Event) : (writer.after events).tag = writer.tag :=
      (writer.after_header_tag events).2
    refine ⟨front, opening, inner, block, rfl, opened, inside, top, ?_, ?_⟩
    · rw [← tag front]
      exact outside.text_opening (further opening List.mem_cons_self) opened
    · rw [closed, tag]
  case unindented =>
    intro before event later parts plain
    obtain ⟨holds, nests, _⟩ := cut parts
    rw [holds.indent, blocks_eq_nil_of_fits nests.1 plain]
    rfl
  case settled =>
    have closed : openBlocks stream = [] := balanced.restored
    have holds := (cut (List.append_nil stream).symm).1
    rw [closed] at holds
    exact ⟨closed, holds.indent, holds.nodes⟩

/-- A writer is made of a header and a tag that can be quoted, with no block open. -/
theorem eq_of_make {header : List String} {tag : String} (made : make header tag = .ok writer) :
    writer = { header, tag } ∧ Within isQuotable tag := by
  unfold make at made
  cases checked : checkText "tag" tag with
  | error fault =>
    rw [checked] at made
    exact absurd made (by simp [bind, Except.bind])
  | ok value =>
    rw [checked] at made
    have accepted : (checkText "tag" tag).isOk = true := by
      rw [checked]
      rfl
    exact ⟨(Except.ok.inj made).symm, isOk_checkText.1 accepted⟩

end PlantUml.Writer

/-! ## Names -/

/-- The names of a declaration that are written as they are, those of types among them. -/
def TypeDeclaration.plainNames (declaration : TypeDeclaration) : List String :=
  declaration.enumConstants ++ declaration.components.flatMap (·.names)
    ++ declaration.fields.flatMap (·.names) ++ declaration.constructors.flatMap (·.names)
    ++ declaration.methods.flatMap (·.names) ++ declaration.annotationMembers.flatMap (·.names)

/-- What an event of the stream writes as it is, a declaration of the index does. -/
theorem Resolver.exists_plainName {resolver : Resolver} {title : String} {event : Event}
    (told : event ∈ resolver.classify.events title) {name : String}
    (written : name ∈ event.plainNames) :
    ∃ declared ∈ resolver.index.types, name ∈ declared.declaration.plainNames := by
  rcases mem_events.1 told with rfl | ⟨declared, _, _, rfl | rfl⟩ |
    ⟨declared, listed, inside⟩ | ⟨edge, _, rfl⟩ | rfl
  · exact absurd written List.not_mem_nil
  · exact absurd written List.not_mem_nil
  · exact absurd written List.not_mem_nil
  · refine ⟨declared, listed, ?_⟩
    simp only [TypeDeclaration.plainNames, List.mem_append, List.mem_flatMap, or_assoc]
    rcases mem_events_classifyType.1 inside with rfl | ⟨constant, given, rfl⟩ | ⟨_, kept, rfl⟩ |
      ⟨made, given, rfl⟩ | ⟨called, given, rfl⟩ | ⟨element, given, rfl⟩ | rfl
    · exact absurd written List.not_mem_nil
    · rw [List.mem_singleton.1 written]
      exact .inl given
    · rcases TypeDeclaration.origin_of_mem_members (List.mem_filter.1 kept).1 with inHead | inBody
      · exact .inr (.inl ⟨_, inHead, written⟩)
      · exact .inr (.inr (.inl ⟨_, inBody, written⟩))
    · exact .inr (.inr (.inr (.inl ⟨made, given, written⟩)))
    · exact .inr (.inr (.inr (.inr (.inl ⟨called, given, written⟩))))
    · exact .inr (.inr (.inr (.inr (.inr ⟨element, given, written⟩))))
    · exact absurd written List.not_mem_nil
  · have nothing : (Event.ofEdge edge).plainNames = [] := by
      unfold Event.ofEdge
      cases edge.kind <;> rfl
    rw [nothing] at written
    exact absurd written List.not_mem_nil
  · exact absurd written List.not_mem_nil

/-! ## Diagrams -/

/-- Where a diagram is generated and a fresh writer gets to the end of it, whatever the oracle, the
header and the tag are, the writer keeps the blocks of the stream. And if no line ends in the header
and in the names that are written as they are, every event appends as many lines as it counts, which
is one but for the begin of the diagram. -/
theorem generate_blocks_balanced {units : List CompilationUnit} {choice : OracleChoice}
    {carried : List Diagnostic} {generation : Generation}
    (generated : generate? units choice carried = .ok generation) {header : List String}
    {tag : String} {writer : PlantUml.Writer} (made : PlantUml.Writer.make header tag = .ok writer)
    {name : String}
    (complete : (writer.writeAll (generation.classified.events name)).2 = none) :
    let stream := generation.classified.events name
    writer.KeepsBlocks stream ∧
      ((∀ line ∈ header, Within isInline line) →
        (∀ declared ∈ generation.index.types, ∀ name ∈ declared.declaration.plainNames,
          Within isInline name) →
        ∀ before event later, stream = before ++ event :: later →
          ∃ text, (writer.after before).text event = .ok text ∧
            Lined isInline (writer.lineCount event) text) := by
  intro stream
  obtain rfl := eq_generate_of_ok generated
  let resolver := choice.resolver (generate units choice carried).index
  have balanced : Balanced [] stream := resolver.balanced_events rfl name
  have named := (writer.writeAll_complete_iff stream).1 complete
  obtain ⟨rfl, tagged⟩ := PlantUml.Writer.eq_of_make made
  have fresh := PlantUml.Writer.holds_fresh header tag
  refine ⟨PlantUml.Writer.keepsBlocks fresh balanced named, ?_⟩
  intro headed names before event later parts
  obtain ⟨holds, _, further⟩ := fresh.cut (parts ▸ balanced) (parts ▸ named)
  obtain ⟨sameHeader, sameTag⟩ := PlantUml.Writer.after_header_tag { header, tag } before
  have told : event ∈ stream := by
    rw [parts]
    exact List.mem_append_right _ List.mem_cons_self
  have plain : ∀ name ∈ event.plainNames, Within isInline name := by
    intro name written
    obtain ⟨declared, listed, inside⟩ := Resolver.exists_plainName told written
    exact names declared listed name inside
  have lines := holds.lines (further event List.mem_cons_self) plain
  rw [sameTag, sameHeader] at lines
  obtain ⟨text, written, lined⟩ := lines (Text.wide_isInline.within tagged) headed
  rw [PlantUml.Writer.lineCount_congr sameHeader] at lined
  exact ⟨text, written, lined⟩

/-- An enum in an abstract class in a package, drawn in two blocks. -/
theorem generate_blocks_balanced_enum :
    let inner : TypeDeclaration := { name := "E", kind := .enum, enumConstants := ["ONE"] }
    let outer : TypeDeclaration :=
      { name := "A", modifiers := .ofList ["abstract"], nestedTypes := [inner] }
    let units : List CompilationUnit := [{ package := "p", types := [outer] }]
    let generation := generate units .none []
    let writer : PlantUml.Writer := { header := ["hide circle"], tag := "t" }
    let stream := generation.classified.events "d"
    let lines :=
      ["@startuml d\n", "hide circle\n", "\n",
        "package \"p\" \x7b /' @t:begin package \"p\" '/\n",
        "  abstract class \"p.A\" \x7b /' @t:begin abstract class \"p.A\" '/\n",
        "  \x7d /' @t:end abstract class \"p.A\" '/\n",
        "  enum \"p.A$E\" \x7b /' @t:begin enum \"p.A$E\" '/\n", "    ONE\n",
        "  \x7d /' @t:end enum \"p.A$E\" '/\n",
        "\x7d /' @t:end package \"p\" '/\n", "\"p.A\" +-- \"p.A$E\"\n", "@enduml\n"]
    generate? units .none [] = .ok generation ∧
      PlantUml.Writer.make ["hide circle"] "t" = .ok writer ∧
      writer.writeAll stream = (String.join lines, none) ∧
      writer.KeepsBlocks stream ∧
      ∀ before event later, stream = before ++ event :: later →
        ∃ text, (writer.after before).text event = .ok text ∧
          Lined isInline (writer.lineCount event) text := by
  intro inner outer units generation writer stream lines
  have valid : ∀ declared ∈ generation.index.types, declared.declaration.HasValidUsages := by
    decide +kernel
  have generated : generate? units .none [] = .ok generation := generate?_of_valid .none valid
  have written : writer.writeAll stream = (String.join lines, none) := by decide +kernel
  have names : ∀ declared ∈ generation.index.types, ∀ name ∈ declared.declaration.plainNames,
      Within isInline name := by
    decide +kernel
  have made : PlantUml.Writer.make ["hide circle"] "t" = .ok writer := rfl
  have complete : (writer.writeAll stream).2 = none := by rw [written]
  obtain ⟨keeps, lined⟩ := generate_blocks_balanced generated made complete
  exact ⟨generated, made, written, keeps, lined (by decide) names⟩

end ClassAtlas
