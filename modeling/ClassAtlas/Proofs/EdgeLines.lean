import ClassAtlas.Proofs.TextLines
import ClassAtlas.Proofs.WrittenLines

/-!
# Reading edges back from their lines

The line of an edge can be read back. What a name holds does not matter, be it an arrow, an
apostrophe or a colon, since no name holds a double quote: cut at its double quotes, a line falls
into the names of the edge and the fixed texts between them, which tell its kind and its flag. The
stereotypes of an association come last and end in angle brackets. A flagged edge is a comment, so
without its comments a text draws the edges that are not flagged.
-/
namespace ClassAtlas

open Text (Within isInline isQuotable)

namespace Text

/-! ## Blanks at the ends -/

/-- Whether no blank stands at either end of a text. -/
def IsTrimmed (text : String) : Prop :=
  text.toList.head?.any isBlank = false ∧ text.toList.getLast?.any isBlank = false

instance (text : String) : Decidable (IsTrimmed text) := inferInstanceAs (Decidable (_ ∧ _))

/-- Characters that do not end in a blank keep their end. -/
theorem trimEnd_concat {c : Char} (visible : isBlank c = false) (chars : List Char) :
    trimEnd (chars ++ [c]) = chars ++ [c] := by
  induction chars with
  | nil => simp [trimEnd, visible]
  | cons first chars ih =>
    rw [List.cons_append, trimEnd, ih]
    split
    · next empty => exact absurd empty (by simp)
    · rfl

/-- A text without blanks at its ends is left as it is. -/
theorem IsTrimmed.trim_eq {text : String} (trimmed : IsTrimmed text) : trim text = text := by
  obtain ⟨front, back⟩ := trimmed
  have kept : text.toList.dropWhile isBlank = text.toList := by
    cases chars : text.toList with
    | nil => rfl
    | cons c rest =>
      have visible : isBlank c = false := by simpa [chars] using front
      exact List.dropWhile_cons_of_neg (by simp [visible])
  have ended : trimEnd text.toList = text.toList := by
    cases last : text.toList.getLast? with
    | none => rw [List.getLast?_eq_none_iff.1 last]; rfl
    | some c =>
      obtain ⟨chars, split⟩ := List.getLast?_eq_some_iff.1 last
      have visible : isBlank c = false := by simpa [last] using back
      rw [split, trimEnd_concat visible]
  rw [trim, trimEnds, kept, ended, String.ofList_toList]

/-- A text that does not end in a blank keeps its end. -/
theorem trimRight_concat {text : String} {mark : String} {c : Char} (single : mark.toList = [c])
    (visible : isBlank c = false) : trimRight (text ++ mark) = text ++ mark := by
  rw [trimRight, String.toList_append, single, trimEnd_concat visible, ← single,
    ← String.toList_append, String.ofList_toList]

/-- Whether a text is quoted as it is: it can be quoted, and no blank stands at its ends. -/
def IsLegible (text : String) : Prop := Within isQuotable text ∧ IsTrimmed text

instance (text : String) : Decidable (IsLegible text) := inferInstanceAs (Decidable (_ ∧ _))

end Text

/-! ## Edges -/

namespace Event

/-- Why an edge needs review. -/
def review? : Event → Option ReviewFlag
  | .connectInheritance _ _ review | .connectRealization _ _ review
  | .connectDependency _ _ review => review
  | _ => none

/-- Whether an event draws an edge that can be read back: its ends and its role are quoted as they
are, and its stereotypes can be quoted and hold no closing bracket. -/
def Legible : Event → Prop
  | .connectOwns src dst | .connectInheritance src dst _ | .connectRealization src dst _
  | .connectDependency src dst _ => ∀ text ∈ [src, dst], Text.IsLegible text
  | .connectAssociation owner target role stereotypes =>
    (∀ text ∈ [owner, target, role], Text.IsLegible text) ∧
      ∀ text ∈ stereotypes, Within isQuotable text ∧ '>' ∉ text.toList
  | _ => False

instance : (event : Event) → Decidable event.Legible
  | .connectOwns src dst | .connectInheritance src dst _ | .connectRealization src dst _
  | .connectDependency src dst _ =>
    inferInstanceAs (Decidable (∀ text ∈ [src, dst], Text.IsLegible text))
  | .connectAssociation owner target role stereotypes =>
    inferInstanceAs (Decidable
      ((∀ text ∈ [owner, target, role], Text.IsLegible text) ∧
        ∀ text ∈ stereotypes, Within isQuotable text ∧ '>' ∉ text.toList))
  | .beginDiagram .. | .endDiagram .. | .beginPackage .. | .endPackage .. | .declareNode ..
  | .endNode .. | .addAttribute .. | .addEnumConstant .. | .addConstructor .. | .addMethod ..
  | .addAnnotationMember .. => inferInstanceAs (Decidable False)

end Event

namespace PlantUml

/-- What stands before the first name of an edge. -/
def lead (tag : String) : Option ReviewFlag → String
  | none => ""
  | some flag => "' @" ++ tag ++ ":cherry-pick " ++ reviewLabel flag ++ " "

/-- What stands behind the last name of an association. -/
def tail (stereotypes : List String) : String :=
  if stereotypes.isEmpty then ""
  else " :" ++ String.join (stereotypes.map fun text => " <<" ++ text ++ ">>")

/-- The line of an edge, taken apart at its double quotes. -/
def edgeParts (tag : String) : Event → List String
  | .connectOwns src dst => [lead tag none, src, " +-- ", dst, ""]
  | .connectInheritance src dst review => [lead tag review, src, " --|> ", dst, ""]
  | .connectRealization src dst review => [lead tag review, src, " ..|> ", dst, ""]
  | .connectDependency src dst review => [lead tag review, src, " ..> ", dst, ""]
  | .connectAssociation owner target role stereotypes =>
    [lead tag none, owner, " ---> ", role, " ", target, tail stereotypes]
  | _ => []

/-- The line of an edge. -/
def edgeText (tag : String) (event : Event) : String := "\"".intercalate (edgeParts tag event)

/-! ## Lines that are written -/

/-- A legible name is quoted as it is. -/
theorem quote_eq {name : String} (legible : Text.IsLegible name) :
    quote name = .ok ("\"" ++ name ++ "\"") := by
  have accepted : (checkText "name" name).isOk = true := isOk_checkText.2 legible.1
  obtain ⟨_, given⟩ := exists_of_isOk accepted
  rw [quote, given, legible.2.trim_eq]
  rfl

/-- Stereotypes that can be quoted are written as they are. -/
theorem stereotypeSuffix_eq {stereotypes : List String}
    (quotable : ∀ text ∈ stereotypes, Within isQuotable text) :
    stereotypeSuffix stereotypes =
      .ok (String.join (stereotypes.map fun text => " <<" ++ text ++ ">>")) := by
  obtain ⟨suffix, given⟩ := exists_of_isOk (isOk_stereotypeSuffix.2 quotable)
  unfold stereotypeSuffix at given ⊢
  cases checked : stereotypes.forM (checkText "stereotype") with
  | error fault =>
    rw [checked] at given
    exact absurd given (by simp [bind, Except.bind])
  | ok value => rfl

/-- The line of an edge that is no association. -/
theorem edgeLine_eq {src dst : String}
    (legible : ∀ text ∈ [src, dst], Text.IsLegible text)
    (tag arrow : String) (review : Option ReviewFlag) :
    edgeLine tag src arrow dst review =
      .ok ("\"".intercalate [lead tag review, src, " " ++ arrow ++ " ", dst, ""]) := by
  rw [edgeLine, quote_eq (legible src (by simp)), quote_eq (legible dst (by simp))]
  cases review with
  | none =>
    change Except.ok _ = Except.ok _
    simp only [lead, String.intercalate_cons_cons, String.intercalate_singleton,
      String.append_assoc, String.empty_append, String.append_empty]
  | some flag =>
    change Except.ok _ = Except.ok _
    simp only [lead, String.intercalate_cons_cons, String.intercalate_singleton,
      String.append_assoc, String.append_empty]

/-- The line of an association. -/
theorem associationLine_eq {owner target role : String} {stereotypes : List String}
    (legible : ∀ text ∈ [owner, target, role], Text.IsLegible text)
    (quotable : ∀ text ∈ stereotypes, Within isQuotable text) :
    associationLine owner target role stereotypes =
      .ok ("\"".intercalate ["", owner, " ---> ", role, " ", target, tail stereotypes]) := by
  have labelled := legible role (by simp)
  have accepted : (checkText "role" role).isOk = true := isOk_checkText.2 labelled.1
  obtain ⟨_, given⟩ := exists_of_isOk accepted
  rw [associationLine, given, quote_eq (legible owner (by simp)), quote_eq labelled,
    quote_eq (legible target (by simp)), stereotypeSuffix_eq quotable, tail]
  have line (suffix : String) :
      "\"" ++ owner ++ "\"" ++ " ---> " ++ ("\"" ++ role ++ "\"") ++ " "
        ++ ("\"" ++ target ++ "\"") ++ suffix =
      "\"".intercalate ["", owner, " ---> ", role, " ", target, suffix] := by
    simp only [String.intercalate_cons_cons, String.intercalate_singleton, String.append_assoc,
      String.empty_append]
  split
  · exact congrArg Except.ok (line _)
  · exact congrArg Except.ok (line _)

/-- What stands behind the last name of an association ends in a closing bracket, if it is there. -/
theorem exists_tail_end {stereotypes : List String} (annotated : stereotypes ≠ []) :
    ∃ front, tail stereotypes = front ++ ">" := by
  obtain ⟨earlier, last, shape⟩ := (List.eq_nil_or_concat stereotypes).resolve_left annotated
  rw [List.concat_eq_append] at shape
  subst shape
  have closing : (">>" : String) = ">" ++ ">" := rfl
  refine ⟨" :" ++ String.join (earlier.map fun text => " <<" ++ text ++ ">>")
    ++ (" <<" ++ last ++ ">"), ?_⟩
  rw [tail, if_neg (by simp), List.map_append, String.join_append, List.map_singleton,
    String.join_cons, String.join_nil, closing]
  simp only [String.append_assoc, String.append_empty]

/-- The line of an edge ends in a double quote or in a closing bracket, so it keeps its end. -/
theorem trimRight_edgeText {tag : String} {event : Event} (legible : event.Legible) :
    Text.trimRight (edgeText tag event) = edgeText tag event := by
  have kept (front : List String) (filled : front ≠ []) (last : String)
      (ended : last = "" ∨ ∃ text, last = text ++ ">") :
      Text.trimRight ("\"".intercalate (front ++ [last])) = "\"".intercalate (front ++ [last]) := by
    rw [String.intercalate_append_of_ne_nil filled (List.cons_ne_nil _ _),
      String.intercalate_singleton]
    rcases ended with rfl | ⟨text, rfl⟩
    · rw [String.append_empty]
      exact Text.trimRight_concat rfl rfl
    · rw [← String.append_assoc]
      exact Text.trimRight_concat rfl rfl
  cases event with
  | connectOwns src dst | connectInheritance src dst review | connectRealization src dst review
  | connectDependency src dst review =>
    exact kept [lead tag _, src, _, dst] (List.cons_ne_nil _ _) "" (.inl rfl)
  | connectAssociation owner target role stereotypes =>
    refine kept [lead tag none, owner, " ---> ", role, " ", target] (List.cons_ne_nil _ _)
      (tail stereotypes) ?_
    by_cases bare : stereotypes = []
    · rw [bare]
      exact .inl rfl
    · exact .inr (exists_tail_end bare)
  | _ => exact legible.elim

/-- A writer with no block open writes the line of an edge that can be read back. -/
theorem Writer.text_eq_edgeText {writer : Writer} (level : writer.indent = 0) {event : Event}
    (legible : event.Legible) : writer.text event = .ok (edgeText writer.tag event ++ "\n") := by
  have line : lineText writer.indent (edgeText writer.tag event) =
      edgeText writer.tag event ++ "\n" := by
    rw [lineText, level, List.replicate_zero, String.join_nil, String.empty_append,
      trimRight_edgeText legible]
  unfold text
  rw [← line]
  cases event with
  | connectOwns src dst | connectInheritance src dst review | connectRealization src dst review
  | connectDependency src dst review =>
    dsimp only
    rw [edgeLine_eq legible]
    rfl
  | connectAssociation owner target role stereotypes =>
    dsimp only
    rw [associationLine_eq legible.1 fun text listed => (legible.2 text listed).1]
    rfl
  | _ => exact legible.elim

/-- Edges leave a writer as it is, so the lines of edges are written one after the other. -/
theorem Writer.writeAll_edges {writer : Writer} (level : writer.indent = 0) {events : List Event}
    (legible : ∀ event ∈ events, event.Legible) :
    writer.writeAll events =
      (String.join ((events.map (edgeText writer.tag)).map (· ++ "\n")), none) := by
  induction events with
  | nil => rfl
  | cons event events ih =>
    obtain ⟨here, later⟩ := List.forall_mem_cons.1 legible
    have unchanged : writer.next event = writer := by
      cases event with
      | connectOwns | connectInheritance | connectRealization | connectDependency
      | connectAssociation => rfl
      | _ => exact here.elim
    rw [writeAll, text_eq_edgeText level here, unchanged, ih later, List.map_cons, List.map_cons,
      String.join_cons]

/-! ## Lines that are read -/

/-- The parts of a line can be quoted. -/
theorem edgeParts_quotable {tag : String} (tagged : Within isQuotable tag) {event : Event}
    (legible : event.Legible) : ∀ part ∈ edgeParts tag event, Within isQuotable part := by
  have first (review : Option ReviewFlag) : Within isQuotable (lead tag review) := by
    cases review with
    | none => exact List.forall_mem_nil _
    | some flag =>
      have label : Within isQuotable (reviewLabel flag) := by cases flag <;> decide
      simp only [lead, Text.within_append, tagged, label]
      decide
  have empty : Within isQuotable "" := List.forall_mem_nil _
  cases event with
  | connectOwns src dst | connectInheritance src dst review | connectRealization src dst review
  | connectDependency src dst review =>
    have source := legible src List.mem_cons_self
    have target := legible dst (List.mem_cons_of_mem src List.mem_cons_self)
    simp only [edgeParts, List.forall_mem_cons, List.not_mem_nil, false_imp_iff, implies_true]
    exact ⟨first _, source.1, by decide, target.1, empty, trivial⟩
  | connectAssociation owner target role stereotypes =>
    obtain ⟨names, others⟩ := legible
    have last : Within isQuotable (tail stereotypes) := by
      unfold tail
      split
      · exact empty
      · rw [Text.within_append, Text.within_join]
        refine ⟨by decide, fun text member => ?_⟩
        obtain ⟨stereotype, listed, rfl⟩ := List.mem_map.1 member
        simp only [Text.within_append, (others stereotype listed).1]
        decide
    simp only [List.forall_mem_cons, List.not_mem_nil, false_imp_iff, implies_true] at names
    simp only [edgeParts, List.forall_mem_cons, List.not_mem_nil, false_imp_iff, implies_true]
    exact ⟨first _, names.1.1, by decide, names.2.2.1.1, by decide, names.2.1.1, last, trivial⟩
  | _ => exact legible.elim

/-- The line of an edge is one line. -/
theorem edgeText_inline {tag : String} (tagged : Within isQuotable tag) {event : Event}
    (legible : event.Legible) : Within isInline (edgeText tag event) := by
  have mark : Within isInline "\"" := by decide
  refine mark.intercalate fun part listed => ?_
  exact (edgeParts_quotable tagged legible part listed).of_quotable Text.lenient_isInline

/-- So are the lines of edges. -/
theorem edgeTexts_inline {tag : String} (tagged : Within isQuotable tag) {events : List Event}
    (legible : ∀ event ∈ events, event.Legible) :
    ∀ line ∈ events.map (edgeText tag), Within isInline line := by
  intro line member
  obtain ⟨event, listed, rfl⟩ := List.mem_map.1 member
  exact edgeText_inline tagged (legible event listed)

/-- The flag that stands before the first name of an edge. -/
def readLead (tag text : String) : Option (Option ReviewFlag) :=
  [none, some .external, some .unresolved].find? (lead tag · == text)

/-- The stereotypes in a text: cut at its closing brackets, it has a part for each of them, with the
opening brackets, and empty parts. -/
def readStereotypes (text : String) : List String :=
  ((Text.parts (· == '>') text).filter (· != "")).map fun part =>
    String.ofList (part.toList.drop 3)

/-- The edge of a line that is taken apart at its double quotes. -/
def readParts (tag : String) : List String → Option Event
  | [first, src, arrow, dst, _] => do
    let review ← readLead tag first
    match arrow with
    | " +-- " => some (.connectOwns src dst)
    | " --|> " => some (.connectInheritance src dst review)
    | " ..|> " => some (.connectRealization src dst review)
    | " ..> " => some (.connectDependency src dst review)
    | _ => none
  | [_, owner, _, role, _, target, last] =>
    some (.connectAssociation owner target role
      (readStereotypes (String.ofList (last.toList.drop 2))))
  | _ => none

/-- The edge of a line. -/
def readEdge (tag line : String) : Option Event := readParts tag (Text.parts (· == '"') line)

/-- The edges of a text whose lines are theirs. -/
def readEdges (tag text : String) : Option (List Event) :=
  (Text.endedLines text).mapM (readEdge tag)

/-- What stands before the first name of an edge gives its flag. -/
theorem readLead_lead (tag : String) (review : Option ReviewFlag) :
    readLead tag (lead tag review) = some review := by
  have apart : lead tag (some .external) ≠ lead tag (some .unresolved) := by
    simp [lead, reviewLabel]
  cases review with
  | none => rfl
  | some flag =>
    have other : lead tag none ≠ lead tag (some flag) := by
      simp [lead]
    cases flag with
    | external => simp [readLead, other]
    | unresolved => simp [readLead, other, apart]

/-- Stereotypes without closing brackets are read as they are written. -/
theorem readStereotypes_join {stereotypes : List String}
    (free : ∀ text ∈ stereotypes, '>' ∉ text.toList) :
    readStereotypes (String.join (stereotypes.map fun text => " <<" ++ text ++ ">>")) =
      stereotypes := by
  induction stereotypes with
  | nil => rfl
  | cons first stereotypes ih =>
    obtain ⟨here, later⟩ := List.forall_mem_cons.1 free
    have plain : '>' ∉ (" <<" ++ first).toList := by
      rw [String.toList_append, List.mem_append, not_or]
      exact ⟨by decide, here⟩
    have cut (rest : String) : " <<" ++ first ++ ">>" ++ rest =
        " <<" ++ first ++ ">" ++ ("" ++ ">" ++ rest) := by
      have closing : (">>" : String) = ">" ++ ">" := rfl
      rw [closing, String.empty_append]
      simp only [String.append_assoc]
    have opened : (" <<" ++ first != "") = true := by simp
    have named : String.ofList ((" <<" ++ first).toList.drop 3) = first := by
      rw [String.toList_append]
      exact String.ofList_toList
    rw [List.map_cons, String.join_cons, cut, readStereotypes,
      Text.parts_append (Text.free_of_not_mem plain) rfl rfl,
      Text.parts_append (List.forall_mem_nil _) rfl rfl, List.filter_cons, if_pos opened,
      List.filter_cons, if_neg (by decide), List.map_cons, named]
    exact congrArg (first :: ·) (ih later)

/-- What stands behind the last name of an association gives its stereotypes. -/
theorem readStereotypes_tail {stereotypes : List String}
    (free : ∀ text ∈ stereotypes, '>' ∉ text.toList) :
    readStereotypes (String.ofList ((tail stereotypes).toList.drop 2)) = stereotypes := by
  have suffix : String.ofList ((tail stereotypes).toList.drop 2) =
      String.join (stereotypes.map fun text => " <<" ++ text ++ ">>") := by
    cases stereotypes with
    | nil => rfl
    | cons first stereotypes =>
      rw [tail, if_neg (by simp), String.toList_append]
      exact String.ofList_toList
  rw [suffix, readStereotypes_join free]

/-- The line of an edge gives the edge. -/
theorem readEdge_edgeText {tag : String} (tagged : Within isQuotable tag) {event : Event}
    (legible : event.Legible) : readEdge tag (edgeText tag event) = some event := by
  have filled : edgeParts tag event ≠ [] := by
    cases event with
    | connectOwns | connectInheritance | connectRealization | connectDependency
    | connectAssociation => exact List.cons_ne_nil _ _
    | _ => exact legible.elim
  have free : ∀ part ∈ edgeParts tag event, ∀ c ∈ part.toList, (c == '"') = false := by
    intro part listed
    exact Text.free_of_not_mem (edgeParts_quotable tagged legible part listed).unquoted
  rw [readEdge, edgeText, Text.parts_intercalate rfl rfl filled free]
  cases event with
  | connectOwns src dst | connectInheritance src dst review | connectRealization src dst review
  | connectDependency src dst review =>
    simp [edgeParts, readParts, readLead_lead]
  | connectAssociation owner target role stereotypes =>
    rw [edgeParts, readParts, readStereotypes_tail fun text listed => (legible.2 text listed).2]
  | _ => exact legible.elim

/-- The lines of edges give the edges. -/
theorem readEdges_join {tag : String} (tagged : Within isQuotable tag) {events : List Event}
    (legible : ∀ event ∈ events, event.Legible) :
    readEdges tag (String.join ((events.map (edgeText tag)).map (· ++ "\n"))) = some events := by
  rw [readEdges, Text.endedLines_join (edgeTexts_inline tagged legible)]
  induction events with
  | nil => rfl
  | cons event events ih =>
    obtain ⟨here, later⟩ := List.forall_mem_cons.1 legible
    rw [List.map_cons, List.mapM_cons, readEdge_edgeText tagged here, ih later]
    rfl

/-! ## Comments -/

/-- Whether a line is a comment. -/
def isComment (line : String) : Bool := line.toList.head? == some '\''

/-- A text without the lines that are comments. -/
def withoutComments (text : String) : String :=
  String.join (((Text.endedLines text).filter (!isComment ·)).map (· ++ "\n"))

/-- The line of an edge is a comment exactly when the edge is flagged. -/
theorem isComment_edgeText (tag : String) {event : Event} (legible : event.Legible) :
    isComment (edgeText tag event) = event.review?.isSome := by
  have started (review : Option ReviewFlag) (second : String) (others : List String) :
      isComment ("\"".intercalate (lead tag review :: second :: others)) = review.isSome := by
    rw [isComment, String.intercalate_cons_cons]
    cases review with
    | none => simp [lead]
    | some flag => simp [lead]
  cases event with
  | connectOwns src dst | connectInheritance src dst review | connectRealization src dst review
  | connectDependency src dst review | connectAssociation owner target role stereotypes =>
    exact started _ _ _
  | _ => exact legible.elim

/-- Without its comments a text draws the edges that are not flagged. -/
theorem withoutComments_join {tag : String} (tagged : Within isQuotable tag) {events : List Event}
    (legible : ∀ event ∈ events, event.Legible) :
    withoutComments (String.join ((events.map (edgeText tag)).map (· ++ "\n"))) =
      String.join (((events.filter (·.review?.isNone)).map (edgeText tag)).map (· ++ "\n")) := by
  have kept : (events.filter fun event => !isComment (edgeText tag event)) =
      events.filter (·.review?.isNone) := by
    refine List.filter_congr fun event listed => ?_
    rw [isComment_edgeText tag (legible event listed), Option.not_isSome]
  rw [withoutComments, Text.endedLines_join (edgeTexts_inline tagged legible), List.filter_map]
  exact congrArg (fun events => String.join ((events.map (edgeText tag)).map (· ++ "\n"))) kept

/-- Edges that can be read back are written, and read back from what is written: writers with one
tag and no block open write the same text for the same edges only. A line starts with an apostrophe
exactly when its edge is flagged, so without the comments the text is that of the other edges. -/
theorem edges_read_back {tag : String} (tagged : checkText "tag" tag = .ok ())
    {first second : Writer} (one : first.tag = tag) (other : second.tag = tag)
    (level : first.indent = 0) (base : second.indent = 0) {left right : List Event}
    (legible : ∀ event ∈ left, event.Legible) (readable : ∀ event ∈ right, event.Legible) :
    (first.writeAll left).2 = none ∧ (second.writeAll right).2 = none ∧
      readEdges tag (first.writeAll left).1 = some left ∧
      ((first.writeAll left).1 = (second.writeAll right).1 → left = right) ∧
      (∀ event ∈ left, ∃ line, first.text event = .ok (line ++ "\n") ∧ Within isInline line ∧
        (line.toList.head? = some '\'' ↔ event.review?.isSome = true)) ∧
      withoutComments (first.writeAll left).1 =
        (first.writeAll (left.filter (·.review?.isNone))).1 := by
  subst one
  have quotable : Within isQuotable first.tag := isOk_checkText.1 (by rw [tagged]; rfl)
  have plain : ∀ event ∈ left.filter (·.review?.isNone), event.Legible :=
    fun event listed => legible event (List.mem_filter.1 listed).1
  have written := first.writeAll_edges level legible
  have alike := second.writeAll_edges base readable
  rw [other] at alike
  have read := readEdges_join quotable legible
  rw [written, alike, first.writeAll_edges level plain]
  refine ⟨rfl, rfl, read, fun same => ?_, fun event listed => ?_, ?_⟩
  · have again := readEdges_join quotable readable
    dsimp only at same
    rw [← same, read] at again
    exact Option.some.inj again
  · have here := legible event listed
    refine ⟨edgeText first.tag event, Writer.text_eq_edgeText level here,
      edgeText_inline quotable here, ?_⟩
    rw [← isComment_edgeText first.tag here, isComment, beq_iff_eq]
  · exact withoutComments_join quotable legible

/-- A target that looks like an edge, a role that looks like a comment with stereotypes and an empty
stereotype do not hide what is drawn. -/
theorem edges_read_back_lookalikes :
    let edges : List Event :=
      [.connectInheritance "A" "B --|> C" (some .unresolved),
        .connectAssociation "A" "B" "' : <<r" ["s <<t", ""], .connectOwns "A" "A$B"]
    let writer : Writer := { tag := "t" }
    let comment := "' @t:cherry-pick ghost \"A\" --|> \"B --|> C\"\n"
    let drawn := "\"A\" ---> \"' : <<r\" \"B\" : <<s <<t>> <<>>\n\"A\" +-- \"A$B\"\n"
    (∀ event ∈ edges, event.Legible) ∧ checkText "tag" "t" = .ok () ∧
      writer.writeAll edges = (comment ++ drawn, none) ∧
      readEdges "t" (comment ++ drawn) = some edges ∧
      withoutComments (comment ++ drawn) = drawn ∧
      ∀ others, (∀ event ∈ others, event.Legible) →
        (writer.writeAll others).1 = comment ++ drawn → others = edges := by
  intro edges writer comment drawn
  have legible : ∀ event ∈ edges, event.Legible := by decide +kernel
  have written : writer.writeAll edges = (comment ++ drawn, none) := by decide +kernel
  have shown : (writer.writeAll (edges.filter (·.review?.isNone))).1 = drawn := by decide +kernel
  have accepted : checkText "tag" "t" = .ok () := rfl
  have tagged : writer.tag = "t" := rfl
  have level : writer.indent = 0 := rfl
  obtain ⟨_, _, read, _, _, uncommented⟩ :=
    edges_read_back accepted tagged tagged level level legible legible
  rw [written] at read uncommented
  refine ⟨legible, accepted, written, read, uncommented.trans shown, ?_⟩
  intro others readable equal
  obtain ⟨_, _, _, unique, _⟩ :=
    edges_read_back accepted tagged tagged level level readable legible
  exact unique (by rw [written, equal])

end PlantUml

end ClassAtlas
