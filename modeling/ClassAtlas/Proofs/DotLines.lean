import Mathlib.Data.List.Basic
import ClassAtlas.Diagram.Dot
import ClassAtlas.Proofs.TextLines

/-!
# Statements of DOT text

The text of a diagram is made of statements, each on a line of its own: the box of a declared type,
the grey node of a name that no type has, or an edge. A statement begins with the names that it is
about and ends with its attributes in square brackets. The names are read back from the line,
whatever they hold, by looking for the quotes that close them: a quote inside a name stands behind a
backslash, so only a name that ends in a backslash hides its own end.
-/
namespace ClassAtlas.Dot

open Text (Within isInline within_append)

/-! ## Statements and their lines -/

/-- A statement of DOT text. -/
inductive Statement where
  /-- The box of a declared type. -/
  | box (key : Key) (kind : TypeKind)
  /-- The grey node of an undeclared name. -/
  | ghost (name : String)
  /-- An edge. -/
  | edge (arrow : Arrow)

/-- A text between double quotes, those inside it standing behind backslashes. -/
def quoted (text : String) : String := "\"" ++ escape text ++ "\""

/-- The attributes of edges of a kind. -/
def kindAttributes : RelationshipKind → List String
  | .owns => ["arrowhead=odiamond", "label=\"owns\""]
  | .inheritance => ["arrowhead=onormal", "label=\"extends\""]
  | .realization => ["arrowhead=onormal", "style=dashed", "label=\"implements\""]
  | .association => ["arrowhead=vee"]
  | .dependency => ["arrowhead=vee", "style=dashed", "label=\"uses\""]

namespace Statement

/-- The names that a statement is about: both ends of an edge are. -/
def subject : Statement → String
  | .box key _ => quoted key
  | .ghost name => quoted name
  | .edge arrow => quoted arrow.src ++ " -> " ++ quoted arrow.dst

/-- The attributes of a statement. A flagged edge is grey, whatever the reason of its flag. -/
def attributes : Statement → List String
  | .box key kind => ["label=" ++ quoted (kind.name ++ "\\n" ++ key)]
  | .ghost _ => ["color=grey", "fontcolor=grey"]
  | .edge arrow =>
    kindAttributes arrow.kind
      ++ (if arrow.role = "" then [] else ["label=" ++ quoted arrow.role])
      ++ (if arrow.review = none then [] else ["color=grey", "fontcolor=grey", "style=\"dashed\""])

/-- The line of a statement. -/
def line (statement : Statement) : String :=
  "  " ++ statement.subject ++ " [" ++ ", ".intercalate statement.attributes ++ "];"

end Statement

/-- The lines of a text with statements. -/
def lines (statements : List Statement) : List String :=
  ["digraph ClassDiagram \x7b", "  rankdir=LR;", "  node [shape=box];"]
    ++ statements.map Statement.line ++ ["\x7d"]

/-- The text of statements. -/
def text (statements : List Statement) : String :=
  String.join ((lines statements).map (· ++ "\n"))

/-- The line of a declared node is that of its box. -/
theorem nodeLine_eq (key : Key) (kind : TypeKind) :
    nodeLine key kind = (Statement.box key kind).line := by
  apply String.toList_injective
  simp [nodeLine, Statement.line, Statement.subject, Statement.attributes, quoted]

/-- The line of an undeclared end of an edge is that of its grey node. -/
theorem ghostLine_eq (name : String) : ghostLine name = (Statement.ghost name).line := by
  apply String.toList_injective
  simp [ghostLine, Statement.line, Statement.subject, Statement.attributes, quoted,
    String.intercalate_cons_cons]

/-- Every kind of edge has attributes. -/
theorem kindAttributes_ne_nil (kind : RelationshipKind) : kindAttributes kind ≠ [] := by
  cases kind <;> exact List.cons_ne_nil _ _

/-- The style of an edge spells the attributes of its kind. -/
theorem style_eq (kind : RelationshipKind) :
    style kind = ", ".intercalate (kindAttributes kind) := by
  cases kind <;> rfl

/-- The line of an edge is that of its statement. -/
theorem arrowLine_eq (arrow : Arrow) : arrowLine arrow = (Statement.edge arrow).line := by
  have filled := kindAttributes_ne_nil arrow.kind
  have listed : ", ".intercalate (Statement.edge arrow).attributes = style arrow.kind
      ++ (if arrow.role = "" then "" else ", " ++ ("label=" ++ quoted arrow.role))
      ++ (if arrow.review = none then ""
        else ", color=grey, fontcolor=grey, style=\"dashed\"") := by
    rw [Statement.attributes,
      Text.intercalate_optional _ (List.append_ne_nil_of_left_ne_nil filled _)
        (List.cons_ne_nil _ _),
      Text.intercalate_optional _ filled (List.cons_ne_nil _ _), String.intercalate_singleton,
      style_eq]
    rfl
  rw [Statement.line, listed, arrowLine]
  apply String.toList_injective
  by_cases plain : arrow.role = ""
  · cases arrow.review <;> simp [plain, Statement.subject, quoted]
  · cases arrow.review <;> simp [plain, Statement.subject, quoted]

/-! ## Reading lines back -/

/-- What a line tells. -/
inductive Told where
  /-- A box with a name. -/
  | box (name : String)
  /-- A grey node with a name. -/
  | ghost (name : String)
  /-- An edge between two names. -/
  | edge (src dst : String)
deriving DecidableEq

/-- The text up to the quote that closes it, and what stands behind the quote. -/
def takeQuoted : List Char → Option (List Char × List Char)
  | '\\' :: '"' :: rest => (takeQuoted rest).map fun (text, behind) => ('"' :: text, behind)
  | '"' :: rest => some ([], rest)
  | c :: rest => (takeQuoted rest).map fun (text, behind) => (c :: text, behind)
  | [] => none

/-- What stands behind a mark that characters start with. -/
def behind? (mark : String) (chars : List Char) : Option (List Char) :=
  if mark.toList.isPrefixOf chars then some (chars.drop mark.toList.length) else none

/-- Read what a line tells from what stands behind its first name. -/
def readBehind (name : String) (behind : List Char) : Option Told :=
  match behind? " -> \"" behind with
  | some rest => (takeQuoted rest).map fun (target, _) => .edge name (String.ofList target)
  | none => some (if (behind? " [label=" behind).isSome then .box name else .ghost name)

/-- Read what a line tells. -/
def readLine (line : String) : Option Told := do
  let (name, behind) ← takeQuoted (← behind? "  \"" line.toList)
  readBehind (String.ofList name) behind

/-- Read what the lines of a text tell; those that open it and close it tell nothing. -/
def readText (text : String) : List Told := (Text.endedLines text).filterMap readLine

/-- Whether a name stands on one line and does not hide its own end. -/
def IsReadable (name : String) : Prop :=
  Within isInline name ∧ name.toList.getLast? ≠ some '\\'

instance (name : String) : Decidable (IsReadable name) := inferInstanceAs (Decidable (_ ∧ _))

namespace Statement

/-- What a statement tells. -/
def told : Statement → Told
  | .box key _ => .box key
  | .ghost name => .ghost name
  | .edge arrow => .edge arrow.src arrow.dst

/-- Whether the line of a statement can be read back. -/
def Legible : Statement → Prop
  | .box key _ => IsReadable key
  | .ghost name => IsReadable name
  | .edge arrow => IsReadable arrow.src ∧ IsReadable arrow.dst ∧ Within isInline arrow.role

instance : (statement : Statement) → Decidable statement.Legible
  | .box key _ => inferInstanceAs (Decidable (IsReadable key))
  | .ghost name => inferInstanceAs (Decidable (IsReadable name))
  | .edge _ => inferInstanceAs (Decidable (_ ∧ _ ∧ _))

end Statement

/-- A character that is neither a quote nor a backslash in front of one stands for itself. -/
theorem takeQuoted_cons {c : Char} {rest : List Char} (other : c ≠ '"')
    (free : c = '\\' → rest.head? ≠ some '"') :
    takeQuoted (c :: rest) = (takeQuoted rest).map fun (text, behind) => (c :: text, behind) := by
  rw [takeQuoted.eq_def]
  split
  · next same =>
    obtain ⟨rfl, rfl⟩ := List.cons.inj same
    exact absurd rfl (free rfl)
  · next same => exact absurd (List.cons.inj same).1 other
  · next same =>
    obtain ⟨rfl, rfl⟩ := List.cons.inj same
    rfl
  · next same => exact absurd same (List.cons_ne_nil _ _)

/-- The characters of a text with its quotes behind backslashes. -/
theorem toList_escape (text : String) : (escape text).toList =
    text.toList.flatMap fun c => if c = '"' then ['\\', '"'] else [c] := String.toList_ofList

/-- A text is read back up to the quote that closes it, unless it ends in a backslash. -/
theorem takeQuoted_escape {text : String} (closed : text.toList.getLast? ≠ some '\\')
    (behind : List Char) :
    takeQuoted ((escape text).toList ++ '"' :: behind) = some (text.toList, behind) := by
  rw [toList_escape]
  generalize text.toList = chars at closed ⊢
  induction chars with
  | nil => rfl
  | cons c chars ih =>
    have later : chars.getLast? ≠ some '\\' := by
      cases chars with
      | nil => exact (Option.some_ne_none _).symm
      | cons second chars => rwa [List.getLast?_cons_cons] at closed
    rw [List.flatMap_cons, List.append_assoc]
    by_cases quote : c = '"'
    · subst quote
      have taken := congrArg (Option.map fun told : List Char × List Char =>
        ('"' :: told.1, told.2)) (ih later)
      exact taken
    · rw [if_neg quote, List.singleton_append, takeQuoted_cons quote, ih later]
      · rfl
      · rintro rfl
        -- The backslash is not the last character, and what follows it is no bare quote.
        cases chars with
        | nil => exact absurd rfl closed
        | cons second chars =>
          by_cases next : second = '"'
          · simp [next]
          · simp [next]

/-- What stands behind a mark is found behind it. -/
theorem behind?_append (mark : String) (rest : List Char) :
    behind? mark (mark.toList ++ rest) = some rest := by
  simp [behind?]

/-- A line that begins with a readable name in quotes is read from what stands behind the name. -/
theorem readLine_quoted {name : String} (readable : IsReadable name) (rest : String) :
    readLine ("  " ++ quoted name ++ rest) = readBehind name rest.toList := by
  have chars : ("  " ++ quoted name ++ rest).toList =
      "  \"".toList ++ ((escape name).toList ++ '"' :: rest.toList) := by
    simp [quoted]
  rw [readLine, chars, behind?_append]
  dsimp only [bind, Option.bind]
  rw [takeQuoted_escape readable.2]
  dsimp only
  rw [String.ofList_toList]

/-- The line of a statement tells what the statement does. -/
theorem readLine_line {statement : Statement} (legible : statement.Legible) :
    readLine statement.line = some statement.told := by
  cases statement with
  | box key kind =>
    rw [Statement.line, Statement.subject, String.append_assoc, String.append_assoc,
      readLine_quoted legible]
    simp [Statement.attributes, readBehind, behind?, Statement.told]
  | ghost name =>
    rw [Statement.line, Statement.subject, String.append_assoc, String.append_assoc,
      readLine_quoted legible]
    simp [Statement.attributes, readBehind, behind?, Statement.told, String.intercalate_cons_cons]
  | edge arrow =>
    obtain ⟨start, finish, _⟩ := legible
    generalize attributes : ", ".intercalate (Statement.edge arrow).attributes = listed
    have parts : (Statement.edge arrow).line =
        "  " ++ quoted arrow.src ++ (" -> " ++ quoted arrow.dst ++ " [" ++ listed ++ "];") := by
      rw [Statement.line, Statement.subject, attributes]
      simp only [String.append_assoc]
    have chars : (" -> " ++ quoted arrow.dst ++ " [" ++ listed ++ "];").toList =
        " -> \"".toList ++
          ((escape arrow.dst).toList ++ '"' :: (" [" ++ listed ++ "];").toList) := by
      simp [quoted]
    rw [parts, readLine_quoted start, chars, readBehind, behind?_append]
    dsimp only
    rw [takeQuoted_escape finish.2]
    exact congrArg (fun name => some (Told.edge arrow.src name)) String.ofList_toList

/-! ## Reading texts back -/

/-- A text with its quotes behind backslashes stays on its line. -/
theorem within_escape {text : String} (inline : Within isInline text) :
    Within isInline (escape text) := by
  intro c member
  rw [toList_escape] at member
  obtain ⟨own, listed, made⟩ := List.mem_flatMap.1 member
  split at made
  · rcases List.mem_cons.1 made with rfl | last
    · rfl
    · exact List.mem_singleton.1 last ▸ rfl
  · exact List.mem_singleton.1 made ▸ inline own listed

/-- A text between quotes stays on its line. -/
theorem within_quoted {text : String} (inline : Within isInline text) :
    Within isInline (quoted text) :=
  within_append.2 ⟨within_append.2 ⟨by decide, within_escape inline⟩, by decide⟩

/-- The attributes of kinds of edges stay on their line. -/
theorem within_kindAttributes (kind : RelationshipKind) :
    ∀ part ∈ kindAttributes kind, Within isInline part := by
  cases kind <;> decide

/-- The word for a kind of types stays on its line. -/
theorem within_kind (kind : TypeKind) : Within isInline kind.name := by
  cases kind <;> decide

namespace Statement

variable {statement : Statement}

/-- The names that a legible statement is about stay on its line. -/
theorem Legible.subject (legible : statement.Legible) : Within isInline statement.subject := by
  cases statement with
  | box key kind => exact within_quoted legible.1
  | ghost name => exact within_quoted legible.1
  | edge arrow =>
    obtain ⟨start, finish, _⟩ := legible
    exact within_append.2
      ⟨within_append.2 ⟨within_quoted start.1, by decide⟩, within_quoted finish.1⟩

/-- The attributes of a legible statement stay on its line. -/
theorem Legible.attributes (legible : statement.Legible) :
    ∀ part ∈ statement.attributes, Within isInline part := by
  have label {text : String} (inline : Within isInline text) :
      ∀ part ∈ ["label=" ++ quoted text], Within isInline part := by
    intro part listed
    rw [List.mem_singleton.1 listed]
    exact within_append.2 ⟨by decide, within_quoted inline⟩
  cases statement with
  | box key kind =>
    exact label (within_append.2 ⟨within_append.2 ⟨within_kind kind, by decide⟩, legible.1⟩)
  | ghost name =>
    change ∀ part ∈ ["color=grey", "fontcolor=grey"], Within isInline part
    decide
  | edge arrow =>
    obtain ⟨_, _, role⟩ := legible
    rw [Statement.attributes]
    refine List.forall_mem_append.2 ⟨List.forall_mem_append.2 ⟨within_kindAttributes _, ?_⟩, ?_⟩
    · split
      · exact List.forall_mem_nil _
      · exact label role
    · split
      · exact List.forall_mem_nil _
      · decide

/-- A legible statement is one line. -/
theorem Legible.line (legible : statement.Legible) : Within isInline statement.line := by
  have between : Within isInline ", " := by decide
  exact within_append.2
    ⟨within_append.2 ⟨within_append.2 ⟨within_append.2 ⟨by decide, legible.subject⟩, by decide⟩,
      between.intercalate legible.attributes⟩, by decide⟩

end Statement

/-- The text of legible statements tells what each of them does, in order, and nothing else. -/
theorem readText_text {statements : List Statement}
    (legible : ∀ statement ∈ statements, statement.Legible) :
    readText (text statements) = statements.map Statement.told := by
  have inline : ∀ line ∈ lines statements, Within isInline line := by
    refine List.forall_mem_append.2 ⟨List.forall_mem_append.2 ⟨by decide, ?_⟩, by decide⟩
    exact List.forall_mem_map.2 fun statement listed => (legible statement listed).line
  have told : statements.filterMap (fun statement => readLine statement.line) =
      statements.map Statement.told := by
    rw [← List.filterMap_eq_map]
    exact List.filterMap_congr fun statement listed => readLine_line (legible statement listed)
  rw [readText, text, Text.endedLines_join inline, lines, List.filterMap_append,
    List.filterMap_append, List.filterMap_map]
  exact (List.append_nil _).trans told

end ClassAtlas.Dot
