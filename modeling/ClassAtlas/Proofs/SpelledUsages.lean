import ClassAtlas.Proofs.Lexemes
import ClassAtlas.TypeUsage
import ClassAtlas.Text.Cut

/-!
# The tokens of a spelled usage

A usage can be written where a type stands if it is a primitive type, a class type whose name is
made of ordinary identifiers, or an array of such; as a type argument it may also be a wildcard
with at most one bound. The spelling of such a usage scans to tokens that are told here by
recursion over the usage, whatever stands behind it.
-/
namespace ClassAtlas

namespace Text

/-- A text is its parts with the separator between them. -/
theorem exists_splitAll (mark : Char) (chars : List Char) :
    ∃ first later, splitAll (· == mark) chars = first :: later ∧
      chars = first ++ later.flatMap (mark :: ·) := by
  induction chars with
  | nil => exact ⟨[], [], rfl, rfl⟩
  | cons c chars ih =>
    obtain ⟨first, later, split, whole⟩ := ih
    by_cases here : c = mark
    · refine ⟨[], first :: later, ?_, ?_⟩
      · rw [splitAll, here, beq_self_eq_true, if_pos rfl, split]
      · rw [List.nil_append, List.flatMap_cons, List.cons_append, ← whole, here]
    · refine ⟨c :: first, later, ?_, ?_⟩
      · rw [splitAll, beq_false_of_ne here, split]
        rfl
      · rw [List.cons_append, ← whole]

/-- Texts with a mark between them are the first and each later one behind the mark. -/
theorem toList_intercalate_cons (between first : String) (later : List String) :
    (between.intercalate (first :: later)).toList =
      first.toList ++ later.flatMap fun text => between.toList ++ text.toList := by
  induction later generalizing first with
  | nil => simp
  | cons next later ih =>
    rw [String.intercalate_cons_cons, String.toList_append, String.toList_append, ih,
      List.flatMap_cons, List.append_assoc, List.append_assoc]

/-- A text is its first part and each later one behind a dot. -/
theorem exists_parts (text : String) :
    ∃ first later, parts (· == '.') text = first :: later ∧
      text.toList = first.toList ++ later.flatMap fun part => '.' :: part.toList := by
  obtain ⟨first, later, split, whole⟩ := exists_splitAll '.' text.toList
  refine ⟨String.ofList first, later.map String.ofList, ?_, ?_⟩
  · rw [parts, split, List.map_cons]
  · rw [List.flatMap_map, String.toList_ofList, whole]
    congr 2
    funext part
    rw [String.toList_ofList]

/-- A text is its parts with dots between them. -/
theorem intercalate_parts (text : String) : ".".intercalate (parts (· == '.') text) = text := by
  obtain ⟨first, later, split, whole⟩ := exists_parts text
  rw [split, ← String.toList_inj, toList_intercalate_cons, whole]
  rfl

end Text

namespace Java

/-! ## Usages that can be written -/

/-- The words of the language that name nothing: its keywords, those in some places included, and
its literals. -/
def keywords : List String :=
  ["abstract", "assert", "boolean", "break", "byte", "case", "catch", "char", "class", "const",
    "continue", "default", "do", "double", "else", "enum", "extends", "final", "finally", "float",
    "for", "goto", "if", "implements", "import", "instanceof", "int", "interface", "long", "native",
    "new", "package", "private", "protected", "public", "return", "short", "static", "strictfp",
    "super", "switch", "synchronized", "this", "throw", "throws", "transient", "try", "void",
    "volatile", "while", "_", "exports", "module", "open", "opens", "permits", "provides", "record",
    "requires", "sealed", "to", "transitive", "uses", "var", "when", "with", "yield", "true",
    "false", "null"]

/-- Whether a text is an identifier that is no keyword. -/
def isOrdinary (name : String) : Bool := Text.isIdentifier name && !keywords.contains name

/-- The types that are no classes, the absence of a result apart. -/
def valueTypes : List String :=
  ["byte", "short", "int", "long", "char", "float", "double", "boolean"]

/-- Where a usage is written. -/
inductive UsagePlace where
  /-- As a type of its own. -/
  | type
  /-- As a type argument. -/
  | argument

/-- A usage can be written in a place. -/
inductive Writable : UsagePlace → TypeUsage → Prop where
  /-- A primitive type. -/
  | primitive {name : String} (known : name ∈ valueTypes) : Writable .type (.primitive name)
  /-- A class type of ordinary identifiers with dots between them. -/
  | named {name : String} {arguments : List TypeUsage}
      (ordinary : ∀ segment ∈ Text.parts (· == '.') name, isOrdinary segment = true)
      (inside : ∀ argument ∈ arguments, Writable .argument argument) :
      Writable .type (.named name arguments)
  /-- An array. -/
  | array {component : TypeUsage} (inside : Writable .type component) :
      Writable .type (.array component)
  /-- A type as an argument. -/
  | argument {usage : TypeUsage} (type : Writable .type usage) : Writable .argument usage
  /-- A wildcard without a bound. -/
  | anyWildcard : Writable .argument (.wildcard .unspecified .unspecified)
  /-- A wildcard with an upper bound. -/
  | upperWildcard {bound : TypeUsage} (type : Writable .type bound) :
      Writable .argument (.wildcard bound .unspecified)
  /-- A wildcard with a lower bound. -/
  | lowerWildcard {bound : TypeUsage} (type : Writable .type bound) :
      Writable .argument (.wildcard .unspecified bound)

/-! ## Their tokens -/

/-- The tokens of the segments of a name behind the first. -/
def segmentTokens (segments : List String) : List Token :=
  segments.flatMap fun segment => [symbolToken 0 ".", wordToken 0 segment]

/-- The tokens of a dotted name. -/
def nameTokens (spaces : Nat) : List String → List Token
  | [] => []
  | first :: later => wordToken spaces first :: segmentTokens later

mutual

/-- The tokens of a usage behind a number of spaces. -/
def usageTokens (spaces : Nat) : TypeUsage → List Token
  | .unspecified => []
  | .primitive name => [wordToken spaces name]
  | .named name arguments =>
    nameTokens spaces (Text.parts (· == '.') name) ++ argumentTokens arguments
  | .array component => usageTokens spaces component ++ [symbolToken 0 "[", symbolToken 0 "]"]
  | .wildcard upper lower =>
    symbolToken spaces "?" ::
      if upper.isSpecified then wordToken 1 "extends" :: usageTokens 1 upper
      else if lower.isSpecified then wordToken 1 "super" :: usageTokens 1 lower
      else []
  | .typeVar name _ => [wordToken spaces name]

/-- The tokens of type arguments, none if there are none. -/
def argumentTokens : List TypeUsage → List Token
  | [] => []
  | first :: later =>
    symbolToken 0 "<" :: (usageTokens 0 first ++ (laterTokens later ++ [symbolToken 0 ">"]))

/-- The tokens of the type arguments behind the first. -/
def laterTokens : List TypeUsage → List Token
  | [] => []
  | argument :: arguments =>
    symbolToken 0 "," :: (usageTokens 1 argument ++ laterTokens arguments)

end

/-! ## Scanning them -/

/-- Characters that do not go on with a word. -/
def Breaks (chars : List Char) : Prop := ∀ c ∈ chars.head?, Text.isIdentifierPart c = false

/-- A character that is no part of an identifier goes on with no word. -/
theorem breaks_cons {c : Char} (other : Text.isIdentifierPart c = false) (rest : List Char) :
    Breaks (c :: rest) := by
  intro first here
  obtain rfl := Option.some.inj here
  exact other

/-- An ordinary name is an identifier. -/
theorem isIdentifier_of_isOrdinary {name : String} (ordinary : isOrdinary name = true) :
    Text.isIdentifier name = true :=
  (Bool.and_eq_true _ _ ▸ ordinary).1

/-- The segments of a name behind the first scan to their tokens. -/
theorem scan_segments {segments : List String}
    (ordinary : ∀ segment ∈ segments, isOrdinary segment = true) {rest : List Char}
    (ended : Breaks rest) :
    Breaks (segments.flatMap (fun segment => '.' :: segment.toList) ++ rest) ∧
      scan (segments.flatMap (fun segment => '.' :: segment.toList) ++ rest) =
        segmentTokens segments ++ scan rest := by
  induction segments with
  | nil => exact ⟨ended, rfl⟩
  | cons segment segments ih =>
    obtain ⟨here, later⟩ := List.forall_mem_cons.1 ordinary
    obtain ⟨broken, scanned⟩ := ih later
    have identifier := isIdentifier_of_isOrdinary here
    obtain ⟨c, first, start⟩ := Text.head?_of_isIdentifier identifier
    have behind : (segment.toList ++
        (segments.flatMap (fun segment => '.' :: segment.toList) ++ rest)).head? = some c := by
      rw [List.head?_append, first, Option.some_or]
    have dot := scan_symbol 0 (scanPiece_dot behind start)
    have word := scan_word 0 identifier broken
    rw [List.replicate_zero, List.nil_append] at dot word
    rw [List.flatMap_cons, List.cons_append, List.cons_append, List.append_assoc]
    refine ⟨breaks_cons (by decide) _, ?_⟩
    rw [dot, word, scanned]
    rfl

/-- A dotted name of ordinary identifiers scans to its tokens. -/
theorem scan_name (spaces : Nat) {name : String}
    (ordinary : ∀ segment ∈ Text.parts (· == '.') name, isOrdinary segment = true)
    {rest : List Char} (ended : Breaks rest) :
    scan (List.replicate spaces ' ' ++ (name.toList ++ rest)) =
      nameTokens spaces (Text.parts (· == '.') name) ++ scan rest := by
  obtain ⟨first, later, split, whole⟩ := Text.exists_parts name
  rw [split] at ordinary ⊢
  obtain ⟨here, behind⟩ := List.forall_mem_cons.1 ordinary
  obtain ⟨broken, scanned⟩ := scan_segments behind ended
  have word := scan_word spaces (isIdentifier_of_isOrdinary here) broken
  rw [whole, List.append_assoc, word, scanned]
  rfl

/-- A primitive type is spelled as an identifier. -/
theorem isIdentifier_of_mem_valueTypes {name : String} (known : name ∈ valueTypes) :
    Text.isIdentifier name = true := by
  have all : ∀ name ∈ valueTypes, Text.isIdentifier name = true := by decide
  exact all name known

/-- The spelling of the type arguments behind the first. -/
def laterChars (arguments : List TypeUsage) : List Char :=
  arguments.flatMap fun argument => ',' :: ' ' :: argument.render.toList

/-- The spelling of type arguments. -/
def argumentChars : List TypeUsage → List Char
  | [] => []
  | first :: later => '<' :: (first.render.toList ++ (laterChars later ++ ['>']))

/-- A class type is spelled as its name and its arguments. -/
theorem toList_render_named (name : String) (arguments : List TypeUsage) :
    (TypeUsage.render (.named name arguments)).toList =
      name.toList ++ argumentChars arguments := by
  rw [TypeUsage.render, TypeUsage.renderAll_eq_map]
  cases arguments with
  | nil => simp [argumentChars]
  | cons first later =>
    rw [List.isEmpty_cons, if_neg Bool.false_ne_true, List.map_cons, String.toList_append,
      String.toList_append, String.toList_append, Text.toList_intercalate_cons, List.flatMap_map]
    simp [argumentChars, laterChars]

/-- A usage that can be written as a type is one. -/
theorem Writable.isSpecified {usage : TypeUsage} (writable : Writable .type usage) :
    usage.isSpecified = true := by
  cases writable <;> rfl

/-- A wildcard with an upper bound is spelled as itself, a word and the bound. -/
theorem toList_render_upper {bound : TypeUsage} (writable : Writable .type bound) :
    (TypeUsage.render (.wildcard bound .unspecified)).toList =
      '?' :: (List.replicate 1 ' ' ++ ("extends".toList ++
        (List.replicate 1 ' ' ++ bound.render.toList))) := by
  rw [TypeUsage.render, if_pos writable.isSpecified, String.toList_append]
  rfl

/-- A wildcard with a lower bound is spelled as itself, a word and the bound. -/
theorem toList_render_lower {bound : TypeUsage} (writable : Writable .type bound) :
    (TypeUsage.render (.wildcard .unspecified bound)).toList =
      '?' :: (List.replicate 1 ' ' ++ ("super".toList ++
        (List.replicate 1 ' ' ++ bound.render.toList))) := by
  have unbounded : TypeUsage.unspecified.isSpecified = false := rfl
  rw [TypeUsage.render, unbounded, if_neg Bool.false_ne_true, if_pos writable.isSpecified,
    String.toList_append]
  rfl

/-- A usage that can be written is spelled with the start of an identifier or a wildcard first. -/
theorem Writable.head?_render {place : UsagePlace} {usage : TypeUsage}
    (writable : Writable place usage) :
    ∃ c, usage.render.toList.head? = some c ∧ (Text.isIdentifierStart c = true ∨ c = '?') := by
  induction writable with
  | primitive known =>
    obtain ⟨c, first, start⟩ := Text.head?_of_isIdentifier (isIdentifier_of_mem_valueTypes known)
    rw [TypeUsage.render]
    exact ⟨c, first, .inl start⟩
  | @named name arguments ordinary inside ih =>
    obtain ⟨part, later, split, whole⟩ := Text.exists_parts name
    rw [split] at ordinary
    have here := isIdentifier_of_isOrdinary (ordinary part List.mem_cons_self)
    obtain ⟨c, first, start⟩ := Text.head?_of_isIdentifier here
    rw [toList_render_named, whole, List.head?_append, List.head?_append, first]
    exact ⟨c, rfl, .inl start⟩
  | array inside ih =>
    obtain ⟨c, first, start⟩ := ih
    rw [TypeUsage.render, String.toList_append, List.head?_append, first]
    exact ⟨c, rfl, start⟩
  | argument type ih => exact ih
  | anyWildcard => exact ⟨'?', rfl, .inr rfl⟩
  | upperWildcard type ih =>
    rw [toList_render_upper type]
    exact ⟨'?', rfl, .inr rfl⟩
  | lowerWildcard type ih =>
    rw [toList_render_lower type]
    exact ⟨'?', rfl, .inr rfl⟩

/-- A usage is scanned to its tokens wherever it is written. -/
def Scans (usage : TypeUsage) : Prop :=
  ∀ spaces rest, Breaks rest →
    scan (List.replicate spaces ' ' ++ (usage.render.toList ++ rest)) =
      usageTokens spaces usage ++ scan rest

/-- Later type arguments are scanned to their tokens. -/
theorem scan_later {arguments : List TypeUsage} (inside : ∀ argument ∈ arguments, Scans argument)
    {rest : List Char} (ended : Breaks rest) :
    Breaks (laterChars arguments ++ rest) ∧
      scan (laterChars arguments ++ rest) = laterTokens arguments ++ scan rest := by
  induction arguments with
  | nil => exact ⟨ended, rfl⟩
  | cons argument arguments ih =>
    obtain ⟨here, later⟩ := List.forall_mem_cons.1 inside
    obtain ⟨broken, scanned⟩ := ih later
    have text : laterChars (argument :: arguments) ++ rest =
        ',' :: (List.replicate 1 ' ' ++
          (argument.render.toList ++ (laterChars arguments ++ rest))) := by
      rw [laterChars, List.flatMap_cons, List.append_assoc]
      rfl
    have comma := scan_symbol 0 (scanPiece_closed (c := ',') (by decide)
      (List.replicate 1 ' ' ++ (argument.render.toList ++ (laterChars arguments ++ rest))))
    have usage := here 1 _ broken
    rw [List.replicate_zero, List.nil_append] at comma
    rw [text]
    refine ⟨breaks_cons (by decide) _, ?_⟩
    rw [comma, usage, scanned, laterTokens, List.cons_append, List.append_assoc]

/-- Type arguments are scanned to their tokens. -/
theorem scan_arguments {arguments : List TypeUsage}
    (writable : ∀ argument ∈ arguments, Writable .argument argument)
    (inside : ∀ argument ∈ arguments, Scans argument) {rest : List Char} (ended : Breaks rest) :
    Breaks (argumentChars arguments ++ rest) ∧
      scan (argumentChars arguments ++ rest) = argumentTokens arguments ++ scan rest := by
  cases arguments with
  | nil => exact ⟨ended, by rw [argumentTokens]; rfl⟩
  | cons first later =>
    obtain ⟨here, behind⟩ := List.forall_mem_cons.1 inside
    have text : argumentChars (first :: later) ++ rest =
        '<' :: (first.render.toList ++ (laterChars later ++ '>' :: rest)) := by
      simp [argumentChars]
    obtain ⟨c, front, start⟩ := (writable first List.mem_cons_self).head?_render
    have head : (first.render.toList ++ (laterChars later ++ '>' :: rest)).head? = some c := by
      rw [List.head?_append, front, Option.some_or]
    have opened := scan_symbol 0 (scanPiece_angle head start)
    have close := scan_symbol 0 (scanPiece_closed (c := '>') (by decide) rest)
    obtain ⟨broken, scanned⟩ := scan_later behind (breaks_cons (c := '>') (by decide) rest)
    have usage := here 0 _ broken
    rw [List.replicate_zero, List.nil_append] at opened usage close
    rw [text]
    refine ⟨breaks_cons (by decide) _, ?_⟩
    rw [opened, usage, scanned, close, argumentTokens, List.cons_append, List.append_assoc,
      List.append_assoc]
    rfl

/-- A wildcard with a bound is scanned to its tokens. -/
theorem scan_bounded {word : String} (identifier : Text.isIdentifier word = true)
    {bound : TypeUsage} (scans : Scans bound) (spaces : Nat) {rest : List Char}
    (ended : Breaks rest) :
    scan (List.replicate spaces ' ' ++ ('?' :: (List.replicate 1 ' ' ++ (word.toList ++
      (List.replicate 1 ' ' ++ bound.render.toList))) ++ rest)) =
        symbolToken spaces "?" :: wordToken 1 word :: (usageTokens 1 bound ++ scan rest) := by
  have wildcard := scan_symbol spaces (scanPiece_closed (c := '?') (by decide)
    (List.replicate 1 ' ' ++ (word.toList ++
      (List.replicate 1 ' ' ++ (bound.render.toList ++ rest)))))
  have between := scan_word 1 identifier
    (breaks_cons (c := ' ') (by decide) (bound.render.toList ++ rest))
  have usage := scans 1 rest ended
  rw [← usage]
  simp only [List.cons_append, List.append_assoc]
  exact wildcard.trans (congrArg _ between)

/-- The spelling of a usage that can be written is scanned to its tokens. -/
theorem Writable.scans {place : UsagePlace} {usage : TypeUsage}
    (writable : Writable place usage) : Scans usage := by
  induction writable with
  | primitive known =>
    intro spaces rest ended
    rw [TypeUsage.render, usageTokens]
    exact scan_word spaces (isIdentifier_of_mem_valueTypes known) ended
  | named ordinary inside ih =>
    intro spaces rest ended
    obtain ⟨broken, scanned⟩ := scan_arguments inside ih ended
    rw [toList_render_named, usageTokens, List.append_assoc, List.append_assoc,
      scan_name spaces ordinary broken, scanned]
  | array inside ih =>
    intro spaces rest ended
    have opened := scan_symbol 0 (scanPiece_closed (c := '[') (by decide) (']' :: rest))
    have closed := scan_symbol 0 (scanPiece_closed (c := ']') (by decide) rest)
    have component := ih spaces ('[' :: ']' :: rest) (breaks_cons (by decide) _)
    rw [List.replicate_zero, List.nil_append] at opened closed
    rw [TypeUsage.render, usageTokens, String.toList_append, List.append_assoc, List.append_assoc]
    refine component.trans ?_
    rw [opened, closed]
    rfl
  | argument type ih => exact ih
  | anyWildcard =>
    intro spaces rest ended
    rw [usageTokens]
    exact scan_symbol spaces (scanPiece_closed (c := '?') (by decide) rest)
  | upperWildcard type ih =>
    intro spaces rest ended
    rw [toList_render_upper type, usageTokens, if_pos type.isSpecified]
    exact scan_bounded (by decide) ih spaces ended
  | lowerWildcard type ih =>
    intro spaces rest ended
    have unbounded : TypeUsage.unspecified.isSpecified = false := rfl
    rw [toList_render_lower type, usageTokens, unbounded, if_neg Bool.false_ne_true,
      if_pos type.isSpecified]
    exact scan_bounded (by decide) ih spaces ended

end Java

end ClassAtlas
