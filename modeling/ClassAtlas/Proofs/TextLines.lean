import ClassAtlas.Proofs.NameCharacters
import ClassAtlas.Text.Cut

/-!
# Lines of a text

A text that is made of parts without a separator in them is cut into these parts again. So a text
that ends each of its lines gives the lines, if none of them holds a line end.
-/
namespace ClassAtlas.Text

/-! ## Parts -/

variable {separates : Char → Bool}

/-- Characters without a separator are one part. -/
theorem splitAll_of_free {chars : List Char} (free : ∀ c ∈ chars, separates c = false) :
    splitAll separates chars = [chars] := by
  induction chars with
  | nil => rfl
  | cons c chars ih =>
    obtain ⟨here, later⟩ := List.forall_mem_cons.1 free
    rw [splitAll, here, ih later]
    rfl

/-- The first part ends at the first separator. -/
theorem splitAll_append {front : List Char} (free : ∀ c ∈ front, separates c = false) {mark : Char}
    (separated : separates mark = true) (back : List Char) :
    splitAll separates (front ++ mark :: back) = front :: splitAll separates back := by
  induction front with
  | nil => rw [List.nil_append, splitAll, if_pos separated]
  | cons c front ih =>
    obtain ⟨here, later⟩ := List.forall_mem_cons.1 free
    rw [List.cons_append, splitAll, here, ih later]
    rfl

/-- Where a character does not stand, nothing equals it. -/
theorem free_of_not_mem {mark : Char} {chars : List Char} (absent : mark ∉ chars) :
    ∀ c ∈ chars, (c == mark) = false :=
  fun _ member => beq_eq_false_iff_ne.2 fun same => absent (same ▸ member)

/-- The first part of a text ends at the first separator. -/
theorem parts_append {front mark back : String} {c : Char}
    (free : ∀ c ∈ front.toList, separates c = false) (single : mark.toList = [c])
    (separated : separates c = true) :
    parts separates (front ++ mark ++ back) = front :: parts separates back := by
  rw [parts, String.toList_append, String.toList_append, single, List.append_assoc,
    List.singleton_append, splitAll_append free separated, List.map_cons, String.ofList_toList]
  rfl

/-- Texts without a separator are the parts of what they make with separators between them. -/
theorem parts_intercalate {mark : String} {c : Char} (single : mark.toList = [c])
    (separated : separates c = true) {texts : List String} (filled : texts ≠ [])
    (free : ∀ text ∈ texts, ∀ c ∈ text.toList, separates c = false) :
    parts separates (mark.intercalate texts) = texts := by
  induction texts with
  | nil => exact absurd rfl filled
  | cons first texts ih =>
    obtain ⟨here, later⟩ := List.forall_mem_cons.1 free
    cases texts with
    | nil =>
      rw [String.intercalate_singleton, parts, splitAll_of_free here, List.map_singleton,
        String.ofList_toList]
    | cons second texts =>
      rw [String.intercalate_cons_cons, parts_append here single separated,
        ih (List.cons_ne_nil _ _) later]

/-- What is made of two lists of texts is made of each of them. -/
theorem intercalate_append (between : String) {left right : List String} (filled : left ≠ [])
    (more : right ≠ []) : between.intercalate (left ++ right) =
      between.intercalate left ++ (between ++ between.intercalate right) := by
  induction left with
  | nil => exact absurd rfl filled
  | cons first left ih =>
    cases left with
    | nil =>
      obtain ⟨second, right, rfl⟩ := List.exists_cons_of_ne_nil more
      rw [List.singleton_append, String.intercalate_cons_cons, String.intercalate_singleton,
        String.append_assoc]
    | cons second left =>
      rw [List.cons_append, List.cons_append, String.intercalate_cons_cons, ← List.cons_append,
        ih (List.cons_ne_nil _ _), String.intercalate_cons_cons]
      simp only [String.append_assoc]

/-- Texts that may be absent come behind others with a separator in front of them. -/
theorem intercalate_optional (between : String) {left right : List String} (filled : left ≠ [])
    (more : right ≠ []) (absent : Prop) [Decidable absent] :
    between.intercalate (left ++ if absent then [] else right) =
      between.intercalate left ++ if absent then "" else between ++ between.intercalate right := by
  by_cases gone : absent
  · simp [gone]
  · rw [if_neg gone, if_neg gone, intercalate_append between filled more]

/-! ## Lines -/

/-- The lines of a text that ends each of them. -/
def endedLines (text : String) : List String := (parts (· == '\n') text).dropLast

/-- Lines with ends between them and behind the last one all have their ends. -/
theorem intercalate_ended {lines : List String} (filled : lines ≠ []) :
    "\n".intercalate lines ++ "\n" = String.join (lines.map (· ++ "\n")) := by
  induction lines with
  | nil => exact absurd rfl filled
  | cons first lines ih =>
    cases lines with
    | nil => simp [String.intercalate_singleton]
    | cons second lines =>
      rw [String.intercalate_cons_cons, String.append_assoc, ih (List.cons_ne_nil _ _),
        List.map_cons (l := second :: lines), String.join_cons]

/-- Lines with their ends are the lines of what they make. -/
theorem endedLines_join {lines : List String} (inline : ∀ line ∈ lines, Within isInline line) :
    endedLines (String.join (lines.map (· ++ "\n"))) = lines := by
  have ended : parts (· == '\n') (String.join (lines.map (· ++ "\n"))) = lines ++ [""] := by
    induction lines with
    | nil => rfl
    | cons line lines ih =>
      obtain ⟨here, later⟩ := List.forall_mem_cons.1 inline
      have single : '\n' ∉ line.toList := fun feed => absurd (here _ feed) (by decide)
      rw [List.map_cons, String.join_cons, parts_append (free_of_not_mem single) rfl rfl, ih later,
        List.cons_append]
  rw [endedLines, ended, List.dropLast_concat]

end ClassAtlas.Text
