/-!
# The order of texts

Texts compare by code points. A common beginning does not matter for the order, so a text comes
before everything that continues it.
-/
namespace ClassAtlas.Text

/-- A common beginning does not matter for the order of character lists. -/
theorem chars_append_lt_iff (front left right : List Char) :
    front ++ left < front ++ right ↔ left < right := by
  induction front with
  | nil => rfl
  | cons c front ih =>
    rw [List.cons_append, List.cons_append, List.cons_lt_cons_iff]
    simp [ih]

/-- A common beginning does not matter for the order of texts. -/
theorem append_lt_append_iff (front left right : String) :
    front ++ left < front ++ right ↔ left < right := by
  rw [String.lt_iff, String.toList_append, String.toList_append, chars_append_lt_iff,
    ← String.lt_iff]

/-- Only the empty text comes before no text. -/
theorem empty_lt_iff (text : String) : "" < text ↔ text ≠ "" := by
  rw [String.lt_iff]
  constructor
  · rintro below rfl
    exact absurd below (List.lt_irrefl _)
  · intro some
    cases chars : text.toList with
    | nil => exact absurd (String.toList_eq_nil_iff.1 chars) some
    | cons c rest => exact List.nil_lt_cons c rest

/-- A text comes before everything that continues it. -/
theorem lt_append {front rest : String} (some : rest ≠ "") : front < front ++ rest := by
  have below := (append_lt_append_iff front "" rest).2 ((empty_lt_iff rest).2 some)
  rwa [String.append_empty] at below

/-- Two texts compare as they do behind a common beginning. -/
theorem compare_append (front left right : String) :
    compare (front ++ left) (front ++ right) = compare left right := by
  have same : front ++ left = front ++ right ↔ left = right := String.append_right_inj front
  change compareOfLessAndEq _ _ = compareOfLessAndEq _ _
  simp only [compareOfLessAndEq, append_lt_append_iff, same]

end ClassAtlas.Text
