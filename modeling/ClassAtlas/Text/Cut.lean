/-!
# Cutting a text at a separator

`cutLast` takes a text apart at the last character that a test accepts, `cutFirst` at the
first; both drop the separator itself and report a text without one as `none`.
-/
namespace ClassAtlas.Text

/-- The characters before and after the last separator. -/
def splitLast (separates : Char → Bool) : List Char → Option (List Char × List Char)
  | [] => none
  | c :: rest =>
    match splitLast separates rest with
    | some (before, after) => some (c :: before, after)
    | none => if separates c then some ([], rest) else none

/-- The characters before and after the first separator. -/
def splitFirst (separates : Char → Bool) : List Char → Option (List Char × List Char)
  | [] => none
  | c :: rest =>
    if separates c then some ([], rest)
    else (splitFirst separates rest).map fun (before, after) => (c :: before, after)

/-- The characters between separators, in order; there is one part more than separators. -/
def splitAll (separates : Char → Bool) : List Char → List (List Char)
  | [] => [[]]
  | c :: rest =>
    if separates c then [] :: splitAll separates rest
    else
      match splitAll separates rest with
      | [] => [[c]]
      | part :: parts => (c :: part) :: parts

/-- The texts before and after the last separator. -/
def cutLast (separates : Char → Bool) (text : String) : Option (String × String) :=
  (splitLast separates text.toList).map fun (before, after) =>
    (String.ofList before, String.ofList after)

/-- The texts before and after the first separator. -/
def cutFirst (separates : Char → Bool) (text : String) : Option (String × String) :=
  (splitFirst separates text.toList).map fun (before, after) =>
    (String.ofList before, String.ofList after)

/-- The texts between separators, in order. -/
def parts (separates : Char → Bool) (text : String) : List String :=
  (splitAll separates text.toList).map String.ofList

/-- The text after the last separator, all of it when there is none. -/
def afterLast (separates : Char → Bool) (text : String) : String :=
  match cutLast separates text with
  | some (_, after) => after
  | none => text

/-- The text with every occurrence of one character replaced by another. -/
def replaceChar (old new : Char) (text : String) : String :=
  String.ofList (text.toList.map fun c => if c = old then new else c)

/-- A text without a separator is not cut. -/
theorem splitLast_eq_none_iff (separates : Char → Bool) (chars : List Char) :
    splitLast separates chars = none ↔ ∀ c ∈ chars, separates c = false := by
  induction chars with
  | nil => simp [splitLast]
  | cons c rest ih =>
    simp only [splitLast, List.mem_cons, forall_eq_or_imp]
    split
    · next found => rw [← ih, found]; simp
    · next found => rw [← ih, found]; by_cases here : separates c = true <;> simp [here]

/-- The last cut is at a separator, and none stands behind it. -/
theorem splitLast_eq_some {separates : Char → Bool} {chars before after : List Char}
    (cut : splitLast separates chars = some (before, after)) :
    ∃ separator, chars = before ++ separator :: after ∧ separates separator = true ∧
      ∀ c ∈ after, separates c = false := by
  induction chars generalizing before with
  | nil => simp [splitLast] at cut
  | cons c rest ih =>
    simp only [splitLast] at cut
    split at cut
    · next first last found =>
      obtain ⟨rfl, rfl⟩ := Prod.mk.inj (Option.some.inj cut)
      obtain ⟨separator, parts, accepted, tail⟩ := ih found
      exact ⟨separator, by simp [parts], accepted, tail⟩
    · next found =>
      by_cases here : separates c = true
      · simp only [here, if_true, Option.some.injEq, Prod.mk.injEq] at cut
        obtain ⟨rfl, rfl⟩ := cut
        exact ⟨c, rfl, here, (splitLast_eq_none_iff _ _).1 found⟩
      · simp [here] at cut

end ClassAtlas.Text
