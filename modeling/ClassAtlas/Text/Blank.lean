/-!
# Blank characters and the words between them

A blank is a character that separates words: the ASCII blanks and information separators, the
next-line character and the space separators of Unicode. Trimming drops blanks at the ends,
`words` lists the maximal runs of other characters, and `squeeze` drops every blank.
-/
namespace ClassAtlas.Text

/-- Whether a character separates words. -/
def isBlank (c : Char) : Bool :=
  let code := c.toNat
  (0x9 ≤ code && code ≤ 0xD) || (0x1C ≤ code && code ≤ 0x20) || code == 0x85 || code == 0xA0
    || code == 0x1680 || (0x2000 ≤ code && code ≤ 0x200A) || code == 0x2028 || code == 0x2029
    || code == 0x202F || code == 0x205F || code == 0x3000

/-- The characters without the blanks at the end. -/
def trimEnd : List Char → List Char
  | [] => []
  | c :: rest =>
    match trimEnd rest with
    | [] => if isBlank c then [] else [c]
    | kept => c :: kept

/-- The characters without the blanks at either end. -/
def trimEnds (chars : List Char) : List Char := trimEnd (chars.dropWhile isBlank)

/-- The text without the blanks at its end. -/
def trimRight (text : String) : String := String.ofList (trimEnd text.toList)

/-- The text without the blanks at either end. -/
def trim (text : String) : String := String.ofList (trimEnds text.toList)

/-- The text without any of its blanks. -/
def squeeze (text : String) : String := String.ofList (text.toList.filter (!isBlank ·))

/-- The maximal blank-free runs, `run` being the one that the characters continue. -/
def runs (run : List Char) : List Char → List (List Char)
  | [] => if run.isEmpty then [] else [run.reverse]
  | c :: rest =>
    if isBlank c then
      if run.isEmpty then runs [] rest else run.reverse :: runs [] rest
    else runs (c :: run) rest

/-- The words of a text in order. -/
def words (text : String) : List String := (runs [] text.toList).map String.ofList

/-- The text with each run of blanks between words as one space, and none at the ends. -/
def respace (text : String) : String := " ".intercalate (words text)

/-- What the end is trimmed of stood behind what is kept. -/
theorem trimEnd_append_blanks (chars : List Char) :
    ∃ blanks, chars = trimEnd chars ++ blanks ∧ ∀ c ∈ blanks, isBlank c = true := by
  induction chars with
  | nil => exact ⟨[], rfl, by simp⟩
  | cons c rest ih =>
    obtain ⟨blanks, split, all⟩ := ih
    simp only [trimEnd]
    split
    · next tail =>
      rw [tail, List.nil_append] at split
      by_cases blank : isBlank c = true
      · exact ⟨c :: rest, by simp [blank], by simpa [blank, split] using all⟩
      · exact ⟨rest, by simp [blank], by simpa [split] using all⟩
    · exact ⟨blanks, by simpa using split, all⟩

end ClassAtlas.Text
