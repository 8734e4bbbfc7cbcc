import Mathlib
import ClassAtlas.Fingerprint
import ClassAtlas.Proofs.QuotedText

/-!
# Where a part of a fingerprint ends

A fingerprint stands its parts between brackets with commas between them, so it can be taken
apart only by a reader that knows where a part ends. The reader here counts open brackets and
passes over quoted texts. Every part of a fingerprint leads it from any depth back to the same
depth (`Closed`), while outside all brackets a comma or a closing bracket stops it. Hence a group
of closed parts determines its parts.
-/
namespace ClassAtlas.Fingerprint

/-- Where a reader of a fingerprint stands. -/
inductive Place where
  /-- Outside quoted texts, in a number of open brackets. -/
  | outside (depth : Nat)
  /-- Inside a text that this quote ends. -/
  | inside (quote : Char) (depth : Nat)
  /-- Inside a text, behind a backslash. -/
  | escaped (quote : Char) (depth : Nat)

/-- One character onwards; outside all brackets a comma or a closing bracket is refused. -/
def step : Place → Char → Option Place
  | .outside depth, c =>
    if c = '(' ∨ c = '\x7b' then some (.outside (depth + 1))
    else if c = '"' ∨ c = '\'' then some (.inside c depth)
    else if depth = 0 ∧ (c = ',' ∨ c = ')' ∨ c = '\x7d') then none
    else if c = ')' ∨ c = '\x7d' then some (.outside (depth - 1))
    else some (.outside depth)
  | .inside quote depth, c =>
    if c = '\\' then some (.escaped quote depth)
    else if c = quote then some (.outside depth)
    else some (.inside quote depth)
  | .escaped quote depth, _ => some (.inside quote depth)

/-- A text onwards. -/
def read (place : Place) (text : List Char) : Option Place := text.foldlM step place

/-- Reading one text after another. -/
theorem read_append (place : Place) (left right : List Char) :
    read place (left ++ right) = (read place left).bind (read · right) :=
  List.foldlM_append

/-- Reading a character before a text. -/
theorem read_cons (place : Place) (c : Char) (rest : List Char) :
    read place (c :: rest) = (step place c).bind (read · rest) :=
  List.foldlM_cons

/-- A text that leads the reader from every depth back to that depth. -/
structure Closed (text : String) : Prop where
  /-- There is something to read. -/
  nonempty : text.toList ≠ []
  /-- Brackets and quotes are closed where they are opened. -/
  balanced : ∀ depth, read (.outside depth) text.toList = some (.outside depth)

/-- Whether a character neither opens nor closes nor separates anything. -/
def isPlain (c : Char) : Bool := c ∉ ['(', ')', '\x7b', '\x7d', '"', '\'', ',']

/-- A plain character leaves the reader where it stands. -/
theorem step_plain {c : Char} (plain : isPlain c = true) (depth : Nat) :
    step (.outside depth) c = some (.outside depth) := by
  simp only [isPlain, List.mem_cons, List.not_mem_nil, or_false, not_or,
    decide_eq_true_eq] at plain
  simp [step, plain]

/-- Plain characters leave the reader where it stands. -/
theorem read_plain {text : List Char} (plain : text.all isPlain = true) (depth : Nat) :
    read (.outside depth) text = some (.outside depth) := by
  induction text with
  | nil => rfl
  | cons c rest ih =>
    rw [List.all_cons, Bool.and_eq_true] at plain
    rw [read_cons, step_plain plain.1, Option.bind_some]
    exact ih plain.2

/-- A text of plain characters is closed. -/
theorem closed_of_plain {text : String} (nonempty : text.toList ≠ [])
    (plain : text.toList.all isPlain = true) : Closed text :=
  ⟨nonempty, read_plain plain⟩

/-! ## Leaves -/

/-- Characters that are neither a backslash nor the ending quote stay inside a text. -/
theorem read_inside {quote : Char} {text : List Char}
    (plain : ∀ c ∈ text, c ≠ '\\' ∧ c ≠ quote) (depth : Nat) :
    read (.inside quote depth) text = some (.inside quote depth) := by
  induction text with
  | nil => rfl
  | cons c rest ih =>
    have here := plain c List.mem_cons_self
    rw [read_cons, step, if_neg here.1, if_neg here.2, Option.bind_some]
    exact ih fun other member => plain other (List.mem_cons_of_mem c member)

/-- A mark behind a backslash and plain characters behind it stay inside a text. -/
theorem read_escape {quote : Char} (mark : Char) {text : List Char}
    (plain : ∀ c ∈ text, c ≠ '\\' ∧ c ≠ quote) (depth : Nat) :
    read (.inside quote depth) ('\\' :: mark :: text) = some (.inside quote depth) := by
  rw [read_cons, step, if_pos rfl, Option.bind_some, read_cons, step, Option.bind_some]
  exact read_inside plain depth

/-- Hexadecimal digits end no quoted text. -/
theorem hexDigits_inside {quote : Char} (isQuote : quote = '"' ∨ quote = '\'')
    (width value : Nat) : ∀ c ∈ Text.hexDigits width value, c ≠ '\\' ∧ c ≠ quote := by
  intro c member
  obtain ⟨digit, small, rfl⟩ := Text.mem_hexDigits member
  have plain := Text.hexDigit_plain digit small
  rcases isQuote with rfl | rfl
  · exact ⟨plain.1, plain.2.2⟩
  · exact ⟨plain.1, plain.2.1⟩

/-- A quoted character stays inside its text. -/
theorem read_quotedChar {quote : Char} (isQuote : quote = '"' ∨ quote = '\'') (c : Char)
    (depth : Nat) :
    read (.inside quote depth) (Text.quotedChar quote c) = some (.inside quote depth) := by
  have alone (mark : Char) :
      read (.inside quote depth) ['\\', mark] = some (.inside quote depth) :=
    read_escape mark (fun _ member => absurd member List.not_mem_nil) depth
  unfold Text.quotedChar
  split
  · exact alone c
  split
  · exact alone 't'
  split
  · exact alone 'n'
  split
  · exact alone 'r'
  split
  · next notEscaped _ _ _ _ =>
    refine read_inside (fun other member => ?_) depth
    rw [List.mem_singleton.1 member]
    exact ⟨fun same => notEscaped (Or.inl same), fun same => notEscaped (Or.inr same)⟩
  split
  · exact read_escape 'x' (hexDigits_inside isQuote 2 c.toNat) depth
  split
  · exact read_escape 'u' (hexDigits_inside isQuote 4 c.toNat) depth
  · exact read_escape 'U' (hexDigits_inside isQuote 8 c.toNat) depth

/-- Quoted characters stay inside their text. -/
theorem read_quotedBody {quote : Char} (isQuote : quote = '"' ∨ quote = '\'')
    (chars : List Char) (depth : Nat) :
    read (.inside quote depth) (chars.flatMap (Text.quotedChar quote)) =
      some (.inside quote depth) := by
  induction chars with
  | nil => rfl
  | cons c rest ih =>
    rw [List.flatMap_cons, read_append, read_quotedChar isQuote, Option.bind_some, ih]

/-- A quoted text is closed. -/
@[simp]
theorem quoted_closed (text : String) : Closed (Text.quoted text) := by
  have isQuote := Text.quoteFor_eq text.toList
  have chars : (Text.quoted text).toList = Text.quotedChars text.toList := String.toList_ofList
  refine ⟨by rw [chars]; exact List.cons_ne_nil _ _, fun depth => ?_⟩
  have opens : step (.outside depth) (Text.quoteFor text.toList) =
      some (.inside (Text.quoteFor text.toList) depth) := by
    rcases isQuote with quote | quote <;> rw [quote] <;> simp [step]
  have closes : step (.inside (Text.quoteFor text.toList) depth) (Text.quoteFor text.toList) =
      some (.outside depth) := by
    rcases isQuote with quote | quote <;> rw [quote] <;> simp [step]
  rw [chars, Text.quotedChars, read_cons, opens, Option.bind_some, read_append,
    read_quotedBody isQuote, Option.bind_some, read_cons, closes]
  rfl

/-- A number is closed. -/
@[simp]
theorem number_closed (number : Int) : Closed number.repr := by
  have digits (value : Nat) : value.repr.toList.all isPlain = true := by
    rw [List.all_eq_true]
    intro c member
    rw [Nat.toList_repr] at member
    have digit := Nat.isDigit_of_mem_toDigits (by decide) (by decide) member
    simp only [isPlain, decide_eq_true_eq, List.mem_cons, List.not_mem_nil, or_false]
    rintro (rfl | rfl | rfl | rfl | rfl | rfl | rfl) <;> simp at digit
  have written (value : Nat) : value.repr.toList ≠ [] := by
    rw [Nat.toList_repr]
    exact Nat.toDigits_ne_nil
  cases number with
  | ofNat value => exact closed_of_plain (written value) (digits value)
  | negSucc value =>
    have chars : (Int.negSucc value).repr.toList = '-' :: (value + 1).repr.toList :=
      String.toList_append
    refine closed_of_plain (by rw [chars]; exact List.cons_ne_nil _ _) ?_
    rw [chars, List.all_cons, digits (value + 1)]
    rfl

/-! ## Groups -/

/-- What follows the first item of a group: the later ones, each behind a comma, and the end. -/
def follow (items : List String) (ending : List Char) : List Char :=
  items.flatMap (fun item => ',' :: item.toList) ++ ending

/-- Joined items are the first one and what follows it. -/
theorem joined_cons (first : String) (items : List String) :
    (",".intercalate (first :: items)).toList = first.toList ++ follow items [] := by
  induction items generalizing first with
  | nil => simp [follow]
  | cons next items ih =>
    rw [String.intercalate_cons_cons, String.toList_append, String.toList_append, ih next]
    simp [follow]

/-- Behind another item, joined items are read behind one more comma. -/
theorem follow_cons (first : String) (items : List String) (ending : List Char) :
    follow (first :: items) ending =
      ',' :: ((",".intercalate (first :: items)).toList ++ ending) := by
  rw [joined_cons]
  simp [follow]

/-- Inside brackets, closed items and the commas before them lead back to the same depth. -/
theorem read_follow {items : List String} (closed : ∀ item ∈ items, Closed item)
    (depth : Nat) :
    read (.outside (depth + 1)) (follow items []) = some (.outside (depth + 1)) := by
  induction items with
  | nil => rfl
  | cons item items ih =>
    have comma : step (.outside (depth + 1)) ',' = some (.outside (depth + 1)) := by
      simp [step]
    have tail := ih fun other member => closed other (List.mem_cons_of_mem item member)
    rw [follow, List.append_nil] at tail ⊢
    rw [List.flatMap_cons, read_append, read_cons, comma, Option.bind_some,
      (closed item List.mem_cons_self).balanced, Option.bind_some, tail]

/-- Inside brackets, joined closed items lead back to the same depth. -/
theorem read_joined {items : List String} (closed : ∀ item ∈ items, Closed item)
    (depth : Nat) :
    read (.outside (depth + 1)) (",".intercalate items).toList =
      some (.outside (depth + 1)) := by
  cases items with
  | nil => rfl
  | cons first items =>
    rw [joined_cons, read_append, (closed first List.mem_cons_self).balanced,
      Option.bind_some]
    exact read_follow (fun other member => closed other (List.mem_cons_of_mem first member)) depth

/-- The characters of a group. -/
theorem group_chars (opening : String) (items : List String) (closing : String) :
    (group opening items closing).toList =
      opening.toList ++ ((",".intercalate items).toList ++ closing.toList) := by
  rw [group, String.toList_append, String.toList_append, List.append_assoc]

/-- A group of closed items is closed when its ends open and close one bracket. -/
theorem group_closed {opening closing : String} {items : List String}
    (opens : ∀ depth, read (.outside depth) opening.toList = some (.outside (depth + 1)))
    (closes : ∀ depth, read (.outside (depth + 1)) closing.toList = some (.outside depth))
    (closed : ∀ item ∈ items, Closed item) : Closed (group opening items closing) := by
  constructor
  · intro empty
    rw [group_chars] at empty
    have none := (List.append_eq_nil_iff.1 empty).1
    have moved := opens 0
    rw [none] at moved
    cases moved
  · intro depth
    rw [group_chars, read_append, opens, Option.bind_some, read_append, read_joined closed,
      Option.bind_some, closes]

/-- A record of closed parts is closed when the name of its kind is plain. -/
theorem record_closed {kind : String} {parts : List String}
    (plain : kind.toList.all isPlain = true) (closed : ∀ part ∈ parts, Closed part) :
    Closed (record kind parts) := by
  refine group_closed (fun depth => ?_) (fun depth => rfl) closed
  rw [String.toList_append, read_append, read_plain plain]
  rfl

/-- A list of closed items is closed. -/
theorem list_closed {items : List String} (closed : ∀ item ∈ items, Closed item) :
    Closed (list items) :=
  group_closed (fun _ => rfl) (fun _ => rfl) closed

/-- A list written item by item is closed when each item is. -/
@[simp]
theorem map_closed {α : Type} {write : α → String} (closed : ∀ value, Closed (write value))
    (values : List α) : Closed (list (values.map write)) := by
  refine list_closed fun item member => ?_
  obtain ⟨value, _, rfl⟩ := List.mem_map.1 member
  exact closed value

/-- A list of names is closed. -/
@[simp]
theorem names_closed (items : List String) : Closed (names items) :=
  map_closed quoted_closed items

/-- A set of names is closed. -/
@[simp]
theorem set_closed (items : NameSet) : Closed (set items) := by
  refine group_closed (fun _ => rfl) (fun _ => rfl) fun item member => ?_
  obtain ⟨name, _, rfl⟩ := List.mem_map.1 (mem_distinctNames.1 member)
  exact quoted_closed name

/-- A truth value is closed. -/
@[simp]
theorem bool_closed (value : Bool) : Closed (bool value) := by
  cases value <;> exact closed_of_plain (by decide) (by decide)

/-- A text that may be absent is closed. -/
@[simp]
theorem optional_closed (value : Option String) : Closed (optional value) := by
  cases value with
  | none => exact closed_of_plain (by decide) (by decide)
  | some text => exact quoted_closed text

/-! ## Taking a group apart -/

/-- A character that stops the reader outside all brackets. -/
def Stops (c : Char) : Prop := step (.outside 0) c = none

/-- No closed text goes on behind another with a character that stops the reader. -/
theorem Closed.not_continued {whole part : String} {c : Char} {rest : List Char}
    (closed : Closed whole) (front : Closed part) (stops : Stops c) :
    whole.toList ≠ part.toList ++ c :: rest := by
  intro continued
  have balanced := closed.balanced 0
  rw [continued, read_append, front.balanced, Option.bind_some, read_cons, stops] at balanced
  cases balanced

/-- Of two equal texts that start with a closed part and go on with a stopping character, the
parts are equal and so is what follows them. -/
theorem Closed.eq_of_append_eq {left right : String} {c d : Char} {after later : List Char}
    (first : Closed left) (second : Closed right) (stopsAfter : Stops c) (stopsLater : Stops d)
    (same : left.toList ++ c :: after = right.toList ++ d :: later) :
    left = right ∧ c :: after = d :: later := by
  rcases List.append_eq_append_iff.1 same with ⟨gap, longer, rest⟩ | ⟨gap, longer, rest⟩
  · cases gap with
    | nil =>
      rw [List.append_nil] at longer
      exact ⟨(String.toList_injective longer).symm, rest⟩
    | cons e gap =>
      obtain ⟨rfl, -⟩ := List.cons.inj rest
      exact absurd longer (second.not_continued first stopsAfter)
  · cases gap with
    | nil =>
      rw [List.append_nil] at longer
      exact ⟨String.toList_injective longer, rest.symm⟩
    | cons e gap =>
      obtain ⟨rfl, -⟩ := List.cons.inj rest
      exact absurd longer (first.not_continued second stopsLater)

/-- What follows an item begins with a character that stops the reader. -/
theorem follow_stops (items : List String) {bracket : Char} (stops : Stops bracket) :
    ∃ c rest, follow items [bracket] = c :: rest ∧ Stops c := by
  cases items with
  | nil => exact ⟨bracket, [], rfl, stops⟩
  | cons item items => exact ⟨',', _, rfl, rfl⟩

/-- Closed items are determined by the text that they make behind another item. -/
theorem follow_injective {left right : List String} {bracket : Char} (stops : Stops bracket)
    (notComma : bracket ≠ ',') (leftClosed : ∀ item ∈ left, Closed item)
    (rightClosed : ∀ item ∈ right, Closed item)
    (same : follow left [bracket] = follow right [bracket]) : left = right := by
  induction left generalizing right with
  | nil =>
    cases right with
    | nil => rfl
    | cons item items => exact absurd (List.cons.inj same).1 notComma
  | cons first items ih =>
    cases right with
    | nil => exact absurd (List.cons.inj same).1.symm notComma
    | cons other others =>
      obtain ⟨c, after, here, stopsHere⟩ := follow_stops items stops
      obtain ⟨d, later, there, stopsThere⟩ := follow_stops others stops
      have tails : first.toList ++ follow items [bracket] =
          other.toList ++ follow others [bracket] := by
        simpa [follow] using same
      rw [here, there] at tails
      have parts := (leftClosed first List.mem_cons_self).eq_of_append_eq
        (rightClosed other List.mem_cons_self) stopsHere stopsThere tails
      rw [← here, ← there] at parts
      have rest := ih (fun item member => leftClosed item (List.mem_cons_of_mem first member))
        (fun item member => rightClosed item (List.mem_cons_of_mem other member)) parts.2
      rw [parts.1, rest]

/-- Closed items are determined by the text that they make before a closing bracket. -/
theorem joined_injective {left right : List String} {bracket : Char} (stops : Stops bracket)
    (notComma : bracket ≠ ',') (leftClosed : ∀ item ∈ left, Closed item)
    (rightClosed : ∀ item ∈ right, Closed item)
    (same : (",".intercalate left).toList ++ [bracket] =
      (",".intercalate right).toList ++ [bracket]) : left = right := by
  cases left with
  | nil =>
    cases right with
    | nil => rfl
    | cons other others =>
      exfalso
      have short := List.append_cancel_right same
      rw [joined_cons] at short
      exact (rightClosed other List.mem_cons_self).nonempty
        (List.append_eq_nil_iff.1 short.symm).1
  | cons first items =>
    cases right with
    | nil =>
      exfalso
      have short := List.append_cancel_right same
      rw [joined_cons] at short
      exact (leftClosed first List.mem_cons_self).nonempty (List.append_eq_nil_iff.1 short).1
    | cons other others =>
      -- Behind a comma of their own the items are read as those that follow another.
      refine follow_injective stops notComma leftClosed rightClosed ?_
      rw [follow_cons, follow_cons, same]

/-- A group of closed items determines its items. -/
theorem group_injective {opening closing : String} {left right : List String}
    (bracket : Char) (ending : closing.toList = [bracket]) (stops : Stops bracket)
    (notComma : bracket ≠ ',')
    (leftClosed : ∀ item ∈ left, Closed item) (rightClosed : ∀ item ∈ right, Closed item)
    (same : group opening left closing = group opening right closing) : left = right := by
  have chars := congrArg String.toList same
  rw [group_chars, group_chars, ending] at chars
  exact joined_injective stops notComma leftClosed rightClosed (List.append_cancel_left chars)

/-- A record of closed parts determines its parts. -/
theorem record_injective {kind : String} {left right : List String}
    (leftClosed : ∀ part ∈ left, Closed part) (rightClosed : ∀ part ∈ right, Closed part)
    (same : record kind left = record kind right) : left = right :=
  group_injective ')' rfl rfl (by decide) leftClosed rightClosed same

/-- A list of closed items determines its items. -/
theorem list_injective {left right : List String} (leftClosed : ∀ item ∈ left, Closed item)
    (rightClosed : ∀ item ∈ right, Closed item) (same : list left = list right) :
    left = right :=
  group_injective ')' rfl rfl (by decide) leftClosed rightClosed same

/-- A list written item by item determines the values written, when each item is closed and
determines its value. -/
theorem list_map_injective {α : Type} {write : α → String} (closed : ∀ value, Closed (write value))
    (injective : ∀ left right, write left = write right → left = right) {left right : List α}
    (same : list (left.map write) = list (right.map write)) : left = right := by
  have all (values : List α) : ∀ item ∈ values.map write, Closed item := by
    intro item member
    obtain ⟨value, _, rfl⟩ := List.mem_map.1 member
    exact closed value
  exact List.map_injective_iff.2 (fun left right => injective left right)
    (list_injective (all left) (all right) same)

end ClassAtlas.Fingerprint
