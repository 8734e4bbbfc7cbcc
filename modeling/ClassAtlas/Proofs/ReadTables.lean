import ClassAtlas.Proofs.SettingTables
import ClassAtlas.Toml.Reader

/-!
# Tables that are read hold no key twice

A value is lawful if no table in it holds a key twice. Whatever a document is, the table read from
it is lawful, because the reader changes tables only by setting keys. Each step of the reader keeps
what is read lawful, from single values over entries and headers to the lines of a document.
-/
namespace ClassAtlas.Toml

/-! ## Lawful values -/

/-- A value in which no table holds a key twice. -/
inductive Value.Lawful : Value → Prop where
  | text (words : String) : Lawful (.text words)
  | integer (number : Int) : Lawful (.integer number)
  | double (number : Double) : Lawful (.double number)
  | moment (instant : Moment) : Lawful (.moment instant)
  | boolean (flag : Bool) : Lawful (.boolean flag)
  | array {items : List Value} (each : ∀ item ∈ items, Lawful item) : Lawful (.array items)
  | table {entries : Table} (distinct : entries.Distinct)
      (each : ∀ entry ∈ entries, Lawful entry.2) : Lawful (.table entries)

variable {table : Table} {key : String} {value : Value} {items : List Value}

namespace Value.Lawful

/-- A lawful table holds no key twice. -/
theorem distinct_keys (lawful : (Value.table table).Lawful) : table.Distinct := by
  cases lawful with
  | table distinct _ => exact distinct

/-- The value of an entry of a lawful table is lawful. -/
theorem of_entry (lawful : (Value.table table).Lawful) {entry : String × Value}
    (listed : entry ∈ table) : entry.2.Lawful := by
  cases lawful with
  | table _ each => exact each entry listed

/-- An item of a lawful array is lawful. -/
theorem of_item (lawful : (Value.array items).Lawful) (listed : value ∈ items) :
    value.Lawful := by
  cases lawful with
  | array each => exact each value listed

/-- The empty table is lawful. -/
theorem nil : (Value.table []).Lawful := .table List.nodup_nil fun _ listed => by contradiction

/-- What stands under a key of a lawful table is lawful. -/
theorem of_get? (lawful : (Value.table table).Lawful) (found : table.get? key = some value) :
    value.Lawful :=
  lawful.of_entry (Table.mem_of_get? found)

/-- Setting a key keeps a table lawful. -/
theorem set (lawful : (Value.table table).Lawful) (key : String) (inner : value.Lawful) :
    (Value.table (table.set key value)).Lawful := by
  refine .table (nodup_putEntry lawful.distinct_keys) fun entry listed => ?_
  rcases mem_putEntry listed with rfl | early
  · exact inner
  · exact lawful.of_entry early

/-- A lawful value put behind lawful items gives lawful items. -/
theorem append_item (lawful : ∀ item ∈ items, item.Lawful) (last : value.Lawful) :
    (Value.array (items ++ [value])).Lawful := by
  refine .array fun item listed => ?_
  rcases List.mem_append.1 listed with early | late
  · exact lawful item early
  · exact List.mem_singleton.1 late ▸ last

end Value.Lawful

/-! ## What readings yield -/

/-- A property of whatever a reading yields. -/
def Yields {α : Type} (good : α → Prop) (reading : Reading α) : Prop :=
  ∀ value, reading = .ok value → good value

section Readings

variable {α β : Type} {good : α → Prop} {fine : β → Prop}

/-- A reading of what is good yields it. -/
theorem yields_ok {value : α} (holds : good value) : Yields good (.ok value) := by
  intro other read
  exact Except.ok.inj read ▸ holds

/-- A reading that fails yields nothing. -/
theorem yields_error {fault : ReadFault} : Yields good (.error fault) := by
  intro value read
  contradiction

/-- Nothing is asked of what a reading yields. -/
theorem yields_any (reading : Reading α) : Yields (fun _ => True) reading := fun _ _ => trivial

/-- Two readings yield what the second one does behind what the first one yields. -/
theorem Yields.bind {reading : Reading α} {next : α → Reading β} (first : Yields good reading)
    (later : ∀ value, good value → Yields fine (next value)) : Yields fine (reading >>= next) := by
  intro result read
  cases reading with
  | error fault => contradiction
  | ok value => exact later value (first value rfl) result read

/-- What is made from what a reading yields has the property that the making gives it. -/
theorem Yields.map {reading : Reading α} {make : α → β} (first : Yields good reading)
    (makes : ∀ value, good value → fine (make value)) : Yields fine (make <$> reading) := by
  intro result read
  cases reading with
  | error fault => contradiction
  | ok value => exact Except.ok.inj read ▸ makes value (first value rfl)

/-- A state that every step keeps good is good in the end. The induction is on the items that are
left, for every good state. -/
theorem Yields.foldlM {step : β → α → Reading β}
    (each : ∀ state item, fine state → Yields fine (step state item)) (items : List α)
    {state : β} (start : fine state) : Yields fine (items.foldlM step state) := by
  induction items generalizing state with
  | nil => exact yields_ok start
  | cons item items ih =>
    rw [List.foldlM_cons]
    exact (each state item start).bind fun next holds => ih holds

end Readings

/-- A table that is lawful as a value. -/
abbrev Table.Lawful (table : Table) : Prop := (Value.table table).Lawful

/-! ## Values and entries -/

/-- A reading of a table, with what comes along with it, yields a lawful one. -/
abbrev YieldsTable {α : Type} (reading : Reading (Table × α)) : Prop :=
  Yields (fun read => read.1.Lawful) reading

/-- Setting a key below levels of tables, or only opening them, keeps the tables lawful. -/
theorem assign_lawful (key : String) {given : Option Value}
    (inner : ∀ value ∈ given, value.Lawful) (levels : List String) (lawful : table.Lawful) :
    Yields Table.Lawful (assign key given levels table) := by
  induction levels generalizing table with
  | nil =>
    rw [assign]
    split
    · exact yields_error
    · cases given with
      | none => exact yields_ok lawful
      | some value => exact yields_ok (lawful.set key (inner value rfl))
  | cons level levels ih =>
    rw [assign]
    split
    · exact (ih .nil).bind fun below holds => yields_ok (lawful.set level holds)
    · next below found =>
      exact (ih (lawful.of_get? found)).bind fun below holds => yields_ok (lawful.set level holds)
    · exact yields_error

/-- A number is lawful, whatever it is. -/
theorem readNumber_lawful (chars : List Char) :
    Yields Value.Lawful (orMalformed (readNumber chars)) := by
  have pointed (found : Option Double) (make : Double → Double) :
      Yields Value.Lawful (orMalformed ((fun number => Value.double (make number)) <$> found)) := by
    cases found with
    | none => exact yields_error
    | some number => exact yields_ok (.double _)
  have whole (found : Option Int) (make : Int → Int) :
      Yields Value.Lawful (orMalformed (found.map fun number => .integer (make number))) := by
    cases found with
    | none => exact yields_error
    | some number => exact yields_ok (.integer _)
  unfold readNumber
  dsimp only
  split
  · exact pointed _ _
  · split
    · exact yields_ok (.double _)
    · split
      · exact yields_ok (.double _)
      · exact whole _ _

/-- What the readers of values and entries read within so many steps is lawful. -/
structure ReadsLawful (fuel : Nat) : Prop where
  /-- Values are lawful. -/
  value : ∀ tidy chars, Yields Value.Lawful (readValue tidy chars fuel)
  /-- Items are lawful. -/
  items : ∀ written, Yields (fun items => ∀ item ∈ items, item.Lawful) (readItems written fuel)
  /-- The entries of an inline table keep a table lawful. -/
  inline : ∀ {table : Table} (inner), table.Lawful →
    Yields Table.Lawful (readInline table inner fuel)
  /-- Entries keep a table lawful. -/
  entries : ∀ {table : Table} (entries), table.Lawful →
    Yields Table.Lawful (readEntries table entries fuel)
  /-- An entry keeps a table lawful. -/
  entry : ∀ {table : Table} (entry), table.Lawful → YieldsTable (readEntry table entry fuel)

namespace ReadsLawful

variable {fuel : Nat}

/-- Without steps nothing is read. -/
theorem zero : ReadsLawful 0 where
  value _ _ := by rw [readValue]; exact yields_error
  items _ := by rw [readItems]; exact yields_error
  inline _ _ := by rw [readInline]; exact yields_error
  entries _ _ := by rw [readEntries]; exact yields_error
  entry _ _ := by rw [readEntry]; exact yields_error

/-- A value read with one step more is lawful. -/
theorem succ_value (inside : ReadsLawful fuel) (tidy : Bool) (chars : List Char) :
    Yields Value.Lawful (readValue tidy chars (fuel + 1)) := by
  unfold readValue
  split
  · exact yields_error
  · split
    · exact yields_ok (.boolean true)
    · split
      · exact yields_ok (.boolean false)
      · split
        · exact (yields_any _).map fun words _ => .text words
        · split
          · refine (yields_any _).bind fun written _ =>
              (inside.items written).bind fun read each => ?_
            split
            · exact yields_ok (.array each)
            · exact yields_error
          · split
            · exact (inside.inline _ .nil).map fun _ holds => holds
            · split
              · exact (yields_any _).map fun clock _ => .moment (.time clock)
              · split
                · exact yields_ok (.moment _)
                · split
                  · exact readNumber_lawful _
                  · exact yields_error

/-- An entry read with one step more keeps a table lawful. -/
theorem succ_entry (inside : ReadsLawful fuel) (entry : List Char) (lawful : table.Lawful) :
    YieldsTable (readEntry table entry (fuel + 1)) := by
  unfold readEntry
  refine (yields_any _).bind fun ⟨key, given⟩ _ => ?_
  refine (yields_any _).bind fun ⟨key, given⟩ _ => ?_
  refine (yields_any _).bind fun ⟨levels, last⟩ _ => ?_
  refine (yields_any _).bind fun opens _ => ?_
  split
  · have nothing : ∀ value ∈ (none : Option Value), value.Lawful := fun _ listed => by contradiction
    exact (assign_lawful last nothing levels lawful).bind fun next holds => yields_ok holds
  · refine (inside.value _ _).bind fun read holds => ?_
    have given : ∀ value ∈ some read, value.Lawful := fun _ same => Option.some.inj same ▸ holds
    exact (assign_lawful last given levels lawful).bind fun next holds => yields_ok holds

/-- Readers that are lawful within so many steps are lawful with one more. -/
theorem succ (inside : ReadsLawful fuel) : ReadsLawful (fuel + 1) where
  value := inside.succ_value
  items written := by
    unfold readItems
    split
    · exact yields_ok fun _ listed => by contradiction
    · refine (inside.value true _).bind fun first holds => ?_
      exact (inside.items _).bind fun rest each => yields_ok (List.forall_mem_cons.2 ⟨holds, each⟩)
  inline inner lawful := by
    unfold readInline
    exact (yields_any _).bind fun entries _ => inside.entries entries lawful
  entries written lawful := by
    unfold readEntries
    split
    · exact yields_ok lawful
    · refine (inside.entry _ lawful).bind fun ⟨next, opened⟩ holds => ?_
      dsimp only
      split
      · exact yields_ok holds
      · exact inside.entries _ holds
  entry := inside.succ_entry

/-- Within any number of steps, what is read is lawful. -/
theorem all (fuel : Nat) : ReadsLawful fuel := by
  induction fuel with
  | zero => exact zero
  | succ fuel ih => exact ih.succ

end ReadsLawful

/-! ## Headers -/

/-- The table under a lawful value is lawful, and another lawful one in its place keeps the value
lawful. -/
theorem tableWithin?_lawful {here : Value} {back : Table → Value} {inArray : Bool}
    (within : tableWithin? here = some (table, back, inArray)) (lawful : here.Lawful) :
    table.Lawful ∧ ∀ other : Table, other.Lawful → (back other).Lawful := by
  unfold tableWithin? at within
  split at within
  · cases within
    exact ⟨lawful, fun other holds => holds⟩
  · next items =>
    split at within
    · next entries last =>
      cases within
      have listed := List.mem_of_getLast? last
      have front : ∀ item ∈ items.dropLast, item.Lawful := fun item early =>
        lawful.of_item (List.dropLast_subset _ early)
      exact ⟨lawful.of_item listed, fun other holds => .append_item front holds⟩
    · contradiction
  · contradiction

/-- Opening a table keeps a value lawful. -/
theorem openTable_lawful (double : Bool) (names brought : List String) {here : Value}
    (lawful : here.Lawful) :
    Yields (fun opened => opened.1.Lawful) (openTable double names brought here) := by
  induction names generalizing brought here with
  | nil =>
    rw [openTable]
    exact yields_ok lawful
  | cons name names ih =>
    rw [openTable]
    split
    · exact yields_error
    · next table back inArray within =>
      have ⟨inside, rebuilt⟩ := tableWithin?_lawful within lawful
      have empty : (Value.array [.table []]).Lawful :=
        .array fun item listed => List.mem_singleton.1 listed ▸ .nil
      dsimp only
      split
      · split
        · refine yields_ok (rebuilt _ (inside.set name ?_))
          split
          · exact empty
          · exact .nil
        · refine (ih _ .nil).bind fun opened holds => ?_
          exact yields_ok (rebuilt _ (inside.set name holds))
      · next inner found =>
        have below := inside.of_get? found
        split
        · refine (ih _ below).bind fun opened holds => ?_
          exact yields_ok (rebuilt _ (inside.set name holds))
        · split
          · exact yields_ok lawful
          · split
            · split
              · exact yields_error
              · exact yields_ok lawful
            · split
              · split
                · next items =>
                  have longer := Value.Lawful.append_item (fun item => below.of_item) .nil
                  exact yields_ok (rebuilt _ (inside.set name longer))
                · exact yields_error
              · exact yields_error

/-- Changing a table inside a value keeps the value lawful if the change keeps tables lawful. -/
theorem changeAt_lawful {α : Type} (double : Bool) {change : Table → Reading (Table × α)}
    (keeps : ∀ table : Table, table.Lawful → YieldsTable (change table))
    (names : List String) {here : Value} (lawful : here.Lawful) :
    Yields (fun changed => changed.1.Lawful) (changeAt double change names here) := by
  induction names generalizing here with
  | nil =>
    unfold changeAt
    split
    · exact yields_error
    · next table back inArray _ within =>
      have ⟨inside, rebuilt⟩ := tableWithin?_lawful within lawful
      split
      · exact yields_error
      · exact (keeps table inside).bind fun ⟨next, told⟩ holds => yields_ok (rebuilt next holds)
    · next same _ => exact absurd same (List.cons_ne_nil _ _).symm
  | cons name names ih =>
    unfold changeAt
    split
    · exact yields_error
    · next same _ => exact absurd same (List.cons_ne_nil _ _)
    · next table back inArray same within =>
      obtain ⟨rfl, rfl⟩ := List.cons.inj same
      have ⟨inside, rebuilt⟩ := tableWithin?_lawful within lawful
      have below : ((table.get? name).getD (.table [])).Lawful := by
        cases found : table.get? name with
        | none => exact .nil
        | some inner => exact inside.of_get? found
      exact (ih below).bind fun ⟨inner, told⟩ holds =>
        yields_ok (rebuilt _ (inside.set name holds))

/-! ## Documents -/

/-- A draft whose document is lawful so far. -/
abbrev Draft.Lawful (draft : Draft) : Prop := draft.root.Lawful

namespace Draft

variable {draft : Draft}

/-- A change of the open table that keeps tables lawful keeps a draft lawful. -/
theorem change_lawful {change : Table → Reading (Table × Option OpenText)}
    (keeps : ∀ table : Table, table.Lawful → YieldsTable (change table)) (lawful : draft.Lawful) :
    Yields Draft.Lawful (draft.change change) :=
  (changeAt_lawful _ keeps _ lawful).bind fun _ holds => yields_ok holds

/-- A line that continues a text keeps a draft lawful. -/
theorem continueText_lawful (text : OpenText) (line : List Char) (lawful : draft.Lawful) :
    Yields Draft.Lawful (draft.continueText text line) := by
  unfold Draft.continueText
  extract_lets line
  split
  · exact yields_ok lawful
  · refine (yields_any _).bind fun closed _ => ?_
    split
    · refine ((ReadsLawful.all _).value true _).bind fun read holds => ?_
      exact change_lawful (fun table inside => yields_ok (inside.set text.key holds)) lawful
    · exact yields_ok lawful

/-- A header and an entry keep a draft lawful. -/
theorem readEntryLine_lawful (line : List Char) (lawful : draft.Lawful) :
    Yields Draft.Lawful (draft.readEntryLine line) := by
  unfold Draft.readEntryLine
  split
  · exact yields_ok lawful
  · refine (yields_any _).bind fun ⟨double, names⟩ _ => ?_
    exact (openTable_lawful double names _ lawful).bind fun ⟨root, brought⟩ holds =>
      yields_ok holds
  · split
    · refine change_lawful (fun table inside => ?_) lawful
      exact ((ReadsLawful.all _).inline _ inside).bind fun next holds => yields_ok holds
    · exact yields_error
  · split
    · exact change_lawful (fun table inside => (ReadsLawful.all _).entry line inside) lawful
    · exact yields_ok lawful

/-- Reading a line keeps a draft lawful. -/
theorem readLine_lawful (line : List Char) (lawful : draft.Lawful) :
    Yields Draft.Lawful (draft.readLine line) := by
  unfold Draft.readLine
  split
  · exact continueText_lawful _ line lawful
  · exact readEntryLine_lawful _ lawful

end Draft

/-- Whatever a document is, what is read from it is lawful. -/
theorem read_lawful (document : String) : Yields Table.Lawful (read document) := by
  refine (yields_any _).bind fun lines _ => ?_
  have start : ({} : Draft).Lawful := .nil
  have kept := Yields.foldlM
    (fun draft line (lawful : Draft.Lawful draft) => draft.readLine_lawful line lawful) lines start
  refine kept.bind fun draft lawful => ?_
  cases given : draft.root with
  | table entries =>
    rw [Draft.Lawful, given] at lawful
    exact yields_ok lawful
  | _ => exact yields_ok .nil

end ClassAtlas.Toml
