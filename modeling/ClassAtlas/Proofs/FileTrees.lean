import Mathlib.Data.List.Induction
import ClassAtlas.Files.Workspace
import ClassAtlas.Proofs.KeyedEntries

/-!
# What lies in a file tree

Where a path leads is decided by its parts alone, and what is found there by the tree: following
parts either fails on the way or ends at the collapsed location with the node that lies there.
Putting a node changes that location and no other, so a written file is the only change of a
write, and made directories leave every node in its place.

A tree is well formed if no location is listed twice, no name is a pair of dots, and whatever is
listed lies in a directory. In such a tree the listed nodes are those that following a path finds.
-/
namespace ClassAtlas.FileTree

variable {tree grown : FileTree} {location other : Location} {place reached : Place}
  {parts : List String} {node : Node} {text : String}

/-! ## Putting nodes -/

/-- Putting a node puts an entry under its location. -/
theorem put_entries : (tree.put location node).entries = putEntry tree.entries location node := by
  unfold put putEntry
  split <;> rfl

/-- Putting a node changes no other location. -/
theorem get?_put_other (apart : other ≠ location) :
    (tree.put location node).get? other = tree.get? other := by
  unfold get?
  rw [put_entries, find?_putEntry, if_neg apart]

/-- A put node is found at its location. -/
theorem get?_put_self (below : location ≠ []) :
    (tree.put location node).get? location = some node := by
  have nonempty : location.isEmpty = false := by simpa using below
  rw [get?, nonempty, if_neg Bool.false_ne_true, put_entries, find?_putEntry, if_pos rfl]
  rfl

/-- What lies at a location after a node was put at one. -/
theorem get?_put (below : location ≠ []) :
    (tree.put location node).get? other = if other = location then some node
      else tree.get? other := by
  by_cases same : other = location
  · rw [if_pos same, same, get?_put_self below]
  · rw [if_neg same, get?_put_other same]

/-- What is no directory is not the root. -/
theorem ne_root_of_get? (lies : tree.get? location ≠ some .directory) : location ≠ [] := by
  rintro rfl
  exact lies rfl

/-! ## Following paths -/

/-- Parts are followed one after the other. -/
theorem follow_append (front back : List String) :
    tree.follow place (front ++ back) = tree.follow place front >>= (tree.follow · back) := by
  induction front generalizing place with
  | nil => rfl
  | cons part rest ih =>
    rw [List.cons_append, follow, follow]
    cases place.node with
    | none => rfl
    | some node =>
      cases node with
      | file text => rfl
      | directory => exact ih

/-- From a place that a tree knows, a path leads to the location of its parts and to the node that
lies there. -/
theorem follow_reaches (known : place.node = tree.get? place.location)
    (followed : tree.follow place parts = .ok reached) :
    reached.location = parts.foldl Path.stepTo place.location ∧
      reached.node = tree.get? reached.location := by
  induction parts generalizing place with
  | nil =>
    obtain rfl := Except.ok.inj followed
    exact ⟨rfl, known⟩
  | cons part rest ih =>
    rw [follow] at followed
    split at followed
    · contradiction
    · contradiction
    · exact ih rfl followed

/-- A path that can be followed leads to its collapsed location and to what lies there. -/
theorem locate_eq (followed : tree.locate parts = .ok reached) :
    reached = ⟨Path.collapse parts, tree.get? (Path.collapse parts)⟩ := by
  obtain ⟨location, node⟩ := reached
  have ⟨leads, lies⟩ := follow_reaches rfl followed
  dsimp only at leads lies
  rw [lies, leads]
  rfl

/-- Only a directory can be left. -/
theorem directory_of_follow (followed : tree.follow place parts = .ok reached)
    (moves : parts ≠ []) : place.node = some .directory := by
  cases parts with
  | nil => exact absurd rfl moves
  | cons part rest =>
    rw [follow] at followed
    split at followed
    · contradiction
    · contradiction
    · next inside => exact inside

/-- A path to anything but a directory leads there also after a file was put in its place. -/
theorem follow_put (lies : tree.get? location ≠ some .directory) (moves : parts ≠ [])
    (followed : tree.follow place parts = .ok reached) (leads : reached.location = location) :
    (tree.put location (.file text)).follow place parts = .ok ⟨location, some (.file text)⟩ := by
  have below := ne_root_of_get? lies
  induction parts generalizing place with
  | nil => exact absurd rfl moves
  | cons part rest ih =>
    rw [follow] at followed ⊢
    split at followed
    · contradiction
    · contradiction
    · dsimp only at followed ⊢
      cases rest with
      | nil =>
        obtain rfl := Except.ok.inj followed
        dsimp only at leads
        rw [leads, get?_put_self below]
        rfl
      | cons next later =>
        -- More parts follow, so a directory stands here and this is not the end of the path.
        have directory : tree.get? (Path.stepTo place.location part) = some .directory :=
          directory_of_follow followed (List.cons_ne_nil _ _)
        have apart : Path.stepTo place.location part ≠ location := by
          rintro rfl
          exact lies directory
        rw [get?_put_other apart]
        exact ih (List.cons_ne_nil _ _) followed

/-- Where names lead on to a file there is a directory. -/
theorem locate_of_read {inner : List String} (given : tree.read (parts ++ inner) = .ok text)
    (deeper : inner ≠ []) :
    tree.locate parts = .ok ⟨Path.collapse parts, some .directory⟩ := by
  unfold read at given
  split at given <;> try contradiction
  next followed =>
  rw [locate, follow_append] at followed
  cases start : tree.follow ⟨[], some .directory⟩ parts with
  | error cause =>
    rw [start] at followed
    contradiction
  | ok reached =>
    rw [start] at followed
    have directory := directory_of_follow followed deeper
    have known := locate_eq start
    rw [known] at directory
    dsimp only at directory
    rw [locate, start, known, directory]

/-! ## Writing files and making directories -/

/-- A write puts the file where its path leads, which must not be a directory. -/
theorem write_eq_ok_iff :
    tree.write parts text = .ok grown ↔
      (∃ node, tree.locate parts = .ok ⟨Path.collapse parts, node⟩) ∧
        tree.get? (Path.collapse parts) ≠ some .directory ∧
        grown = tree.put (Path.collapse parts) (.file text) := by
  unfold write
  cases found : tree.locate parts with
  | error cause => simp
  | ok reached =>
    obtain rfl := locate_eq found
    cases lies : tree.get? (Path.collapse parts) with
    | none => simp [eq_comm]
    | some node => cases node <;> simp [eq_comm]

/-- A file that has just been written can be written again. -/
theorem write_again (written : tree.write parts text = .ok grown) (later : String) :
    grown.write parts later = .ok (grown.put (Path.collapse parts) (.file later)) := by
  obtain ⟨⟨node, followed⟩, lies, rfl⟩ := write_eq_ok_iff.1 written
  have moves : parts ≠ [] := by
    rintro rfl
    exact lies rfl
  have again : (tree.put (Path.collapse parts) (.file text)).locate parts =
      .ok ⟨Path.collapse parts, some (.file text)⟩ := follow_put lies moves followed rfl
  have file : (tree.put (Path.collapse parts) (.file text)).get? (Path.collapse parts) =
      some (.file text) := get?_put_self (ne_root_of_get? lies)
  exact write_eq_ok_iff.2 ⟨⟨_, again⟩, by simp [file], rfl⟩

/-- A write leaves every other location as it is. -/
theorem get?_write (written : tree.write parts text = .ok grown) :
    grown.get? other =
      if other = Path.collapse parts then some (.file text) else tree.get? other := by
  obtain ⟨_, lies, rfl⟩ := write_eq_ok_iff.1 written
  exact get?_put (ne_root_of_get? lies)

/-- Making directories takes no node away. -/
theorem get?_makeDirectories (made : tree.makeDirectories location parts = .ok grown)
    (lies : tree.get? other = some node) : grown.get? other = some node := by
  induction parts generalizing tree location with
  | nil =>
    obtain rfl := Except.ok.inj made
    exact lies
  | cons part rest ih =>
    rw [makeDirectories] at made
    split at made
    · exact ih made lies
    · contradiction
    · next free =>
      have apart : other ≠ Path.stepTo location part := by
        rintro rfl
        rw [free] at lies
        contradiction
      exact ih made ((get?_put_other apart).trans lies)

/-! ## Well-formed trees -/

/-- A tree in which a location is listed once, without double dots, and inside a directory. -/
structure WellFormed (tree : FileTree) : Prop where
  /-- No location is listed twice. -/
  distinct : (tree.entries.map (·.1)).Nodup
  /-- No name is a pair of dots. -/
  plain : ∀ entry ∈ tree.entries, ".." ∉ entry.1
  /-- What is listed lies in a directory. -/
  housed : ∀ entry ∈ tree.entries, tree.get? entry.1.dropLast = some .directory

/-- What is found below the root is listed. -/
theorem mem_of_get? (lies : tree.get? location = some node) (below : location ≠ []) :
    (location, node) ∈ tree.entries := by
  have nonempty : location.isEmpty = false := by simpa using below
  rw [get?, nonempty, if_neg Bool.false_ne_true, Option.map_eq_some_iff] at lies
  obtain ⟨entry, found, rfl⟩ := lies
  have here : entry.1 = location := by simpa using List.find?_some found
  rw [← here]
  exact List.mem_of_find?_eq_some found

namespace WellFormed

/-- What is listed below the root is found. -/
theorem get?_of_mem (sound : tree.WellFormed) (listed : (location, node) ∈ tree.entries)
    (below : location ≠ []) : tree.get? location = some node := by
  have nonempty : location.isEmpty = false := by simpa using below
  rw [get?, nonempty, if_neg Bool.false_ne_true, find?_of_mem_entries sound.distinct listed]
  rfl

/-- Above what is found there are directories. -/
theorem directory_above (sound : tree.WellFormed) {inner : List String}
    (lies : tree.get? (location ++ inner) = some node) (deeper : inner ≠ []) :
    tree.get? location = some .directory := by
  induction inner using List.reverseRecOn generalizing node with
  | nil => exact absurd rfl deeper
  | append_singleton front last ih =>
    rw [← List.append_assoc] at lies
    have listed := mem_of_get? lies (by simp)
    have parent := sound.housed _ listed
    rw [List.dropLast_concat] at parent
    by_cases ends : front = []
    · rwa [ends, List.append_nil] at parent
    · exact ih parent ends

/-- From a location a path leads to whatever is found below it. -/
theorem follow_eq (sound : tree.WellFormed) {inner : List String}
    (lies : tree.get? (location ++ inner) = some node) :
    tree.follow ⟨location, tree.get? location⟩ inner = .ok ⟨location ++ inner, some node⟩ := by
  induction inner generalizing location with
  | nil =>
    rw [List.append_nil] at lies ⊢
    rw [follow, lies]
  | cons part rest ih =>
    have above := sound.directory_above lies (List.cons_ne_nil _ _)
    have listed := mem_of_get? lies (by simp)
    have name : part ≠ ".." := by
      rintro rfl
      exact sound.plain _ listed (by simp)
    have onward := List.append_cons location part rest
    rw [follow, above]
    dsimp only
    rw [Path.stepTo, if_neg name, onward]
    exact ih (onward ▸ lies)

/-- Below a directory that parts lead to, names lead to a file exactly if it is found there. -/
theorem read_below_iff (sound : tree.WellFormed) {parts inner : List String}
    (leads : tree.locate parts = .ok ⟨location, some .directory⟩) (plain : ".." ∉ inner) :
    tree.read (parts ++ inner) = .ok text ↔ tree.get? (location ++ inner) = some (.file text) := by
  have top := locate_eq leads
  rw [Place.mk.injEq] at top
  obtain ⟨rfl, known⟩ := top
  constructor
  · intro given
    unfold read at given
    split at given <;> try contradiction
    next found =>
    have reached := locate_eq found
    rw [Path.collapse_append plain, Place.mk.injEq] at reached
    rw [← reached.2, Except.ok.inj given]
  · intro lies
    have followed := sound.follow_eq lies
    rw [← known] at followed
    apply read_of_locate
    rw [locate, follow_append]
    rw [locate] at leads
    rw [leads]
    exact followed

/-- A node can be put into a directory, and over a directory only another. -/
theorem put (sound : tree.WellFormed) (below : location ≠ []) (named : ".." ∉ location)
    (parent : tree.get? location.dropLast = some .directory)
    (kept : tree.get? location = some .directory → node = .directory) :
    (tree.put location node).WellFormed := by
  refine ⟨?_, ?_, ?_⟩
  · rw [put_entries]
    exact nodup_putEntry sound.distinct
  · intro entry member
    rw [put_entries] at member
    rcases mem_putEntry member with rfl | early
    · exact named
    · exact sound.plain entry early
  · intro entry member
    rw [put_entries] at member
    have above : tree.get? entry.1.dropLast = some .directory := by
      rcases mem_putEntry member with rfl | early
      · exact parent
      · exact sound.housed entry early
    rw [get?_put below]
    by_cases inside : entry.1.dropLast = location
    · rw [inside] at above
      rw [if_pos inside, kept above]
    · rw [if_neg inside, above]

/-- Above a directory lies a directory. -/
theorem parent_of_directory (sound : tree.WellFormed)
    (directory : tree.get? location = some .directory) :
    tree.get? location.dropLast = some .directory := by
  by_cases root : location = []
  · rw [root]
    rfl
  · exact sound.housed _ (mem_of_get? directory root)

/-- A step from a directory leads to a directory or to a new name in it. -/
theorem step (sound : tree.WellFormed) (named : ".." ∉ location)
    (directory : tree.get? location = some .directory) (part : String) :
    ".." ∉ Path.stepTo location part ∧
      tree.get? (Path.stepTo location part).dropLast = some .directory := by
  by_cases up : part = ".."
  · rw [Path.stepTo, if_pos up]
    refine ⟨fun member => named (List.dropLast_subset _ member), ?_⟩
    exact sound.parent_of_directory (sound.parent_of_directory directory)
  · rw [Path.stepTo, if_neg up, List.dropLast_concat]
    refine ⟨fun member => ?_, directory⟩
    rcases List.mem_append.1 member with early | last
    · exact named early
    · exact up (List.mem_singleton.1 last).symm

/-- A path ends in a directory or at a name in one. -/
theorem follow_housed (sound : tree.WellFormed) (known : place.node = tree.get? place.location)
    (named : ".." ∉ place.location)
    (parent : tree.get? place.location.dropLast = some .directory)
    (followed : tree.follow place parts = .ok reached) :
    ".." ∉ reached.location ∧ tree.get? reached.location.dropLast = some .directory := by
  induction parts generalizing place with
  | nil =>
    obtain rfl := Except.ok.inj followed
    exact ⟨named, parent⟩
  | cons part rest ih =>
    have directory := directory_of_follow followed (List.cons_ne_nil _ _)
    rw [follow, directory] at followed
    have ⟨inside, above⟩ := sound.step named (known ▸ directory) part
    exact ih rfl inside above followed

/-- A write keeps a tree well formed. -/
theorem write (sound : tree.WellFormed) (written : tree.write parts text = .ok grown) :
    grown.WellFormed := by
  obtain ⟨⟨node, followed⟩, lies, rfl⟩ := write_eq_ok_iff.1 written
  have ⟨named, parent⟩ := sound.follow_housed rfl List.not_mem_nil rfl followed
  exact sound.put (ne_root_of_get? lies) named parent fun directory => absurd directory lies

/-- Making directories keeps a tree well formed. -/
theorem makeDirectories (sound : tree.WellFormed) (named : ".." ∉ location)
    (directory : tree.get? location = some .directory)
    (made : tree.makeDirectories location parts = .ok grown) : grown.WellFormed := by
  induction parts generalizing tree location with
  | nil =>
    obtain rfl := Except.ok.inj made
    exact sound
  | cons part rest ih =>
    have ⟨inside, parent⟩ := sound.step named directory part
    rw [FileTree.makeDirectories] at made
    split at made
    · next open? => exact ih sound inside open? made
    · contradiction
    · next free =>
      have lies : tree.get? (Path.stepTo location part) ≠ some .directory := by
        rw [free]
        exact fun same => Option.some_ne_none _ same.symm
      have below := ne_root_of_get? lies
      exact ih (sound.put below inside parent fun _ => rfl) inside (get?_put_self below) made

end WellFormed

end ClassAtlas.FileTree
