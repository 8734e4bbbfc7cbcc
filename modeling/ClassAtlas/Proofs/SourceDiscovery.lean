import Mathlib.Data.List.Sort
import Mathlib.Data.String.Basic
import ClassAtlas.Files.SourceRoots
import ClassAtlas.Proofs.FileTrees

/-!
# Which sources are discovered

A file is a source below a root if names that are not skipped lead from the root through
directories to it and its own name has the source suffix. The search lists the sources below any
of its roots, each once and in the order of paths. Whether a file is skipped is a matter of the
names below that one root, so a file skipped below one root may be a source below another.

A file tree holds no symbolic links, so resolving a path makes it absolute and takes its double
dots away, and a location is reached by one resolved path only.
-/
namespace ClassAtlas

/-! ## The order of locations -/

/-- Inserting keeps a strictly increasing list strictly increasing. -/
theorem insertLocation_pairwise {location : Location} {locations : List Location}
    (increasing : locations.Pairwise (· < ·)) :
    (insertLocation location locations).Pairwise (· < ·) := by
  induction locations with
  | nil => exact List.pairwise_singleton _ _
  | cons first rest ih =>
    have ⟨below, tail⟩ := List.pairwise_cons.1 increasing
    rw [insertLocation]
    by_cases before : location < first
    · rw [if_pos before]
      apply List.pairwise_cons.2
      refine ⟨fun other member => ?_, increasing⟩
      rcases List.mem_cons.1 member with rfl | later
      · exact before
      · exact lt_trans before (below other later)
    · rw [if_neg before]
      by_cases same : location = first
      · rw [if_pos same]
        exact increasing
      · rw [if_neg same]
        have after : first < location := lt_of_le_of_ne (not_lt.1 before) (Ne.symm same)
        apply List.pairwise_cons.2
        refine ⟨fun other member => ?_, ih tail⟩
        rcases mem_insertLocation.1 member with rfl | later
        · exact after
        · exact below other later

/-- The distinct locations of a list stand in strictly increasing order. -/
theorem distinctLocations_pairwise (locations : List Location) :
    (distinctLocations locations).Pairwise (· < ·) := by
  induction locations with
  | nil => exact List.Pairwise.nil
  | cons first rest ih => exact insertLocation_pairwise ih

/-- Lists of the same locations have the same distinct locations. -/
theorem distinctLocations_congr {left right : List Location}
    (members : ∀ location, location ∈ left ↔ location ∈ right) :
    distinctLocations left = distinctLocations right := by
  apply (distinctLocations_pairwise left).eq_of_mem_iff (distinctLocations_pairwise right)
  intro location
  rw [mem_distinctLocations, mem_distinctLocations, members location]

/-! ## Sources below a root -/

namespace Workspace

variable {workspace : Workspace} {skipped : List String} {root file : Path} {location : Location}

/-- A source below a root: directories that are not skipped lead to it from there, and its name
has the source suffix. -/
def IsSourceBelow (workspace : Workspace) (skipped : List String) (root file : Path) : Prop :=
  ∃ directories name text,
    ".." ∉ directories ∧ (∀ directory ∈ directories, directory ∉ skipped) ∧
      sourceSuffix.toList <:+ name.toList ∧
      workspace.read (root.join { parts := directories ++ [name] }) = .ok text ∧
      file = workspace.resolve (root.join { parts := directories ++ [name] })

/-- A path that goes on from another has the parts of both. -/
theorem parts_join (inner : List String) :
    workspace.parts (root.join { parts := inner }) = workspace.parts root ++ inner := by
  unfold parts Path.join
  by_cases rooted : root.absolute = true
  · simp [rooted]
  · simp [rooted]

/-- A file of a workspace is read exactly if its tree has it. -/
theorem read_eq_ok_iff {text : String} :
    workspace.read file = .ok text ↔ workspace.tree.read (workspace.parts file) = .ok text := by
  unfold read refuse
  cases workspace.tree.read (workspace.parts file) <;> simp

/-- No pair of dots has the source suffix. -/
theorem plain_of_suffix {directories : List String} {name : String}
    (plain : ".." ∉ directories) (suffix : sourceSuffix.toList <:+ name.toList) :
    ".." ∉ directories ++ [name] := by
  intro member
  rcases List.mem_append.1 member with early | last
  · exact plain early
  · obtain rfl := List.mem_singleton.1 last
    have short := suffix.length_le
    exact absurd short (by decide)

/-- What is listed as a file below a location lies some names deeper. -/
theorem mem_filesBelow {tree : FileTree} {top : Location} :
    location ∈ tree.filesBelow top ↔
      ∃ inner text, inner ≠ [] ∧ location = top ++ inner ∧
        (location, Node.file text) ∈ tree.entries := by
  unfold FileTree.filesBelow
  rw [List.mem_filterMap]
  constructor
  · rintro ⟨⟨place, node⟩, listed, admitted⟩
    cases node with
    | directory => contradiction
    | file text =>
      simp only [Option.ite_none_right_eq_some, Bool.and_eq_true, decide_eq_true_eq, beq_iff_eq,
        Option.some.injEq] at admitted
      obtain ⟨⟨deeper, front⟩, rfl⟩ := admitted
      refine ⟨place.drop top.length, text, ?_, ?_, listed⟩
      · intro ends
        have short := List.drop_eq_nil_iff.1 ends
        omega
      · rw [← List.take_append_drop top.length place, front]
        simp
  · rintro ⟨inner, text, deeper, rfl, listed⟩
    refine ⟨_, listed, ?_⟩
    have longer : 0 < inner.length := List.length_pos_iff.2 deeper
    simp [longer]

/-- A location below a root is a source if its directories are not skipped and its name has the
source suffix. -/
theorem isSource_append {top : Location} {directories : List String} {name : String} :
    isSource top skipped (top ++ (directories ++ [name])) = true ↔
      (∀ directory ∈ directories, directory ∉ skipped) ∧ sourceSuffix.toList <:+ name.toList := by
  unfold isSource
  simp [and_comm]

/-- The search below a root finds its sources. -/
theorem mem_sourcesBelow (sound : workspace.tree.WellFormed) :
    location ∈ workspace.sourcesBelow skipped root ↔
      workspace.IsSourceBelow skipped root (Path.ofLocation location) := by
  unfold sourcesBelow
  constructor
  · intro found
    split at found
    · next top leads =>
      obtain ⟨listed, admitted⟩ := List.mem_filter.1 found
      obtain ⟨inner, text, deeper, rfl, entry⟩ := mem_filesBelow.1 listed
      obtain ⟨directories, name, rfl⟩ := List.eq_nil_or_concat' inner |>.resolve_left deeper
      have ⟨unskipped, suffix⟩ := isSource_append.1 admitted
      have plain : ".." ∉ directories ++ [name] := by
        intro member
        exact sound.plain _ entry (List.mem_append_right _ member)
      have lies := sound.get?_of_mem entry (by simp)
      have given := (sound.read_below_iff leads plain).2 lies
      have top := congrArg Place.location (FileTree.locate_eq leads)
      dsimp only at top
      refine ⟨directories, name, text, fun member => plain (List.mem_append_left _ member),
        unskipped, suffix, ?_, ?_⟩
      · rw [read_eq_ok_iff, parts_join]
        exact given
      · rw [resolve, parts_join, Path.collapse_append plain, top]
    · exact absurd found List.not_mem_nil
  · rintro ⟨directories, name, text, unraised, unskipped, suffix, given, resolved⟩
    have plain := plain_of_suffix unraised suffix
    rw [read_eq_ok_iff, parts_join] at given
    rw [resolve, parts_join, Path.collapse_append plain] at resolved
    have here : location = Path.collapse (workspace.parts root) ++ (directories ++ [name]) :=
      congrArg Path.parts resolved
    have leads : workspace.tree.locate (workspace.parts root) =
        .ok ⟨Path.collapse (workspace.parts root), some .directory⟩ :=
      FileTree.locate_of_read given (by simp)
    rw [leads]
    have lies := (sound.read_below_iff leads plain).1 given
    rw [here]
    apply List.mem_filter.2
    refine ⟨mem_filesBelow.2 ⟨_, text, by simp, rfl, FileTree.mem_of_get? lies (by simp)⟩, ?_⟩
    exact isSource_append.2 ⟨unskipped, suffix⟩

/-- A source is given by its path from the root of the tree. -/
theorem IsSourceBelow.eq_ofLocation (below : workspace.IsSourceBelow skipped root file) :
    file = Path.ofLocation file.parts := by
  obtain ⟨directories, name, text, _, _, _, _, rfl⟩ := below
  rfl

/-- A search lists the sources below any of its roots. -/
theorem mem_discover (sound : workspace.tree.WellFormed) {roots : List Path} :
    file ∈ (workspace.discover roots skipped).1 ↔
      ∃ root ∈ roots, workspace.IsSourceBelow skipped root file := by
  rw [discover, List.mem_map]
  constructor
  · rintro ⟨location, listed, rfl⟩
    rw [mem_distinctLocations, List.mem_flatMap] at listed
    obtain ⟨root, given, found⟩ := listed
    exact ⟨root, given, (mem_sourcesBelow sound).1 found⟩
  · rintro ⟨root, given, below⟩
    have found := (mem_sourcesBelow sound).2 (below.eq_ofLocation ▸ below)
    refine ⟨file.parts, ?_, below.eq_ofLocation.symm⟩
    rw [mem_distinctLocations, List.mem_flatMap]
    exact ⟨root, given, found⟩

/-- The roots without a source below them are those where the search finds nothing. -/
theorem isEmpty_sourcesBelow (sound : workspace.tree.WellFormed) :
    (workspace.sourcesBelow skipped root).isEmpty = true ↔
      ∀ file, ¬workspace.IsSourceBelow skipped root file := by
  rw [List.isEmpty_iff, List.eq_nil_iff_forall_not_mem]
  constructor
  · intro nothing file below
    exact nothing _ ((mem_sourcesBelow sound).2 (below.eq_ofLocation ▸ below))
  · intro nothing location found
    exact nothing _ ((mem_sourcesBelow sound).1 found)

/-- A search lists exactly the sources below any of its roots, each once and in the order of
paths, whatever the order of the roots and however often they are repeated or lie in one another.
The roots without a source below them are reported in their order, each as an empty source root
that is named in the report, and no others: not even those all of whose sources lie below another
root too. Trees hold no symbolic links, so a path is resolved by its parts alone. -/
theorem discover_sources (sound : workspace.tree.WellFormed) (roots : List Path)
    (skipped : List String) :
    let files := (workspace.discover roots skipped).1
    (∀ file, file ∈ files ↔ ∃ root ∈ roots, workspace.IsSourceBelow skipped root file) ∧
      (∀ file ∈ files, file.absolute = true) ∧
      files.Pairwise (fun left right => left.parts < right.parts) ∧
      files.Nodup ∧
      (∀ others : List Path, (∀ root, root ∈ others ↔ root ∈ roots) →
        (workspace.discover others skipped).1 = files) ∧
      ∃ barren : Path → Bool,
        (∀ root, barren root = true ↔ ∀ file, ¬workspace.IsSourceBelow skipped root file) ∧
        (workspace.discover roots skipped).2 = (roots.filter barren).map fun root =>
          { code := "empty-source-root"
            message := "No Java sources under " ++ root.render
            subject := root.render } := by
  intro files
  have increasing : files.Pairwise fun left right => left.parts < right.parts :=
    List.pairwise_map.2 (distinctLocations_pairwise _)
  refine ⟨fun file => mem_discover sound, ?_, increasing, ?_, ?_, _,
    fun root => isEmpty_sourcesBelow sound, rfl⟩
  · intro file listed
    obtain ⟨location, _, rfl⟩ := List.mem_map.1 listed
    rfl
  · refine increasing.imp fun below same => ?_
    rw [same] at below
    exact lt_irrefl _ below
  · intro others same
    have sources : ∀ location, location ∈ others.flatMap (workspace.sourcesBelow skipped) ↔
        location ∈ roots.flatMap (workspace.sourcesBelow skipped) := by
      intro location
      simp only [List.mem_flatMap, same]
    have locations := distinctLocations_congr sources
    exact congrArg (List.map Path.ofLocation) locations

/-- A directory that is skipped below one root can be a root of its own: the root around it is
reported and its sources are listed, once for two mentions. -/
theorem discover_below_skipped :
    let workspace : Workspace :=
      { tree := ⟨[(["w"], .directory), (["w", "target"], .directory),
          (["w", "target", "X.java"], .file "class X \x7b\x7d"),
          (["w", "target", "X.txt"], .file "")]⟩
        directory := ["w"] }
    let whole := Path.ofString "."
    let inner := Path.ofString "target"
    let source := Path.ofString "/w/target/X.java"
    workspace.tree.WellFormed ∧
      workspace.discover [inner, whole, inner] ["target"] =
        ([source], [⟨"empty-source-root", "No Java sources under .", "."⟩]) ∧
      workspace.IsSourceBelow ["target"] inner source ∧
      (∀ file, ¬workspace.IsSourceBelow ["target"] whole file) ∧
      (workspace.discover [whole, inner] ["target"]).1 = [source] := by
  intro workspace whole inner source
  have sound : workspace.tree.WellFormed := ⟨by decide, by decide, by decide⟩
  have found : workspace.discover [inner, whole, inner] ["target"] =
      ([source], [⟨"empty-source-root", "No Java sources under .", "."⟩]) := by decide +kernel
  obtain ⟨listed, _, _, _, stable, _⟩ := discover_sources sound [inner, whole, inner] ["target"]
  have mentioned (first second root : Path) :
      root ∈ [second, first] ↔ root ∈ [first, second, first] := by
    refine ⟨List.mem_cons_of_mem _, fun member => ?_⟩
    rcases List.mem_cons.1 member with rfl | rest
    · exact List.mem_cons_of_mem _ (List.mem_singleton_self _)
    · exact rest
  have again := stable [whole, inner] (mentioned inner whole)
  rw [found] at listed again
  have nothing : ∀ file, ¬workspace.IsSourceBelow ["target"] whole file :=
    (isEmpty_sourcesBelow sound).1 (by decide +kernel)
  refine ⟨sound, found, ?_, nothing, again⟩
  obtain ⟨root, given, below⟩ := (listed source).1 (List.mem_singleton_self _)
  rcases List.mem_cons.1 ((mentioned inner whole root).2 given) with same | last
  · exact absurd (same ▸ below) (nothing _)
  · exact List.mem_singleton.1 last ▸ below

end Workspace

end ClassAtlas
