import ClassAtlas.Corpus.UnitOrder
import ClassAtlas.Fault
import ClassAtlas.Key

/-!
# The index of declared types

An index is built once from a whole corpus and only read afterwards. The builder visits the
units in their order and each unit's declarations from the outside in; the first declaration
with a key is kept, and a later one is reported and skipped together with everything nested in
it. Lookups are functions of the kept entries.
-/
namespace ClassAtlas

/-- A declaration under its key. -/
structure DeclaredType where
  /-- The key. -/
  key : Key
  /-- The package of the unit that declares it. -/
  package : String
  /-- The declaration. -/
  declaration : TypeDeclaration
  /-- The key of the type it is nested in. -/
  owner : Option Key := none
  /-- The imports of the unit that declares it. -/
  imports : List String := []
  /-- Where the unit lies. -/
  path : String := ""
deriving Inhabited

/-- The least name of a list in code point order. -/
def leastName : List String → Option String
  | [] => none
  | name :: names =>
    match leastName names with
    | none => some name
    | some least => some (if name < least then name else least)

/-- The declared types of a corpus, with what was reported on the way. -/
structure Index where
  /-- The kept entries in the order they were accepted. -/
  entries : List DeclaredType := []
  /-- The reports in order. -/
  diagnostics : List Diagnostic := []
  /-- No two entries have the same key. -/
  distinct : (entries.map (·.key)).Nodup := by exact List.nodup_nil

namespace Index

instance : Inhabited Index := ⟨{}⟩

/-- The entry of a key. -/
def get? (index : Index) (key : Key) : Option DeclaredType :=
  index.entries.find? (·.key == key)

/-- A key without an entry is none of the entries' keys. -/
theorem get?_eq_none_iff (index : Index) (key : Key) :
    index.get? key = none ↔ key ∉ index.entries.map (·.key) := by
  simp [get?]

/-- Whether a key is declared. -/
def contains (index : Index) (key : Key) : Bool := index.entries.any (·.key == key)

/-- The number of declared types. -/
def size (index : Index) : Nat := index.entries.length

/-- The packages that declare a type, in increasing order. -/
def packages (index : Index) : List String := distinctNames (index.entries.map (·.package))

/-- The keys declared in a package, in increasing order. -/
def keysInPackage (index : Index) (package : String) : List Key :=
  distinctNames ((index.entries.filter (·.package == package)).map (·.key))

/-- Every key, package after package. -/
def keys (index : Index) : List Key := index.packages.flatMap index.keysInPackage

/-- Every entry in the order of its key. -/
def types (index : Index) : List DeclaredType := index.keys.filterMap index.get?

/-- The keys with a simple name. -/
def keysNamed (index : Index) (name : String) : List Key :=
  (index.entries.map (·.key)).filter (Key.simpleName · == name)

/-- The only key with a simple name, if there is exactly one. -/
def uniqueKey? (index : Index) (name : String) : Option Key :=
  match index.keysNamed name with
  | [key] => some key
  | _ => none

/-- Whether several keys have a simple name. -/
def isAmbiguous (index : Index) (name : String) : Bool := 1 < (index.keysNamed name).length

/-- The key that a name spells, as a key or else as the source spelling of the least such key. -/
def keyForName? (index : Index) (name : String) : Option Key :=
  if index.contains name then some name
  else leastName ((index.entries.map (·.key)).filter (Key.dotted · == name))

end Index

/-- An index under construction. -/
structure IndexBuilder where
  /-- What has been accepted and reported so far. -/
  index : Index := {}
  /-- Whether the index has been built. -/
  sealed : Bool := false
deriving Inhabited

/-- Where a declaration is found. -/
structure Placement where
  /-- The package. -/
  package : String := ""
  /-- The imports of the unit. -/
  imports : List String := []
  /-- Where the unit lies. -/
  path : String := ""
deriving Inhabited

/-- The placement of a unit's declarations. -/
def CompilationUnit.placement (unit : CompilationUnit) : Placement :=
  { package := unit.package, imports := unit.imports, path := unit.path }

mutual

/-- The number of declarations in a declaration, itself included. -/
def TypeDeclaration.count : TypeDeclaration → Nat
  | ⟨_, _, _, _, _, _, _, _, _, _, _, _, _, nestedTypes, _, _⟩ => 1 + countAll nestedTypes

/-- The number of declarations in several declarations. -/
def TypeDeclaration.countAll : List TypeDeclaration → Nat
  | [] => 0
  | declaration :: declarations => declaration.count + countAll declarations

end

/-- A declaration counts itself and what is nested in it. -/
theorem TypeDeclaration.count_eq (declaration : TypeDeclaration) :
    declaration.count = 1 + countAll declaration.nestedTypes := by
  cases declaration; simp [count]

/-- Counting goes through a concatenation. -/
theorem TypeDeclaration.countAll_append (left right : List TypeDeclaration) :
    countAll (left ++ right) = countAll left + countAll right := by
  induction left with
  | nil => simp [countAll]
  | cons declaration declarations ih => simp [countAll, ih, Nat.add_assoc]

namespace Index

/-- How a unit without a path is called. -/
def pathName (path : String) : String := if path.isEmpty then "<unknown>" else path

/-- The report of a declaration whose key is taken. -/
def duplicate (key : Key) (path kept : String) : Diagnostic :=
  { code := "duplicate-type"
    message := "Duplicate declaration of " ++ key ++ " in " ++ pathName path
      ++ "; keeping the one from " ++ pathName kept
    subject := key }

/-- Add an entry whose key is free. -/
def add (index : Index) (declared : DeclaredType) (free : index.get? declared.key = none) :
    Index :=
  { index with
    entries := index.entries ++ [declared]
    distinct := by
      have absent := (index.get?_eq_none_iff declared.key).1 free
      rw [List.map_append, List.map_cons, List.map_nil]
      refine List.nodup_append.2 ⟨index.distinct, List.pairwise_singleton _ _, ?_⟩
      intro key member other last same
      rw [List.mem_singleton.1 last] at same
      exact absent (same ▸ member) }

/-- Accept a declaration without what is nested in it, or report it if its key is taken. -/
def accept (index : Index) (placement : Placement) (declaration : TypeDeclaration)
    (owner : Option Key) : Index × Option Key :=
  let declared : DeclaredType :=
    { key := Key.make declaration.name placement.package owner
      package := placement.package, declaration, owner
      imports := placement.imports, path := placement.path }
  match found : index.get? declared.key with
  | some kept =>
    ({ index with
        diagnostics := index.diagnostics ++ [duplicate declared.key placement.path kept.path] },
      none)
  | none => (index.add declared found, some declared.key)

/-- Accept pending declarations, each before those nested in it, returning the accepted keys. -/
def acceptPending (placement : Placement) (index : Index) :
    List (TypeDeclaration × Option Key) → Index × List Key
  | [] => (index, [])
  | (declaration, owner) :: pending =>
    match index.accept placement declaration owner with
    | (next, none) => acceptPending placement next pending
    | (next, some key) =>
      let (last, keys) :=
        acceptPending placement next ((declaration.nestedTypes.map (·, some key)) ++ pending)
      (last, key :: keys)
termination_by pending => TypeDeclaration.countAll (pending.map (·.1))
decreasing_by
  · rw [List.map_cons, TypeDeclaration.countAll, TypeDeclaration.count_eq]
    omega
  · simp [TypeDeclaration.countAll, TypeDeclaration.count_eq, TypeDeclaration.countAll_append,
      Function.comp_def]

/-- Accept every declaration of a unit. -/
def acceptUnit (index : Index) (unit : CompilationUnit) : Index × List Key :=
  acceptPending unit.placement index (unit.types.map (·, none))

/-- Accept every declaration of a corpus, unit by unit in the order of units. -/
def acceptUnits (index : Index) (units : List CompilationUnit) : Index :=
  (sortUnits units).foldl (fun index unit => (index.acceptUnit unit).1) index

/-- The index of a corpus, with diagnostics carried from earlier stages. -/
def ofUnits (units : List CompilationUnit) (diagnostics : List Diagnostic) : Index :=
  acceptUnits { diagnostics } units

end Index

namespace IndexBuilder

/-- Ingest one declaration, not what is nested in it; its key if it is accepted. -/
def ingest (builder : IndexBuilder) (declaration : TypeDeclaration) (owner : Option Key)
    (placement : Placement) : Except Fault (IndexBuilder × Option Key) :=
  if builder.sealed then .error .alreadyBuilt
  else
    let (index, key) := builder.index.accept placement declaration owner
    .ok ({ builder with index }, key)

/-- Ingest every declaration of a unit; the accepted keys in order. -/
def ingestUnit (builder : IndexBuilder) (unit : CompilationUnit) :
    Except Fault (IndexBuilder × List Key) :=
  if builder.sealed && !unit.types.isEmpty then .error .alreadyBuilt
  else
    let (index, keys) := builder.index.acceptUnit unit
    .ok ({ builder with index }, keys)

/-- Ingest a corpus in the order of units. -/
def ingestUnits (builder : IndexBuilder) (units : List CompilationUnit) :
    Except Fault IndexBuilder :=
  if builder.sealed && units.any (!·.types.isEmpty) then .error .alreadyBuilt
  else .ok { builder with index := builder.index.acceptUnits units }

/-- Add a report from elsewhere. -/
def report (builder : IndexBuilder) (diagnostic : Diagnostic) : IndexBuilder :=
  { builder with
    index := { builder.index with diagnostics := builder.index.diagnostics ++ [diagnostic] } }

/-- Finish the index. -/
def build (builder : IndexBuilder) : Except Fault (IndexBuilder × Index) :=
  if builder.sealed then .error .alreadyBuilt
  else .ok ({ builder with sealed := true }, builder.index)

end IndexBuilder

end ClassAtlas
