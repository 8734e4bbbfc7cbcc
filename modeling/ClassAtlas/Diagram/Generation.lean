import ClassAtlas.Diagram.Event

/-!
# Generation of a diagram

From compilation units to the event stream: index the units, classify every relationship, tell
the diagram. The result does not depend on the order of the units.
-/
namespace ClassAtlas

/-- Which oracle a generation asks. -/
inductive OracleChoice where
  /-- None. -/
  | none
  /-- The import oracle over the index that is built. -/
  | imports
  /-- A given oracle. -/
  | given (oracle : TypeOracle)

/-- The oracle of a choice, over an index. -/
def OracleChoice.oracle? (choice : OracleChoice) (index : Index) : Option TypeOracle :=
  match choice with
  | .none => Option.none
  | .imports => some (ImportOracle.ofIndex index).typeOracle
  | .given oracle => some oracle

/-- The resolver of a choice over an index. -/
def OracleChoice.resolver (choice : OracleChoice) (index : Index) : Resolver :=
  { index, oracle := choice.oracle? index }

/-- An indexed and classified corpus. -/
structure Generation where
  /-- The declared types. -/
  index : Index
  /-- The classified relationships. -/
  classified : ClassifiedDiagram

/-- Index and classify compilation units, with diagnostics carried from earlier stages. -/
def generate (units : List CompilationUnit) (choice : OracleChoice)
    (diagnostics : List Diagnostic) : Generation :=
  let index := Index.ofUnits units diagnostics
  { index, classified := (choice.resolver index).classify }

/-- The same, failing where a usage that has to be read is none. -/
def generate? (units : List CompilationUnit) (choice : OracleChoice)
    (diagnostics : List Diagnostic) : Except Fault Generation := do
  let index := Index.ofUnits units diagnostics
  let classified ← (choice.resolver index).classify?
  pure { index, classified }

end ClassAtlas
