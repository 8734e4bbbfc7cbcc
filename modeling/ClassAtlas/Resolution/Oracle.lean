import ClassAtlas.Key
import ClassAtlas.Text.LetterCase
import ClassAtlas.TypeUsage
import ClassAtlas.Corpus.Index

/-!
# Type oracles

An oracle may know the identity of a name from the place where it is written; it may also
decline. The import oracle follows the scoping of the language as far as keys and imports show
it: a simple name is a member type of an enclosing type, else a single-type import, else a type
of the same package, else one of an on-demand import, else a well-known platform type. A dotted
name is looked up as a whole first and by its first segment next.
-/
namespace ClassAtlas

/-- Where a usage stands. -/
structure ResolutionContext where
  /-- The package. -/
  package : String := ""
  /-- The key of the enclosing type. -/
  owner : Option Key := none
  /-- The imports of the unit. -/
  imports : List String := []
deriving Inhabited

/-- The context of a declared type's own usages. -/
def DeclaredType.context (declared : DeclaredType) : ResolutionContext :=
  { package := declared.package, owner := some declared.key, imports := declared.imports }

/-- An identity: a qualified name, and the key that declares it if the oracle knows one. -/
structure OracleAnswer where
  /-- The qualified name. -/
  qualifiedName : String
  /-- The key of the declared type. -/
  declaringKey : Option Key := none
deriving DecidableEq, Inhabited, Repr

/-- A source of identities, which declines with `none` and may fail with a message. -/
abbrev TypeOracle := ClassUsage → ResolutionContext → Except String (Option OracleAnswer)

/-- The platform types that need no import. -/
def platformTypes : List String :=
  ["AutoCloseable", "Boolean", "Byte", "CharSequence", "Character", "Class",
    "ClassCastException", "ClassNotFoundException", "Cloneable", "Comparable", "Deprecated",
    "Double", "Enum", "Error", "Exception", "Float", "FunctionalInterface",
    "IllegalArgumentException", "IllegalStateException", "IndexOutOfBoundsException", "Integer",
    "InterruptedException", "Iterable", "Long", "Math", "NullPointerException", "Number",
    "Object", "Override", "Process", "Record", "Runnable", "Runtime", "RuntimeException",
    "SafeVarargs", "Short", "String", "StringBuilder", "SuppressWarnings", "System", "Thread",
    "Throwable", "UnsupportedOperationException", "Void"]

/-- The package that an on-demand import opens. -/
def onDemandPackage? (imported : String) : Option String :=
  match imported.toList.reverse with
  | '*' :: '.' :: rest => some (String.ofList rest.reverse)
  | _ => none

/-- An oracle over a set of keys. -/
structure ImportOracle where
  /-- The keys it knows. -/
  keys : List Key

namespace ImportOracle

/-- The oracle over the keys of an index. -/
def ofIndex (index : Index) : ImportOracle := ⟨index.keys⟩

/-- The least key with a source spelling. -/
def keyOfDotted? (oracle : ImportOracle) (name : String) : Option Key :=
  leastName (oracle.keys.filter (Key.dotted · == name))

/-- The identity of a qualified name. -/
def answer (oracle : ImportOracle) (name : String) : OracleAnswer :=
  ⟨name, oracle.keyOfDotted? name⟩

/-- A member type of the innermost enclosing type that has one of this name. -/
def memberType? (oracle : ImportOracle) (name : String) (context : ResolutionContext) :
    Option OracleAnswer :=
  ((context.owner.getD "" |> Key.enclosing).map fun owner => Key.make name "" (some owner)).find?
    oracle.keys.contains |>.map fun key => ⟨key.dotted, some key⟩

/-- The first single-type import of this name. -/
def singleImport? (oracle : ImportOracle) (name : String) (context : ResolutionContext) :
    Option OracleAnswer :=
  (context.imports.find? fun imported =>
    (onDemandPackage? imported).isNone && Text.afterLast (· == '.') imported == name).map
      oracle.answer

/-- The type of this name in the same package. -/
def samePackage? (oracle : ImportOracle) (name : String) (context : ResolutionContext) :
    Option OracleAnswer :=
  let spelled := Key.make name context.package none
  (oracle.keyOfDotted? spelled).map fun key => ⟨spelled, some key⟩

/-- The type of this name in the first on-demand import that has one. -/
def onDemandImport? (oracle : ImportOracle) (name : String) (context : ResolutionContext) :
    Option OracleAnswer :=
  context.imports.findSome? fun imported => do
    let package ← onDemandPackage? imported
    let spelled := package ++ "." ++ name
    let key ← oracle.keyOfDotted? spelled
    pure ⟨spelled, some key⟩

/-- The platform type of this name. -/
def platform? (name : String) : Option OracleAnswer :=
  if platformTypes.contains name then some ⟨"java.lang." ++ name, none⟩ else none

/-- The identity of a simple name. -/
def resolveSimple (oracle : ImportOracle) (name : String) (context : ResolutionContext) :
    Option OracleAnswer :=
  oracle.memberType? name context
    <|> oracle.singleImport? name context
    <|> oracle.samePackage? name context
    <|> oracle.onDemandImport? name context
    <|> platform? name

/-- The identity of a dotted name with its first segment and the rest. -/
def resolveQualified (oracle : ImportOracle) (name head rest : String)
    (context : ResolutionContext) : Option OracleAnswer :=
  match oracle.keyOfDotted? name with
  | some key => some ⟨name, some key⟩
  | none =>
    match oracle.resolveSimple head context with
    | none => if (head.toList.head?.map Text.isLower).getD false then some ⟨name, none⟩ else none
    | some ⟨outer, none⟩ => some ⟨outer ++ "." ++ rest, none⟩
    | some ⟨_, some outer⟩ =>
      let nested := outer ++ "$" ++ Text.replaceChar '.' '$' rest
      if oracle.keys.contains nested then some ⟨Key.dotted nested, some nested⟩ else none

/-- The identity of a usage in its context. -/
def resolve (oracle : ImportOracle) (usage : ClassUsage) (context : ResolutionContext) :
    Option OracleAnswer :=
  match Text.cutFirst (· == '.') usage.name with
  | some (head, rest) => oracle.resolveQualified usage.name head rest context
  | none => oracle.resolveSimple usage.name context

/-- The import oracle as an oracle, one that never fails. -/
def typeOracle (oracle : ImportOracle) : TypeOracle := fun usage context =>
  .ok (oracle.resolve usage context)

end ImportOracle

end ClassAtlas
