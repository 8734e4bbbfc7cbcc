import ClassAtlas.Resolution.Oracle
import ClassAtlas.Resolution.Reference

/-!
# Name resolution

A name is resolved by the first of these that succeeds: the oracle, whose answer the index has
the last word on; a dotted name that is a key; the key of its simple name in the same package;
the only key in the corpus with its simple name. Otherwise it stays unresolved as written.
-/
namespace ClassAtlas

/-- An index with an oracle that may know more. -/
structure Resolver where
  /-- The declared types. -/
  index : Index
  /-- The oracle asked first. -/
  oracle : Option TypeOracle := none

namespace Resolver

/-- The reference of a name from its spelling and package alone. -/
def resolveText (index : Index) (name : String) (package : String) : TypeRef :=
  if name.toList.contains '.' && index.contains name then .declared name
  else
    let simple := Key.simpleName name
    let neighbour := Key.make simple package none
    if index.contains neighbour then .declared neighbour
    else
      match index.uniqueKey? simple with
      | some key => .declared key
      | none => .unresolved name

/-- The reference of an oracle's answer: the index decides what is declared. -/
def settle (index : Index) (answer : OracleAnswer) : TypeRef :=
  match answer.declaringKey with
  | some key => if index.contains key then .declared key else byName
  | none => byName
where
  /-- The reference of the answer's qualified name. -/
  byName : TypeRef :=
    match index.keyForName? answer.qualifiedName with
    | some key => .declared key
    | none => .external answer.qualifiedName

/-- What the oracle knows of a class type. One that fails counts as one that declines. -/
def ask (resolver : Resolver) (usage : ClassUsage) (context : ResolutionContext) :
    Option OracleAnswer :=
  match resolver.oracle with
  | none => none
  | some oracle =>
    match oracle usage context with
    | .ok answer => answer
    | .error _ => none

/-- The reference of a class type. -/
def resolve (resolver : Resolver) (usage : ClassUsage) (context : ResolutionContext) : TypeRef :=
  match resolver.ask usage context with
  | some answer => settle resolver.index answer
  | none => resolveText resolver.index usage.name context.package

/-- The reference of a bare name. -/
def resolveName (resolver : Resolver) (name : String) (context : ResolutionContext) : TypeRef :=
  resolver.resolve ⟨name, []⟩ context

/-- The reference of the class type that a usage refers to, none if it refers to none. -/
def resolveUsage (resolver : Resolver) (usage : TypeUsage) (context : ResolutionContext) :
    Option TypeRef :=
  usage.head?.map (resolver.resolve · context)

/-- The same, failing where the usage ends in no usage at all. -/
def resolveUsage? (resolver : Resolver) (usage : TypeUsage) (context : ResolutionContext) :
    Except Fault (Option TypeRef) :=
  if usage.hasHead then .ok (resolver.resolveUsage usage context) else .error .unknownUsage

end Resolver

end ClassAtlas
