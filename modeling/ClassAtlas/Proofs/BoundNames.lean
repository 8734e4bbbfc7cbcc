import ClassAtlas.Proofs.DeclarationNames
import ClassAtlas.Proofs.ValidUsages

/-!
# The names in declarations that are bound

Binding puts a type variable in scope in the place of a name written alone and leaves every other
name as it is. So the declarations of a source that is read into what is named are named too, and
their usages are valid: a written type leaves nothing out but bounds of wildcards.
-/
namespace ClassAtlas

open Text (Within Lenient isInline isQuotable)

/-! ## What is named -/

/-- A usage is named if it is valid and the names in it pass a test. -/
structure TypeUsage.Named (allowed : Char → Bool) (usage : TypeUsage) : Prop where
  valid : usage.isValid = true
  names : usage.NamesWithin allowed

/-- A type parameter is named if its variable can be quoted and its bounds are named. -/
structure TypeParameter.Named (parameter : TypeParameter) : Prop where
  name : Within isQuotable parameter.name
  bounds : ∀ bound ∈ parameter.bounds, bound.Named isQuotable

/-- A field is named if it can be quoted, its type is named and its annotations pass a test. -/
structure FieldDecl.Named (stretch : Char → Bool) (field : FieldDecl) : Prop where
  name : Within isQuotable field.name
  type : field.type.Named isQuotable
  annotations : ∀ name ∈ field.annotations, Within stretch name

/-- A constructor is named if its types are and its annotations pass a test. -/
structure ConstructorDecl.Named (stretch : Char → Bool) (constructor : ConstructorDecl) :
    Prop where
  types : ∀ usage ∈ constructor.writtenUsages, usage.Named isQuotable
  annotations : ∀ name ∈ constructor.annotations, Within stretch name

/-- A method is named if its types are and its annotations pass a test. -/
structure MethodDecl.Named (stretch : Char → Bool) (method : MethodDecl) : Prop where
  types : ∀ usage ∈ method.writtenUsages, usage.Named isQuotable
  annotations : ∀ name ∈ method.annotations, Within stretch name

/-- A usage site is named if the names in its type are made of what its kind allows. -/
def UsageSite.Named (stretch : Char → Bool) (site : UsageSite) : Prop :=
  site.type.Named (site.kind.allows stretch)

/-- A declaration is named if all that it declares is, what is nested in it apart. The names that
are stretches of source pass a test, all others can be quoted. -/
structure TypeDeclaration.Named (stretch : Char → Bool) (declaration : TypeDeclaration) :
    Prop where
  name : Within isQuotable declaration.name
  annotations : ∀ name ∈ declaration.annotations, Within stretch name
  typeParameters : ∀ parameter ∈ declaration.typeParameters, parameter.Named
  extending : ∀ usage ∈ declaration.extending, usage.Named isQuotable
  implementing : ∀ usage ∈ declaration.implementing, usage.Named isQuotable
  fields : ∀ field ∈ declaration.fields, field.Named stretch
  components : ∀ component ∈ declaration.components, component.Named stretch
  constructors : ∀ constructor ∈ declaration.constructors, constructor.Named stretch
  methods : ∀ method ∈ declaration.methods, method.Named stretch
  annotationMembers : ∀ member ∈ declaration.annotationMembers, member.type.Named isQuotable
  usages : ∀ site ∈ declaration.usages, site.Named stretch

/-- A declaration is named throughout if it and all that is nested in it is named. -/
inductive TypeDeclaration.NamedThroughout (stretch : Char → Bool) : TypeDeclaration → Prop where
  | intro {declaration : TypeDeclaration} (own : declaration.Named stretch)
      (nested : ∀ inner ∈ declaration.nestedTypes, NamedThroughout stretch inner) :
      NamedThroughout stretch declaration

/-! ## Usages -/

namespace TypeUsage

variable {allowed : Char → Bool}

/-- Usages are valid if each is. -/
theorem allValid_of_forall {usages : List TypeUsage}
    (valid : ∀ usage ∈ usages, usage.isValid = true) : allValid usages = true := by
  induction usages with
  | nil => rfl
  | cons usage usages ih =>
    obtain ⟨here, later⟩ := List.forall_mem_cons.1 valid
    rw [allValid, here, ih later, Bool.and_self]

/-- Names that can be quoted pass every lenient test. -/
theorem Named.of_quotable {usage : TypeUsage} (named : usage.Named isQuotable)
    (lenient : Lenient allowed) : usage.Named allowed :=
  ⟨named.valid, fun name member => (named.names name member).of_quotable lenient⟩

/-- A class type with a passing name and named arguments is named. -/
theorem Named.named {name : String} (passed : Within allowed name) {arguments : List TypeUsage}
    (inside : ∀ usage ∈ arguments, usage.Named allowed) :
    Named allowed (.named name arguments) where
  valid := by
    rw [isValid]
    exact allValid_of_forall fun usage member => (inside usage member).valid
  names := namesWithin_named.2 ⟨passed, fun usage member => (inside usage member).names⟩

/-- A named usage stays so wrapped in arrays. -/
theorem Named.arrays {usage : TypeUsage} (named : usage.Named allowed) (depth : Nat) :
    (usage.arrays depth).Named allowed := by
  induction depth generalizing usage with
  | zero => exact named
  | succ depth ih =>
    refine ih ⟨?_, ?_⟩
    · rw [isValid]
      exact named.valid
    · rw [NamesWithin, TypeUsage.names]
      exact named.names

/-- A wildcard is named if each bound that it has is. -/
theorem Named.wildcard {upper lower : TypeUsage}
    (above : upper = .unspecified ∨ upper.Named allowed)
    (below : lower = .unspecified ∨ lower.Named allowed) :
    Named allowed (.wildcard upper lower) := by
  have bound {usage : TypeUsage} (given : usage = .unspecified ∨ usage.Named allowed) :
      (!usage.isSpecified || usage.isValid) = true ∧ usage.NamesWithin allowed := by
    rcases given with rfl | named
    · exact ⟨rfl, List.forall_mem_nil _⟩
    · rw [named.valid, Bool.or_true]
      exact ⟨rfl, named.names⟩
  refine ⟨?_, namesWithin_wildcard.2 ⟨(bound above).2, (bound below).2⟩⟩
  rw [isValid, (bound above).1, (bound below).1, Bool.and_self]

end TypeUsage

/-- The usage of a named type variable is named. -/
theorem TypeParameter.Named.usage {parameter : TypeParameter} (named : parameter.Named) :
    parameter.usage.Named isQuotable where
  valid := by
    rw [TypeParameter.usage, TypeUsage.isValid]
    exact TypeUsage.allValid_of_forall fun bound member => (named.bounds bound member).valid
  names := TypeUsage.namesWithin_typeVar.2
    ⟨named.name, fun bound member => (named.bounds bound member).names⟩

namespace Java

/-! ## Types in scope -/

/-- A scope is named if its type variables are. -/
def Scope.Named (scope : Scope) : Prop := ∀ parameter ∈ scope, parameter.Named

variable {scope : Scope} {allowed : Char → Bool}

mutual

/-- A written type whose names pass a test is bound to a named usage. -/
theorem WrittenType.named_bind (inScope : scope.Named) (lenient : Lenient allowed) :
    ∀ type : WrittenType, type.NamesWithin allowed → (type.bind scope).Named allowed
  | .primitive name, passed => by
    rw [bind]
    exact ⟨rfl, passed⟩
  | .bare name, passed => by
    rw [bind]
    split
    · next parameter found =>
      have known := inScope parameter (List.mem_of_find?_eq_some found)
      exact known.usage.of_quotable lenient
    · exact .named (namesWithin_bare.1 passed) (List.forall_mem_nil _)
  | .applied name arguments, passed => by
    obtain ⟨here, inside⟩ := namesWithin_applied.1 passed
    rw [bind]
    exact .named here (named_bindAll inScope lenient arguments inside)
  | .array element depth, passed => by
    rw [NamesWithin, names] at passed
    rw [bind]
    exact (named_bind inScope lenient element passed).arrays depth
  | .anyWildcard, _ => by
    rw [bind]
    exact .wildcard (.inl rfl) (.inl rfl)
  | .upperWildcard bound, passed => by
    rw [NamesWithin, names] at passed
    rw [bind]
    exact .wildcard (.inr (named_bind inScope lenient bound passed)) (.inl rfl)
  | .lowerWildcard bound, passed => by
    rw [NamesWithin, names] at passed
    rw [bind]
    exact .wildcard (.inl rfl) (.inr (named_bind inScope lenient bound passed))

/-- So are written types. -/
theorem WrittenType.named_bindAll (inScope : scope.Named) (lenient : Lenient allowed) :
    ∀ types : List WrittenType, (∀ type ∈ types, type.NamesWithin allowed) →
      ∀ usage ∈ bindAll scope types, usage.Named allowed
  | [], _, usage, member => by
    rw [bindAll] at member
    exact absurd member List.not_mem_nil
  | type :: types, passed, usage, member => by
    obtain ⟨here, later⟩ := List.forall_mem_cons.1 passed
    rw [bindAll] at member
    rcases List.mem_cons.1 member with rfl | inside
    · exact named_bind inScope lenient type here
    · exact named_bindAll inScope lenient types later usage inside

end

/-- A scope with named variables more is named. -/
theorem Scope.Named.extend (inScope : scope.Named) {parameters : List TypeParameter}
    (named : ∀ parameter ∈ parameters, parameter.Named) : (scope.extend parameters).Named := by
  intro parameter member
  rcases List.mem_append.1 member with inner | outer
  · exact named parameter (List.mem_reverse.1 inner)
  · exact inScope parameter outer

/-- Type parameters are named in a named scope. -/
theorem named_bindTypeParameters (inScope : scope.Named) {written : List WrittenTypeParameter}
    (named : ∀ parameter ∈ written, parameter.Named) :
    ∀ parameter ∈ bindTypeParameters scope written, parameter.Named := by
  intro parameter member
  obtain ⟨source, listed, rfl⟩ := List.mem_map.1 member
  have bare : (scope.extend (written.map fun parameter => { name := parameter.name })).Named := by
    refine inScope.extend fun parameter member => ?_
    obtain ⟨other, inside, rfl⟩ := List.mem_map.1 member
    exact ⟨(named other inside).name, List.forall_mem_nil _⟩
  refine ⟨(named source listed).name, ?_⟩
  exact WrittenType.named_bindAll bare Text.lenient_isQuotable _ (named source listed).bounds

/-- A named mention is bound to a named usage site. -/
theorem Mention.Named.bind {mention : Mention} (named : mention.Named) (inScope : scope.Named) :
    (mention.bind scope).Named isInline :=
  WrittenType.named_bind inScope (mention.kind.lenient_allows Text.lenient_isInline) _ named

/-- Named mentions are bound to named usage sites. -/
theorem Mention.AllNamed.bind {mentions : List Mention} (named : AllNamed mentions)
    (inScope : scope.Named) : ∀ site ∈ mentions.map (·.bind scope), site.Named isInline := by
  intro site member
  obtain ⟨mention, listed, rfl⟩ := List.mem_map.1 member
  exact (named mention listed).bind inScope

/-- The type of a named parameter is named. -/
theorem WrittenParameter.Named.bind {parameter : WrittenParameter} (named : parameter.Named)
    (inScope : scope.Named) : (parameter.bind scope).type.Named isQuotable := by
  have type := WrittenType.named_bind inScope Text.lenient_isQuotable _ named.type
  unfold WrittenParameter.bind
  dsimp only
  split
  · exact type.arrays 1
  · exact type

/-- A named record component is a named field. -/
theorem WrittenParameter.Named.component {parameter : WrittenParameter}
    (named : parameter.Named) (inScope : scope.Named) :
    (parameter.component scope).Named isInline :=
  ⟨named.name, named.bind inScope, named.annotations⟩

/-! ## Methods and constructors -/

variable {routine : Routine}

/-- The scope inside a named method or constructor is named. -/
theorem Routine.Named.innerScope (named : routine.Named) (inScope : scope.Named) :
    (routine.scope scope).Named :=
  inScope.extend (named_bindTypeParameters inScope named.typeParameters)

/-- The types of the parameters and throws clause of a named method or constructor are named. -/
theorem Routine.Named.types (named : routine.Named) {inside : Scope} (inScope : inside.Named) :
    ∀ usage ∈ (routine.parameters.map (·.bind inside)).map (·.type)
      ++ WrittenType.bindAll inside routine.throws, usage.Named isQuotable := by
  refine List.forall_mem_append.2 ⟨fun usage member => ?_, ?_⟩
  · obtain ⟨bound, listed, rfl⟩ := List.mem_map.1 member
    obtain ⟨parameter, given, rfl⟩ := List.mem_map.1 listed
    exact (named.parameters parameter given).bind inScope
  · exact WrittenType.named_bindAll inScope Text.lenient_isQuotable _ named.throws

/-- A named constructor is bound to a named one. -/
theorem Routine.Named.constructor (named : routine.Named) (inScope : scope.Named) :
    (routine.constructor scope).Named isInline :=
  ⟨named.types (named.innerScope inScope), named.modifiers.annotations⟩

/-- A named method is bound to a named one. -/
theorem Routine.Named.method (named : routine.Named) (inScope : scope.Named) :
    (routine.method scope).Named isInline := by
  have inside := named.innerScope inScope
  refine ⟨List.forall_mem_append.2 ⟨fun usage member => ?_, List.forall_mem_cons.2 ⟨?_, ?_⟩⟩,
    named.modifiers.annotations⟩
  · obtain ⟨parameter, listed, given⟩ := List.mem_flatMap.1 member
    have bound := named_bindTypeParameters inScope named.typeParameters parameter listed
    exact bound.bounds usage given
  · have type := WrittenType.named_bind inside Text.lenient_isQuotable _ named.returnType
    exact type.arrays routine.depth
  · exact named.types inside

/-! ## Bodies and declarations -/

/-- The contents of a body are named if all that they declare is. -/
structure Contents.Named (contents : Contents) : Prop where
  fields : ∀ field ∈ contents.fields, field.Named isInline
  constructors : ∀ constructor ∈ contents.constructors, constructor.Named isInline
  methods : ∀ method ∈ contents.methods, method.Named isInline
  annotationMembers : ∀ member ∈ contents.annotationMembers, member.type.Named isQuotable
  nestedTypes : ∀ inner ∈ contents.nestedTypes, inner.NamedThroughout isInline
  usages : ∀ site ∈ contents.usages, site.Named isInline

/-- What declares nothing is named. -/
theorem Contents.named_empty : Contents.Named {} := by
  constructor
  all_goals exact List.forall_mem_nil _

/-- Named contents one after the other are named. -/
theorem Contents.Named.append {first second : Contents} (one : first.Named)
    (other : second.Named) : (first.append second).Named where
  fields := List.forall_mem_append.2 ⟨one.fields, other.fields⟩
  constructors := List.forall_mem_append.2 ⟨one.constructors, other.constructors⟩
  methods := List.forall_mem_append.2 ⟨one.methods, other.methods⟩
  annotationMembers := List.forall_mem_append.2 ⟨one.annotationMembers, other.annotationMembers⟩
  nestedTypes := List.forall_mem_append.2 ⟨one.nestedTypes, other.nestedTypes⟩
  usages := List.forall_mem_append.2 ⟨one.usages, other.usages⟩

variable {header : TypeHeader}

/-- The scope inside a named declaration is named. -/
theorem TypeHeader.Named.innerScope (named : header.Named) (inScope : scope.Named) :
    (header.scope scope).Named :=
  inScope.extend (named_bindTypeParameters inScope named.typeParameters)

/-- A named head and named contents make a declaration that is named throughout. -/
theorem TypeHeader.Named.declare (named : header.Named) (inScope : scope.Named)
    {contents : Contents} (held : contents.Named) :
    (header.declare scope contents).NamedThroughout isInline := by
  have inside := named.innerScope inScope
  refine .intro ?_ held.nestedTypes
  exact
    { name := named.name
      annotations := named.modifiers.annotations
      typeParameters := named_bindTypeParameters inScope named.typeParameters
      extending := WrittenType.named_bindAll inside Text.lenient_isQuotable _ named.extending
      implementing := WrittenType.named_bindAll inside Text.lenient_isQuotable _ named.implementing
      fields := held.fields
      components := fun component member => by
        obtain ⟨parameter, listed, rfl⟩ := List.mem_map.1 member
        exact (named.components parameter listed).component inside
      constructors := held.constructors
      methods := held.methods
      annotationMembers := held.annotationMembers
      usages := held.usages }

mutual

/-- What a named member declares is named. -/
theorem Member.named_bind (scope : Scope) (inScope : scope.Named) :
    ∀ member : Member, member.Named → (member.bind scope).Named
  | .fields modifiers phrase declarators, .fields lead type names => by
    have base := WrittenType.named_bind inScope Text.lenient_isQuotable _ type.type
    have values : Mention.AllNamed (declarators.flatMap (·.value)) :=
      Mention.allNamed_flatMap.2 fun declarator listed => (names declarator listed).value
    rw [bind]
    refine
      { Contents.named_empty with
        fields := fun field member => ?_
        usages := values.bind inScope }
    obtain ⟨declarator, listed, rfl⟩ := List.mem_map.1 member
    exact ⟨(names declarator listed).name, base.arrays declarator.depth, lead.annotations⟩
  | .method routine, .method held => by
    rw [bind]
    exact
      { Contents.named_empty with
        methods := List.forall_mem_singleton.2 (held.method inScope)
        usages := Mention.AllNamed.bind held.body (held.innerScope inScope) }
  | .constructor routine, .constructor held => by
    rw [bind]
    exact
      { Contents.named_empty with
        constructors := List.forall_mem_singleton.2 (held.constructor inScope)
        usages := Mention.AllNamed.bind held.body (held.innerScope inScope) }
  | .initializer mentions, .initializer held => by
    rw [bind]
    exact { Contents.named_empty with usages := Mention.AllNamed.bind held inScope }
  | .constant name mentions, .constant held => by
    rw [bind]
    exact { Contents.named_empty with usages := Mention.AllNamed.bind held inScope }
  | .element name type depth value, .element held => by
    have bound := WrittenType.named_bind inScope Text.lenient_isQuotable _ held
    rw [bind]
    exact
      { Contents.named_empty with
        annotationMembers := List.forall_mem_singleton.2 (bound.arrays depth) }
  | .nested header members, .nested head inside => by
    have held := named_bindAll (header.scope scope) (head.innerScope inScope) members inside
    rw [bind]
    exact
      { Contents.named_empty with
        nestedTypes := List.forall_mem_singleton.2 (head.declare inScope held) }

/-- What named members declare is named. -/
theorem Member.named_bindAll (scope : Scope) (inScope : scope.Named) :
    ∀ members : List Member, (∀ member ∈ members, member.Named) → (bindAll scope members).Named
  | [], _ => by
    rw [bindAll]
    exact Contents.named_empty
  | member :: members, held => by
    obtain ⟨here, later⟩ := List.forall_mem_cons.1 held
    rw [bindAll]
    exact (named_bind scope inScope member here).append (named_bindAll scope inScope members later)

end

/-! ## Sources -/

end Java

/-- A unit is named if its declarations are named throughout and its package and imports, which are
stretches of source, stand on one line. -/
structure CompilationUnit.Named (unit : CompilationUnit) : Prop where
  package : Within isInline unit.package
  imports : ∀ imported ∈ unit.imports, Within isInline imported
  types : ∀ declaration ∈ unit.types, declaration.NamedThroughout isInline

namespace Java

/-- The package of named items stands on one line. -/
theorem within_packageOf {items : List UnitItem} (held : ∀ item ∈ items, item.Named) :
    Within isInline (packageOf items) := by
  unfold packageOf
  refine List.foldlRecOn items _ (by decide) fun package inline item listed => ?_
  cases held item listed with
  | package given => exact given
  | _ => exact inline

/-- The unit of named items is named. -/
theorem named_unitOf {items : List UnitItem} (held : ∀ item ∈ items, item.Named)
    (path : String) : (unitOf items path).Named where
  package := within_packageOf held
  imports := by
    intro imported member
    obtain ⟨item, listed, found⟩ := List.mem_filterMap.1 member
    cases held item listed with
    | imported given => exact Option.some.inj found ▸ given
    | _ => exact absurd found (Option.some_ne_none imported).symm
  types := by
    intro declaration member
    obtain ⟨item, listed, found⟩ := List.mem_filterMap.1 member
    cases held item listed with
    | declared head inside =>
      have outermost : Scope.Named [] := List.forall_mem_nil _
      have contents := Member.named_bindAll _ (head.innerScope outermost) _ inside
      exact Option.some.inj found ▸ head.declare outermost contents
    | _ => exact absurd found (Option.some_ne_none declaration).symm

/-- The unit of a well-formed source is named. -/
theorem named_parse {source path : String} (wellFormed : (parse source path).2 = []) :
    (parse source path).1.Named := by
  unfold parse at wellFormed ⊢
  dsimp only at wellFormed ⊢
  split at wellFormed
  · next items read =>
    exact named_unitOf (named_of_readStrictly read) path
  · exact absurd wellFormed (List.cons_ne_nil _ _)

end Java

end ClassAtlas
