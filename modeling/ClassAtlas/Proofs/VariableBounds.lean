import ClassAtlas.Java.Source
import ClassAtlas.Proofs.MemberPartition
import Mathlib.Data.List.Forall2
import Mathlib.Logic.Relation

/-!
# The bounds of type variables

A type variable stands for what its first bound stands for. The bound may be a variable again, so
there is a path of first bounds from a variable outward through the sections of type parameters
around it. A bound knows the variables of its own section by name only: a path that goes on inside
one section ends there, and the variable stands for no class type.

What a source declares is compared here with what it writes, declaration by declaration. A field,
record component, parameter or result written as a variable refers to the class type at the end of
the variable's path, and a field is classified as one of that type would be.
-/
namespace ClassAtlas

/-! ## Types with one head -/

/-- Arrays of a usage refer to the class type that it refers to. -/
theorem TypeUsage.head?_arrays (usage : TypeUsage) (depth : Nat) :
    (usage.arrays depth).head? = usage.head? := by
  induction depth generalizing usage with
  | zero => rfl
  | succ depth ih => rw [arrays, ih, head?]

namespace Resolver

variable {resolver : Resolver} {declared : DeclaredType}

/-- A resolver goes by names if its oracle answers alike for all arguments of a class type. -/
def GoesByNames (resolver : Resolver) : Prop :=
  ∀ usage context, resolver.ask usage context = resolver.ask ⟨usage.name, []⟩ context

/-- Without an oracle and with the import oracle, a resolver goes by names. -/
theorem goesByNames_of_plain {choice : OracleChoice} (plain : choice = .none ∨ choice = .imports)
    (index : Index) : (choice.resolver index).GoesByNames := by
  intro usage context
  rcases plain with rfl | rfl
  · rfl
  · rfl

/-- Members whose types resolve alike become the same. -/
theorem classifyMember_congr {member other : FieldDecl} (component : Bool)
    (same : resolver.resolveUsage member.type declared.context =
      resolver.resolveUsage other.type declared.context) :
    (resolver.classifyMember declared member component).target? =
      (resolver.classifyMember declared other component).target? := by
  have targets :
      resolver.memberTarget? declared member = resolver.memberTarget? declared other := by
    rw [memberTarget?, memberTarget?, same]
  rw [classifyMember_eq, classifyMember_eq, targets]
  cases resolver.memberTarget? declared other with
  | none => rfl
  | some target => rfl

/-- A resolver that goes by names resolves a class type as it does one with other arguments. -/
theorem GoesByNames.resolve_eq (byName : resolver.GoesByNames) (name : String)
    (arguments others : List TypeUsage) (context : ResolutionContext) :
    resolver.resolve ⟨name, arguments⟩ context = resolver.resolve ⟨name, others⟩ context := by
  unfold resolve
  rw [byName ⟨name, arguments⟩, byName ⟨name, others⟩]

end Resolver

namespace Java

/-! ## Sections of type parameters -/

/-- A section of type parameters as written. -/
abbrev ParameterSection := List WrittenTypeParameter

/-- The scope inside sections, given from the inner to the outer. -/
def scopeOf : List ParameterSection → Scope
  | [] => []
  | own :: outer => (scopeOf outer).extend (bindTypeParameters (scopeOf outer) own)

/-- The scope of the bounds in the first of some sections: its own variables have no bounds. -/
def boundScope : List ParameterSection → Scope
  | [] => []
  | own :: outer => (scopeOf outer).extend (own.map fun parameter => { name := parameter.name })

/-- The parameter that a section has under a name, the last of several. -/
def parameterIn? (own : ParameterSection) (name : String) : Option WrittenTypeParameter :=
  own.reverse.find? (·.name == name)

/-- The parameter that a name refers to inside sections, with its own section and those outside. -/
def parameter? (name : String) :
    List ParameterSection → Option (WrittenTypeParameter × List ParameterSection)
  | [] => none
  | own :: outer =>
    match parameterIn? own name with
    | some parameter => some (parameter, own :: outer)
    | none => parameter? name outer

/-- A name where it stands inside sections of type parameters. -/
structure Spot where
  /-- The name. -/
  name : String
  /-- The sections, from the inner to the outer. -/
  sections : List ParameterSection

namespace Spot

/-- The name is a variable with this first bound, inside these sections. -/
def FirstBound (spot : Spot) (bound : WrittenType) (sections : List ParameterSection) : Prop :=
  ∃ parameter, parameter? spot.name spot.sections = some (parameter, sections) ∧
    parameter.bounds.head? = some bound

/-- The name is a variable whose first bound is the next name. -/
def Step (spot next : Spot) : Prop := spot.FirstBound (.bare next.name) next.sections

/-- Whether the name is a variable of the section that is the first where it stands. -/
def isOwn (spot : Spot) : Bool :=
  match spot.sections with
  | [] => false
  | own :: _ => (parameterIn? own spot.name).isSome

/-- A step to a name that is no variable of the section of the bound. -/
def Outward (spot next : Spot) : Prop := spot.Step next ∧ next.isOwn = false

/-- The name is a class type, or a variable whose first bound is a class type with arguments. -/
inductive EndsIn : Spot → ClassUsage → Prop where
  /-- No variable has the name. -/
  | class {spot : Spot} (free : parameter? spot.name spot.sections = none) :
      EndsIn spot ⟨spot.name, []⟩
  /-- The bound has arguments, or a dotted name. -/
  | bound {spot : Spot} {name : String} {arguments : List WrittenType}
      {sections : List ParameterSection}
      (first : spot.FirstBound (.applied name arguments) sections) :
      EndsIn spot ⟨name, WrittenType.bindAll (boundScope sections) arguments⟩

/-- The name is a variable without bounds. -/
def Unbounded (spot : Spot) : Prop :=
  ∃ parameter sections, parameter? spot.name spot.sections = some (parameter, sections) ∧
    parameter.bounds = []

/-- The name is a variable whose first bound is a variable of its own section. -/
def BoundBySibling (spot : Spot) : Prop := ∃ next, spot.Step next ∧ next.isOwn = true

end Spot

/-! ## What names refer to -/

section Lookup

variable {sections : List ParameterSection} {spot next : Spot}

/-- A name is looked up in a section before the scope around it. -/
theorem find?_extend (scope : Scope) (own : ParameterSection) (name : String)
    {make : WrittenTypeParameter → TypeParameter}
    (named : ∀ parameter, (make parameter).name = parameter.name) :
    (scope.extend (own.map make)).find? name =
      ((parameterIn? own name).map make).or (scope.find? name) := by
  have same : (fun parameter : TypeParameter => parameter.name == name) ∘ make =
      fun parameter => parameter.name == name := by
    funext parameter
    rw [Function.comp_apply, named]
  unfold Scope.extend Scope.find? parameterIn?
  rw [List.find?_append, ← List.map_reverse, List.find?_map, same]

/-- Inside sections a name refers to its parameter, with the bounds that are known there. -/
theorem find?_scopeOf (name : String) (sections : List ParameterSection) :
    (scopeOf sections).find? name = (parameter? name sections).map fun found =>
      { name := found.1.name
        bounds := WrittenType.bindAll (boundScope found.2) found.1.bounds } := by
  induction sections with
  | nil => rfl
  | cons own outer ih =>
    rw [scopeOf, bindTypeParameters, find?_extend _ _ _ fun _ => rfl, ih, parameter?]
    cases parameterIn? own name with
    | none => rfl
    | some parameter => rfl

/-- In a bound, a variable of the bound's own section is known without bounds. -/
theorem find?_boundScope_own (own : spot.isOwn = true) :
    ∃ name, (boundScope spot.sections).find? spot.name = some { name } := by
  obtain ⟨name, sections⟩ := spot
  cases sections with
  | nil => exact absurd own Bool.false_ne_true
  | cons first outer =>
    obtain ⟨parameter, found⟩ := Option.isSome_iff_exists.1 own
    dsimp only at found ⊢
    rw [boundScope, find?_extend _ _ _ fun _ => rfl, found]
    exact ⟨parameter.name, rfl⟩

/-- In a bound, any other name refers to what it does inside the section. -/
theorem find?_boundScope_outer (foreign : spot.isOwn = false) :
    (boundScope spot.sections).find? spot.name = (scopeOf spot.sections).find? spot.name := by
  obtain ⟨name, sections⟩ := spot
  cases sections with
  | nil => rfl
  | cons first outer =>
    have free : parameterIn? first name = none := Option.not_isSome_iff_eq_none.1 fun own =>
      Bool.false_ne_true (foreign.symm.trans own)
    dsimp only
    rw [boundScope, scopeOf, bindTypeParameters, find?_extend _ _ _ fun _ => rfl,
      find?_extend _ _ _ fun _ => rfl, free]
    rfl

/-- The class type that a name refers to where it stands. -/
def Spot.head? (spot : Spot) : Option ClassUsage :=
  ((WrittenType.bare spot.name).bind (scopeOf spot.sections)).head?

/-- A variable refers to what its first bound refers to. -/
theorem Spot.FirstBound.head?_eq {bound : WrittenType} (first : spot.FirstBound bound sections) :
    spot.head? = (bound.bind (boundScope sections)).head? := by
  obtain ⟨parameter, found, bounded⟩ := first
  obtain ⟨later, bounds⟩ : ∃ later, parameter.bounds = bound :: later :=
    List.head?_eq_some_iff.1 bounded
  rw [Spot.head?, WrittenType.bind, find?_scopeOf, found, Option.map_some]
  simp only [TypeParameter.usage, TypeUsage.head?, bounds, WrittenType.bindAll,
    TypeUsage.headOfFirst?]

/-- A step outward leads to a name that refers to the same. -/
theorem Spot.Outward.head?_eq (step : spot.Outward next) : spot.head? = next.head? := by
  obtain ⟨first, foreign⟩ := step
  rw [first.head?_eq, Spot.head?, WrittenType.bind, WrittenType.bind,
    find?_boundScope_outer foreign]

/-- All names on a path outward refer to the same. -/
theorem Spot.head?_eq_of_path (path : Relation.ReflTransGen Spot.Outward spot next) :
    spot.head? = next.head? := by
  induction path using Relation.ReflTransGen.head_induction_on with
  | refl => rfl
  | head step _ ih => rw [step.head?_eq, ih]

/-- A name where the path ends in a class type refers to that. -/
theorem Spot.EndsIn.head?_eq {target : ClassUsage} (ended : spot.EndsIn target) :
    spot.head? = some target := by
  cases ended with
  | «class» free =>
    rw [Spot.head?, WrittenType.bind, find?_scopeOf, free]
    rfl
  | bound first =>
    rw [first.head?_eq, WrittenType.bind, TypeUsage.head?]

/-- A variable without bounds refers to no class type. -/
theorem Spot.Unbounded.head?_eq (free : spot.Unbounded) : spot.head? = none := by
  obtain ⟨parameter, sections, found, unbounded⟩ := free
  rw [Spot.head?, WrittenType.bind, find?_scopeOf, found, Option.map_some]
  simp only [TypeParameter.usage, TypeUsage.head?, unbounded, WrittenType.bindAll,
    TypeUsage.headOfFirst?]

/-- A variable whose first bound is a variable of its own section refers to no class type. -/
theorem Spot.BoundBySibling.head?_eq (bounded : spot.BoundBySibling) : spot.head? = none := by
  obtain ⟨next, first, own⟩ := bounded
  obtain ⟨name, found⟩ := find?_boundScope_own own
  rw [first.head?_eq, WrittenType.bind, found]
  rfl

end Lookup

/-- A usage refers to what the path of the variable that is written for it leads to. -/
structure Follows (sections : List ParameterSection) (written : WrittenType) (usage : TypeUsage) :
    Prop where
  /-- A path to a class type leads to that. -/
  target : ∀ name last target, written = .bare name →
    Relation.ReflTransGen Spot.Outward ⟨name, sections⟩ last → last.EndsIn target →
      usage.head? = some target
  /-- A path that ends in a variable leads to nothing. -/
  nothing : ∀ name last, written = .bare name →
    Relation.ReflTransGen Spot.Outward ⟨name, sections⟩ last →
      last.Unbounded ∨ last.BoundBySibling → usage.head? = none

/-- The usage of a written type, and every array of it, follows the path of its variable. -/
theorem follows_bind (sections : List ParameterSection) (written : WrittenType) (depth : Nat) :
    Follows sections written ((written.bind (scopeOf sections)).arrays depth) where
  target := by
    rintro name last target rfl path ended
    have start : Spot.head? ⟨name, sections⟩ = some target := by
      rw [Spot.head?_eq_of_path path, ended.head?_eq]
    rw [TypeUsage.head?_arrays]
    exact start
  nothing := by
    rintro name last rfl path ended
    have start : Spot.head? ⟨name, sections⟩ = none := by
      rw [Spot.head?_eq_of_path path]
      rcases ended with free | bounded
      · exact free.head?_eq
      · exact bounded.head?_eq
    rw [TypeUsage.head?_arrays]
    exact start

/-! ## What is written and what is declared -/

/-- A field as written. -/
structure WrittenField where
  /-- Its modifiers. -/
  modifiers : Modifiers
  /-- Its type, without the dimensions behind its name. -/
  type : WrittenType
  /-- Its name. -/
  declarator : Declarator

/-- The fields that members declare. -/
def writtenFields (members : List Member) : List WrittenField :=
  members.flatMap fun
    | .fields modifiers phrase declarators => declarators.map (⟨modifiers, phrase.type, ·⟩)
    | _ => []

/-- The methods that members declare. -/
def writtenMethods (members : List Member) : List Routine :=
  members.filterMap fun
    | .method routine => some routine
    | _ => none

/-- The constructors that members declare. -/
def writtenConstructors (members : List Member) : List Routine :=
  members.filterMap fun
    | .constructor routine => some routine
    | _ => none

/-- The types that members declare. -/
def writtenTypes (members : List Member) : List (TypeHeader × List Member) :=
  members.filterMap fun
    | .nested header members => some (header, members)
    | _ => none

/-- The types that a source declares at its top. -/
def writtenUnit (items : List UnitItem) : List (TypeHeader × List Member) :=
  items.filterMap fun
    | .declared header members => some (header, members)
    | _ => none

section Contents

variable (scope : Scope) (members : List Member)

/-- The fields of a body are those written in it. -/
theorem fields_bindAll : (Member.bindAll scope members).fields =
    (writtenFields members).map fun written =>
      { name := written.declarator.name
        type := (written.type.bind scope).arrays written.declarator.depth
        modifiers := .ofList written.modifiers.words
        annotations := written.modifiers.annotations } := by
  induction members with
  | nil => rfl
  | cons member members ih =>
    rw [writtenFields] at ih ⊢
    rw [Member.bindAll, Contents.append, ih, List.flatMap_cons, List.map_append]
    cases member <;> simp [Member.bind, Function.comp_def]

/-- The methods of a body are those written in it. -/
theorem methods_bindAll : (Member.bindAll scope members).methods =
    (writtenMethods members).map (·.method scope) := by
  induction members with
  | nil => rfl
  | cons member members ih =>
    rw [writtenMethods] at ih ⊢
    rw [Member.bindAll, Contents.append, ih]
    cases member <;> simp [Member.bind]

/-- The constructors of a body are those written in it. -/
theorem constructors_bindAll : (Member.bindAll scope members).constructors =
    (writtenConstructors members).map (·.constructor scope) := by
  induction members with
  | nil => rfl
  | cons member members ih =>
    rw [writtenConstructors] at ih ⊢
    rw [Member.bindAll, Contents.append, ih]
    cases member <;> simp [Member.bind]

/-- The types nested in a body are those written in it. -/
theorem nestedTypes_bindAll : (Member.bindAll scope members).nestedTypes =
    (writtenTypes members).map fun written =>
      written.1.declare scope (Member.bindAll (written.1.scope scope) written.2) := by
  induction members with
  | nil => rfl
  | cons member members ih =>
    rw [writtenTypes] at ih ⊢
    rw [Member.bindAll, Contents.append, ih]
    cases member <;> simp [Member.bind]

/-- The types at the top of a unit are those written in its source. -/
theorem typesOf_eq (items : List UnitItem) : typesOf items =
    (writtenUnit items).map fun written => bindTopLevel written.1 written.2 := by
  unfold typesOf writtenUnit
  rw [List.map_filterMap]
  apply List.filterMap_congr
  intro item _
  cases item <;> rfl

end Contents

/-- A written declaration and the one in the unit at its place, with the sections around them. -/
inductive Corresponds (items : List UnitItem) (unit : CompilationUnit) :
    List ParameterSection → TypeHeader → List Member → TypeDeclaration → Prop where
  /-- At the top of the source. -/
  | top {header : TypeHeader} {members : List Member} {declaration : TypeDeclaration}
      (listed : ((header, members), declaration) ∈ (writtenUnit items).zip unit.types) :
      Corresponds items unit [] header members declaration
  /-- In the body of another declaration. -/
  | nested {outer : List ParameterSection} {header : TypeHeader} {members : List Member}
      {declaration : TypeDeclaration}
      (around : Corresponds items unit outer header members declaration)
      {inner : TypeHeader} {body : List Member} {nested : TypeDeclaration}
      (listed : ((inner, body), nested) ∈ (writtenTypes members).zip declaration.nestedTypes) :
      Corresponds items unit (header.typeParameters :: outer) inner body nested

/-- A value beside its image. -/
theorem eq_of_mem_zip_map {α β : Type} {values : List α} {image : α → β} {value : α} {other : β}
    (listed : (value, other) ∈ values.zip (values.map image)) : other = image value := by
  have pairs : values.zip (values.map image) = values.map fun value => (value, image value) := by
    rw [← List.zip_map', List.map_id']
  rw [pairs] at listed
  obtain ⟨_, _, same⟩ := List.mem_map.1 listed
  obtain ⟨rfl, rfl⟩ := Prod.mk.inj same
  rfl

/-- The declaration at the place of a written one is bound inside the sections around it. -/
theorem Corresponds.eq_declare {items : List UnitItem} {path : String}
    {outer : List ParameterSection} {header : TypeHeader} {members : List Member}
    {declaration : TypeDeclaration}
    (place : Corresponds items (unitOf items path) outer header members declaration) :
    declaration = header.declare (scopeOf outer)
      (Member.bindAll (scopeOf (header.typeParameters :: outer)) members) := by
  induction place with
  | top listed =>
    rw [unitOf, typesOf_eq] at listed
    have image := eq_of_mem_zip_map listed
    exact image
  | @nested outer header members declaration around inner body nested listed ih =>
    rw [ih, TypeHeader.declare, nestedTypes_bindAll] at listed
    have image := eq_of_mem_zip_map listed
    exact image

/-! ## Declarations that follow the bounds -/

/-- A field is the written one, and is classified as one of the class type that the path of its
variable leads to. The arguments of that type count only with an oracle that looks at them. -/
structure FieldFollows (sections : List ParameterSection) (name : String) (written : WrittenType)
    (field : FieldDecl) : Prop where
  /-- It has the written name. -/
  name : field.name = name
  /-- Its type follows the path of the variable that is written for it. -/
  type : Follows sections written field.type
  /-- It becomes what a field of the class type at the end of the path becomes. -/
  classified : ∀ spelled last target, written = .bare spelled →
    Relation.ReflTransGen Spot.Outward ⟨spelled, sections⟩ last → last.EndsIn target →
      ∀ (resolver : Resolver) (declared : DeclaredType) (component : Bool)
        (arguments : List TypeUsage),
        arguments = target.arguments ∨ resolver.GoesByNames →
          (resolver.classifyMember declared field component).target? =
            (resolver.classifyMember declared
              { field with type := .named target.name arguments } component).target?

/-- A parameter is the written one, and its type follows the path of its variable. -/
structure ParameterFollows (sections : List ParameterSection) (written : WrittenParameter)
    (parameter : ParameterDecl) : Prop where
  /-- It has the written name. -/
  name : parameter.name = written.name
  /-- Its type follows the path of the variable that is written for it. -/
  type : Follows sections written.type parameter.type

/-- A method is the written one, and its types follow the paths of their variables. -/
structure MethodFollows (sections : List ParameterSection) (written : Routine)
    (method : MethodDecl) : Prop where
  /-- It has the written name. -/
  name : method.name = written.name
  /-- Its result follows the path of the variable that is written for it. -/
  returnType : Follows (written.typeParameters :: sections) written.returnType method.returnType
  /-- Its parameters are those written. -/
  parameters : List.Forall₂ (ParameterFollows (written.typeParameters :: sections))
    written.parameters method.parameters

/-- The fields, components, constructors and methods of a declaration are those written, and their
types follow the paths of their variables. -/
structure DeclarationFollows (sections : List ParameterSection) (header : TypeHeader)
    (members : List Member) (declaration : TypeDeclaration) : Prop where
  /-- It has the written name. -/
  name : declaration.name = header.name
  /-- It has one field for each that is written. -/
  fields : List.Forall₂
    (fun written => FieldFollows sections written.declarator.name written.type)
    (writtenFields members) declaration.fields
  /-- It has one record component for each that is written. -/
  components : List.Forall₂ (fun written => FieldFollows sections written.name written.type)
    header.components declaration.components
  /-- It has one constructor for each that is written. -/
  constructors : List.Forall₂
    (fun written constructor =>
      List.Forall₂ (ParameterFollows (written.typeParameters :: sections)) written.parameters
        constructor.parameters)
    (writtenConstructors members) declaration.constructors
  /-- It has one method for each that is written. -/
  methods : List.Forall₂ (MethodFollows sections) (writtenMethods members) declaration.methods
  /-- It has one nested type for each that is written. -/
  nested : (writtenTypes members).length = declaration.nestedTypes.length

variable {sections : List ParameterSection}

/-- Values correspond to their images in every way that each of them does. -/
theorem forall₂_map {α β : Type} {R : α → β → Prop} {image : α → β}
    (related : ∀ value, R value (image value)) (values : List α) :
    List.Forall₂ R values (values.map image) := by
  rw [List.forall₂_map_right_iff, List.forall₂_same]
  exact fun value _ => related value

/-- A field of a name and type follows the path of the variable that is written for it. -/
theorem fieldFollows_of_type {name : String} {written : WrittenType} {field : FieldDecl}
    (named : field.name = name) (type : Follows sections written field.type) :
    FieldFollows sections name written field where
  name := named
  type := type
  classified := by
    intro spelled last target same path ended resolver declared component arguments counted
    have head := type.target spelled last target same path ended
    apply Resolver.classifyMember_congr
    rw [Resolver.resolveUsage, Resolver.resolveUsage, head, TypeUsage.head?, Option.map_some,
      Option.map_some, Option.some.injEq]
    rcases counted with rfl | byName
    · rfl
    · exact byName.resolve_eq target.name target.arguments arguments declared.context

/-- A bound parameter is the written one. -/
theorem parameterFollows_bind (written : WrittenParameter) :
    ParameterFollows sections written (written.bind (scopeOf sections)) where
  name := rfl
  type := by
    have type := follows_bind sections written.type (if written.varargs then 1 else 0)
    unfold WrittenParameter.bind
    dsimp only
    split
    · next varargs =>
      rw [if_pos varargs] at type
      exact type
    · next single =>
      rw [if_neg single] at type
      exact type

/-- A bound record component is the written one. -/
theorem fieldFollows_component (written : WrittenParameter) :
    FieldFollows sections written.name written.type (written.component (scopeOf sections)) :=
  fieldFollows_of_type rfl (parameterFollows_bind written).type

/-- A bound method is the written one. -/
theorem methodFollows_method (written : Routine) :
    MethodFollows sections written (written.method (scopeOf sections)) where
  name := rfl
  returnType := follows_bind (written.typeParameters :: sections) written.returnType written.depth
  parameters := forall₂_map parameterFollows_bind written.parameters

/-- A declaration bound inside the sections around it follows the bounds. -/
theorem declarationFollows_declare (outer : List ParameterSection) (header : TypeHeader)
    (members : List Member) :
    DeclarationFollows (header.typeParameters :: outer) header members
      (header.declare (scopeOf outer)
        (Member.bindAll (scopeOf (header.typeParameters :: outer)) members)) where
  name := rfl
  fields := by
    rw [TypeHeader.declare, fields_bindAll]
    apply forall₂_map
    intro written
    exact fieldFollows_of_type rfl
      (follows_bind (header.typeParameters :: outer) written.type written.declarator.depth)
  components := forall₂_map fieldFollows_component header.components
  constructors := by
    rw [TypeHeader.declare, constructors_bindAll]
    apply forall₂_map
    intro written
    exact forall₂_map parameterFollows_bind written.parameters
  methods := by
    rw [TypeHeader.declare, methods_bindAll]
    exact forall₂_map methodFollows_method (writtenMethods members)
  nested := by
    rw [TypeHeader.declare, nestedTypes_bindAll, List.length_map]

/-- A well-formed source is read without a report into the declarations written in it, at any depth.
A variable in the type of a field, component, parameter or result refers to the class type that the
path of its first bounds leads to through the sections outside each bound's own, and a field is
classified as one of that type. It refers to nothing where the path ends in a variable that has no
bound or whose first bound is a variable of its own section. -/
theorem parse_follows_bounds {source : String} {items : List UnitItem}
    (read : readStrictly (tokenize source) = some items) (path : String) :
    let unit := (parse source path).1
    (parse source path).2 = [] ∧ (writtenUnit items).length = unit.types.length ∧
      ∀ outer header members declaration, Corresponds items unit outer header members declaration →
        DeclarationFollows (header.typeParameters :: outer) header members declaration := by
  have parsed : parse source path = (unitOf items path, []) := by
    rw [parse, read]
  rw [parsed]
  refine ⟨rfl, ?_, ?_⟩
  · dsimp only
    rw [unitOf, typesOf_eq, List.length_map]
  · intro outer header members declaration place
    rw [place.eq_declare]
    exact declarationFollows_declare outer header members

/-- A path may lead from the section of a method through that of a nested class to the outermost
one. -/
theorem parse_follows_bounds_nested :
    let source := "class C \x7b\x7d class A<T extends C> \x7b\n"
      ++ "class B<U extends T> \x7b <V extends U> V m(V p); U g[]; \x7d\n\x7d\n"
    let unit := (parse source "A.java").1
    (parse source "A.java").2 = [] ∧
      ∃ outermost inner field method parameter,
        unit.types[1]? = some outermost ∧ outermost.nestedTypes = [inner] ∧
        inner.fields = [field] ∧ field.type.head? = some ⟨"C", []⟩ ∧
        inner.methods = [method] ∧ method.returnType.head? = some ⟨"C", []⟩ ∧
        method.parameters = [parameter] ∧ parameter.type.head? = some ⟨"C", []⟩ ∧
        ∀ index declared, ((OracleChoice.imports.resolver index).classifyMember declared field
            false).target? =
          ((OracleChoice.imports.resolver index).classifyMember declared
            { field with type := .named "C" [] } false).target? := by
  intro source unit
  let ofA : ParameterSection := [{ name := "T", bounds := [.bare "C"] }]
  let ofB : ParameterSection := [{ name := "U", bounds := [.bare "T"] }]
  let ofM : ParameterSection := [{ name := "V", bounds := [.bare "U"] }]
  let routine : Routine :=
    { name := "m", typeParameters := ofM, returnType := .bare "V"
      parameters := [{ name := "p", type := .bare "V" }] }
  let headerB : TypeHeader :=
    { kind := .classType, name := "B", typeParameters := ofB, line := 2 }
  let bodyB : List Member :=
    [.method routine, .fields {} { type := .bare "U", line := 2 } [{ name := "g", depth := 1 }]]
  let headerA : TypeHeader :=
    { kind := .classType, name := "A", typeParameters := ofA, line := 1 }
  let items : List UnitItem :=
    [.declared { kind := .classType, name := "C", line := 1 } [],
      .declared headerA [.nested headerB bodyB]]
  have read : readStrictly (tokenize source) = some items := by
    dsimp only [source, items, headerA, headerB, bodyB, routine, ofA, ofB, ofM]
    cbv
  obtain ⟨silent, count, follows⟩ := parse_follows_bounds read "A.java"
  obtain ⟨first, outermost, types⟩ := List.length_eq_two.1 count.symm
  have top : Corresponds items unit [] headerA [.nested headerB bodyB] outermost := by
    apply Corresponds.top
    rw [types]
    exact List.mem_cons_of_mem _ List.mem_cons_self
  obtain ⟨inner, nested⟩ := List.length_eq_one_iff.1 (follows _ _ _ _ top).nested.symm
  have place : Corresponds items unit [ofA] headerB bodyB inner := by
    apply top.nested
    rw [nested]
    exact List.mem_cons_self
  have bound := follows _ _ _ _ place
  -- the paths end in `C` by way of the sections of the method, of `B` and of `A`
  have fromA : Relation.ReflTransGen Spot.Outward ⟨"T", [ofB, ofA]⟩ ⟨"C", [ofA]⟩ :=
    .single ⟨⟨_, rfl, rfl⟩, rfl⟩
  have fromB : Relation.ReflTransGen Spot.Outward ⟨"U", [ofB, ofA]⟩ ⟨"C", [ofA]⟩ :=
    .head ⟨⟨_, rfl, rfl⟩, rfl⟩ fromA
  have fromU : Relation.ReflTransGen Spot.Outward ⟨"U", [ofM, ofB, ofA]⟩ ⟨"C", [ofA]⟩ :=
    .head ⟨⟨_, rfl, rfl⟩, rfl⟩ fromA
  have fromM : Relation.ReflTransGen Spot.Outward ⟨"V", [ofM, ofB, ofA]⟩ ⟨"C", [ofA]⟩ :=
    .head ⟨⟨_, rfl, rfl⟩, rfl⟩ fromU
  have ended : Spot.EndsIn ⟨"C", [ofA]⟩ ⟨"C", []⟩ := .class rfl
  obtain ⟨field, _, fieldOf, ⟨⟩, fields⟩ := List.forall₂_cons_left_iff.1 bound.fields
  obtain ⟨method, _, methodOf, ⟨⟩, methods⟩ := List.forall₂_cons_left_iff.1 bound.methods
  obtain ⟨parameter, _, parameterOf, ⟨⟩, parameters⟩ :=
    List.forall₂_cons_left_iff.1 methodOf.parameters
  refine ⟨silent, outermost, inner, field, method, parameter, ?_, nested, fields,
    fieldOf.type.target _ _ _ rfl fromB ended, methods,
    methodOf.returnType.target _ _ _ rfl fromM ended, parameters,
    parameterOf.type.target _ _ _ rfl fromM ended, ?_⟩
  · rw [types]
    rfl
  · intro index declared
    have byName := Resolver.goesByNames_of_plain (.inr rfl) index
    exact fieldOf.classified _ _ _ rfl fromB ended _ declared false [] (.inr byName)

/-- A variable bound by another one of its own section refers to nothing, although the first bounds
lead on from there to a class type. -/
theorem parse_sibling_bound :
    let source := "class C \x7b\x7d\nclass A<T extends U, U extends C> \x7b T f; C g; \x7d\n"
    let written : ParameterSection :=
      [{ name := "T", bounds := [.bare "U"] }, { name := "U", bounds := [.bare "C"] }]
    let unit := (parse source "A.java").1
    (∃ header members, readStrictly (tokenize source) =
        some [.declared { kind := .classType, name := "C", line := 1 } [],
          .declared header members] ∧ header.typeParameters = written) ∧
      Spot.Step ⟨"T", [written]⟩ ⟨"U", [written]⟩ ∧ Spot.Step ⟨"U", [written]⟩ ⟨"C", [written]⟩ ∧
      Spot.EndsIn ⟨"C", [written]⟩ ⟨"C", []⟩ ∧
      (unit.types.flatMap (·.fields)).map (fun field => (field.name, field.type.head?.map (·.name)))
        = [("f", none), ("g", some "C")] ∧
      ∀ choice ∈ [OracleChoice.none, .imports],
        ((generate [unit] choice []).classified.associations.map fun edge =>
          (edge.src, edge.role, edge.dst)) = [("A", "g", "C")] := by
  intro source written unit
  have index : Index.ofUnits [unit] [] =
      [unit].foldl (fun index unit => (index.acceptUnit unit).1) {} :=
    ofUnits_eq_of_sorted (List.Perm.refl _) (List.pairwise_singleton _ _) []
  refine ⟨⟨{ kind := .classType, name := "A", typeParameters := written, line := 2 },
    [.fields {} { type := .bare "T", line := 2 } [{ name := "f" }],
      .fields {} { type := .bare "C", line := 2 } [{ name := "g" }]], by cbv, rfl⟩,
    ⟨_, rfl, rfl⟩, ⟨_, rfl, rfl⟩, .class rfl, by decide +kernel, ?_⟩
  intro choice listed
  simp only [generate, index]
  rcases List.mem_cons.1 listed with rfl | last
  · decide +kernel
  · obtain rfl := List.mem_singleton.1 last
    decide +kernel

end Java

end ClassAtlas
