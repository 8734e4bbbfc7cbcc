import Mathlib
import ClassAtlas.Proofs.FingerprintParts

/-!
# Fingerprints tell declarations apart

Every fingerprint is a closed text, so a record and a list give their parts away, and each part
in turn is the fingerprint of one value only: equal fingerprints are fingerprints of equal
declarations, however deeply types and their arguments are nested.
-/
namespace ClassAtlas.Fingerprint

/-! ## Leaves -/

/-- A list of names is written in one way only. -/
theorem names_injective (left right : List String) (same : names left = names right) :
    left = right :=
  list_map_injective quoted_closed (fun _ _ => Text.quoted_injective) same

/-- Strictly increasing lists with the same members are equal. -/
theorem eq_of_increasing {left right : List String} (first : left.Pairwise (· < ·))
    (second : right.Pairwise (· < ·)) (members : ∀ name, name ∈ left ↔ name ∈ right) :
    left = right := by
  have perm := (List.perm_ext_iff_of_nodup (nodup_of_increasing first)
    (nodup_of_increasing second)).2 members
  exact perm.eq_of_pairwise (fun _ _ _ _ below above => absurd below (lt_asymm above))
    first second

/-- A set of names is written in one way only. -/
theorem set_injective (left right : NameSet) (same : set left = set right) : left = right := by
  have closed (names : NameSet) :
      ∀ item ∈ distinctNames (names.names.map Text.quoted), Closed item := by
    intro item member
    obtain ⟨name, _, rfl⟩ := List.mem_map.1 (mem_distinctNames.1 member)
    exact quoted_closed name
  have items := group_injective '\x7d' rfl rfl (by decide) (closed left) (closed right) same
  have written (names : NameSet) (name : String) :
      Text.quoted name ∈ distinctNames (names.names.map Text.quoted) ↔ name ∈ names.names := by
    rw [mem_distinctNames, List.mem_map_of_injective fun _ _ => Text.quoted_injective]
  have members (name : String) : name ∈ left.names ↔ name ∈ right.names := by
    rw [← written left, ← written right, items]
  have names := eq_of_increasing left.increasing right.increasing members
  cases left
  cases right
  simpa using names

/-- A truth value is written in one way only. -/
theorem bool_injective (left right : Bool) (same : bool left = bool right) : left = right := by
  cases left <;> cases right <;> simp_all [bool]

/-- The quote that begins a quoted text is no letter. -/
theorem quoted_ne_none (text : String) : Text.quoted text ≠ "None" := by
  intro same
  have first := congrArg (fun text => text.toList.head?) same
  rw [show (Text.quoted text).toList = Text.quotedChars text.toList from
    String.toList_ofList] at first
  rcases Text.quoteFor_eq text.toList with quote | quote
  all_goals
    simp only [Text.quotedChars, quote, List.head?_cons] at first
    exact absurd first (by decide)

/-- A text that may be absent is written in one way only. -/
theorem optional_injective (left right : Option String)
    (same : optional left = optional right) : left = right := by
  cases left with
  | none =>
    cases right with
    | none => rfl
    | some text => exact absurd same.symm (quoted_ne_none text)
  | some text =>
    cases right with
    | none => exact absurd same (quoted_ne_none text)
    | some other => rw [Text.quoted_injective same]

/-- A kind of types is written in one way only. -/
theorem kind_injective (left right : TypeKind)
    (same : Text.quoted left.name = Text.quoted right.name) : left = right := by
  have names := congrArg TypeKind.ofName? (Text.quoted_injective same)
  rw [TypeKind.ofName?_name, TypeKind.ofName?_name] at names
  exact Option.some.inj names

/-- A way of mentioning a type is written in one way only. -/
theorem usageKind_injective (left right : UsageKind)
    (same : Text.quoted left.name = Text.quoted right.name) : left = right := by
  have names := congrArg UsageKind.ofName? (Text.quoted_injective same)
  rw [UsageKind.ofName?_name, UsageKind.ofName?_name] at names
  exact Option.some.inj names

/-! ## Type usages -/

mutual

/-- A usage is closed. -/
@[simp]
theorem usage_closed : ∀ written : TypeUsage, Closed (usage written)
  | .unspecified => by
    rw [usage]
    exact closed_of_plain (by decide) (by decide)
  | .primitive name => by
    rw [usage]
    exact record_closed (by decide) (by simp)
  | .named name arguments => by
    have inner := list_closed (usages_closed arguments)
    rw [usage]
    exact record_closed (by decide) (by simp [inner])
  | .array component => by
    have inner := usage_closed component
    rw [usage]
    exact record_closed (by decide) (by simp [inner])
  | .wildcard upper lower => by
    have above := usage_closed upper
    have below := usage_closed lower
    rw [usage]
    exact record_closed (by decide) (by simp [above, below])
  | .typeVar name bounds => by
    have inner := list_closed (usages_closed bounds)
    rw [usage]
    exact record_closed (by decide) (by simp [inner])

/-- Each of several usages is closed. -/
theorem usages_closed : ∀ written : List TypeUsage, ∀ item ∈ usages written, Closed item
  | [] => by simp [usages]
  | first :: rest => by
    have here := usage_closed first
    have later := usages_closed rest
    rw [usages]
    exact List.forall_mem_cons.2 ⟨here, later⟩

end

/-- A list of usages is closed. -/
@[simp]
theorem usageList_closed (written : List TypeUsage) : Closed (list (usages written)) :=
  list_closed (usages_closed written)

/-- A record of a name and usages gives both away. -/
theorem applied_injective {kind name other : String} {inner outer : List TypeUsage}
    (same : record kind [Text.quoted name, list (usages inner)] =
      record kind [Text.quoted other, list (usages outer)]) :
    name = other ∧ usages inner = usages outer := by
  have parts := record_injective (by simp) (by simp) same
  simp only [List.cons.injEq, and_true] at parts
  have items := list_injective (usages_closed inner) (usages_closed outer) parts.2
  exact ⟨Text.quoted_injective parts.1, items⟩

/-- The letter with which the fingerprint of a usage begins. -/
def initial : TypeUsage → Char
  | .unspecified => 'N'
  | .primitive _ => 'P'
  | .named _ _ => 'C'
  | .array _ => 'A'
  | .wildcard _ _ => 'W'
  | .typeVar _ _ => 'T'

/-- A usage begins with its letter. -/
theorem usage_head (written : TypeUsage) :
    (usage written).toList.head? = some (initial written) := by
  cases written <;> rw [usage]
  · rfl
  all_goals
    rw [record, group_chars, String.toList_append]
    rfl

/-- Usages that are written alike begin with the same letter. -/
theorem initial_eq {left right : TypeUsage} (same : usage left = usage right) :
    initial left = initial right := by
  have heads := usage_head left
  rw [same, usage_head] at heads
  exact (Option.some.inj heads).symm

mutual

/-- A usage is written in one way only. -/
theorem usage_injective : ∀ left right : TypeUsage, usage left = usage right → left = right
  | .unspecified, right, same => by
    have letter := initial_eq same
    cases right with
    | unspecified => rfl
    | _ => exact absurd letter (by simp [initial])
  | .primitive name, right, same => by
    have letter := initial_eq same
    cases right with
    | primitive other =>
      rw [usage, usage] at same
      have parts := record_injective (by simp) (by simp) same
      rw [Text.quoted_injective (List.cons.inj parts).1]
    | _ => exact absurd letter (by simp [initial])
  | .named name arguments, right, same => by
    have letter := initial_eq same
    cases right with
    | named other others =>
      rw [usage, usage] at same
      have parts := applied_injective same
      rw [parts.1, usages_injective arguments others parts.2]
    | _ => exact absurd letter (by simp [initial])
  | .array component, right, same => by
    have letter := initial_eq same
    cases right with
    | array other =>
      rw [usage, usage] at same
      have parts := record_injective (by simp) (by simp) same
      rw [usage_injective component other (List.cons.inj parts).1]
    | _ => exact absurd letter (by simp [initial])
  | .wildcard upper lower, right, same => by
    have letter := initial_eq same
    cases right with
    | wildcard above below =>
      rw [usage, usage] at same
      have parts := record_injective (by simp) (by simp) same
      simp only [List.cons.injEq, and_true] at parts
      rw [usage_injective upper above parts.1, usage_injective lower below parts.2]
    | _ => exact absurd letter (by simp [initial])
  | .typeVar name bounds, right, same => by
    have letter := initial_eq same
    cases right with
    | typeVar other others =>
      rw [usage, usage] at same
      have parts := applied_injective same
      rw [parts.1, usages_injective bounds others parts.2]
    | _ => exact absurd letter (by simp [initial])

/-- Several usages are written in one way only. -/
theorem usages_injective :
    ∀ left right : List TypeUsage, usages left = usages right → left = right
  | [], right, same => by
    cases right with
    | nil => rfl
    | cons other others =>
      rw [usages, usages] at same
      exact absurd same (List.cons_ne_nil _ _).symm
  | first :: rest, right, same => by
    cases right with
    | nil =>
      rw [usages, usages] at same
      exact absurd same (List.cons_ne_nil _ _)
    | cons other others =>
      rw [usages, usages, List.cons.injEq] at same
      rw [usage_injective first other same.1, usages_injective rest others same.2]

end

/-- A list of usages is written in one way only. -/
theorem usageList_injective (left right : List TypeUsage)
    (same : list (usages left) = list (usages right)) : left = right :=
  usages_injective left right (list_injective (usages_closed left) (usages_closed right) same)

/-! ## Members -/

/-- A type parameter is closed. -/
@[simp]
theorem typeParameter_closed (declared : TypeParameter) : Closed (typeParameter declared) :=
  usage_closed declared.usage

/-- A type parameter is written in one way only. -/
theorem typeParameter_injective (left right : TypeParameter)
    (same : typeParameter left = typeParameter right) : left = right := by
  have usages := usage_injective left.usage right.usage same
  cases left
  cases right
  simpa [TypeParameter.usage] using usages

/-- A field is closed. -/
@[simp]
theorem field_closed (declared : FieldDecl) : Closed (field declared) :=
  record_closed (by decide) (by simp)

/-- A field is written in one way only. -/
theorem field_injective (left right : FieldDecl) (same : field left = field right) :
    left = right := by
  have parts := record_injective (by simp) (by simp) same
  simp only [List.cons.injEq, and_true] at parts
  obtain ⟨name, type, modifiers, annotations⟩ := parts
  cases left
  cases right
  rw [FieldDecl.mk.injEq]
  exact ⟨Text.quoted_injective name, usage_injective _ _ type, set_injective _ _ modifiers,
    names_injective _ _ annotations⟩

/-- A parameter is closed. -/
@[simp]
theorem parameter_closed (declared : ParameterDecl) : Closed (parameter declared) :=
  record_closed (by decide) (by simp)

/-- A parameter is written in one way only. -/
theorem parameter_injective (left right : ParameterDecl)
    (same : parameter left = parameter right) : left = right := by
  have parts := record_injective (by simp) (by simp) same
  simp only [List.cons.injEq, and_true] at parts
  obtain ⟨name, type, annotations, varargs⟩ := parts
  cases left
  cases right
  rw [ParameterDecl.mk.injEq]
  exact ⟨Text.quoted_injective name, usage_injective _ _ type, names_injective _ _ annotations,
    bool_injective _ _ varargs⟩

/-- A method is closed. -/
@[simp]
theorem method_closed (declared : MethodDecl) : Closed (method declared) :=
  record_closed (by decide) (by simp)

/-- A method is written in one way only. -/
theorem method_injective (left right : MethodDecl) (same : method left = method right) :
    left = right := by
  have parts := record_injective (by simp) (by simp) same
  simp only [List.cons.injEq, and_true] at parts
  obtain ⟨name, returnType, parameters, throws, modifiers, annotations, typeParameters⟩ := parts
  cases left
  cases right
  rw [MethodDecl.mk.injEq]
  exact ⟨Text.quoted_injective name, usage_injective _ _ returnType,
    list_map_injective parameter_closed parameter_injective parameters,
    usageList_injective _ _ throws, set_injective _ _ modifiers,
    names_injective _ _ annotations,
    list_map_injective typeParameter_closed typeParameter_injective typeParameters⟩

/-- A constructor is closed. -/
@[simp]
theorem constructor_closed (declared : ConstructorDecl) : Closed (constructor declared) :=
  record_closed (by decide) (by simp)

/-- A constructor is written in one way only. -/
theorem constructor_injective (left right : ConstructorDecl)
    (same : constructor left = constructor right) : left = right := by
  have parts := record_injective (by simp) (by simp) same
  simp only [List.cons.injEq, and_true] at parts
  obtain ⟨name, parameters, throws, modifiers, annotations⟩ := parts
  cases left
  cases right
  rw [ConstructorDecl.mk.injEq]
  exact ⟨Text.quoted_injective name,
    list_map_injective parameter_closed parameter_injective parameters,
    usageList_injective _ _ throws, set_injective _ _ modifiers,
    names_injective _ _ annotations⟩

/-- An element of an annotation type is closed. -/
@[simp]
theorem annotationMember_closed (declared : AnnotationMember) :
    Closed (annotationMember declared) :=
  record_closed (by decide) (by simp)

/-- An element of an annotation type is written in one way only. -/
theorem annotationMember_injective (left right : AnnotationMember)
    (same : annotationMember left = annotationMember right) : left = right := by
  have parts := record_injective (by simp) (by simp) same
  simp only [List.cons.injEq, and_true] at parts
  obtain ⟨name, type, value⟩ := parts
  cases left
  cases right
  rw [AnnotationMember.mk.injEq]
  exact ⟨Text.quoted_injective name, usage_injective _ _ type, optional_injective _ _ value⟩

/-- A place that mentions a type is closed. -/
@[simp]
theorem site_closed (mention : UsageSite) : Closed (site mention) :=
  record_closed (by decide) (by simp)

/-- A place that mentions a type is written in one way only. -/
theorem site_injective (left right : UsageSite) (same : site left = site right) :
    left = right := by
  have parts := record_injective (by simp) (by simp) same
  simp only [List.cons.injEq, and_true] at parts
  obtain ⟨kind, type, line⟩ := parts
  cases left
  cases right
  rw [UsageSite.mk.injEq]
  exact ⟨usageKind_injective _ _ kind, usage_injective _ _ type, Int.repr_injective line⟩

/-! ## Types -/

mutual

/-- A declared type is closed. -/
@[simp]
theorem type_closed : ∀ declared : TypeDeclaration, Closed (type declared)
  | ⟨_, _, _, _, _, _, _, _, _, _, _, _, _, nestedTypes, _, _⟩ => by
    have nested := list_closed (types_closed nestedTypes)
    rw [type]
    exact record_closed (by decide) (by simp [nested])

/-- Each of several declared types is closed. -/
theorem types_closed : ∀ declared : List TypeDeclaration, ∀ item ∈ types declared, Closed item
  | [] => by simp [types]
  | first :: rest => by
    have here := type_closed first
    have later := types_closed rest
    rw [types]
    exact List.forall_mem_cons.2 ⟨here, later⟩

end

/-- A list of declared types is closed. -/
@[simp]
theorem typeList_closed (declared : List TypeDeclaration) : Closed (list (types declared)) :=
  list_closed (types_closed declared)

mutual

/-- A declared type is written in one way only. -/
theorem type_injective : ∀ left right : TypeDeclaration, type left = type right → left = right
  | ⟨_, _, _, _, _, _, _, _, _, _, _, _, _, nestedLeft, _, _⟩,
    ⟨_, _, _, _, _, _, _, _, _, _, _, _, _, nestedRight, _, _⟩, same => by
    rw [type, type] at same
    have parts := record_injective (by simp) (by simp) same
    simp only [List.cons.injEq, and_true] at parts
    obtain ⟨name, kind, modifiers, annotations, typeParameters, extending, implementing, fields,
      components, constructors, methods, enumConstants, annotationMembers, nestedTypes, sites,
      line⟩ := parts
    have nested := list_injective (types_closed nestedLeft) (types_closed nestedRight) nestedTypes
    rw [TypeDeclaration.mk.injEq]
    exact ⟨Text.quoted_injective name, kind_injective _ _ kind, set_injective _ _ modifiers,
      names_injective _ _ annotations,
      list_map_injective typeParameter_closed typeParameter_injective typeParameters,
      usageList_injective _ _ extending, usageList_injective _ _ implementing,
      list_map_injective field_closed field_injective fields,
      list_map_injective field_closed field_injective components,
      list_map_injective constructor_closed constructor_injective constructors,
      list_map_injective method_closed method_injective methods,
      names_injective _ _ enumConstants,
      list_map_injective annotationMember_closed annotationMember_injective annotationMembers,
      types_injective nestedLeft nestedRight nested,
      list_map_injective site_closed site_injective sites, Int.repr_injective line⟩

/-- Several declared types are written in one way only. -/
theorem types_injective :
    ∀ left right : List TypeDeclaration, types left = types right → left = right
  | [], right, same => by
    cases right with
    | nil => rfl
    | cons other others =>
      rw [types, types] at same
      exact absurd same (List.cons_ne_nil _ _).symm
  | first :: rest, right, same => by
    cases right with
    | nil =>
      rw [types, types] at same
      exact absurd same (List.cons_ne_nil _ _)
    | cons other others =>
      rw [types, types, List.cons.injEq] at same
      rw [type_injective first other same.1, types_injective rest others same.2]

end

/-- The fingerprint of a unit determines its types and its imports. -/
theorem contents_injective {left right : CompilationUnit}
    (same : contents left = contents right) :
    left.types = right.types ∧ left.imports = right.imports := by
  have parts := list_injective (by simp) (by simp) same
  simp only [List.cons.injEq, and_true] at parts
  have declared := list_injective (types_closed left.types) (types_closed right.types) parts.1
  exact ⟨types_injective _ _ declared, names_injective _ _ parts.2⟩

end ClassAtlas.Fingerprint
