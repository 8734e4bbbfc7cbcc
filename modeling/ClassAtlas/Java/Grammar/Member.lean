import ClassAtlas.Java.Grammar.Statement

/-!
# Type declarations and their members

The bodies of classes, interfaces, enums, records and annotation types differ in the members
they admit. Modifiers may stand anywhere before a declaration, in any order and number.
-/
namespace ClassAtlas.Java

open Reader

/-- The types that a method or constructor declares to throw. -/
def throwsClause (inner : Inner) : Reader (List TypePhrase) := do
  let types ← maybe do
    let _ ← word "throws"
    typeList inner
  pure (types.getD [])

/-- The call of another constructor at the start of a constructor's body. -/
def constructorCall (inner : Inner) : Reader (List Mention) := do
  let target ← maybe do
    let target ← primary inner .ordinary
    let _ ← symbol "."
    pure target.mentions
  let typed ← maybe (typeArguments inner)
  let _ ← if target.isSome then word "super" else word "this" <|> word "super"
  let values ← arguments inner
  semicolon inner
  pure (target.getD [] ++ (typed.getD []).flatMap (·.mentions) ++ values)

/-- The body of a constructor. -/
def constructorBody (inner : Inner) : Reader (List Mention) := do
  let _ ← symbol "\x7b"
  let call ← maybe (constructorCall inner)
  let statements ← blockItems inner inner.statement
  closeBlock inner
  pure (call.getD [] ++ statements.flatten)

/-- A constructor behind its modifiers. -/
def constructorRest (inner : Inner) (modifiers : Modifiers) : Reader Member := do
  let typed ← maybe (typeParameters inner)
  let typed := typed.getD {}
  let name ← identifier primitiveWords
  let parameters ← parameters inner
  let throws ← throwsClause inner
  let body ← constructorBody inner
  pure <| .constructor
    { modifiers, typeParameters := typed.items, name := name.text
      parameters := parameters.items
      throws := throws.map (·.type)
      head := modifiers.mentions ++ typed.mentions ++ parameters.mentions
        ++ throws.flatMap (·.mentions)
      body }

/-- A compact constructor behind its modifiers. -/
def compactRest (inner : Inner) (modifiers : Modifiers) : Reader Member := do
  let _ ← identifier primitiveWords
  let body ← block inner
  pure (.initializer (modifiers.mentions ++ body))

/-- A method behind its modifiers. -/
def methodRest (inner : Inner) (modifiers : Modifiers) : Reader Member := do
  let typed ← maybe do
    let typed ← typeParameters inner
    let mentions ← annotationUses inner
    pure { typed with mentions := typed.mentions ++ mentions }
  let typed := typed.getD {}
  let type ← plainType inner
  let name ← identifier []
  let parameters ← parameters inner
  let dims ← maybe (dimensions inner)
  let (depth, dimensionMentions) := dims.getD (0, [])
  let throws ← throwsClause inner
  let body ← block inner <|> do
    semicolon inner
    pure []
  pure <| .method
    { modifiers, typeParameters := typed.items, returnType := type.type, depth
      name := name.text
      parameters := parameters.items
      throws := throws.map (·.type)
      head := modifiers.mentions ++ typed.mentions ++ type.mentions ++ parameters.mentions
        ++ dimensionMentions ++ throws.flatMap (·.mentions)
      body }

/-- Fields behind their modifiers. A name before a parenthesis is no field. -/
def fieldsRest (inner : Inner) (modifiers : Modifiers) : Reader Member := do
  let type ← plainType inner
  let names ← declarators inner []
  ensure !(← nextSymbol "(")
  semicolon inner
  pure (.fields modifiers type names)

/-- A static initializer. -/
def staticInitializer (inner : Inner) : Reader Member := do
  let _ ← word "static"
  let body ← block inner
  pure (.initializer body)

/-- A member of a class body, none for a lone semicolon. -/
def classMember (inner : Inner) : Reader (List Member) :=
  (do
    let _ ← symbol ";"
    pure [])
  <|> one (Member.initializer <$> block inner)
  <|> one (staticInitializer inner)
  <|> one inner.declaration
  <|> one (do
    let modifiers ← modifiers inner
    noDeclarationWord
    constructorRest inner modifiers <|> compactRest inner modifiers
      <|> methodRest inner modifiers <|> fieldsRest inner modifiers)
where
  /-- A reader of one member. -/
  one (member : Reader Member) : Reader (List Member) := (fun member => [member]) <$> member

/-- The body of a class. -/
def classBody (inner : Inner) : Reader (List Member) := do
  let _ ← symbol "\x7b"
  let members ← blockItems inner (classMember inner)
  closeBlock inner
  pure members.flatten

/-- The body of an interface. -/
def interfaceBody (inner : Inner) : Reader (List Member) := do
  let _ ← symbol "\x7b"
  let members ← blockItems inner
    ((do
      let _ ← symbol ";"
      pure none)
    <|> (some <$> inner.declaration)
    <|> (some <$> do
      let modifiers ← modifiers inner
      noDeclarationWord
      methodRest inner modifiers <|> fieldsRest inner modifiers))
  closeBlock inner
  pure (members.filterMap id)

/-- An enum constant. -/
def enumConstant (inner : Inner) : Reader Member := do
  let modifiers ← modifiers inner
  let name ← identifier []
  let values ← maybe (arguments inner)
  let body ← maybe inner.classBody
  pure (.constant name.text
    (modifiers.mentions ++ values.getD [] ++ (body.getD []).flatMap (·.mentions)))

/-- The body of an enum: its constants, and behind a semicolon the members of a class. -/
def enumBody (inner : Inner) : Reader (List Member) := do
  let _ ← symbol "\x7b"
  let constants ← sepBy (enumConstant inner) (symbol ",")
  let _ ← maybe (symbol ",")
  let members ← maybe do
    let _ ← symbol ";"
    blockItems inner (classMember inner)
  closeBlock inner
  pure (constants ++ (members.getD []).flatten)

/-- An element of an annotation type behind its modifiers. -/
def elementRest (inner : Inner) : Reader Member := do
  let type ← plainType inner
  let name ← identifier []
  let _ ← symbol "("
  let _ ← symbol ")"
  let dims ← maybe (dimensions inner)
  let value ← maybe do
    let _ ← word "default"
    let (_, tokens) ← spanned (elementValue inner)
    pure (sourceText tokens)
  semicolon inner
  pure (.element name.text type.type ((dims.map (·.1)).getD 0) value)

/-- A type declaration that is no record. -/
def declarationButRecord (inner : Inner) : Reader Member := do
  match ← inner.declaration with
  | .nested header members =>
    ensure (header.kind != .record)
    pure (.nested header members)
  | _ => failure

/-- The body of an annotation type, where no record may stand. -/
def elementBody (inner : Inner) : Reader (List Member) := do
  let _ ← symbol "\x7b"
  let members ← blockItems inner
    ((do
      let _ ← symbol ";"
      pure none)
    <|> (some <$> declarationButRecord inner)
    <|> (some <$> do
      let modifiers ← modifiers inner
      noDeclarationWord
      elementRest inner <|> fieldsRest inner modifiers))
  closeBlock inner
  pure (members.filterMap id)

/-- The types behind a word, if it stands here. -/
def typesBehind (inner : Inner) (clause : String) : Reader (List WrittenType) := do
  let types ← maybe do
    let _ ← word clause
    typeList inner
  pure ((types.getD []).map (·.type))

/-- The single type behind a word, if it stands here. -/
def typeBehind (inner : Inner) (clause : String) : Reader (List WrittenType) := do
  let type ← maybe do
    let _ ← word clause
    anyType inner
  pure (type.toList.map (·.type))

/-- A class declaration behind its modifiers. -/
def classRest (inner : Inner) (modifiers : Modifiers) (line : Nat) : Reader Member := do
  let _ ← word "class"
  let name ← identifier []
  let typed ← maybe (typeParameters inner)
  let extending ← typeBehind inner "extends"
  let implementing ← typesBehind inner "implements"
  let _ ← typesBehind inner "permits"
  let members ← classBody inner
  pure <| .nested
    { kind := .classType, modifiers, name := name.text, typeParameters := (typed.getD {}).items
      extending, implementing, line } members

/-- An interface declaration behind its modifiers. -/
def interfaceRest (inner : Inner) (modifiers : Modifiers) (line : Nat) : Reader Member := do
  let _ ← word "interface"
  let name ← identifier []
  let typed ← maybe (typeParameters inner)
  let extending ← typesBehind inner "extends"
  let _ ← typesBehind inner "permits"
  let members ← interfaceBody inner
  pure <| .nested
    { kind := .interface, modifiers, name := name.text
      typeParameters := (typed.getD {}).items, extending, line } members

/-- An enum declaration behind its modifiers. -/
def enumRest (inner : Inner) (modifiers : Modifiers) (line : Nat) : Reader Member := do
  let _ ← word "enum"
  let name ← identifier []
  let implementing ← typesBehind inner "implements"
  let members ← enumBody inner
  pure <| .nested { kind := .enum, modifiers, name := name.text, implementing, line } members

/-- A record declaration behind its modifiers. -/
def recordRest (inner : Inner) (modifiers : Modifiers) (line : Nat) : Reader Member := do
  let _ ← word "record"
  let name ← identifier []
  let typed ← maybe (typeParameters inner)
  let components ← parameters inner
  let implementing ← typesBehind inner "implements"
  let members ← classBody inner
  pure <| .nested
    { kind := .record, modifiers, name := name.text, typeParameters := (typed.getD {}).items
      implementing, components := components.items, line } members

/-- A declaration of an annotation type behind its modifiers. -/
def annotationTypeRest (inner : Inner) (modifiers : Modifiers) (line : Nat) : Reader Member := do
  let _ ← symbol "@"
  let token ← word "interface"
  ensure token.gap.isEmpty
  let name ← identifier []
  let members ← elementBody inner
  pure <| .nested { kind := .annotationType, modifiers, name := name.text, line } members

/-- A type declaration. -/
def declaration (inner : Inner) : Reader Member := do
  let line ← line
  let modifiers ← modifiers inner
  classRest inner modifiers line
    <|> interfaceRest inner modifiers line
    <|> enumRest inner modifiers line
    <|> recordRest inner modifiers line
    <|> annotationTypeRest inner modifiers line

end ClassAtlas.Java
