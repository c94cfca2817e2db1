import OperationSamples.Document.Basic
import OperationSamples.Document.Lexer

/-!
From tokens to documents.

A `Parser` reads from a cursor: the current token, those after it, and the fault that ends the text
early, if there is one. That fault is reported when the cursor would move onto it, so it loses only
against objections to tokens before it. One further token is looked at when a description or the word
`extend` precedes a definition.

Lists between brackets come in two sorts: with at least one item (arguments, the bodies of types) and
possibly empty (selection sets, list and object literals). Nested constructs take a fuel argument;
each level reads a token, so the number of tokens suffices. Selection sets, list and object literals
and list types may be nested two hundred deep, whatever the mixture.
-/

namespace OperationSamples

structure Cursor where
  current : Token
  rest : List Token
  fault : Option SyntaxFault
  /-- How many selection sets, literals and list types are open. -/
  depth : Nat
deriving Repr

abbrev Parser := StateT Cursor (Except SyntaxFault)

namespace Parser

/-! ### Tokens -/

def current : Parser Token := return (← get).current

/-- Moves to the next token, or reports the fault that stands there. -/
def advance : Parser Unit := do
  let cursor ← get
  match cursor.rest with
  | token :: rest => set { cursor with current := token, rest := rest }
  | [] =>
    match cursor.fault with
    | some fault => throw fault
    | none => return ()

/-- The token after the current one. -/
def lookahead : Parser Token := do
  let cursor ← get
  match cursor.rest with
  | token :: _ => return token
  | [] =>
    match cursor.fault with
    | some fault => throw fault
    | none => return cursor.current

def unexpected {α : Type} : Parser α := do throw (.unexpected (← current))

def peek (kind : TokenKind) : Parser Bool := return (← current).kind = kind

def expect (kind : TokenKind) : Parser Token := do
  let token ← current
  if token.kind = kind then
    advance
    return token
  else throw (.expectedKind kind token)

def accept (kind : TokenKind) : Parser Bool := do
  if ← peek kind then
    advance
    return true
  else return false

def isWord (word : String) (token : Token) : Bool :=
  token.kind = .name && token.value == some word

def expectWord (word : String) : Parser Unit := do
  let token ← current
  if isWord word token then advance else throw (.expectedWord word token)

def acceptWord (word : String) : Parser Bool := do
  if isWord word (← current) then
    advance
    return true
  else return false

def name : Parser String := do
  let token ← expect .name
  return token.value.getD ""

/-! ### Nesting -/

def maxNesting : Nat := 200

/-- Reads something that counts as a level of nesting. -/
def nested {α : Type} (inner : Parser α) : Parser α := do
  let depth := (← get).depth
  if maxNesting ≤ depth then throw .tooDeep
  modify fun cursor => { cursor with depth := depth + 1 }
  let result ← inner
  modify fun cursor => { cursor with depth := depth }
  return result

/-! ### Lists -/

/-- Items up to a closing token. -/
def untilClose {α : Type} (close : TokenKind) (item : Parser α) : Nat → Parser (List α)
  | 0 => unexpected
  | fuel + 1 => do
    if ← accept close then return []
    else
      let first ← item
      let others ← untilClose close item fuel
      return first :: others

def possiblyEmpty {α : Type} (fuel : Nat) (openKind : TokenKind) (item : Parser α)
    (close : TokenKind) : Parser (List α) := do
  let _ ← expect openKind
  untilClose close item fuel

def nonEmpty {α : Type} (fuel : Nat) (openKind : TokenKind) (item : Parser α)
    (close : TokenKind) : Parser (List α) := do
  let _ ← expect openKind
  let first ← item
  let others ← untilClose close item fuel
  return first :: others

/-- A list that may be left out together with its brackets. -/
def optionalList {α : Type} (fuel : Nat) (openKind : TokenKind) (item : Parser α)
    (close : TokenKind) : Parser (List α) := do
  if ← peek openKind then nonEmpty fuel openKind item close else return []

/-- Items with a delimiter between them. -/
def delimited {α : Type} (delimiter : TokenKind) (item : Parser α) : Nat → Parser (List α)
  | 0 => unexpected
  | fuel + 1 => do
    let first ← item
    if ← accept delimiter then
      let others ← delimited delimiter item fuel
      return first :: others
    else return [first]

/-- Delimited items, the first of which may have a delimiter before it. -/
def delimitedList {α : Type} (fuel : Nat) (delimiter : TokenKind) (item : Parser α) :
    Parser (List α) := do
  let _ ← accept delimiter
  delimited delimiter item fuel

/-! ### Types and literals -/

def typeRef : Nat → Parser TypeRef
  | 0 => unexpected
  | fuel + 1 => do
    let inner ←
      if ← accept .bracketLeft then do
        let item ← nested (typeRef fuel)
        let _ ← expect .bracketRight
        pure (TypeRef.list item)
      else pure (TypeRef.named (← name))
    if ← accept .bang then return .nonNull inner else return inner

/-- Reads a variable, or objects to it where only constants may stand. -/
def variableLiteral (constant : Bool) : Parser Literal := do
  let dollar ← expect .dollar
  if constant then
    let token ← current
    if token.kind = .name then throw (.variableInConstant (token.value.getD ""))
    else throw (.unexpected dollar)
  else return .variable (← name)

/-- Names as literals: two booleans, null, and enum values. -/
def wordLiteral (word : String) : Literal :=
  if word == "true" then .boolean true
  else if word == "false" then .boolean false
  else if word == "null" then .null
  else .enumerator word

def literal (constant : Bool) : Nat → Parser Literal
  | 0 => unexpected
  | fuel + 1 => do
    let token ← current
    let value := token.value.getD ""
    match token.kind with
    | .bracketLeft =>
      return .list (← nested (possiblyEmpty fuel .bracketLeft (literal constant fuel) .bracketRight))
    | .braceLeft =>
      let field : Parser (String × Literal) := do
        let key ← name
        let _ ← expect .colon
        return (key, ← literal constant fuel)
      return .object (← nested (possiblyEmpty fuel .braceLeft field .braceRight))
    | .int => advance; return .int value
    | .float => advance; return .float value
    | .string => advance; return .string value false
    | .blockString => advance; return .string value true
    | .name => advance; return wordLiteral value
    | .dollar => variableLiteral constant
    | _ => unexpected

def argument (constant : Bool) (fuel : Nat) : Parser Argument := do
  let key ← name
  let _ ← expect .colon
  return ⟨key, ← literal constant fuel⟩

def arguments (constant : Bool) (fuel : Nat) : Parser (List Argument) :=
  optionalList fuel .parenLeft (argument constant fuel) .parenRight

def directives (constant : Bool) (fuel : Nat) : Nat → Parser (List Directive)
  | 0 => unexpected
  | more + 1 => do
    if ← accept .atSign then
      let first : Directive := ⟨← name, ← arguments constant fuel⟩
      let others ← directives constant fuel more
      return first :: others
    else return []

/-! ### Selections -/

mutual

def selectionSet : Nat → Parser (List Selection)
  | 0 => unexpected
  | fuel + 1 => nested (possiblyEmpty fuel .braceLeft (selection fuel) .braceRight)

def selection : Nat → Parser Selection
  | 0 => unexpected
  | fuel + 1 => do
    if ← accept .spread then
      let conditioned ← acceptWord "on"
      if !conditioned && (← peek .name) then
        let target ← name
        return .spread target (← directives false fuel fuel)
      else
        let condition ← if conditioned then some <$> name else pure none
        let directives ← directives false fuel fuel
        return .inline condition directives (← selectionSet fuel)
    else
      let first ← name
      let (aliasName, name) ← if ← accept .colon then pure (some first, ← name) else pure (none, first)
      let arguments ← arguments false fuel
      let directives ← directives false fuel fuel
      let head : FieldHead := ⟨aliasName, name, arguments, directives⟩
      if ← peek .braceLeft then return .branch head none (← selectionSet fuel)
      else return .leaf head

end

/-! ### Operations and fragments -/

def peekDescription : Parser Bool := do
  let token ← current
  return token.kind = .string || token.kind = .blockString

/-- Descriptions are read and dropped. -/
def description : Parser Unit := do
  if ← peekDescription then advance

def operationKind : Parser OperationKind := do
  let token ← expect .name
  match OperationKind.ofWord? (token.value.getD "") with
  | some kind => return kind
  | none => throw (.unexpected token)

def variableDef (fuel : Nat) : Parser VariableDef := do
  description
  let _ ← expect .dollar
  let variableName ← name
  let _ ← expect .colon
  let type ← typeRef fuel
  let default ← if ← accept .equals then some <$> literal true fuel else pure none
  return ⟨variableName, type, default, ← directives true fuel fuel⟩

def operation (fuel : Nat) : Parser Operation := do
  if ← peek .braceLeft then return ⟨.query, none, [], [], ← selectionSet fuel⟩
  else
    description
    let kind ← operationKind
    let operationName ← if ← peek .name then some <$> name else pure none
    let variableDefs ← optionalList fuel .parenLeft (variableDef fuel) .parenRight
    let directives ← directives false fuel fuel
    return ⟨kind, operationName, variableDefs, directives, ← selectionSet fuel⟩

/-- A fragment is never called `on`. -/
def fragmentName : Parser String := do
  if (← current).value == some "on" then unexpected else name

def fragment (fuel : Nat) : Parser Fragment := do
  description
  expectWord "fragment"
  let fragmentName ← fragmentName
  expectWord "on"
  let condition ← name
  let directives ← directives false fuel fuel
  return ⟨fragmentName, condition, directives, ← selectionSet fuel⟩

/-! ### Type system -/

def inputDef (fuel : Nat) : Parser InputDef := do
  description
  let inputName ← name
  let _ ← expect .colon
  let type ← typeRef fuel
  let default ← if ← accept .equals then some <$> literal true fuel else pure none
  return ⟨inputName, type, default, ← directives true fuel fuel⟩

def fieldDef (fuel : Nat) : Parser FieldDef := do
  description
  let fieldName ← name
  let arguments ← optionalList fuel .parenLeft (inputDef fuel) .parenRight
  let _ ← expect .colon
  let type ← typeRef fuel
  return ⟨fieldName, arguments, type, ← directives true fuel fuel⟩

def fieldDefs (fuel : Nat) : Parser (List FieldDef) :=
  optionalList fuel .braceLeft (fieldDef fuel) .braceRight

def interfaces (fuel : Nat) : Parser (List String) := do
  if ← acceptWord "implements" then delimitedList fuel .amp name else return []

/-- Three words cannot be enum values, since they are literals of their own. -/
def enumValueDef (fuel : Nat) : Parser EnumValueDef := do
  description
  let token ← current
  if ["true", "false", "null"].any fun word => token.value == some word then
    throw (.reservedEnumValue token)
  let valueName ← name
  return ⟨valueName, ← directives true fuel fuel⟩

def rootDef : Parser RootDef := do
  let kind ← operationKind
  let _ ← expect .colon
  return ⟨kind, ← name⟩

/-- The words that introduce type definitions. -/
def typeWords : List String := ["scalar", "type", "interface", "union", "enum", "input"]

/-- A type after its introducing word. -/
def typeDef (fuel : Nat) (word : String) : Parser TypeDef := do
  let typeName ← name
  if word == "type" || word == "interface" then
    let interfaces ← interfaces fuel
    let directives ← directives true fuel fuel
    let fields ← fieldDefs fuel
    let body := if word == "type" then TypeBody.object interfaces fields
      else TypeBody.interface interfaces fields
    return ⟨typeName, directives, body⟩
  else
    let directives ← directives true fuel fuel
    if word == "union" then
      let members ← if ← accept .equals then delimitedList fuel .pipe name else pure []
      return ⟨typeName, directives, .union members⟩
    else if word == "enum" then
      let values ← optionalList fuel .braceLeft (enumValueDef fuel) .braceRight
      return ⟨typeName, directives, .enum values⟩
    else if word == "input" then
      let fields ← optionalList fuel .braceLeft (inputDef fuel) .braceRight
      return ⟨typeName, directives, .input fields⟩
    else return ⟨typeName, directives, .scalar⟩

def schemaDef (fuel : Nat) : Parser SchemaDef := do
  description
  expectWord "schema"
  let directives ← directives true fuel fuel
  return ⟨directives, ← nonEmpty fuel .braceLeft rootDef .braceRight⟩

def directiveLocation : Parser DirectiveLocation := do
  let token ← current
  let word ← name
  match DirectiveLocation.ofWord? word with
  | some location => return location
  | none => throw (.unexpected token)

def directiveDef (fuel : Nat) : Parser DirectiveDef := do
  description
  expectWord "directive"
  let _ ← expect .atSign
  let directiveName ← name
  let arguments ← optionalList fuel .parenLeft (inputDef fuel) .parenRight
  let directives ← directives true fuel fuel
  let repeatable ← acceptWord "repeatable"
  expectWord "on"
  return ⟨directiveName, arguments, directives, repeatable,
    ← delimitedList fuel .pipe directiveLocation⟩

/-- Whether a type has neither directives nor anything of its own. -/
def isBareExtension (t : TypeDef) : Bool :=
  t.directives.isEmpty && match t.body with
    | .scalar => true
    | .object interfaces fields => interfaces.isEmpty && fields.isEmpty
    | .interface interfaces fields => interfaces.isEmpty && fields.isEmpty
    | .union members => members.isEmpty
    | .enum values => values.isEmpty
    | .input fields => fields.isEmpty

/-- An extension has to extend something. -/
def typeExtension (fuel : Nat) (word : String) : Parser TypeDef := do
  expectWord "extend"
  expectWord word
  let t ← typeDef fuel word
  if isBareExtension t then unexpected else return t

def schemaExtension (fuel : Nat) : Parser SchemaDef := do
  expectWord "extend"
  expectWord "schema"
  let directives ← directives true fuel fuel
  let roots ← optionalList fuel .braceLeft rootDef .braceRight
  if directives.isEmpty && roots.isEmpty then unexpected else return ⟨directives, roots⟩

def directiveExtension (fuel : Nat) : Parser DirectiveExtension := do
  expectWord "extend"
  expectWord "directive"
  let _ ← expect .atSign
  let directiveName ← name
  let directives ← directives true fuel fuel
  if directives.isEmpty then unexpected else return ⟨directiveName, directives⟩

def extension (fuel : Nat) : Parser Definition := do
  let token ← lookahead
  let word := token.value.getD ""
  if token.kind = .name && word == "schema" then return .schemaExtension (← schemaExtension fuel)
  else if token.kind = .name && typeWords.contains word then
    return .typeExtension (← typeExtension fuel word)
  else if token.kind = .name && word == "directive" then
    return .directiveExtension (← directiveExtension fuel)
  else throw (.unexpected token)

/-! ### Definitions -/

/-- A definition whose introducing word, after any description, is known. -/
def wordDefinition (fuel : Nat) (described : Bool) (token : Token) : Parser Definition := do
  let word := token.value.getD ""
  if word == "schema" then return .schema (← schemaDef fuel)
  else if typeWords.contains word then
    description
    expectWord word
    return .type (← typeDef fuel word)
  else if word == "directive" then return .directive (← directiveDef fuel)
  else if (OperationKind.ofWord? word).isSome then return .operation (← operation fuel)
  else if word == "fragment" then return .fragment (← fragment fuel)
  else if described then throw .describedUnknown
  else if word == "extend" then extension fuel
  else throw (.unexpected token)

def definition (fuel : Nat) : Parser Definition := do
  if ← peek .braceLeft then return .operation (← operation fuel)
  else
    let described ← peekDescription
    let token ← if described then lookahead else current
    if described && token.kind = .braceLeft then throw .describedShorthand
    else if token.kind = .name then wordDefinition fuel described token
    else throw (.unexpected token)

/-- One definition at least, up to the end of the file. -/
def document (fuel : Nat) : Parser Document := do
  let first ← definition fuel
  let others ← untilClose .endOfFile (definition fuel) fuel
  return first :: others

end Parser

/-- Reads a document. -/
def Document.parse (text : String) : Except SyntaxFault Document :=
  let scan := Lexer.scan text
  match scan.tokens, scan.fault with
  | [], some fault => .error fault
  | [], none => .error (.unexpected ⟨.endOfFile, none⟩)
  | token :: rest, fault =>
    (Parser.document (rest.length + 2)).run ⟨token, rest, fault, 0⟩ |>.map Prod.fst

end OperationSamples
