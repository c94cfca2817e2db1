import OperationSamples.Schema.Standard

/-!
Which documents can be turned into a schema.

A document of type definitions has to be unambiguous before a schema is built from it: names are
unique where they must be, types and directives that are mentioned exist, extensions extend something
of their own kind. `Document.schemaFaults` lists what is wrong. Operations may stand among the type
definitions and are held to the rules that concern them; there, unlike in type definitions, the
standard types are not known unless the document defines them.
-/

namespace OperationSamples

/-- Why no schema can be built. -/
inductive SchemaFault where
  | repeatedSchema
  | repeatedRoot (kind : OperationKind)
  | repeatedType (name : String)
  | repeatedEnumValue (type value : String)
  | repeatedField (type field : String)
  | repeatedArgumentDef (owner argument : String)
  | repeatedDirectiveDef (name : String)
  | unknownType (name : String)
  | unknownDirective (name : String)
  | misplacedDirective (name : String) (location : DirectiveLocation)
  | repeatedDirective (name : String)
  | extendsUnknown (name : String)
  | extendsOtherKind (name : String)
  | unknownDirectiveArgument (directive argument : String)
  | repeatedArgument (name : String)
  | repeatedInputField (name : String)
  | missingDirectiveArgument (directive argument : String)
deriving DecidableEq, Repr

/-- The later occurrences of elements that occur more than once. -/
def repetitions {α : Type} [BEq α] : List α → List α
  | [] => []
  | a :: rest => if rest.contains a then a :: repetitions rest else repetitions rest

/-- Directives together with the place where they stand. -/
structure DirectiveSite where
  location : DirectiveLocation
  directives : List Directive
deriving Repr

namespace Literal

mutual

/-- Fields that an object literal inside the literal names twice. -/
def repeatedFields : Literal → List String
  | .list items => repeatedFieldsOfItems items
  | .object fields => repetitions (fields.map Prod.fst) ++ repeatedFieldsOfMembers fields
  | _ => []

def repeatedFieldsOfItems : List Literal → List String
  | [] => []
  | item :: rest => repeatedFields item ++ repeatedFieldsOfItems rest

def repeatedFieldsOfMembers : List (String × Literal) → List String
  | [] => []
  | (_, value) :: rest => repeatedFields value ++ repeatedFieldsOfMembers rest

end

end Literal

namespace Selection

mutual

/-- The directives on a selection and inside it. -/
def sites : Selection → List DirectiveSite
  | .leaf head => [⟨.field, head.directives⟩]
  | .branch head _ selections => ⟨.field, head.directives⟩ :: sitesOf selections
  | .inline _ directives selections => ⟨.inlineFragment, directives⟩ :: sitesOf selections
  | .spread _ directives => [⟨.fragmentSpread, directives⟩]

def sitesOf : List Selection → List DirectiveSite
  | [] => []
  | s :: rest => sites s ++ sitesOf rest

end

mutual

/-- The argument lists of the fields of a selection. -/
def argumentLists : Selection → List (List Argument)
  | .leaf head => [head.arguments]
  | .branch head _ selections => head.arguments :: argumentListsOf selections
  | .inline _ _ selections => argumentListsOf selections
  | .spread _ _ => []

def argumentListsOf : List Selection → List (List Argument)
  | [] => []
  | s :: rest => argumentLists s ++ argumentListsOf rest

end

mutual

/-- The type conditions in a selection. -/
def conditions : Selection → List String
  | .leaf _ => []
  | .branch _ _ selections => conditionsOf selections
  | .inline condition _ selections => condition.toList ++ conditionsOf selections
  | .spread _ _ => []

def conditionsOf : List Selection → List String
  | [] => []
  | s :: rest => conditions s ++ conditionsOf rest

end

end Selection

namespace TypeBody

/-- A number per kind of type, to compare kinds. -/
def kindIndex : TypeBody → Nat
  | .scalar => 0
  | .object _ _ => 1
  | .interface _ _ => 2
  | .union _ => 3
  | .enum _ => 4
  | .input _ => 5

def location : TypeBody → DirectiveLocation
  | .scalar => .scalar
  | .object _ _ => .object
  | .interface _ _ => .interface
  | .union _ => .union
  | .enum _ => .enum
  | .input _ => .inputObject

def fieldDefs : TypeBody → List FieldDef
  | .object _ fields => fields
  | .interface _ fields => fields
  | _ => []

def inputDefs : TypeBody → List InputDef
  | .input fields => fields
  | _ => []

def valueDefs : TypeBody → List EnumValueDef
  | .enum values => values
  | _ => []

/-- The names of all types the body mentions. -/
def mentions : TypeBody → List String
  | .scalar => []
  | .object interfaces fields => interfaces ++ fields.flatMap fieldMentions
  | .interface interfaces fields => interfaces ++ fields.flatMap fieldMentions
  | .union members => members
  | .enum _ => []
  | .input fields => fields.map fun f => f.type.namedType
where
  fieldMentions (f : FieldDef) : List String :=
    (f.arguments.map fun a => a.type.namedType) ++ [f.type.namedType]

end TypeBody

def FieldDef.sites (f : FieldDef) : List DirectiveSite :=
  ⟨.fieldDefinition, f.directives⟩ ::
    f.arguments.map fun a => ⟨.argumentDefinition, a.directives⟩

/-- The directives inside a type, those on the type itself left out. -/
def TypeDef.innerSites (t : TypeDef) : List DirectiveSite :=
  t.body.fieldDefs.flatMap FieldDef.sites
    ++ (t.body.valueDefs.map fun v => ⟨.enumValue, v.directives⟩)
    ++ (t.body.inputDefs.map fun f => ⟨.inputFieldDefinition, f.directives⟩)

namespace Definition

def operationLocation : OperationKind → DirectiveLocation
  | .query => .query
  | .mutation => .mutation
  | .subscription => .subscription

/-- The directives on a definition itself. -/
def outerSite : Definition → DirectiveSite
  | .operation op => ⟨operationLocation op.kind, op.directives⟩
  | .fragment f => ⟨.fragmentDefinition, f.directives⟩
  | .schema s => ⟨.schema, s.directives⟩
  | .schemaExtension s => ⟨.schema, s.directives⟩
  | .type t => ⟨t.body.location, t.directives⟩
  | .typeExtension t => ⟨t.body.location, t.directives⟩
  | .directive d => ⟨.directiveDefinition, d.directives⟩
  | .directiveExtension d => ⟨.directiveDefinition, d.directives⟩

/-- The directives inside a definition. -/
def innerSites : Definition → List DirectiveSite
  | .operation op =>
    (op.variableDefs.map fun v => ⟨.variableDefinition, v.directives⟩) ++ Selection.sitesOf op.selections
  | .fragment f => Selection.sitesOf f.selections
  | .type t => t.innerSites
  | .typeExtension t => t.innerSites
  | .directive d => d.arguments.map fun a => ⟨.argumentDefinition, a.directives⟩
  | .schema _ => []
  | .schemaExtension _ => []
  | .directiveExtension _ => []

def sites (d : Definition) : List DirectiveSite := d.outerSite :: d.innerSites

/-- The types a type system definition mentions. -/
def systemMentions : Definition → List String
  | .schema s => s.roots.map RootDef.type
  | .schemaExtension s => s.roots.map RootDef.type
  | .type t => t.body.mentions
  | .typeExtension t => t.body.mentions
  | .directive d => d.arguments.map fun a => a.type.namedType
  | .operation _ => []
  | .fragment _ => []
  | .directiveExtension _ => []

/-- The types an operation or fragment mentions. -/
def executableMentions : Definition → List String
  | .operation op =>
    (op.variableDefs.map fun v => v.type.namedType) ++ Selection.conditionsOf op.selections
  | .fragment f => f.condition :: Selection.conditionsOf f.selections
  | _ => []

/-- The literals of a definition that belong to no argument: default values. -/
def defaults : Definition → List Literal
  | .operation op => op.variableDefs.filterMap VariableDef.default
  | .type t => typeDefaults t
  | .typeExtension t => typeDefaults t
  | .directive d => d.arguments.filterMap InputDef.default
  | _ => []
where
  typeDefaults (t : TypeDef) : List Literal :=
    (t.body.fieldDefs.flatMap fun f => f.arguments.filterMap InputDef.default)
      ++ t.body.inputDefs.filterMap InputDef.default

/-- The argument lists of the fields and directives of a definition. -/
def argumentLists (d : Definition) : List (List Argument) :=
  let fields := match d with
    | .operation op => Selection.argumentListsOf op.selections
    | .fragment f => Selection.argumentListsOf f.selections
    | _ => []
  fields ++ d.sites.flatMap fun site => site.directives.map Directive.arguments

end Definition

namespace Document

def typeDefs (document : Document) : List TypeDef :=
  document.filterMap fun d => match d with
    | .type t => some t
    | _ => none

def typeExtensions (document : Document) : List TypeDef :=
  document.filterMap fun d => match d with
    | .typeExtension t => some t
    | _ => none

def directiveDefs (document : Document) : List DirectiveDef :=
  document.filterMap fun d => match d with
    | .directive d => some d
    | _ => none

/-- The name of a directive that is defined or extended, and the directives put on it there. -/
def directiveNodes (document : Document) : List DirectiveExtension :=
  document.filterMap fun d => match d with
    | .directive d => some ⟨d.name, d.directives⟩
    | .directiveExtension d => some d
    | _ => none

def schemaDefs (document : Document) : List SchemaDef :=
  document.filterMap fun d => match d with
    | .schema s => some s
    | _ => none

def schemaExtensions (document : Document) : List SchemaDef :=
  document.filterMap fun d => match d with
    | .schemaExtension s => some s
    | _ => none

/-- Definitions and extensions of types, in the order of the document. -/
def typeNodes (document : Document) : List TypeDef :=
  document.filterMap fun d => match d with
    | .type t => some t
    | .typeExtension t => some t
    | _ => none

/-- Definitions and extensions of the schema, in the order of the document. -/
def schemaNodes (document : Document) : List SchemaDef :=
  document.filterMap fun d => match d with
    | .schema s => some s
    | .schemaExtension s => some s
    | _ => none

/-- The directive that a name means. A definition in the document wins over the specification. -/
def directiveDef? (document : Document) (name : String) : Option DirectiveDef :=
  (document.directiveDefs.reverse ++ Schema.standardDirectives).find? fun d => d.name == name

def typeNames (document : Document) : List String := document.typeDefs.map TypeDef.name

/-! ### The rules -/

def schemaNodeFaults (document : Document) : List SchemaFault :=
  (if 1 < document.schemaDefs.length then [.repeatedSchema] else [])
    ++ (repetitions (document.schemaNodes.flatMap fun s => s.roots.map RootDef.kind)).map
        .repeatedRoot

/-- Parts with the same name in a type and its extensions. -/
def partFaults (document : Document) : List SchemaFault :=
  let nodes := document.typeNodes
  let values := nodes.flatMap fun t => t.body.valueDefs.map fun v => (t.name, v.name)
  let fields := nodes.flatMap fun t =>
    (t.body.fieldDefs.map fun f => (t.name, f.name))
      ++ t.body.inputDefs.map fun f => (t.name, f.name)
  let arguments := nodes.flatMap fun t => t.body.fieldDefs.flatMap fun f =>
    (repetitions (f.arguments.map InputDef.name)).map fun a => (t.name ++ "." ++ f.name, a)
  let directiveArguments := document.directiveDefs.flatMap fun d =>
    (repetitions (d.arguments.map InputDef.name)).map fun a => ("@" ++ d.name, a)
  ((repetitions values).map fun (t, v) => .repeatedEnumValue t v)
    ++ ((repetitions fields).map fun (t, f) => .repeatedField t f)
    ++ (arguments ++ directiveArguments).map fun (o, a) => .repeatedArgumentDef o a

def nameFaults (document : Document) : List SchemaFault :=
  (repetitions document.typeNames).map .repeatedType
    ++ (repetitions (document.directiveDefs.map DirectiveDef.name)).map .repeatedDirectiveDef

def mentionFaults (document : Document) : List SchemaFault :=
  let known := document.typeNames
  let system := (document.flatMap Definition.systemMentions).filter fun name =>
    !(known.contains name || Schema.isStandardName name)
  let executable := (document.flatMap Definition.executableMentions).filter fun name =>
    !known.contains name
  (system ++ executable).map .unknownType

/-- What is wrong with one use of a directive, by itself. -/
def directiveUseFaults (document : Document) (location : DirectiveLocation) (d : Directive) :
    List SchemaFault :=
  match document.directiveDef? d.name with
  | none => [.unknownDirective d.name]
  | some definition =>
    (if definition.locations.contains location then [] else [.misplacedDirective d.name location])
      ++ ((d.arguments.filter fun a => !(definition.arguments.map InputDef.name).contains a.name).map
          fun a => .unknownDirectiveArgument d.name a.name)
      ++ ((definition.arguments.filter fun a =>
            a.isRequired && !(d.arguments.map Argument.name).contains a.name).map
          fun a => .missingDirectiveArgument d.name a.name)

/-- Groups of directives in which a name may occur once only: all those on the schema, all those on a
type or a directive and its extensions, and each other site by itself. -/
def directiveGroups (document : Document) : List (List Directive) :=
  let onSchema := document.schemaNodes.flatMap SchemaDef.directives
  let onTypes := document.typeNodes.map fun t =>
    (document.typeNodes.filter fun u => u.name == t.name).flatMap TypeDef.directives
  let onDirectives := document.directiveNodes.map fun d =>
    (document.directiveNodes.filter fun e => e.name == d.name).flatMap DirectiveExtension.directives
  let others := document.flatMap fun d => match d with
    | .operation op => [op.directives]
    | .fragment f => [f.directives]
    | _ => []
  let inner := document.flatMap fun d => d.innerSites.map DirectiveSite.directives
  onSchema :: (onTypes ++ onDirectives ++ others ++ inner)

def isRepeatable (document : Document) (name : String) : Bool :=
  match document.directiveDef? name with
  | some d => d.repeatable
  | none => true

def directiveFaults (document : Document) : List SchemaFault :=
  let sites := document.flatMap Definition.sites
  (sites.flatMap fun site => site.directives.flatMap (document.directiveUseFaults site.location))
    ++ document.directiveGroups.flatMap fun group =>
        ((repetitions (group.map Directive.name)).filter fun name =>
          !document.isRepeatable name).map .repeatedDirective

def extensionFaults (document : Document) : List SchemaFault :=
  document.typeExtensions.flatMap fun t =>
    match (document.typeDefs.reverse.find? fun d => d.name == t.name) with
    | none => [.extendsUnknown t.name]
    | some d => if d.body.kindIndex == t.body.kindIndex then [] else [.extendsOtherKind t.name]

def argumentFaults (document : Document) : List SchemaFault :=
  let lists := document.flatMap Definition.argumentLists
  let literals := document.flatMap Definition.defaults
    ++ lists.flatMap fun arguments => arguments.map Argument.value
  (lists.flatMap fun arguments => (repetitions (arguments.map Argument.name)).map .repeatedArgument)
    ++ (literals.flatMap Literal.repeatedFields).map .repeatedInputField

/-- Everything that keeps a document from being turned into a schema. -/
def schemaFaults (document : Document) : List SchemaFault :=
  document.schemaNodeFaults ++ document.nameFaults ++ document.partFaults ++ document.mentionFaults
    ++ document.directiveFaults ++ document.extensionFaults ++ document.argumentFaults

end Document

end OperationSamples
