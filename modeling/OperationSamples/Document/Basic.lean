import OperationSamples.Selection.Basic

/-!
Documents.

A document is a list of definitions: operations and fragments, and the type system definitions that
make up a schema. The body of a type (`TypeBody`) is the same for a definition and for an extension,
and also serves as the type of a finished schema.
-/

namespace OperationSamples

inductive OperationKind where
  | query
  | mutation
  | subscription
deriving DecidableEq, Repr, Inhabited

def OperationKind.word : OperationKind → String
  | .query => "query"
  | .mutation => "mutation"
  | .subscription => "subscription"

def OperationKind.ofWord? (word : String) : Option OperationKind :=
  [OperationKind.query, .mutation, .subscription].find? fun kind => kind.word == word

structure VariableDef where
  name : String
  type : TypeRef
  default : Option Literal
  directives : List Directive
deriving Repr, Inhabited

structure Operation where
  kind : OperationKind
  name : Option String
  variableDefs : List VariableDef
  directives : List Directive
  selections : List Selection
deriving Repr, Inhabited

structure Fragment where
  name : String
  condition : String
  directives : List Directive
  selections : List Selection
deriving Repr, Inhabited

/-- An argument of a field or directive, or a field of an input type. -/
structure InputDef where
  name : String
  type : TypeRef
  default : Option Literal
  directives : List Directive
deriving Repr, Inhabited

/-- Whether a value must be given. -/
def InputDef.isRequired (d : InputDef) : Bool := d.type.isNonNull && d.default.isNone

structure FieldDef where
  name : String
  arguments : List InputDef
  type : TypeRef
  directives : List Directive
deriving Repr, Inhabited

structure EnumValueDef where
  name : String
  directives : List Directive
deriving Repr, Inhabited

inductive TypeBody where
  | scalar
  | object (interfaces : List String) (fields : List FieldDef)
  | interface (interfaces : List String) (fields : List FieldDef)
  | union (members : List String)
  | enum (values : List EnumValueDef)
  | input (fields : List InputDef)
deriving Repr, Inhabited

structure TypeDef where
  name : String
  directives : List Directive
  body : TypeBody
deriving Repr, Inhabited

structure RootDef where
  kind : OperationKind
  type : String
deriving DecidableEq, Repr, Inhabited

structure SchemaDef where
  directives : List Directive
  roots : List RootDef
deriving Repr, Inhabited

/-- Where a directive may stand. -/
inductive DirectiveLocation where
  | query
  | mutation
  | subscription
  | field
  | fragmentDefinition
  | fragmentSpread
  | inlineFragment
  | variableDefinition
  | fragmentVariableDefinition
  | schema
  | scalar
  | object
  | fieldDefinition
  | argumentDefinition
  | interface
  | union
  | enum
  | enumValue
  | inputObject
  | inputFieldDefinition
  | directiveDefinition
deriving DecidableEq, Repr, Inhabited

namespace DirectiveLocation

def word : DirectiveLocation → String
  | .query => "QUERY"
  | .mutation => "MUTATION"
  | .subscription => "SUBSCRIPTION"
  | .field => "FIELD"
  | .fragmentDefinition => "FRAGMENT_DEFINITION"
  | .fragmentSpread => "FRAGMENT_SPREAD"
  | .inlineFragment => "INLINE_FRAGMENT"
  | .variableDefinition => "VARIABLE_DEFINITION"
  | .fragmentVariableDefinition => "FRAGMENT_VARIABLE_DEFINITION"
  | .schema => "SCHEMA"
  | .scalar => "SCALAR"
  | .object => "OBJECT"
  | .fieldDefinition => "FIELD_DEFINITION"
  | .argumentDefinition => "ARGUMENT_DEFINITION"
  | .interface => "INTERFACE"
  | .union => "UNION"
  | .enum => "ENUM"
  | .enumValue => "ENUM_VALUE"
  | .inputObject => "INPUT_OBJECT"
  | .inputFieldDefinition => "INPUT_FIELD_DEFINITION"
  | .directiveDefinition => "DIRECTIVE_DEFINITION"

def all : List DirectiveLocation :=
  [.query, .mutation, .subscription, .field, .fragmentDefinition, .fragmentSpread, .inlineFragment,
    .variableDefinition, .fragmentVariableDefinition, .schema, .scalar, .object, .fieldDefinition,
    .argumentDefinition, .interface, .union, .enum, .enumValue, .inputObject, .inputFieldDefinition,
    .directiveDefinition]

def ofWord? (word : String) : Option DirectiveLocation :=
  all.find? fun location => location.word == word

end DirectiveLocation

structure DirectiveDef where
  name : String
  arguments : List InputDef
  directives : List Directive
  repeatable : Bool
  locations : List DirectiveLocation
deriving Repr, Inhabited

/-- Further directives on a directive that is defined elsewhere, or nowhere. -/
structure DirectiveExtension where
  name : String
  directives : List Directive
deriving Repr, Inhabited

inductive Definition where
  | operation (op : Operation)
  | fragment (f : Fragment)
  | schema (s : SchemaDef)
  | type (t : TypeDef)
  | directive (d : DirectiveDef)
  | schemaExtension (s : SchemaDef)
  | typeExtension (t : TypeDef)
  | directiveExtension (d : DirectiveExtension)
deriving Repr, Inhabited

abbrev Document := List Definition

namespace Document

def fragments (document : Document) : List Fragment :=
  document.filterMap fun definition => match definition with
    | .fragment f => some f
    | _ => none

def operations (document : Document) : List Operation :=
  document.filterMap fun definition => match definition with
    | .operation op => some op
    | _ => none

end Document

end OperationSamples
