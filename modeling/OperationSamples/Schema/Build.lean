import OperationSamples.Document.Parser
import OperationSamples.Schema.Fit
import OperationSamples.Schema.Rules

/-!
Building a schema from a document.

Types keep the order of the document, and what extensions add comes after what the definition has.
A name of a standard type always means the standard type. The roots are those that the schema
definition names; without one they are the types called Query, Mutation and Subscription.

A document that passes the rules can still fail to become a schema: two standard directives take a
text, and another literal there is objected to when it is reached (`Schema.obstacles`).
-/

namespace OperationSamples

/-- Why a text gives no schema. -/
inductive SchemaError where
  | syntaxFault (fault : SyntaxFault)
  | invalid (faults : List SchemaFault)
  /-- An argument of a standard directive is not a text, or was left out. The owner is the type whose
  fields cannot be built because of it. -/
  | directiveValue (owner : Option String) (argument : String) (reason : Option MisfitReason)
deriving DecidableEq, Repr

/-- The wording of an unfit directive argument. -/
def SchemaError.directiveMessage (owner : Option String) (argument : String)
    (reason : Option MisfitReason) : String :=
  (owner.map fun type => type ++ " fields cannot be resolved. ").getD ""
    ++ "Argument '" ++ argument ++ "' "
    ++ match reason with
      | some reason => "has invalid value: " ++ reason.message
      | none => "of required type 'String!' was not provided."

/-- The elements of a list by name: a later one with the name of an earlier one takes its place. -/
def byName {α : Type} (name : α → String) (items : List α) : List α :=
  items.foldl (fun kept item =>
    if kept.any fun other => name other == name item then
      kept.map fun other => if name other == name item then item else other
    else kept ++ [item]) []

namespace Schema

def cleanField (f : FieldDef) : FieldDef := { f with arguments := byName InputDef.name f.arguments }

/-- A type body with what another body of the same kind adds. -/
def extendBody (base extension : TypeBody) : TypeBody :=
  match base, extension with
  | .object interfaces fields, .object moreInterfaces moreFields =>
    .object (interfaces ++ moreInterfaces) (fields ++ moreFields)
  | .interface interfaces fields, .interface moreInterfaces moreFields =>
    .interface (interfaces ++ moreInterfaces) (fields ++ moreFields)
  | .union members, .union more => .union (members ++ more)
  | .enum values, .enum more => .enum (values ++ more)
  | .input fields, .input more => .input (fields ++ more)
  | _, _ => base

/-- One part per name. -/
def cleanBody : TypeBody → TypeBody
  | .scalar => .scalar
  | .object interfaces fields =>
    .object interfaces ((byName FieldDef.name fields).map cleanField)
  | .interface interfaces fields =>
    .interface interfaces ((byName FieldDef.name fields).map cleanField)
  | .union members => .union members
  | .enum values => .enum (byName EnumValueDef.name values)
  | .input fields => .input (byName InputDef.name fields)

/-- The extensions of a type; those of another kind do not count. -/
def extensionsOf (extensions : List TypeDef) (t : TypeDef) : List TypeDef :=
  extensions.filter fun e => e.name == t.name && e.body.kindIndex == t.body.kindIndex

/-- A defined type with what its extensions add. Directives count where they stand on the definition. -/
def extended (extensions : List TypeDef) (t : TypeDef) : TypeDef :=
  { t with
    body := (extensionsOf extensions t).foldl (fun body e => extendBody body e.body) t.body }

/-- A defined type with its extensions, or the standard type of that name. -/
def buildType (extensions : List TypeDef) (t : TypeDef) : TypeDef :=
  match standardType? t.name with
  | some standard => standard
  | none =>
    let t := extended extensions t
    { t with body := cleanBody t.body }

/-- The last root given for a kind of operation. -/
def lastRoot (roots : List RootDef) (kind : OperationKind) : Option String :=
  (roots.reverse.find? fun r => r.kind = kind).map RootDef.type

def conventionalRoot : OperationKind → String
  | .query => "Query"
  | .mutation => "Mutation"
  | .subscription => "Subscription"

/-- The roots of the last schema definition and of the extensions. -/
def declaredRoots (document : Document) : List RootDef :=
  (document.schemaDefs.getLast?.toList ++ document.schemaExtensions).flatMap SchemaDef.roots

def rootName (document : Document) (names : List String) (kind : OperationKind) : Option String :=
  let declared := lastRoot (declaredRoots document) kind
  if document.schemaDefs.isEmpty && names.contains (conventionalRoot kind) then
    some (conventionalRoot kind)
  else declared

/-- The schema that a document describes. -/
def ofDocument (document : Document) : Schema :=
  let types := (byName TypeDef.name document.typeDefs).map (buildType document.typeExtensions)
  let directives := document.directiveDefs
    ++ standardDirectives.filter fun d =>
        !(document.directiveDefs.map DirectiveDef.name).contains d.name
  let names := types.map TypeDef.name
  let mentioned := types.flatMap (fun t => t.body.mentions)
    ++ (directives.flatMap fun d => d.arguments.map fun a => a.type.namedType)
    ++ (declaredRoots document).map RootDef.type
    ++ everPresentScalars
  let scalars := builtinScalars.filter fun name => mentioned.contains name && !names.contains name
  let introspection := introspectionTypes.filter fun t => !names.contains t.name
  { types := types ++ scalars.map scalarType ++ introspection
    directives := directives
    query := rootName document names .query
    mutation := rootName document names .mutation
    subscription := rootName document names .subscription }

/-! ### Obstacles -/

/-- An obstacle in the text that a standard directive gives, if the directive is used. Of several uses
the first counts. -/
def textObstacle (owner : Option String) (directive argument : String) (optional : Bool)
    (directives : List Directive) : List SchemaError :=
  match directives.find? fun d => d.name == directive with
  | none => []
  | some d =>
    match d.arguments.reverse.find? fun a => a.name == argument with
    | none => if optional then [] else [.directiveValue owner argument none]
    | some a => ((textReason? a.value).map fun r => .directiveValue owner argument (some r)).toList

def deprecationObstacles (owner : Option String) (directives : List Directive) : List SchemaError :=
  textObstacle owner "deprecated" "reason" true directives

def addressObstacles (directives : List Directive) : List SchemaError :=
  textObstacle none "specifiedBy" "url" false directives

/-- The name of a type that is neither defined nor standard. -/
def nameObstacles (document : Document) (name : String) : List SchemaError :=
  if document.typeNames.contains name || isStandardName name then []
  else [.invalid [.unknownType name]]

def inputObstacles (document : Document) (owner : Option String) (d : InputDef) : List SchemaError :=
  nameObstacles document d.type.namedType ++ deprecationObstacles owner d.directives

def fieldObstacles (document : Document) (owner : String) (f : FieldDef) : List SchemaError :=
  nameObstacles document f.type.namedType
    ++ f.arguments.flatMap (inputObstacles document (some owner))
    ++ deprecationObstacles (some owner) f.directives

/-- Obstacles in enums and scalars, which are complete by themselves. -/
def leafObstacles (extensions : List TypeDef) (t : TypeDef) : List SchemaError :=
  match (extended extensions t).body with
  | .enum values => values.flatMap fun v => deprecationObstacles none v.directives
  | .scalar =>
    (t :: extensionsOf extensions t).flatMap fun part => addressObstacles part.directives
  | _ => []

/-- Obstacles in types that mention other types. -/
def bodyObstacles (document : Document) (t : TypeDef) : List SchemaError :=
  match (extended document.typeExtensions t).body with
  | .object interfaces fields =>
    interfaces.flatMap (nameObstacles document) ++ fields.flatMap (fieldObstacles document t.name)
  | .interface interfaces fields =>
    interfaces.flatMap (nameObstacles document) ++ fields.flatMap (fieldObstacles document t.name)
  | .union members => members.flatMap (nameObstacles document)
  | .input fields => fields.flatMap (inputObstacles document (some t.name))
  | _ => []

def directiveObstacles (document : Document) (d : DirectiveDef) : List SchemaError :=
  d.arguments.flatMap (inputObstacles document none) ++ deprecationObstacles none d.directives

/-- What keeps a document from becoming a schema, in the order in which building meets it: enums and
scalars, the roots, the directives, then the other types. -/
def obstacles (document : Document) : List SchemaError :=
  let types := (byName TypeDef.name document.typeDefs).filter fun t => !isStandardName t.name
  types.flatMap (leafObstacles document.typeExtensions)
    ++ (declaredRoots document).flatMap (fun r => nameObstacles document r.type)
    ++ document.directiveDefs.flatMap (directiveObstacles document)
    ++ types.flatMap (bodyObstacles document)

/-- Builds the schema of a parsed document, with or without the rules. -/
def build (assumeValid : Bool) (document : Document) : Except SchemaError Schema :=
  let faults := if assumeValid then [] else document.schemaFaults
  if !faults.isEmpty then .error (.invalid faults)
  else match (obstacles document).head? with
    | some obstacle => .error obstacle
    | none => .ok (ofDocument document)

/-- Reads a schema. -/
def parse (text : String) (assumeValid : Bool) : Except SchemaError Schema :=
  match Document.parse text with
  | .error fault => .error (.syntaxFault fault)
  | .ok document => build assumeValid document

end Schema

end OperationSamples
