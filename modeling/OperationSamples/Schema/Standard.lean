import OperationSamples.Schema.Basic

/-!
Types and directives that every schema has: the built-in scalars, the types that describe a schema to
its clients, and the directives of the specification.
-/

namespace OperationSamples.Schema

def builtinScalars : List String := ["String", "Int", "Float", "Boolean", "ID"]

/-- Scalars that the standard types and directives mention themselves. -/
def everPresentScalars : List String := ["String", "Boolean"]

def named (name : String) : TypeRef := .named name

def required (name : String) : TypeRef := .nonNull (.named name)

def requiredItems (name : String) : TypeRef := .list (.nonNull (.named name))

def requiredList (name : String) : TypeRef := .nonNull (.list (.nonNull (.named name)))

def includeDeprecated : InputDef :=
  ⟨"includeDeprecated", .nonNull (.named "Boolean"), some (.boolean false), []⟩

def plainField (name : String) (type : TypeRef) : FieldDef := ⟨name, [], type, []⟩

def filteredField (name : String) (type : TypeRef) : FieldDef := ⟨name, [includeDeprecated], type, []⟩

def objectType (name : String) (fields : List FieldDef) : TypeDef := ⟨name, [], .object [] fields⟩

def enumType (name : String) (values : List String) : TypeDef :=
  ⟨name, [], .enum (values.map fun value => ⟨value, []⟩)⟩

def scalarType (name : String) : TypeDef := ⟨name, [], .scalar⟩

def deprecationFields : List FieldDef :=
  [plainField "isDeprecated" (required "Boolean"), plainField "deprecationReason" (named "String")]

/-- The types of introspection. -/
def introspectionTypes : List TypeDef := [
  objectType "__Schema" [
    plainField "description" (named "String"),
    plainField "types" (requiredList "__Type"),
    plainField "queryType" (required "__Type"),
    plainField "mutationType" (named "__Type"),
    plainField "subscriptionType" (named "__Type"),
    filteredField "directives" (requiredList "__Directive")],
  objectType "__Type" [
    plainField "kind" (required "__TypeKind"),
    plainField "name" (named "String"),
    plainField "description" (named "String"),
    plainField "specifiedByURL" (named "String"),
    filteredField "fields" (requiredItems "__Field"),
    plainField "interfaces" (requiredItems "__Type"),
    plainField "possibleTypes" (requiredItems "__Type"),
    filteredField "enumValues" (requiredItems "__EnumValue"),
    filteredField "inputFields" (requiredItems "__InputValue"),
    plainField "ofType" (named "__Type"),
    plainField "isOneOf" (named "Boolean")],
  enumType "__TypeKind"
    ["SCALAR", "OBJECT", "INTERFACE", "UNION", "ENUM", "INPUT_OBJECT", "LIST", "NON_NULL"],
  objectType "__Field" ([
    plainField "name" (required "String"),
    plainField "description" (named "String"),
    filteredField "args" (requiredList "__InputValue"),
    plainField "type" (required "__Type")] ++ deprecationFields),
  objectType "__InputValue" ([
    plainField "name" (required "String"),
    plainField "description" (named "String"),
    plainField "type" (required "__Type"),
    plainField "defaultValue" (named "String")] ++ deprecationFields),
  objectType "__EnumValue" ([
    plainField "name" (required "String"),
    plainField "description" (named "String")] ++ deprecationFields),
  objectType "__Directive" ([
    plainField "name" (required "String"),
    plainField "description" (named "String"),
    plainField "isRepeatable" (required "Boolean"),
    plainField "locations" (requiredList "__DirectiveLocation"),
    filteredField "args" (requiredList "__InputValue")] ++ deprecationFields),
  enumType "__DirectiveLocation" (DirectiveLocation.all.map DirectiveLocation.word)]

def standardType? (name : String) : Option TypeDef :=
  (builtinScalars.map scalarType ++ introspectionTypes).find? fun t => t.name == name

def isStandardName (name : String) : Bool := (standardType? name).isSome

/-- The types that a schema adds to the standard ones; reserved names do not count. -/
def ownTypes (schema : Schema) : List TypeDef :=
  schema.types.filter fun t => !(builtinScalars.contains t.name || t.name.startsWith "__")

def condition : InputDef := ⟨"if", required "Boolean", none, []⟩

/-- The directives of the specification. -/
def standardDirectives : List DirectiveDef := [
  ⟨"include", [condition], [], false, [.field, .fragmentSpread, .inlineFragment]⟩,
  ⟨"skip", [condition], [], false, [.field, .fragmentSpread, .inlineFragment]⟩,
  ⟨"deprecated", [⟨"reason", required "String", some (.string "No longer supported" false), []⟩], [],
    false, [.fieldDefinition, .argumentDefinition, .inputFieldDefinition, .enumValue,
      .directiveDefinition]⟩,
  ⟨"specifiedBy", [⟨"url", required "String", none, []⟩], [], false, [.scalar]⟩,
  ⟨"oneOf", [], [], false, [.inputObject]⟩]

end OperationSamples.Schema
