import OperationSamples.Schema.Circle

/-!
What is wrong with a schema.

A document can describe a schema that breaks the rules of the type system. `Schema.issues` lists what
is wrong: first the root types, then the directives, then the types in their order, and last the
circles of input types.
-/

namespace OperationSamples

namespace Schema

open SchemaIssue

/-! ### Kinds of types -/

def isInputType (schema : Schema) (type : TypeRef) : Bool :=
  match schema.type? type.namedType with
  | some t => t.kind? == none || t.kind? == some .scalar || t.kind? == some .enum
  | none => false

def isOutputType (schema : Schema) (type : TypeRef) : Bool :=
  match schema.type? type.namedType with
  | some t => t.kind?.isSome
  | none => false

/-- Whether values of one type can stand where another is expected. -/
def isCovariant (schema : Schema) : TypeRef → TypeRef → Bool
  | .nonNull sub, .nonNull super => isCovariant schema sub super
  | _, .nonNull _ => false
  | .nonNull sub, super => isCovariant schema sub super
  | .list sub, .list super => isCovariant schema sub super
  | _, .list _ => false
  | .list _, _ => false
  | .named sub, .named super =>
    sub == super ||
      match schema.type? super, schema.type? sub with
      | some general, some special =>
        general.isAbstract && special.isComposite && isSubType general special
      | _, _ => false

/-! ### Names, arguments and fields -/

def nameIssues (name : String) : List SchemaIssue :=
  if name.startsWith "__" then [.reservedName name] else []

def isDeprecated (directives : List Directive) : Bool :=
  directives.any fun d => d.name == "deprecated"

/-- What does not fit in the default value. -/
def defaultIssues (schema : Schema) (place : String) (d : InputDef) : List SchemaIssue :=
  match d.default with
  | none => []
  | some value => (schema.misfits value d.type).map (.invalidDefault place)

def argumentPlace (owner argument : String) : String := owner ++ "(" ++ argument ++ ":)"

def argumentIssues (schema : Schema) (owner : String) (a : InputDef) : List SchemaIssue :=
  let place := argumentPlace owner a.name
  nameIssues a.name
    ++ (if schema.isInputType a.type then [] else [.notInput place a.type.text])
    ++ (if a.isRequired && isDeprecated a.directives then [.deprecatedArgument place] else [])
    ++ schema.defaultIssues place a

def fieldIssues (schema : Schema) (type : String) (f : FieldDef) : List SchemaIssue :=
  let place := fieldPlace type f.name
  nameIssues f.name
    ++ (if schema.isOutputType f.type then [] else [.notOutput place f.type.text])
    ++ f.arguments.flatMap (argumentIssues schema place)

def fieldsIssues (schema : Schema) (type : String) (fields : List FieldDef) : List SchemaIssue :=
  (if fields.isEmpty then [.noFields type] else []) ++ fields.flatMap (fieldIssues schema type)

/-! ### Interfaces -/

def fieldDefsOf (t : TypeDef) : List FieldDef :=
  match t.body with
  | .object _ fields => fields
  | .interface _ fields => fields
  | _ => []

def ancestorIssues (t interface : TypeDef) : List SchemaIssue :=
  interface.interfaces.filterMap fun ancestor =>
    if t.interfaces.contains ancestor then none
    else if ancestor == t.name then some (.circularInterface t.name interface.name)
    else some (.ancestorMissing t.name ancestor interface.name)

/-- How the arguments of a field differ from those that the interface asks for. -/
def implementedArgumentIssues (field interfaceField : String) (own expected : List InputDef) :
    List SchemaIssue :=
  let missing := expected.filterMap fun e =>
    match own.find? fun a => a.name == e.name with
    | none => some (.argumentMissing (argumentPlace interfaceField e.name) field)
    | some a =>
      if a.type = e.type then none
      else some (.argumentMismatch (argumentPlace interfaceField e.name) e.type.text
        (argumentPlace field a.name) a.type.text)
  let added := own.filterMap fun a =>
    if a.isRequired && !(expected.any fun e => e.name == a.name) then
      some (.argumentAdded (argumentPlace field a.name) a.type.text interfaceField)
    else none
  missing ++ added

def implementedFieldIssues (schema : Schema) (t interface : TypeDef) (expected : FieldDef) :
    List SchemaIssue :=
  let interfaceField := fieldPlace interface.name expected.name
  let field := fieldPlace t.name expected.name
  match (fieldDefsOf t).find? fun f => f.name == expected.name with
  | none => [.fieldMissing t.name interfaceField]
  | some f =>
    (if schema.isCovariant f.type expected.type then []
      else [.fieldMismatch interfaceField expected.type.text field f.type.text])
    ++ implementedArgumentIssues field interfaceField f.arguments expected.arguments
    ++ (if isDeprecated f.directives && !isDeprecated expected.directives then
          [.deprecatedField interfaceField field] else [])

/-- Checks the interfaces one after the other; `known` are those checked before. -/
def interfaceIssues (schema : Schema) (t : TypeDef) (known : List String) :
    List String → List SchemaIssue
  | [] => []
  | name :: rest =>
    match (schema.type? name).filter TypeDef.isInterface with
    | none => .notInterface t.name name :: interfaceIssues schema t known rest
    | some interface =>
      let itself := if name == t.name then [.implementsItself t.name] else []
      if known.contains name then
        itself ++ .repeatedInterface t.name name :: interfaceIssues schema t known rest
      else
        itself ++ ancestorIssues t interface
          ++ (fieldDefsOf interface).flatMap (implementedFieldIssues schema t interface)
          ++ interfaceIssues schema t (name :: known) rest

/-! ### Unions, enums and input types -/

def memberIssues (schema : Schema) (union : String) (known : List String) :
    List String → List SchemaIssue
  | [] => []
  | name :: rest =>
    if !((schema.type? name).any TypeDef.isObject) then
      .memberNotObject union name :: memberIssues schema union known rest
    else if known.contains name then
      .repeatedMember union name :: memberIssues schema union known rest
    else memberIssues schema union (name :: known) rest

def inputFieldIssues (schema : Schema) (t : TypeDef) (f : InputDef) : List SchemaIssue :=
  let place := fieldPlace t.name f.name
  nameIssues f.name
    ++ (if schema.isInputType f.type then [] else [.notInput place f.type.text])
    ++ (if f.isRequired && isDeprecated f.directives then [.deprecatedInputField place] else [])
    ++ schema.defaultIssues place f
    ++ (if t.isOneOf && f.type.isNonNull then [.oneOfRequired place] else [])
    ++ (if t.isOneOf && f.default.isSome then [.oneOfDefault place] else [])

def inputFieldsIssues (schema : Schema) (t : TypeDef) (fields : List InputDef) :
    List SchemaIssue :=
  (if fields.isEmpty then [.noInputFields t.name] else [])
    ++ fields.flatMap (inputFieldIssues schema t)

/-! ### The whole schema -/

def rootKinds : List OperationKind := [.query, .mutation, .subscription]

def rootIssues (schema : Schema) : List SchemaIssue :=
  let roots := rootKinds.filterMap fun kind => (schema.rootType? kind).map fun t => (kind, t)
  let objects := roots.filter fun (_, t) => t.isObject
  let names := (objects.map fun (_, t) => t.name).eraseDups
  (if (schema.rootType? .query).isNone then [.queryMissing] else [])
    ++ (roots.filter fun (_, t) => !t.isObject).map (fun (kind, t) => .rootNotObject kind t.name)
    ++ names.filterMap fun name =>
        let kinds := (objects.filter fun (_, t) => t.name == name).map Prod.fst
        if 1 < kinds.length then some (.rootShared name kinds) else none

def directiveIssues (schema : Schema) (d : DirectiveDef) : List SchemaIssue :=
  nameIssues d.name ++ d.arguments.flatMap (argumentIssues schema ("@" ++ d.name))

/-- The issues of a type; the search for circles of default values goes on from one to the next. The types
that describe schemas have reserved names by right. -/
def typeIssues (schema : Schema) (seen : List String) (t : TypeDef) :
    Search :=
  let name := if (introspectionTypes.any fun i => i.name == t.name) then [] else nameIssues t.name
  match t.body with
  | .object interfaces fields =>
    ⟨seen, name ++ fieldsIssues schema t.name fields ++ interfaceIssues schema t [] interfaces⟩
  | .interface interfaces fields =>
    ⟨seen, name ++ fieldsIssues schema t.name fields ++ interfaceIssues schema t [] interfaces⟩
  | .union members =>
    ⟨seen, name ++ (if members.isEmpty then [.noMembers t.name] else [])
      ++ memberIssues schema t.name [] members⟩
  | .enum values =>
    ⟨seen, name ++ (if values.isEmpty then [.noValues t.name] else [])
      ++ values.flatMap fun v => nameIssues v.name⟩
  | .input fields =>
    let circles := searchDefaults schema seen t
    ⟨circles.seen, name ++ inputFieldsIssues schema t fields ++ circles.issues⟩
  | .scalar => ⟨seen, name⟩

def typesIssues (schema : Schema) (seen : List String) :
    List TypeDef → List SchemaIssue
  | [] => []
  | t :: rest =>
    let found := typeIssues schema seen t
    found.issues ++ typesIssues schema found.seen rest

/-- Everything that is wrong with a schema. -/
def issues (schema : Schema) : List SchemaIssue :=
  rootIssues schema ++ schema.directives.flatMap (directiveIssues schema)
    ++ typesIssues schema [] schema.types
    ++ infiniteIssues schema

/-- The issues of a schema that can be examined to the end, or what prevents that. -/
def examine (schema : Schema) : Except SchemaIssue (List SchemaIssue) :=
  match schema.issues.find? SchemaIssue.isFatal with
  | some issue => .error issue
  | none => .ok schema.issues

end Schema

end OperationSamples
