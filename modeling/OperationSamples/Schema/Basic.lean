import OperationSamples.Document.Basic

/-!
Schemas.

A schema is a list of types with the names of its three root types. Types refer to each other by
name, and `Schema.type?` looks a name up. The order of the list is the order of the possible types
of an interface.
-/

namespace OperationSamples

/-- The kinds of types whose values a selection can reach. Input types are left out. -/
inductive TypeKind where
  | scalar
  | enum
  | object
  | interface
  | union
deriving DecidableEq, Repr, Inhabited

namespace TypeKind

def word : TypeKind → String
  | .scalar => "scalar"
  | .enum => "enum"
  | .object => "object"
  | .interface => "interface"
  | .union => "union"

/-- Leaves have no selections below them. -/
def isLeaf : TypeKind → Bool
  | .scalar => true
  | .enum => true
  | _ => false

/-- Abstract types stand for several object types. -/
def isAbstract : TypeKind → Bool
  | .interface => true
  | .union => true
  | _ => false

end TypeKind

namespace TypeDef

/-- The kind of a type, none for input types. -/
def kind? (t : TypeDef) : Option TypeKind :=
  match t.body with
  | .scalar => some .scalar
  | .enum _ => some .enum
  | .object _ _ => some .object
  | .interface _ _ => some .interface
  | .union _ => some .union
  | .input _ => none

def isObject (t : TypeDef) : Bool := t.kind? == some .object

def isInterface (t : TypeDef) : Bool := t.kind? == some .interface

def isUnion (t : TypeDef) : Bool := t.kind? == some .union

/-- Objects and interfaces, the types whose fields can be selected. -/
def isComposite (t : TypeDef) : Bool := t.isObject || t.isInterface

def isAbstract (t : TypeDef) : Bool := t.isInterface || t.isUnion

/-- The interfaces a type declares. -/
def interfaces (t : TypeDef) : List String :=
  match t.body with
  | .object interfaces _ => interfaces
  | .interface interfaces _ => interfaces
  | _ => []

/-- The fields of a type with their types. Only types of the last three kinds have none to look at;
an input type answers with its input fields. -/
def fields? (t : TypeDef) : Option (List (String × TypeRef)) :=
  match t.body with
  | .object _ fields => some (fields.map fun f => (f.name, f.type))
  | .interface _ fields => some (fields.map fun f => (f.name, f.type))
  | .input fields => some (fields.map fun f => (f.name, f.type))
  | .scalar => none
  | .enum _ => none
  | .union _ => none

def fieldType? (t : TypeDef) (name : String) : Option TypeRef :=
  ((t.fields?.getD []).find? fun f => f.1 == name).map Prod.snd

/-- The values of an enum, in order. -/
def enumValues (t : TypeDef) : List String :=
  match t.body with
  | .enum values => values.map EnumValueDef.name
  | _ => []

end TypeDef

structure Schema where
  types : List TypeDef
  directives : List DirectiveDef
  query : Option String
  mutation : Option String
  subscription : Option String
deriving Repr, Inhabited

namespace Schema

def type? (schema : Schema) (name : String) : Option TypeDef :=
  schema.types.find? fun t => t.name == name

def root? (schema : Schema) : OperationKind → Option String
  | .query => schema.query
  | .mutation => schema.mutation
  | .subscription => schema.subscription

def rootType? (schema : Schema) (kind : OperationKind) : Option TypeDef :=
  (schema.root? kind).bind schema.type?

/-- The object types that declare an interface, in the order of the schema, once per declaration. -/
def implementers (schema : Schema) (interface : String) : List String :=
  (schema.types.filter TypeDef.isObject).flatMap fun t =>
    (t.interfaces.filter fun i => i == interface).map fun _ => t.name

/-- The object types a value of the given type can have. -/
def possibleTypes (schema : Schema) (t : TypeDef) : List String :=
  match t.body with
  | .union members => members
  | .interface _ _ => schema.implementers t.name
  | _ => []

/-- Whether `candidate` is one of the types an abstract type stands for: a member of the union, or an
object or interface that declares the interface. -/
def isSubType (abstract candidate : TypeDef) : Bool :=
  match abstract.body with
  | .union members => members.contains candidate.name
  | .interface _ _ => candidate.isComposite && candidate.interfaces.contains abstract.name
  | _ => false

/-- Whether `candidate` is a concrete object type of the union or interface. -/
def isMember (abstract candidate : TypeDef) : Bool :=
  abstract.isAbstract && candidate.isObject && isSubType abstract candidate

end Schema

end OperationSamples
