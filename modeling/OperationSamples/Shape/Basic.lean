import OperationSamples.Name
import OperationSamples.Selection.Analysis
import OperationSamples.Shape.Sample
import OperationSamples.Text.Case

/-!
Shapes: the structural types of selected objects, with their sample values.

A shape has a name, the name of the object type it stands for, and a list of fields. The declared
type of a field is its `Content`. Content refers to other shapes through the type parameter, which
is the shapes themselves here and their names where only names are known. Beside its fields a shape
has a sample value and the list of the shapes it depends on. Whoever builds a shape writes all
three.

Shapes carry an identity. Two shapes may have the same name and still be different shapes.
-/

namespace OperationSamples

inductive Content (α : Type) where
  /-- The discriminant: the names a value can have. -/
  | typename (literals : List String)
  | scalar (type : Option String)
  | enum (literals : List String)
  | shape (target : α)
  | union (members : List α)
  /-- An object of which only the discriminant is known. -/
  | minimal (literals : List String)
deriving Repr, Inhabited

structure Field (α : Type) where
  name : String
  isList : Bool
  isNullable : Bool
  content : Content α
deriving Repr, Inhabited

structure Shape where
  id : Nat
  name : ShapeName
  typeName : String
  path : String
  depth : Nat
  fields : List (Field Shape)
  /-- The sample, with one member per field name. -/
  value : List (String × Sample)
  /-- The shapes it refers to. -/
  dependencies : List Shape
deriving Repr, Inhabited

namespace Content

variable {α β : Type}

/-- The word for the kind of content. -/
def word : Content α → String
  | .typename _ => "typename"
  | .scalar _ => "scalar"
  | .enum _ => "enum"
  | .shape _ => "shape"
  | .union _ => "union"
  | .minimal _ => "minimal"

def literals : Content α → List String
  | .typename literals => literals
  | .enum literals => literals
  | .minimal literals => literals
  | _ => []

/-- The shape that a field is fixed to. -/
def target? : Content α → Option α
  | .shape target => some target
  | _ => none

def members : Content α → List α
  | .union members => members
  | _ => []

def scalarType? : Content α → Option String
  | .scalar type => type
  | _ => none

/-- The shapes that content refers to, in order. -/
def targets : Content α → List α
  | .shape target => [target]
  | .union members => members
  | _ => []

def map (f : α → β) : Content α → Content β
  | .typename literals => .typename literals
  | .scalar type => .scalar type
  | .enum literals => .enum literals
  | .shape target => .shape (f target)
  | .union members => .union (members.map f)
  | .minimal literals => .minimal literals

end Content

namespace Field

variable {α β : Type}

def map (f : α → β) (field : Field α) : Field β := { field with content := field.content.map f }

end Field

/-! ### Types of scalars -/

/-- Whether a list occurs inside another. -/
def occursIn (part : List Char) : List Char → Bool
  | [] => part.isEmpty
  | c :: rest => part.isPrefixOf (c :: rest) || occursIn part rest

/-- The declared type of a scalar's values. Nothing is known about custom scalars, but those with a
date in their name are texts. -/
def scalarType (name : String) : String :=
  match name with
  | "ID" => "string"
  | "String" => "string"
  | "Int" => "number"
  | "Float" => "number"
  | "Boolean" => "boolean"
  | _ => if occursIn "date".toList (Text.lowerText name.toList) then "string" else "any"

end OperationSamples
