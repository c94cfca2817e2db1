/-!
Literals, arguments, directives and type references, which operations and type definitions share.
-/

namespace OperationSamples

/-- A literal. Numbers keep their written form; a string knows whether it was written as a block. -/
inductive Literal where
  | variable (name : String)
  | int (text : String)
  | float (text : String)
  | string (value : String) (block : Bool)
  | boolean (value : Bool)
  | null
  | enumerator (name : String)
  | list (items : List Literal)
  | object (fields : List (String × Literal))
deriving Repr, BEq, Inhabited

structure Argument where
  name : String
  value : Literal
deriving Repr, BEq, Inhabited

structure Directive where
  name : String
  arguments : List Argument
deriving Repr, BEq, Inhabited

/-- A named type under list and non-null modifiers. -/
inductive TypeRef where
  | named (name : String)
  | list (item : TypeRef)
  | nonNull (item : TypeRef)
deriving DecidableEq, Repr, Inhabited

namespace TypeRef

/-- The written form of a type. -/
def text : TypeRef → String
  | .named name => name
  | .list item => "[" ++ item.text ++ "]"
  | .nonNull item => item.text ++ "!"

/-- The type under all modifiers. -/
def namedType : TypeRef → String
  | .named name => name
  | .list item => item.namedType
  | .nonNull item => item.namedType

/-- Whether any modifier is a list. -/
def isList : TypeRef → Bool
  | .named _ => false
  | .list _ => true
  | .nonNull item => item.isList

def isNonNull : TypeRef → Bool
  | .nonNull _ => true
  | _ => false

/-- Whether the outermost modifier allows null. -/
def isNullable (t : TypeRef) : Bool := !t.isNonNull

end TypeRef

end OperationSamples
