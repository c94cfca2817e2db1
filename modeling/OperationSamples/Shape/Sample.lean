import OperationSamples.Json.Basic

/-!
Sample values.

A `Sample` is a JSON value in which a reference to a factory may stand anywhere. In JSON a reference
is written as an object with the single member `$factory`.
-/

namespace OperationSamples

inductive Sample where
  | null
  | bool (b : Bool)
  | int (n : Int)
  | float (x : Double)
  | str (s : String)
  | arr (items : List Sample)
  | obj (members : List (String × Sample))
  | factory (name : String)
deriving Repr, BEq, Inhabited

namespace Sample

def factoryKey : String := "$factory"

mutual

def ofJson : Json → Sample
  | .null => .null
  | .bool b => .bool b
  | .int n => .int n
  | .float x => .float x
  | .str s => .str s
  | .arr items => .arr (ofJsons items)
  | .obj members => .obj (ofMembers members)

def ofJsons : List Json → List Sample
  | [] => []
  | item :: rest => ofJson item :: ofJsons rest

def ofMembers : List (String × Json) → List (String × Sample)
  | [] => []
  | (key, value) :: rest => (key, ofJson value) :: ofMembers rest

end

mutual

def toJson : Sample → Json
  | .null => .null
  | .bool b => .bool b
  | .int n => .int n
  | .float x => .float x
  | .str s => .str s
  | .arr items => .arr (toJsons items)
  | .obj members => .obj (toMembers members)
  | .factory name => .obj [(factoryKey, .str name)]

def toJsons : List Sample → List Json
  | [] => []
  | item :: rest => toJson item :: toJsons rest

def toMembers : List (String × Sample) → List (String × Json)
  | [] => []
  | (key, value) :: rest => (key, toJson value) :: toMembers rest

end

/-- A value in a list of its own, if it is to be a list. -/
def listIf (isList : Bool) (value : Sample) : Sample := if isList then .arr [value] else value

end Sample

end OperationSamples
