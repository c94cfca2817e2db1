import OperationSamples.Artifact.TypeScript
import OperationSamples.Json.Reader

/-!
Expressions of values with texts of code points.

The values are those of samples, but their texts and keys are `CodeText`s, as they are read from
JSON (`CodeValue.parse?`), and so are their expressions. A text is written as it is, with the halves
of pairs that it holds. A key is quoted in ASCII, so that a character beyond the basic plane is
written like the two halves of its pair.
-/

namespace OperationSamples

def Quoting.escapePoint (quoting : Quoting) (p : CodePoint) : CodeText :=
  match quoting.escape? p with
  | some escaped => escaped.map .ofChar
  | none => [p]

/-- A text between quotes. -/
def Quoting.quotePoints (quoting : Quoting) (text : CodeText) : CodeText :=
  .ofChar '"' :: (text.flatMap quoting.escapePoint ++ [.ofChar '"'])

inductive CodeValue where
  | null
  | bool (b : Bool)
  | int (n : Int)
  | float (x : Double)
  | text (t : CodeText)
  | list (items : List CodeValue)
  | object (members : List (CodeText × CodeValue))
  | factory (name : String)

namespace CodeValue

/-- Sets the value of a key: in place when the key is present, at the end otherwise. -/
def insert (key : CodeText) (value : CodeValue) :
    List (CodeText × CodeValue) → List (CodeText × CodeValue)
  | [] => [(key, value)]
  | member :: rest =>
    if member.1 == key then (key, value) :: rest else member :: insert key value rest

def builder : Json.Builder CodeValue where
  null := .null
  bool := .bool
  int := .int
  float := .float
  text := .text
  list := .list
  object members := .object (members.foldl (fun known (key, value) => insert key value known) [])

/-- Reads a value from its JSON text. -/
def parse? (text : String) : Option CodeValue := Json.parseWith? builder text

mutual

def ofSample : Sample → CodeValue
  | .null => .null
  | .bool b => .bool b
  | .int n => .int n
  | .float x => .float x
  | .str s => .text (.ofString s)
  | .arr items => .list (ofSamples items)
  | .obj members => .object (ofMembers members)
  | .factory name => .factory name

def ofSamples : List Sample → List CodeValue
  | [] => []
  | item :: rest => ofSample item :: ofSamples rest

def ofMembers : List (String × Sample) → List (CodeText × CodeValue)
  | [] => []
  | (key, value) :: rest => (.ofString key, ofSample value) :: ofMembers rest

end

mutual

/-- A value with all its keys split. -/
def splitKeys : CodeValue → CodeValue
  | .list items => .list (splitItems items)
  | .object members => .object (splitMembers members)
  | value => value

def splitItems : List CodeValue → List CodeValue
  | [] => []
  | item :: rest => item.splitKeys :: splitItems rest

def splitMembers : List (CodeText × CodeValue) → List (CodeText × CodeValue)
  | [] => []
  | (key, value) :: rest => (key.split, value.splitKeys) :: splitMembers rest

end

end CodeValue

namespace TypeScript

open CodeText (ofString)

/-- Whether a name is an identifier but for a final newline. -/
def isBare (name : CodeText) : Bool :=
  isIdentifier (withoutFinalNewline (name.map CodePoint.toChar))

def codeKey (name : CodeText) : CodeText :=
  if isBare name then name else Quoting.ascii.quotePoints name

mutual

/-- The expression of a value that starts at the given level. -/
def codeExpression (depth : Int) : CodeValue → CodeText
  | .null => ofString "null"
  | .bool b => ofString (if b then "true" else "false")
  | .int n => ofString (Json.intText n)
  | .float x => ofString (x.text Json.specialNumbers)
  | .text t => Quoting.plain.quotePoints t
  | .factory name => ofString (name ++ "()")
  | .list items =>
    ofString "[" ++ (ofString ", ").intercalate (codeExpressions depth items) ++ ofString "]"
  | .object [] => ofString "\x7b\x7d"
  | .object members =>
    ofString "\x7b\n" ++ (ofString "\n").intercalate (codeProperties (depth + 1) members)
      ++ ofString ("\n" ++ indentation depth ++ "\x7d")

def codeExpressions (depth : Int) : List CodeValue → List CodeText
  | [] => []
  | item :: rest => codeExpression depth item :: codeExpressions depth rest

def codeProperties (depth : Int) : List (CodeText × CodeValue) → List CodeText
  | [] => []
  | (key, value) :: rest =>
    (ofString (indentation depth) ++ codeKey key ++ ofString ": " ++ codeExpression depth value
      ++ ofString ",") :: codeProperties depth rest

end

end TypeScript

end OperationSamples
