import OperationSamples.Artifact.Basic
import OperationSamples.Notice

/-!
Artifacts as a TypeScript module.

Every artifact gives a type and a factory. A field is a line of the type; its name is quoted unless
it is an identifier, and a question mark follows if the field may be null. Sample values become
expressions in which references are calls of factories.
-/

namespace OperationSamples.TypeScript

def isIdentifierStart (c : Char) : Bool := c.isAlpha || c == '_' || c == '$'

def isIdentifierRest (c : Char) : Bool := c.isAlphanum || c == '_' || c == '$'

def isIdentifier : List Char → Bool
  | [] => false
  | c :: rest => isIdentifierStart c && rest.all isIdentifierRest

/-- A text without one newline at its end. -/
def withoutFinalNewline (text : List Char) : List Char :=
  if text.getLast? == some '\n' then text.dropLast else text

/-- The name of a property, quoted unless it is an identifier. A final newline is overlooked. -/
def propertyKey (name : String) : String :=
  if isIdentifier (withoutFinalNewline name.toList) then name else Quoting.ascii.quote name

def literalUnion (literals : List String) : String :=
  " | ".intercalate (literals.map Quoting.ascii.quote)

/-- The type of content, given the names of the shapes it refers to. -/
def contentType : Content String → String
  | .typename literals => literalUnion literals
  | .enum literals => literalUnion literals
  | .scalar type => match type with
    | some type => if type.isEmpty then "any" else type
    | none => "any"
  | .shape name => name
  | .union names => " | ".intercalate names
  | .minimal literals => "\x7b __typename: " ++ literalUnion literals ++ " \x7d"

def fieldType (field : Field String) : String :=
  let type := contentType field.content
  if field.isList then "Array<" ++ type ++ ">" else type

def fieldLine (field : Field String) : String :=
  propertyKey field.name ++ (if field.isNullable then "?" else "") ++ ": " ++ fieldType field ++ ";"

/-- A field with the names of the shapes it refers to. -/
def named (field : Field Shape) : Field String := field.map fun s => s.name.qualified

/-! ### Expressions -/

/-- `depth` levels of indentation, none below the first. -/
def indentation (depth : Int) : String := Json.spaces (4 * depth.toNat)

mutual

/-- The expression of a sample value that starts at the given level. -/
def expression (depth : Int) : Sample → String
  | .null => "null"
  | .bool b => if b then "true" else "false"
  | .int n => Json.intText n
  | .float x => x.text Json.specialNumbers
  | .str s => Quoting.plain.quote s
  | .factory name => name ++ "()"
  | .arr items => "[" ++ ", ".intercalate (expressions depth items) ++ "]"
  | .obj [] => "\x7b\x7d"
  | .obj members =>
    "\x7b\n" ++ "\n".intercalate (properties (depth + 1) members) ++ "\n" ++ indentation depth ++ "\x7d"

def expressions (depth : Int) : List Sample → List String
  | [] => []
  | item :: rest => expression depth item :: expressions depth rest

def properties (depth : Int) : List (String × Sample) → List String
  | [] => []
  | (key, value) :: rest =>
    (indentation depth ++ propertyKey key ++ ": " ++ expression depth value ++ ",")
      :: properties depth rest

end

/-! ### The module -/

/-- What every module starts with: how factories take overrides. -/
def preamble : List String := [
  "// Generated by opmocks. Do not edit.",
  "import \x7b mergeWith \x7d from \"lodash\";",
  "",
  "type DeepPartial<T> = T extends (...args: unknown[]) => unknown",
  "    ? T",
  "    : T extends Array<infer U>",
  "    ? Array<DeepPartial<U>>",
  "    : T extends object",
  "    ? \x7b [K in keyof T]?: DeepPartial<T[K]> \x7d",
  "    : T;",
  "",
  "function createBuilder<T extends object>(baseObject: T) \x7b",
  "    return (overrides?: DeepPartial<T>): T =>",
  "        mergeWith(\x7b\x7d, baseObject, overrides, (objValue: unknown, srcValue: unknown) => \x7b",
  "            if (Array.isArray(objValue) && Array.isArray(srcValue)) \x7b",
  "                return srcValue;",
  "            \x7d",
  "        \x7d);",
  "\x7d"]

/-- The type and the factory of an artifact. -/
def declaration (a : Artifact) : List String :=
  ["", "// " ++ a.kind.word ++ " of " ++ a.operation, "type " ++ a.name ++ " = \x7b"]
    ++ a.shape.fields.map (fun f => "    " ++ fieldLine (named f))
    ++ ["\x7d;", "", "export const " ++ a.factory ++ " = createBuilder<" ++ a.name ++ ">("
          ++ expression 0 (.obj a.value) ++ ");"]

/-- The module of some artifacts, empty if there are none. -/
def module (artifacts : List Artifact) : String :=
  if artifacts.isEmpty then ""
  else String.join ((preamble ++ artifacts.flatMap declaration).map fun line => line ++ "\n")

end OperationSamples.TypeScript
