import OperationSamples.Artifact.TypeScript
import OperationSamples.Sample.Raw

/-!
Expressions of values that have not been brought down to JSON.

Mappings, lists and references become expressions as in a sample. Anything else is written as JSON
text, if it has one: a tuple is then an array, and its mappings are objects on one line. There is no
text for dates, decimals, sets and the like, nor for a reference inside a tuple.
-/

namespace OperationSamples.TypeScript

/-- The JSON text of a key, before it is quoted. -/
def jsonKey? : RawValue → Option String
  | .text s => some s
  | .null => some "null"
  | .bool b => some (if b then "true" else "false")
  | .int n => some (Json.intText n)
  | .float x => some (x.text Json.specialNumbers)
  | _ => none

mutual

/-- The JSON text of a value on one line. -/
def jsonText? : RawValue → Option String
  | .null => some "null"
  | .bool b => some (if b then "true" else "false")
  | .int n => some (Json.intText n)
  | .float x => some (x.text Json.specialNumbers)
  | .text s => some (Quoting.plain.quote s)
  | .list items => (jsonTexts? items).map fun texts => "[" ++ ", ".intercalate texts ++ "]"
  | .tuple items => (jsonTexts? items).map fun texts => "[" ++ ", ".intercalate texts ++ "]"
  | .mapping entries =>
    (jsonMembers? entries).map fun texts => "\x7b" ++ ", ".intercalate texts ++ "\x7d"
  | _ => none

def jsonTexts? : List RawValue → Option (List String)
  | [] => some []
  | item :: rest =>
    match jsonText? item, jsonTexts? rest with
    | some text, some others => some (text :: others)
    | _, _ => none

def jsonMembers? : List (RawValue × RawValue) → Option (List String)
  | [] => some []
  | (key, value) :: rest =>
    match jsonKey? key, jsonText? value, jsonMembers? rest with
    | some key, some text, some others => some ((Quoting.plain.quote key ++ ": " ++ text) :: others)
    | _, _, _ => none

end

mutual

/-- The expression of a value that starts at the given level. -/
def rawExpression? (depth : Int) : RawValue → Option String
  | .factory name => some (name ++ "()")
  | .mapping [] => some "\x7b\x7d"
  | .mapping entries =>
    (rawProperties? (depth + 1) entries).map fun lines =>
      "\x7b\n" ++ "\n".intercalate lines ++ "\n" ++ indentation depth ++ "\x7d"
  | .list items => (rawExpressions? depth items).map fun texts => "[" ++ ", ".intercalate texts ++ "]"
  | value => jsonText? value

def rawExpressions? (depth : Int) : List RawValue → Option (List String)
  | [] => some []
  | item :: rest =>
    match rawExpression? depth item, rawExpressions? depth rest with
    | some text, some others => some (text :: others)
    | _, _ => none

/-- The properties of an object; their names have to be texts. -/
def rawProperties? (depth : Int) : List (RawValue × RawValue) → Option (List String)
  | [] => some []
  | (.text key, value) :: rest =>
    match rawExpression? depth value, rawProperties? depth rest with
    | some text, some others =>
      some ((indentation depth ++ propertyKey key ++ ": " ++ text ++ ",") :: others)
    | _, _ => none
  | _ :: _ => none

end

end OperationSamples.TypeScript
