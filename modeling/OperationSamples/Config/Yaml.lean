import OperationSamples.Config.Check
import OperationSamples.Yaml.Value

/-!
Reading a configuration from a YAML text.

A text without content, or whose content is empty, stands for the defaults. Any other content must be
a mapping.
-/

namespace OperationSamples

/-- Why a text is no configuration. -/
inductive ConfigFault where
  | unreadable (fault : Yaml.Fault)
  | notMapping (kind : String)
  | invalid (problems : List ConfigProblem)
deriving DecidableEq, Repr

namespace RawValue

/-- Values that are as good as nothing. -/
def isEmpty : RawValue → Bool
  | .null => true
  | .bool b => !b
  | .int n => n == 0
  | .float x => x.isZero
  | .text s => s.isEmpty
  | .bytes bs => bs.isEmpty
  | .list items => items.isEmpty
  | .set items => items.isEmpty
  | .mapping entries => entries.isEmpty
  | _ => false

/-- The word for the kind of a value that a YAML text can have. -/
def kindWord : RawValue → String
  | .null => "NoneType"
  | .bool _ => "bool"
  | .int _ => "int"
  | .float _ => "float"
  | .text _ => "str"
  | .date _ => "date"
  | .moment _ _ => "datetime"
  | .bytes _ => "bytes"
  | .list _ => "list"
  | .set _ => "set"
  | _ => "dict"

end RawValue

namespace ConfigFault

/-- The first line of a message about the fault, if it has one. -/
def reason : ConfigFault → String
  | .unreadable _ => ""
  | .notMapping kind => " Configuration root must be a mapping, got " ++ kind
  | .invalid problems =>
    let count := (problems.map ConfigProblem.count).foldl Nat.add 0
    " " ++ Json.intText count ++ " validation error" ++ (if count == 1 then "" else "s")
      ++ " for GenerationConfig"

end ConfigFault

/-- How many levels of collections a configuration has: itself, the scalars, a scalar, its arguments. -/
def Config.levels : Nat := 4

/-- The configuration that a text describes. -/
def Config.ofYaml (text : String) : Except ConfigFault Config :=
  match Yaml.parse levels text with
  | .error fault => .error (.unreadable fault)
  | .ok value =>
    if value.isEmpty then .ok defaults
    else
      match value with
      | .mapping _ => (Config.ofRaw value).mapError .invalid
      | _ => .error (.notMapping value.kindWord)

end OperationSamples
