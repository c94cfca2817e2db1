import OperationSamples.Json.Basic

/-!
Overriding parts of a JSON value.

Objects are overridden member by member, at any depth. Anything else replaces what it overrides,
lists included, except that null overrides nothing.
-/

namespace OperationSamples.Json

mutual

/-- `base` with the parts that `overrides` gives. -/
def override (base : Json) : Json → Json
  | .null => base
  | .obj overrides =>
    match base with
    | .obj members => .obj (overrideMembers members overrides)
    | _ => .obj overrides
  | value => value

/-- Overrides members one after the other; keys that are new come last. -/
def overrideMembers (members : List (String × Json)) : List (String × Json) → List (String × Json)
  | [] => members
  | (key, value) :: rest =>
    let value := match Members.get? members key with
      | some base => override base value
      | none => value
    overrideMembers (Members.insert members key value) rest

end

end OperationSamples.Json
