import OperationSamples.Artifact.Basic
import OperationSamples.Json.Override

/-!
Looking up artifacts and building plain values from them.

An artifact can be addressed by its name or by its factory; of several with the same name the first
counts. `Registry.materialize` replaces every reference in a sample by the sample of what it refers
to. References lead to earlier artifacts, so following as many of them in a row as there are
artifacts is enough.
-/

namespace OperationSamples

structure Registry where
  artifacts : List Artifact
deriving Repr

/-- Why a look-up has no result. -/
inductive RegistryFault where
  | unknown (name : String)
  /-- References lead in a circle. -/
  | circular
deriving DecidableEq, Repr

def RegistryFault.message : RegistryFault → String
  | .unknown name => "No generated artifact named '" ++ name ++ "'"
  | .circular => "References lead in a circle"

namespace Registry

/-- The names, each at the place of its first artifact. -/
def names (r : Registry) : List String :=
  r.artifacts.foldl (fun names a => if names.contains a.name then names else names ++ [a.name]) []

def size (r : Registry) : Nat := r.names.length

/-- The artifacts that the registry lists: the first of each name. -/
def entries (r : Registry) : List Artifact :=
  r.names.filterMap fun name => r.artifacts.find? fun a => a.name == name

/-- The artifact with the given name, or else with the given factory. -/
def get? (r : Registry) (name : String) : Option Artifact :=
  (r.artifacts.find? fun a => a.name == name).orElse fun _ =>
    r.artifacts.find? fun a => a.factory == name

def contains (r : Registry) (name : String) : Bool := (r.get? name).isSome

def get (r : Registry) (name : String) : Except RegistryFault Artifact :=
  match r.get? name with
  | some a => .ok a
  | none => .error (.unknown name)

mutual

/-- A sample with every reference replaced. -/
def resolve (follow : String → Except RegistryFault Json) : Sample → Except RegistryFault Json
  | .null => .ok .null
  | .bool b => .ok (.bool b)
  | .int n => .ok (.int n)
  | .float x => .ok (.float x)
  | .str s => .ok (.str s)
  | .factory name => follow name
  | .arr items => do return .arr (← resolveItems follow items)
  | .obj members => do return .obj (← resolveMembers follow members)

def resolveItems (follow : String → Except RegistryFault Json) :
    List Sample → Except RegistryFault (List Json)
  | [] => .ok []
  | item :: rest => do
    let value ← resolve follow item
    let others ← resolveItems follow rest
    return value :: others

def resolveMembers (follow : String → Except RegistryFault Json) :
    List (String × Sample) → Except RegistryFault (List (String × Json))
  | [] => .ok []
  | (key, item) :: rest => do
    let value ← resolve follow item
    let others ← resolveMembers follow rest
    return (key, value) :: others

end

/-- The value of an artifact, following at most `limit` references in a row. -/
def materializeWithin (r : Registry) : Nat → String → Except RegistryFault Json
  | 0, _ => .error .circular
  | limit + 1, name => do
    let a ← r.get name
    resolve (r.materializeWithin limit) (.obj a.value)

/-- The value of an artifact without references. -/
def materialize (r : Registry) (name : String) : Except RegistryFault Json :=
  r.materializeWithin (r.artifacts.length + 1) name

/-- The value of an artifact with some of its parts overridden. -/
def build (r : Registry) (name : String) (overrides : Json) : Except RegistryFault Json := do
  return (← r.materialize name).override overrides

end Registry

end OperationSamples
