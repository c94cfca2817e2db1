import OperationSamples.Schema.Issue

/-!
Input types that contain themselves.

There are two ways. A value of a type may have to contain another value of the type, so that no finite
value exists: `Schema.infiniteIssues` finds the circles among such types. Or the default value of a
field leaves out fields whose default values lead back to it: `Schema.searchDefaults`.
-/

namespace OperationSamples.Schema

def fieldPlace (type field : String) : String := type ++ "." ++ field

def inputFieldsOf (t : TypeDef) : List InputDef :=
  match t.body with
  | .input fields => fields
  | _ => []

def isInput (t : TypeDef) : Bool := t.kind?.isNone

/-- The input type of a name. -/
def inputType? (schema : Schema) (name : String) : Option TypeDef := (schema.type? name).filter isInput

/-! ### Finite values -/

/-- The input type whose values a value of the field contains. A type that takes one of its fields
needs no other than the one, and those fields are nullable. -/
def neededInput? (schema : Schema) (t : TypeDef) (f : InputDef) : Option TypeDef :=
  match f.type with
  | .named name => if t.isOneOf then schema.inputType? name else none
  | .nonNull (.named name) => if t.isOneOf then none else schema.inputType? name
  | _ => none

/-- Whether a type has a finite value, given the names of types that have one. -/
def hasFinite (schema : Schema) (known : List String) (t : TypeDef) : Bool :=
  let leadsOut := fun f => match schema.neededInput? t f with
    | none => true
    | some next => known.contains next.name
  if t.isOneOf then (inputFieldsOf t).any leadsOut else (inputFieldsOf t).all leadsOut

/-- The types with a finite value after a number of sweeps over the input types. -/
def finiteNames (schema : Schema) : Nat → List String
  | 0 => []
  | sweeps + 1 =>
    let known := finiteNames schema sweeps
    ((schema.types.filter isInput).filter (hasFinite schema known)).map TypeDef.name

/-- The input types without finite values. Each sweep but the last finds a type, so one for each type
is enough. -/
def infiniteNames (schema : Schema) : List String :=
  let inputs := schema.types.filter isInput
  let finite := schema.finiteNames (inputs.length + 1)
  (inputs.map TypeDef.name).filter fun name => !finite.contains name

/-- A field on the way from one input type to the next. -/
structure Step where
  type : String
  field : String
deriving DecidableEq, Repr

/-- The types seen so far, and the issues found on the way. -/
structure Search where
  seen : List String
  issues : List SchemaIssue
deriving Repr

/-- Follows one field: a type that is on the way closes a circle, any other is searched. -/
def searchField (schema : Schema) (infinite : List String)
    (search : List Step → Search → TypeDef → Search) (t : TypeDef) (way : List Step) (state : Search)
    (f : InputDef) : Search :=
  match (schema.neededInput? t f).filter fun next => infinite.contains next.name with
  | none => state
  | some next =>
    let way := way ++ [⟨t.name, f.name⟩]
    if way.any fun step => step.type == next.name then
      let circle := way.dropWhile fun step => step.type != next.name
      { state with issues := state.issues ++
          [.infinite next.name (circle.map fun step => fieldPlace step.type step.field)] }
    else search way state next

/-- Searches an input type for circles, once. A way never visits a type twice, so the number of types
bounds its length. -/
def searchInput (schema : Schema) (infinite : List String) :
    Nat → List Step → Search → TypeDef → Search
  | 0, _, state, _ => state
  | limit + 1, way, state, t =>
    if state.seen.contains t.name then state
    else
      (inputFieldsOf t).foldl
        (searchField schema infinite (searchInput schema infinite limit) t way)
        { state with seen := t.name :: state.seen }

/-- The circles among the types without finite values. -/
def infiniteIssues (schema : Schema) : List SchemaIssue :=
  let infinite := schema.infiniteNames
  let starts := schema.types.filter fun t => isInput t && infinite.contains t.name
  (starts.foldl (searchInput schema infinite (schema.types.length + 1) []) ⟨[], []⟩).issues

/-! ### Default values -/

/-- What is done for a field of an input type that a value leaves out. -/
abbrev Follow := TypeDef → InputDef → Search → Search

mutual

/-- Visits the fields that a literal for an input type leaves out, inside the literal too. -/
def visit (schema : Schema) (follow : Follow) : Literal → TypeDef → Search → Search
  | .list items, t, state => visitItems schema follow items t state
  | .object members, t, state =>
    let visits := visitMembers schema follow members
    (inputFieldsOf t).foldl (fun state f =>
      match schema.inputType? f.type.namedType with
      | none => state
      | some next =>
        match lastOf? visits f.name with
        | some visitValue => visitValue next state
        | none => follow t f state) state
  | _, _, state => state

def visitItems (schema : Schema) (follow : Follow) : List Literal → TypeDef → Search → Search
  | [], _, state => state
  | item :: rest, t, state => visitItems schema follow rest t (visit schema follow item t state)

def visitMembers (schema : Schema) (follow : Follow) :
    List (String × Literal) → List (String × (TypeDef → Search → Search))
  | [] => []
  | (name, value) :: rest => (name, visit schema follow value) :: visitMembers schema follow rest

end

/-- Follows the default value of a field, once. `way` are the fields whose default values led here; a
field among them closes a circle. A way visits no field twice, so the number of fields bounds it. -/
def followDefault (schema : Schema) : Nat → List String → Follow
  | 0, _, _, _, state => state
  | limit + 1, way, t, f, state =>
    match f.default with
    | none => state
    | some value =>
      let place := fieldPlace t.name f.name
      if way.contains place then
        let others := (way.dropWhile fun other => other != place).drop 1
        { state with issues := state.issues ++ [.circularDefault place others] }
      else if state.seen.contains place then state
      else
        match schema.inputType? f.type.namedType with
        | none => state
        | some next =>
          visit schema (followDefault schema limit (way ++ [place])) value next
            { state with seen := place :: state.seen }

/-- The circles of default values found from an input type: every field is left out at first. -/
def searchDefaults (schema : Schema) (seen : List String) (t : TypeDef) : Search :=
  let fields := (schema.types.flatMap inputFieldsOf).length
  visit schema (followDefault schema (fields + 1) []) (.object []) t ⟨seen, []⟩

end OperationSamples.Schema
