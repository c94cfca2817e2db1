import OperationSamples.Schema.Fit

/-!
What can be wrong with a schema, and how it is worded.
-/

namespace OperationSamples

inductive SchemaIssue where
  | queryMissing
  | rootNotObject (kind : OperationKind) (type : String)
  | rootShared (type : String) (kinds : List OperationKind)
  | reservedName (name : String)
  | notInput (place type : String)
  | notOutput (place type : String)
  | deprecatedArgument (place : String)
  | deprecatedInputField (place : String)
  | noFields (type : String)
  | noInputFields (type : String)
  | noValues (type : String)
  | noMembers (type : String)
  | notInterface (type other : String)
  | implementsItself (type : String)
  | repeatedInterface (type interface : String)
  | circularInterface (type interface : String)
  | ancestorMissing (type ancestor interface : String)
  | fieldMissing (type interfaceField : String)
  | fieldMismatch (interfaceField expected field found : String)
  | argumentMissing (interfaceArgument field : String)
  | argumentMismatch (interfaceArgument expected argument found : String)
  | argumentAdded (argument type interfaceField : String)
  | repeatedMember (type member : String)
  | memberNotObject (type member : String)
  | oneOfRequired (place : String)
  | oneOfDefault (place : String)
  | invalidDefault (place : String) (misfit : Misfit)
  /-- A default value that contains itself, by way of other default values. -/
  | circularDefault (field : String) (others : List String)
  | deprecatedField (interfaceField field : String)
  /-- An input type that contains itself through fields that must be given. -/
  | infinite (type : String) (fields : List String)
deriving DecidableEq, Repr

namespace SchemaIssue

def capitalized (kind : OperationKind) : String :=
  match kind with
  | .query => "Query"
  | .mutation => "Mutation"
  | .subscription => "Subscription"

/-- A list in words, with a comma before the last of three or more. -/
def listed : List String → String
  | [] => ""
  | [a] => a
  | [a, b] => a ++ " and " ++ b
  | items => ", ".intercalate items.dropLast ++ ", and " ++ items.getLastD ""

def message : SchemaIssue → String
  | .queryMissing => "Query root type must be provided."
  | .rootNotObject kind type =>
    capitalized kind ++ " root type must be Object type"
      ++ (if kind = .query then "" else " if provided") ++ ", it cannot be " ++ type ++ "."
  | .rootShared type kinds =>
    "All root types must be different, '" ++ type ++ "' type is used as "
      ++ listed (kinds.map OperationKind.word) ++ " root types."
  | .reservedName name =>
    "Name '" ++ name ++ "' must not begin with '__', which is reserved by GraphQL introspection."
  | .notInput place type => "The type of " ++ place ++ " must be Input Type but got: " ++ type ++ "."
  | .notOutput place type => "The type of " ++ place ++ " must be Output Type but got: " ++ type ++ "."
  | .deprecatedArgument place => "Required argument " ++ place ++ " cannot be deprecated."
  | .deprecatedInputField place => "Required input field " ++ place ++ " cannot be deprecated."
  | .noFields type => "Type " ++ type ++ " must define one or more fields."
  | .noInputFields type => "Input Object type " ++ type ++ " must define one or more fields."
  | .noValues type => "Enum type " ++ type ++ " must define one or more values."
  | .noMembers type => "Union type " ++ type ++ " must define one or more member types."
  | .notInterface type other =>
    "Type " ++ type ++ " must only implement Interface types, it cannot implement " ++ other ++ "."
  | .implementsItself type =>
    "Type " ++ type ++ " cannot implement itself because it would create a circular reference."
  | .repeatedInterface type interface =>
    "Type " ++ type ++ " can only implement " ++ interface ++ " once."
  | .circularInterface type interface =>
    "Type " ++ type ++ " cannot implement " ++ interface
      ++ " because it would create a circular reference."
  | .ancestorMissing type ancestor interface =>
    "Type " ++ type ++ " must implement " ++ ancestor ++ " because it is implemented by " ++ interface
      ++ "."
  | .fieldMissing type interfaceField =>
    "Interface field " ++ interfaceField ++ " expected but " ++ type ++ " does not provide it."
  | .fieldMismatch interfaceField expected field found =>
    "Interface field " ++ interfaceField ++ " expects type " ++ expected ++ " but " ++ field
      ++ " is type " ++ found ++ "."
  | .argumentMissing interfaceArgument field =>
    "Interface field argument " ++ interfaceArgument ++ " expected but " ++ field
      ++ " does not provide it."
  | .argumentMismatch interfaceArgument expected argument found =>
    "Interface field argument " ++ interfaceArgument ++ " expects type " ++ expected ++ " but "
      ++ argument ++ " is type " ++ found ++ "."
  | .argumentAdded argument type interfaceField =>
    "Argument '" ++ argument ++ "' must not be required type '" ++ type
      ++ "' if not provided by the Interface field '" ++ interfaceField ++ "'."
  | .repeatedMember type member =>
    "Union type " ++ type ++ " can only include type " ++ member ++ " once."
  | .memberNotObject type member =>
    "Union type " ++ type ++ " can only include Object types, it cannot include " ++ member ++ "."
  | .oneOfRequired place => "OneOf input field " ++ place ++ " must be nullable."
  | .oneOfDefault place => "OneOf input field " ++ place ++ " cannot have a default value."
  | .invalidDefault place misfit => place ++ " has invalid default value" ++ misfit.text
  | .circularDefault field others =>
    "Invalid circular reference. The default value of Input Object field " ++ field
      ++ " references itself"
      ++ (if others.isEmpty then ""
          else " via the default values of: " ++ ", ".intercalate others) ++ "."
  | .deprecatedField interfaceField field =>
    "Interface field " ++ interfaceField ++ " is not deprecated, so implementation field " ++ field
      ++ " must not be deprecated."
  | .infinite type fields =>
    "Input Object " ++ type ++ " cannot be provided a finite value because it references itself"
      ++ " through fields: " ++ ", ".intercalate fields ++ "."

/-- An issue as a line of a report. -/
def line (issue : SchemaIssue) : String := "  - " ++ issue.message

/-- Whether the issue keeps the rest from being examined: a default value for a type that no input
can have. -/
def isFatal : SchemaIssue → Bool
  | .invalidDefault _ ⟨_, .notInputType _⟩ => true
  | _ => false

end SchemaIssue

end OperationSamples
