import OperationSamples.Document.Printer
import OperationSamples.Schema.Standard
import OperationSamples.Text.Suggestion

/-!
Whether a literal fits a type.

`Schema.misfits` lists the places inside a literal that do not fit the type it is given for, each
with the reason. Null fits every type that is not marked as required, a single value stands for a list
of one, and a scalar that is not built in takes any literal.
-/

namespace OperationSamples

/-- A step into a literal. -/
inductive LiteralStep where
  | item (index : Nat)
  | field (name : String)
deriving DecidableEq, Repr

def LiteralStep.text : LiteralStep → String
  | .item index => "[" ++ toString index ++ "]"
  | .field name => "." ++ name

/-- Why a literal does not fit. The literal is given in its written form. -/
inductive MisfitReason where
  | nullForRequired (type : String)
  | notObject (type found : String)
  | fieldMissing (type field found : String)
  | fieldUnknown (type field : String) (suggestions : List String) (found : String)
  | notOneField (type : String)
  | notInt (found : String)
  | intOutOfRange (found : String)
  | notFloat (found : String)
  | notString (found : String)
  | notBoolean (found : String)
  | notID (found : String)
  | notEnumValue (type found : String) (suggestions : List String)
  | unknownEnumValue (type value : String) (suggestions : List String)
  /-- No literal fits a type that is for output only. -/
  | notInputType (type : String)
deriving DecidableEq, Repr

def MisfitReason.message : MisfitReason → String
  | .nullForRequired type => "Expected value of non-null type '" ++ type ++ "' not to be None."
  | .notObject type found =>
    "Expected value of type '" ++ type ++ "' to be an object, found: " ++ found ++ "."
  | .fieldMissing type field found =>
    "Expected value of type '" ++ type ++ "' to include required field '" ++ field ++ "', found: "
      ++ found ++ "."
  | .fieldUnknown type field suggestions found =>
    "Expected value of type '" ++ type ++ "' not to include unknown field '" ++ field ++ "'"
      ++ (if suggestions.isEmpty then ", found"
          else "." ++ Suggestion.question "" suggestions ++ " Found") ++ ": " ++ found ++ "."
  | .notOneField type =>
    "Within OneOf Input Object type '" ++ type ++ "', exactly one field must be specified,"
      ++ " and the value for that field must be non-null."
  | .notInt found => "Int cannot represent non-integer value: " ++ found
  | .intOutOfRange found => "Int cannot represent non 32-bit signed integer value: " ++ found
  | .notFloat found => "Float cannot represent non numeric value: " ++ found
  | .notString found => "String cannot represent a non string value: " ++ found
  | .notBoolean found => "Boolean cannot represent a non boolean value: " ++ found
  | .notID found => "ID cannot represent a non-string and non-integer value: " ++ found
  | .notEnumValue type found suggestions =>
    "Enum '" ++ type ++ "' cannot represent non-enum value: " ++ found ++ "."
      ++ Suggestion.question "the enum value " suggestions
  | .unknownEnumValue type value suggestions =>
    "Value '" ++ value ++ "' does not exist in '" ++ type ++ "' enum."
      ++ Suggestion.question "the enum value " suggestions
  | .notInputType type => "Type '" ++ type ++ "' is for output only."

/-- A place inside a literal that does not fit, and why. -/
structure Misfit where
  path : List LiteralStep
  reason : MisfitReason
deriving DecidableEq, Repr

def Misfit.below (step : LiteralStep) (m : Misfit) : Misfit := { m with path := step :: m.path }

/-- The place and the reason, as they follow what the literal is for. -/
def Misfit.text (m : Misfit) : String :=
  (if m.path.isEmpty then "" else " at " ++ String.join (m.path.map LiteralStep.text))
    ++ ": " ++ m.reason.message

/-- Whether an input type takes exactly one of its fields. -/
def TypeDef.isOneOf (t : TypeDef) : Bool := t.directives.any fun d => d.name == "oneOf"

namespace Schema

/-! ### Leaves -/

/-- Whether the digits of an integer literal are within 32 bits with sign. -/
def isInt32 (digits : String) : Bool :=
  match digits.toList with
  | '-' :: rest => magnitude rest ≤ 2147483648
  | rest => magnitude rest ≤ 2147483647
where
  magnitude (digits : List Char) : Nat := digits.foldl (fun n c => n * 10 + (c.toNat - 48)) 0

def scalarReason? (scalar : String) (literal : Literal) : Option MisfitReason :=
  match scalar, literal with
  | "Int", .int digits => if isInt32 digits then none else some (.intOutOfRange digits)
  | "Int", other => some (.notInt other.text)
  | "Float", .int _ => none
  | "Float", .float _ => none
  | "Float", other => some (.notFloat other.text)
  | "String", .string _ _ => none
  | "String", other => some (.notString other.text)
  | "Boolean", .boolean _ => none
  | "Boolean", other => some (.notBoolean other.text)
  | "ID", .string _ _ => none
  | "ID", .int _ => none
  | "ID", other => some (.notID other.text)
  | _, _ => none

def enumReason? (t : TypeDef) (literal : Literal) : Option MisfitReason :=
  match literal with
  | .enumerator name =>
    if t.enumValues.contains name then none
    else some (.unknownEnumValue t.name name (Suggestion.near name t.enumValues))
  | other => some (.notEnumValue t.name other.text (Suggestion.near other.text t.enumValues))

/-- Why a literal that is neither null nor an object does not fit a named type. -/
def leafReason? (schema : Schema) (type : String) (literal : Literal) : Option MisfitReason :=
  match schema.type? type with
  | none => none
  | some t =>
    match t.body with
    | .scalar => scalarReason? t.name literal
    | .enum _ => enumReason? t literal
    | .input _ => some (.notObject t.name literal.text)
    | _ => some (.notInputType t.name)

def leafMisfits (schema : Schema) (type : String) (literal : Literal) : List Misfit :=
  ((schema.leafReason? type literal).map (⟨[], ·⟩)).toList

/-! ### Objects -/

/-- What is wrong with the field of an input type, whose value is checked by `value?` if given. -/
def fieldMisfits (t : TypeDef) (found : String) (f : InputDef)
    (value? : Option (TypeRef → List Misfit)) : List Misfit :=
  match value? with
  | some check => (check f.type).map (Misfit.below (.field f.name))
  | none => if f.isRequired then [⟨[], .fieldMissing t.name f.name found⟩] else []

def unknownMisfits (t : TypeDef) (found : String) (fields : List InputDef) (names : List String) :
    List Misfit :=
  let known := fields.map InputDef.name
  (names.filter fun name => !known.contains name).map fun name =>
    ⟨[], .fieldUnknown t.name name (Suggestion.near name known) found⟩

/-- A type that takes exactly one field is given one, and not null. -/
def oneOfMisfits (t : TypeDef) (members : List (String × Literal)) : List Misfit :=
  if !t.isOneOf then []
  else match members with
    | [(name, .null)] => [⟨[.field name], .notOneField t.name⟩]
    | [_] => []
    | _ => [⟨[], .notOneField t.name⟩]

/-- The last entry of a name. -/
def lastOf? {α : Type} (entries : List (String × α)) (name : String) : Option α :=
  (entries.reverse.find? fun entry => entry.1 == name).map Prod.snd

/-! ### Literals -/

mutual

/-- What does not fit in a literal that is given for a type. -/
def misfits (schema : Schema) : Literal → TypeRef → List Misfit
  | .null, type => if type.isNonNull then [⟨[], .nullForRequired type.text⟩] else []
  | .list items, type =>
    match type with
    | .list item => itemMisfits schema 0 items item
    | .nonNull (.list item) => itemMisfits schema 0 items item
    | other => schema.leafMisfits other.namedType (.list items)
  | .object members, type =>
    match schema.type? type.namedType with
    | some ⟨name, directives, .input fields⟩ =>
      let t : TypeDef := ⟨name, directives, .input fields⟩
      let found := Literal.text (.object members)
      let checks := memberMisfits schema members
      (fields.flatMap fun f => fieldMisfits t found f (lastOf? checks f.name))
        ++ unknownMisfits t found fields (members.map Prod.fst)
        ++ oneOfMisfits t members
    | _ => schema.leafMisfits type.namedType (.object members)
  | literal, type => schema.leafMisfits type.namedType literal

def itemMisfits (schema : Schema) (index : Nat) : List Literal → TypeRef → List Misfit
  | [], _ => []
  | item :: rest, type =>
    (misfits schema item type).map (Misfit.below (.item index))
      ++ itemMisfits schema (index + 1) rest type

/-- How the members of an object are checked, once their types are known. -/
def memberMisfits (schema : Schema) : List (String × Literal) → List (String × (TypeRef → List Misfit))
  | [] => []
  | (name, value) :: rest => (name, misfits schema value) :: memberMisfits schema rest

end

/-- Why a literal is no text, where a text has to be given. -/
def textReason? : Literal → Option MisfitReason
  | .null => some (.nullForRequired "String!")
  | literal => scalarReason? "String" literal

end Schema

end OperationSamples
