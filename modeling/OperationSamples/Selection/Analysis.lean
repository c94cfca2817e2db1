import OperationSamples.Notice
import OperationSamples.Schema.Basic
import OperationSamples.Selection.Merge

/-!
Pairing selected fields with the schema.

`Analysis.ofSelections` walks the selections on an owner type, through the inline fragments that
apply to it, and gathers one `FieldInfo` per response key: the definition of the first occurrence,
and the merged selections of all of them. Fields that do not exist, and fragments whose condition
cannot hold, are reported and left out.

A condition applies to the current type when it names the type itself or an interface of it; a
condition on an implementation of the current interface applies too, and its fields are then looked
up on the implementation, which is noted as folded into the owner.
-/

namespace OperationSamples

/-- Why an analysis has no result. -/
inductive AnalysisFault where
  /-- A field was looked up on a type that has no fields. -/
  | noFields (type : String)
  /-- A field has an input type, or a type that does not exist. -/
  | unselectable (type : Option String)
deriving DecidableEq, Repr

/-- What is built from a selected field. -/
inductive FieldCategory where
  | leaf
  | object
  | minimal
  | union
deriving DecidableEq, Repr, Inhabited

def FieldCategory.word : FieldCategory → String
  | .leaf => "leaf"
  | .object => "object"
  | .minimal => "minimal-object"
  | .union => "union"

/-- A selected field with its definition. -/
structure FieldInfo where
  responseKey : String
  fieldName : String
  type : TypeRef
  namedType : TypeDef
  kind : TypeKind
  category : FieldCategory
  set : Option SelectionSet
deriving Repr

def FieldInfo.isList (info : FieldInfo) : Bool := info.type.isList

def FieldInfo.isNullable (info : FieldInfo) : Bool := info.type.isNullable

structure Analysis where
  owner : TypeDef
  fields : List FieldInfo
  /-- Implementations whose fragments were folded into an interface owner. -/
  folded : List String
deriving Repr

def typenameField : String := "__typename"

/-- Whether a selection set selects anything beyond `__typename`. -/
def hasSelections : Option SelectionSet → Bool
  | none => false
  | some set => set.selections.any fun s =>
    match s.head? with
    | some head => head.name != typenameField
    | none => true

namespace Analysis

/-- A response key, the type of the field first found under it, and the selected field so far. -/
structure Entry where
  key : String
  type : TypeRef
  field : Selection
deriving Repr

structure Collected where
  entries : List Entry
  folded : List String
deriving Repr

/-- Files a field under its response key, merging it into one that is already there. -/
def fileField (entries : List Entry) (key : String) (type : TypeRef) (field : Selection) :
    List Entry :=
  match entries with
  | [] => [⟨key, type, field⟩]
  | e :: rest =>
    if e.key == key then { e with field := e.field.mergePair field } :: rest
    else e :: fileField rest key type field

/-- The type whose fields a fragment with the given condition contributes, if it applies. -/
def conditionTarget (schema : Schema) (current : TypeDef) : Option String → Logged (Option TypeDef)
  | none => return some current
  | some condition =>
    if condition == current.name then return some current
    else
      match schema.type? condition with
      | none => do
        Logged.report (.unknownCondition condition current.name)
        return none
      | some target =>
        if target.isInterface && Schema.isSubType target current then return some current
        else if current.isInterface && target.isComposite && Schema.isSubType current target then
          return some target
        else do
          Logged.report (.impossibleCondition condition current.name)
          return none

def foldType (current target : TypeDef) (folded : List String) : List String :=
  if target.isObject && target.name != current.name && !folded.contains target.name then
    folded ++ [target.name]
  else folded

/-- A fold over selections that can report and can fail. -/
abbrev Walk := ExceptT AnalysisFault Logged

def collectField (current : TypeDef) (state : Collected) (head : FieldHead) (field : Selection) :
    Walk Collected :=
  if head.name == typenameField then return state
  else
    match current.fields? with
    | none => throw (.noFields current.name)
    | some _ =>
      match current.fieldType? head.name with
      | none => do
        ExceptT.lift (Logged.report (.missingField head.name current.name))
        return state
      | some type =>
        return { state with entries := fileField state.entries head.responseKey type field }

mutual

def collect (schema : Schema) (current : TypeDef) (state : Collected) :
    Selection → Walk Collected
  | .leaf head => collectField current state head (.leaf head)
  | .branch head mark selections =>
    collectField current state head (.branch head mark selections)
  | .inline condition _ selections => do
    match ← ExceptT.lift (conditionTarget schema current condition) with
    | none => return state
    | some target =>
      collectList schema target { state with folded := foldType current target state.folded }
        selections
  | .spread name _ => do
    ExceptT.lift (Logged.report (.unresolvedSpread name current.name))
    return state

def collectList (schema : Schema) (current : TypeDef) (state : Collected) :
    List Selection → Walk Collected
  | [] => return state
  | s :: rest => do
    let state ← collect schema current state s
    collectList schema current state rest

end

/-- Whether a selection set has, at its top, a condition on a member of the abstract type. -/
def hasMemberCondition (schema : Schema) (abstract : TypeDef) (set : Option SelectionSet) : Bool :=
  ((set.map SelectionSet.selections).getD []).any fun s =>
    match s with
    | .inline (some condition) _ _ =>
      match schema.type? condition with
      | some candidate => Schema.isMember abstract candidate
      | none => false
    | _ => false

/-- What a field is, given the option to split interfaces by their members. -/
def categorize (schema : Schema) (split : Bool) (type : TypeDef) (kind : TypeKind)
    (set : Option SelectionSet) : FieldCategory :=
  if kind.isLeaf then .leaf
  else if !hasSelections set then .minimal
  else if kind = .union then .union
  else if kind = .interface && split && hasMemberCondition schema type set then .union
  else .object

def fieldInfo (schema : Schema) (split : Bool) (e : Entry) : Except AnalysisFault FieldInfo :=
  match schema.type? e.type.namedType with
  | none => .error (.unselectable none)
  | some type =>
    match type.kind? with
    | none => .error (.unselectable (some type.name))
    | some kind =>
      let set := e.field.set?
      .ok {
        responseKey := e.key
        fieldName := (e.field.head?.map FieldHead.name).getD e.key
        type := e.type
        namedType := type
        kind := kind
        category := categorize schema split type kind set
        set := set }

/-- The fields selected on an owner. -/
def ofSelections (schema : Schema) (split : Bool) (owner : TypeDef)
    (selections : List Selection) : Walk Analysis := do
  let collected ← collectList schema owner ⟨[], []⟩ selections
  let fields ← (collected.entries.mapM (fieldInfo schema split) : Except AnalysisFault _)
  return ⟨owner, fields, collected.folded⟩

def ofSet (schema : Schema) (split : Bool) (owner : TypeDef) (set : Option SelectionSet) :
    Walk Analysis :=
  ofSelections schema split owner ((set.map SelectionSet.selections).getD [])

/-- The response keys of the fields of a category. -/
def keysOf (a : Analysis) (category : FieldCategory) : List String :=
  (a.fields.filter fun info => info.category = category).map FieldInfo.responseKey

end Analysis

end OperationSamples
