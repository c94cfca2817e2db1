import OperationSamples.Selection.Members

/-!
Analyses of nested selections.

An outline is the analysis of a selection set together with the outlines of the objects it selects,
down to a given depth. A field of a union or interface type has, besides, one outline per member that
its selections name.
-/

namespace OperationSamples

mutual

inductive Outline where
  | mk (analysis : Analysis) (fields : List FieldOutline)

/-- A field, the types it can have if it is abstract, the outline of the object it selects, and its
members if it is abstract. -/
inductive FieldOutline where
  | mk (info : FieldInfo) (possible : List String) (inner : Option Outline)
      (members : Option (List MemberOutline))

inductive MemberOutline where
  | mk (selection : MemberSelection) (inner : Option Outline)

end

namespace Outline

/-- How a selection set on an owner is outlined. -/
abbrev Describe := TypeDef → Option SelectionSet → Analysis.Walk Outline

def possibleTypes (schema : Schema) (info : FieldInfo) : List String :=
  if info.namedType.isAbstract then schema.possibleTypes info.namedType else []

def ofMembers (below : Option Describe) :
    List MemberSelection → Analysis.Walk (List MemberOutline)
  | [] => return []
  | m :: rest => do
    let inner ← match below with
      | some describe => some <$> describe m.member (some ⟨none, m.selections⟩)
      | none => pure none
    let others ← ofMembers below rest
    return .mk m inner :: others

def ofField (schema : Schema) (below : Option Describe) (info : FieldInfo) :
    Analysis.Walk FieldOutline := do
  let inner ← match info.category, below with
    | .object, some describe => some <$> describe info.namedType info.set
    | _, _ => pure none
  if info.namedType.isAbstract then
    let members ← ExceptT.lift (MemberSelection.expand schema info)
    let outlines ← ofMembers below members
    return .mk info (possibleTypes schema info) inner (some outlines)
  else return .mk info [] inner none

def ofFields (schema : Schema) (below : Option Describe) :
    List FieldInfo → Analysis.Walk (List FieldOutline)
  | [] => return []
  | info :: rest => do
    let outline ← ofField schema below info
    let others ← ofFields schema below rest
    return outline :: others

def describeWith (schema : Schema) (split : Bool) (below : Option Describe) : Describe :=
  fun owner set => do
    let analysis ← Analysis.ofSet schema split owner set
    let fields ← ofFields schema below analysis.fields
    return .mk analysis fields

/-- The outline of a selection set, `depth` levels deep. -/
def describe (schema : Schema) (split : Bool) : Nat → Describe
  | 0 => describeWith schema split none
  | depth + 1 => describeWith schema split (some (describe schema split depth))

end Outline

end OperationSamples
