import OperationSamples.Selection.Analysis

/-!
Splitting the selections on a union or interface by member.

Only the inline fragments at the top define members; fragments on the abstract type itself, or
without condition, are looked through. Fields outside of any condition belong to every member. A
condition that is repeated gives another entry for the same member.
-/

namespace OperationSamples

/-- A member of an abstract type and the selections that apply to it. -/
structure MemberSelection where
  member : TypeDef
  selections : List Selection
deriving Repr

namespace MemberSelection

/-- The fields common to all members, and the conditioned selections by member. -/
structure Split where
  common : List Selection
  conditioned : List (TypeDef × List Selection)
deriving Repr

mutual

def split (schema : Schema) (abstract : TypeDef) (state : Split) : Selection → Logged Split
  | .leaf head => return { state with common := state.common ++ [.leaf head] }
  | .branch head mark selections =>
    return { state with common := state.common ++ [.branch head mark selections] }
  | .spread _ _ => return state
  | .inline none _ selections => splitList schema abstract state selections
  | .inline (some condition) _ selections =>
    if condition == abstract.name then splitList schema abstract state selections
    else
      match schema.type? condition with
      | none => do
        Logged.report (.unknownCondition condition abstract.name)
        return state
      | some candidate =>
        if Schema.isMember abstract candidate then
          return { state with conditioned := state.conditioned ++ [(candidate, selections)] }
        else do
          Logged.report (.notAMember condition abstract.name)
          return state

def splitList (schema : Schema) (abstract : TypeDef) (state : Split) :
    List Selection → Logged Split
  | [] => return state
  | s :: rest => do
    let state ← split schema abstract state s
    splitList schema abstract state rest

end

/-- The member selections of an abstract field, in the order of the conditions. -/
def expand (schema : Schema) (info : FieldInfo) : Logged (List MemberSelection) :=
  match info.set with
  | none => return []
  | some set => do
    let parts ← splitList schema info.namedType ⟨[], []⟩ set.selections
    return parts.conditioned.map fun (member, own) =>
      ⟨member, Selection.merge (parts.common ++ own)⟩

end MemberSelection

end OperationSamples
