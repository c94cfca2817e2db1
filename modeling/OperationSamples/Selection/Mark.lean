import OperationSamples.Selection.Basic

/-!
Marking selection sets.

`Selection.mark` numbers every selection set below a selection that has no number yet, counting up
from the number given, and leaves the others alone. Once marked, two sets have the same mark exactly
when they are the same set.
-/

namespace OperationSamples

namespace Selection

mutual

/-- Marks the sets of a selection; also gives the next number. -/
def mark (next : Nat) : Selection → Selection × Nat
  | .leaf head => (.leaf head, next)
  | .branch head (some m) selections =>
    let (selections, next) := markAll next selections
    (.branch head (some m) selections, next)
  | .branch head none selections =>
    let (selections, after) := markAll (next + 1) selections
    (.branch head (some next) selections, after)
  | .inline condition directives selections =>
    let (selections, next) := markAll next selections
    (.inline condition directives selections, next)
  | .spread name directives => (.spread name directives, next)

def markAll (next : Nat) : List Selection → List Selection × Nat
  | [] => ([], next)
  | s :: rest =>
    let (s, next) := mark next s
    let (rest, next) := markAll next rest
    (s :: rest, next)

end

end Selection

/-- Marks a set and the sets below it. -/
def SelectionSet.marked (next : Nat) (set : SelectionSet) : SelectionSet × Nat :=
  let (own, next) := match set.mark with
    | some m => (m, next)
    | none => (next, next + 1)
  let (selections, next) := Selection.markAll next set.selections
  (⟨some own, selections⟩, next)

end OperationSamples
