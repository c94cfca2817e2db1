import OperationSamples.Document.Value

/-!
Selections.

A selection is a field, with or without a selection set of its own, an inline fragment, or the spread
of a named fragment. A field's answer is filed under its response key, which is its alias if it has
one.

A selection set of a field may carry a mark. Two sets can hold equal selections and still be
different sets: what is built from one of them is then built again for the other. A mark is the
number given to a set when it was first looked at; sets that were never looked at, or were put
together from others, have none.
-/

namespace OperationSamples

/-- A field without its selection set. -/
structure FieldHead where
  aliasName : Option String
  name : String
  arguments : List Argument
  directives : List Directive
deriving Repr, BEq, Inhabited

/-- The key a field's answer is filed under. -/
def FieldHead.responseKey (head : FieldHead) : String := head.aliasName.getD head.name

inductive Selection where
  /-- A field that selects nothing below it. -/
  | leaf (head : FieldHead)
  /-- A field with a selection set, which may be empty. -/
  | branch (head : FieldHead) (mark : Option Nat) (selections : List Selection)
  | inline (condition : Option String) (directives : List Directive) (selections : List Selection)
  | spread (name : String) (directives : List Directive)
deriving Repr, BEq, Inhabited

/-- A selection set on its own. -/
structure SelectionSet where
  mark : Option Nat
  selections : List Selection
deriving Repr, BEq, Inhabited

namespace Selection

/-- The field with the given head and, possibly, selection set. -/
def ofField (head : FieldHead) : Option SelectionSet → Selection
  | none => .leaf head
  | some set => .branch head set.mark set.selections

/-- The head of a field; fragments have none. -/
def head? : Selection → Option FieldHead
  | .leaf head => some head
  | .branch head _ _ => some head
  | _ => none

/-- The selection set of a field. -/
def set? : Selection → Option SelectionSet
  | .branch _ mark selections => some ⟨mark, selections⟩
  | _ => none

def responseKey? (s : Selection) : Option String := s.head?.map FieldHead.responseKey

/-- The selections below a field, none for a field without selection set. -/
def children : Selection → List Selection
  | .branch _ _ selections => selections
  | _ => []

def isBranch : Selection → Bool
  | .branch .. => true
  | _ => false

mutual

/-- Number of selections in a selection, itself included. -/
def size : Selection → Nat
  | .leaf _ => 1
  | .branch _ _ selections => sizes selections + 1
  | .inline _ _ selections => sizes selections + 1
  | .spread _ _ => 1

def sizes : List Selection → Nat
  | [] => 0
  | s :: rest => s.size + sizes rest

end

theorem size_pos (s : Selection) : 0 < s.size := by cases s <;> simp [size]

@[simp] theorem sizes_append (xs ys : List Selection) : sizes (xs ++ ys) = sizes xs + sizes ys := by
  induction xs with
  | nil => simp [sizes]
  | cons x xs ih => simp [sizes, ih]; omega

/-- What stands below a field is smaller than the field. -/
theorem sizes_children_lt (s : Selection) : sizes s.children < s.size := by
  cases s <;> simp [children, size, sizes]

end Selection

end OperationSamples
