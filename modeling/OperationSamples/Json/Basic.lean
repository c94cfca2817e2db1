import OperationSamples.Number.Double

/-!
JSON values.

Objects are lists of members in the order in which they were written, because that order shows in
every text this library prints. Whole numbers and doubles are different values: `1` and `1.0` print
differently. `Json.Members` holds the operations of an ordered dictionary; `insert` keeps the place
of a key that is already there.
-/

namespace OperationSamples

inductive Json where
  | null
  | bool (b : Bool)
  | int (n : Int)
  | float (x : Double)
  | str (s : String)
  | arr (items : List Json)
  | obj (members : List (String × Json))
deriving Repr, BEq, Inhabited

/-- An insertion-ordered dictionary. -/
abbrev Members (α : Type) := List (String × α)

namespace Members

variable {α : Type}

def get? (members : Members α) (key : String) : Option α :=
  match members with
  | [] => none
  | (k, v) :: rest => if k == key then some v else get? rest key

def contains (members : Members α) (key : String) : Bool := (get? members key).isSome

/-- Sets the value of a key: in place when the key is present, at the end otherwise. -/
def insert (members : Members α) (key : String) (value : α) : Members α :=
  match members with
  | [] => [(key, value)]
  | (k, v) :: rest => if k == key then (k, value) :: rest else (k, v) :: insert rest key value

def keys (members : Members α) : List String := members.map Prod.fst

/-- The dictionary that a sequence of assignments leaves behind. -/
def ofList (entries : List (String × α)) : Members α :=
  entries.foldl (fun members entry => insert members entry.1 entry.2) []

@[simp] theorem get?_nil (key : String) : get? ([] : Members α) key = none := rfl

theorem get?_insert_self (members : Members α) (key : String) (value : α) :
    get? (insert members key value) key = some value := by
  induction members with
  | nil => simp [insert, get?]
  | cons entry rest ih =>
    obtain ⟨k, v⟩ := entry
    by_cases h : k == key <;> simp [insert, get?, h, ih]

theorem get?_insert_of_ne (members : Members α) {key other : String} (value : α)
    (h : key ≠ other) : get? (insert members key value) other = get? members other := by
  induction members with
  | nil => simp [insert, get?, h]
  | cons entry rest ih =>
    obtain ⟨k, v⟩ := entry
    by_cases hk : k = key
    · subst hk
      simp [insert, get?, h]
    · by_cases ho : k = other
      · subst ho
        simp [insert, get?, hk]
      · simp [insert, get?, hk, ho, ih]

/-- Inserting never moves a key: the keys stay, or gain the new key at the end. -/
theorem keys_insert (members : Members α) (key : String) (value : α) :
    keys (insert members key value) =
      if key ∈ keys members then keys members else keys members ++ [key] := by
  induction members with
  | nil => simp [insert, keys]
  | cons entry rest ih =>
    obtain ⟨k, v⟩ := entry
    by_cases hk : k = key
    · subst hk
      simp [insert, keys]
    · have hk' : ¬ key = k := fun h => hk h.symm
      simp only [keys] at ih
      by_cases hm : key ∈ List.map Prod.fst rest
      · simp [insert, keys, hk, hk', hm, ih]
      · simp [insert, keys, hk, hk', hm, ih]

end Members

namespace Json

def get? (value : Json) (key : String) : Option Json :=
  match value with
  | .obj members => Members.get? members key
  | _ => none

def ofStrings (texts : List String) : Json := .arr (texts.map .str)

def ofNat (n : Nat) : Json := .int n

def ofOption {α : Type} (f : α → Json) : Option α → Json
  | none => .null
  | some a => f a

end Json

end OperationSamples
