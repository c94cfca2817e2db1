import OperationSamples.Selection.Basic

/-!
Merging selections.

Fields with the same response key are one field of the answer. `Selection.merge` puts them together
at the place of the first: the first field's head stays, and the selections below all of them are
concatenated and merged in turn. Fragments stay where they are. A field that stands alone is not
touched, so its selection set keeps its mark; a set that was put together has none.
-/

namespace OperationSamples.Selection

/-- Whether a selection is a field with the given response key. -/
def hasKey (key : String) (s : Selection) : Bool := s.responseKey? == some key

/-- The selections below several fields, in order. -/
def childrenOf (fields : List Selection) : List Selection := fields.flatMap children

/-- The fields with the given response key. -/
def withKey (key : String) (selections : List Selection) : List Selection :=
  selections.filter (hasKey key)

/-- All selections but the fields with the given response key. -/
def withoutKey (key : String) (selections : List Selection) : List Selection :=
  selections.filter fun s => !hasKey key s

theorem sizes_filter_le (p : Selection → Bool) (xs : List Selection) :
    sizes (xs.filter p) ≤ sizes xs := by
  induction xs with
  | nil => simp [sizes]
  | cons x xs ih =>
    by_cases h : p x
    · simp [h, sizes]; omega
    · simp [h, sizes]; omega

theorem sizes_withKey_le (key : String) (xs : List Selection) :
    sizes (withKey key xs) ≤ sizes xs := sizes_filter_le _ xs

theorem sizes_withoutKey_le (key : String) (xs : List Selection) :
    sizes (withoutKey key xs) ≤ sizes xs := sizes_filter_le _ xs

theorem sizes_childrenOf_le (xs : List Selection) : sizes (childrenOf xs) ≤ sizes xs := by
  induction xs with
  | nil => simp [childrenOf, sizes]
  | cons x xs ih =>
    have := sizes_children_lt x
    simp only [childrenOf, List.flatMap_cons, sizes_append, sizes] at *
    omega

/-- What stands below a field and below its namesakes is smaller than the list they stand in. -/
theorem sizes_childrenOf_lt (s : Selection) (key : String) (rest : List Selection) :
    sizes (childrenOf (s :: withKey key rest)) < sizes (s :: rest) := by
  have below_le := sizes_childrenOf_le (withKey key rest)
  have filter_le := sizes_withKey_le key rest
  have first_lt := sizes_children_lt s
  simp only [childrenOf, List.flatMap_cons, sizes_append, sizes] at *
  omega

/-- Merges fields that share a response key. -/
def merge : List Selection → List Selection
  | [] => []
  | s :: rest =>
    match s.head? with
    | none => s :: merge rest
    | some head =>
      let same := withKey head.responseKey rest
      let joined :=
        if same.isEmpty || !(s :: same).any isBranch then s
        else .branch head none (merge (childrenOf (s :: withKey head.responseKey rest)))
      joined :: merge (withoutKey head.responseKey rest)
termination_by selections => sizes selections
decreasing_by
  · have := size_pos s
    simp only [sizes]
    omega
  · exact sizes_childrenOf_lt s head.responseKey rest
  · have filter_le := sizes_withoutKey_le head.responseKey rest
    have := size_pos s
    simp only [sizes]
    omega

@[simp] theorem merge_nil : merge [] = [] := by simp [merge]

/-- Two fields with the same response key as one. The first gives the head; if neither selects
anything the first stays as it is. -/
def mergePair (first second : Selection) : Selection :=
  match first.head? with
  | none => first
  | some head =>
    if first.isBranch || second.isBranch then
      .branch head none (merge (first.children ++ second.children))
    else first

end OperationSamples.Selection
