import Mathlib.Data.List.Induction
import OperationSamples.Proofs.NormalForm

/-!
Merging in groups.

Selections are merged in several places: below every field and in every fragment when spreads are
resolved, again for the members of a union, and two fields at a time when fields are gathered for a
type. It makes no difference. A list of which the front was merged before (`merge_merge_append`), or
the end (`merge_append_merge`), merges to the same selections as before, and so does a list that is
merged one selection after the other (`foldl_place`).

Both laws rest on what is put together from fields with one key (`joined`). Such a field takes in
further ones as if they had stood beside the others from the start (`joined_append`), and it can
stand for them behind another field (`joined_withKey_merge`). Merging goes down only where two
fields meet, so the laws below a field are those of the lists that stand there, which are smaller.
-/

namespace OperationSamples.Selection

/-! ### Fields that are put together -/

section Joined

variable {s : Selection} {head : FieldHead} {same : List Selection}

theorem childrenOf_append (xs ys : List Selection) :
    childrenOf (xs ++ ys) = childrenOf xs ++ childrenOf ys := List.flatMap_append

theorem childrenOf_cons (x : Selection) (xs : List Selection) :
    childrenOf (x :: xs) = x.children ++ childrenOf xs := rfl

theorem childrenOf_singleton (x : Selection) : childrenOf [x] = x.children := by
  rw [childrenOf, List.flatMap_singleton]

theorem childrenOf_of_leaves {xs : List Selection} (h : xs.any isBranch = false) :
    childrenOf xs = [] :=
  List.flatMap_eq_nil_iff.2 fun x hx =>
    children_eq_nil (Bool.eq_false_iff.2 (List.any_eq_false.1 h x hx))

theorem joined_nil (s : Selection) (head : FieldHead) : joined s head [] = s := rfl

theorem joined_of_not_any (h : (s :: same).any isBranch = false) : joined s head same = s :=
  joined_of_leaves fun t ht => Bool.eq_false_iff.2 (List.any_eq_false.1 h t ht)

theorem joined_of_any (hsame : same ≠ []) (h : (s :: same).any isBranch = true) :
    joined s head same = .branch head none (merge (childrenOf (s :: same))) := by
  have hempty : same.isEmpty = false := List.isEmpty_eq_false_iff.2 hsame
  rw [joined, hempty, h]
  simp

/-- A field stands alone, or it is a leaf among leaves, or something stands below one of them. -/
theorem joined_cases (s : Selection) (head : FieldHead) (same : List Selection) :
    same = [] ∨ (s :: same).any isBranch = false ∧ joined s head same = s ∨
      same ≠ [] ∧ (s :: same).any isBranch = true ∧
        joined s head same = .branch head none (merge (childrenOf (s :: same))) := by
  by_cases hsame : same = []
  · exact .inl hsame
  · cases hany : (s :: same).any isBranch with
    | false => exact .inr (.inl ⟨rfl, joined_of_not_any hany⟩)
    | true => exact .inr (.inr ⟨hsame, rfl, joined_of_any hsame hany⟩)

theorem head?_joined (hs : s.head? = some head) : (joined s head same).head? = some head := by
  rcases joined_cases s head same with rfl | ⟨-, heq⟩ | ⟨-, -, heq⟩
  · exact hs
  · rw [heq, hs]
  · rw [heq]
    rfl

theorem isBranch_joined : (joined s head same).isBranch = (s :: same).any isBranch := by
  rcases joined_cases s head same with rfl | ⟨hany, heq⟩ | ⟨-, hany, heq⟩
  · simp [joined_nil]
  · rw [heq, hany]
    rw [List.any_cons, Bool.or_eq_false_iff] at hany
    exact hany.1
  · rw [heq, hany]
    rfl

/-- Behind other selections, what stands below a field that was put together can be merged again. -/
theorem merge_append_children_joined {xs : List Selection}
    (hmerge : ∀ ys, merge (xs ++ merge ys) = merge (xs ++ ys)) :
    merge (xs ++ (joined s head same).children) = merge (xs ++ childrenOf (s :: same)) := by
  rcases joined_cases s head same with rfl | ⟨hany, heq⟩ | ⟨-, -, heq⟩
  · rw [joined_nil, childrenOf_singleton]
  · rw [heq, childrenOf_of_leaves hany]
    rw [List.any_cons, Bool.or_eq_false_iff] at hany
    rw [children_eq_nil hany.1]
  · rw [heq, children, hmerge]

/-- A field that was put together takes in further ones as if all had stood together from the
start. -/
theorem joined_append (more : List Selection)
    (hmerge : ∀ ys, merge (merge (childrenOf (s :: same)) ++ ys) =
      merge (childrenOf (s :: same) ++ ys)) :
    joined (joined s head same) head more = joined s head (same ++ more) := by
  rcases joined_cases s head same with rfl | ⟨hany, heq⟩ | ⟨hsame, hany, heq⟩
  · rfl
  · -- leaves add nothing to what comes after them
    obtain ⟨hleaf, hleaves⟩ := Bool.or_eq_false_iff.1 (List.any_cons ▸ hany)
    have hall : (s :: (same ++ more)).any isBranch = (s :: more).any isBranch := by
      simp [hleaf, hleaves]
    rw [heq]
    rcases joined_cases s head more with rfl | ⟨hmore, hown⟩ | ⟨hmore, hbranch, hown⟩
    · rw [List.append_nil, joined_nil, heq]
    · rw [hown, joined_of_not_any (hall.trans hmore)]
    · rw [hown, joined_of_any (List.append_ne_nil_of_right_ne_nil same hmore) (hall.trans hbranch),
        childrenOf_cons, childrenOf_cons, childrenOf_append, childrenOf_of_leaves hleaves,
        List.nil_append]
  · rw [heq]
    by_cases hmore : more = []
    · rw [hmore, joined_nil, List.append_nil, heq]
    · have hall : (s :: (same ++ more)).any isBranch = true := by
        rw [← List.cons_append, List.any_append, hany, Bool.true_or]
      rw [joined_of_any hmore rfl, joined_of_any (List.append_ne_nil_of_left_ne_nil hsame more) hall,
        childrenOf_cons, children, hmerge, ← childrenOf_append, List.cons_append]

end Joined

/-! ### The two laws -/

theorem merge_withKey (key : String) (xs : List Selection) :
    merge (withKey key xs) = withKey key (merge xs) :=
  merge_filter (fun s t h => by simp only [hasKey, h]) xs

/-- Fields with one key merge to one field. -/
theorem merge_of_key {f : Selection} {head : FieldHead} {same : List Selection}
    (hf : f.head? = some head) (h : ∀ t ∈ same, t.responseKey? = some head.responseKey) :
    merge (f :: same) = [joined f head same] := by
  have hall : withKey head.responseKey same = same :=
    List.filter_eq_self.2 fun t ht => hasKey_iff.2 (h t ht)
  have hnone : withoutKey head.responseKey same = [] :=
    List.filter_eq_nil_iff.2 fun t ht => by simp [hasKey, h t ht]
  rw [merge_cons_field hf, hall, hnone, merge_nil]

/-- Behind a field and its namesakes, further namesakes can be merged first. -/
theorem joined_withKey_merge {s : Selection} {head : FieldHead} {same : List Selection}
    (hmerge : ∀ ys, merge (childrenOf (s :: same) ++ merge ys) =
      merge (childrenOf (s :: same) ++ ys)) (key : String) (ys : List Selection) :
    joined s head (same ++ withKey key (merge ys)) = joined s head (same ++ withKey key ys) := by
  rw [← merge_withKey]
  cases hfound : withKey key ys with
  | nil => rw [merge_nil]
  | cons f others =>
    have hkeys : ∀ t ∈ f :: others, t.responseKey? = some key := fun t ht =>
      (mem_withKey.1 (hfound ▸ ht)).2
    obtain ⟨own, hown, rfl⟩ := Option.map_eq_some_iff.1 (hkeys f List.mem_cons_self)
    rw [merge_of_key hown fun t ht => hkeys t (List.mem_cons_of_mem f ht)]
    have hany : (s :: (same ++ [joined f own others])).any isBranch =
        (s :: (same ++ f :: others)).any isBranch := by
      simp only [List.any_cons, List.any_append, List.any_nil, Bool.or_false, isBranch_joined]
    rcases joined_cases s head (same ++ f :: others) with hnil | ⟨hleaves, heq⟩ | ⟨-, hbranch, heq⟩
    · simp at hnil
    · rw [heq, joined_of_not_any (hany.trans hleaves)]
    · rw [heq, joined_of_any (by simp) (hany.trans hbranch), ← List.cons_append,
        ← List.cons_append, childrenOf_append, childrenOf_append, childrenOf_singleton,
        merge_append_children_joined hmerge]

/-- The front of a list can be merged first. -/
theorem merge_merge_append (xs ys : List Selection) :
    merge (merge xs ++ ys) = merge (xs ++ ys) := by
  induction xs using merge.induct generalizing ys with
  | case1 => rw [merge_nil]
  | case2 s rest hs ih =>
    rw [merge_cons_fragment hs, List.cons_append, merge_cons_fragment hs, ih, List.cons_append,
      merge_cons_fragment hs]
  | case3 s rest head hs ihBelow ihRest =>
    -- the merged rest has other keys, so only the end of the list adds to the field
    have hother : ∀ t ∈ merge (withoutKey head.responseKey rest),
        t.responseKey? ≠ some head.responseKey :=
      ne_key_of_mem_merge fun t ht => (mem_withoutKey.1 ht).2
    rw [merge_cons_field hs, List.cons_append, merge_cons_field (head?_joined hs),
      withKey_append, withKey_eq_nil hother, List.nil_append, joined_append _ ihBelow,
      withoutKey_append, withoutKey_eq_self hother, ihRest, List.cons_append, merge_cons_field hs,
      withKey_append, withoutKey_append]

/-- The end of a list can be merged first. -/
theorem merge_append_merge (xs ys : List Selection) :
    merge (xs ++ merge ys) = merge (xs ++ ys) := by
  induction xs using merge.induct generalizing ys with
  | case1 => rw [List.nil_append, List.nil_append, merge_merge]
  | case2 s rest hs ih =>
    rw [List.cons_append, merge_cons_fragment hs, ih, List.cons_append, merge_cons_fragment hs]
  | case3 s rest head hs ihBelow ihRest =>
    rw [List.cons_append, merge_cons_field hs, withKey_append, joined_withKey_merge ihBelow,
      withoutKey_append, ← merge_withoutKey, ihRest, List.cons_append, merge_cons_field hs,
      withKey_append, withoutKey_append]

/-! ### One after the other -/

/-- Two fields with the same key are put together as a field and one namesake. -/
theorem mergePair_eq_joined {first : Selection} {head : FieldHead} (hhead : first.head? = some head)
    (second : Selection) : first.mergePair second = joined first head [second] := by
  simp only [mergePair, hhead, joined, childrenOf, List.any_cons, List.any_nil, Bool.or_false,
    List.isEmpty_cons, Bool.false_or, List.flatMap_cons, List.flatMap_nil, List.append_nil]
  cases first.isBranch || second.isBranch <;> simp

/-- Adds a selection to merged ones: a field whose key is there is put together with the field that
has it, in its place, and anything else comes last. -/
def place : List Selection → Selection → List Selection
  | [], s => [s]
  | t :: rest, s =>
    if s.head?.isSome && t.responseKey? == s.responseKey? then t.mergePair s :: rest
    else t :: place rest s

theorem merge_append_singleton {xs : List Selection} (h : DistinctKeys xs) (s : Selection) :
    merge (xs ++ [s]) = place xs s := by
  induction xs with
  | nil =>
    have halone : merge [s] = s :: merge [] := merge_cons_alone fun _ _ _ ht => by cases ht
    rw [List.nil_append, halone, merge_nil, place]
  | cons t rest ih =>
    obtain ⟨hfirst, hrest⟩ := distinctKeys_cons.1 h
    rw [place]
    split
    · next hsame =>
      obtain ⟨hfield, hkey⟩ : s.head?.isSome ∧ t.responseKey? = s.responseKey? := by
        simpa using hsame
      obtain ⟨own, hown⟩ := Option.isSome_iff_exists.1 hfield
      have hskey := responseKey?_eq_some hown
      obtain ⟨head, hhead, hheadKey⟩ := Option.map_eq_some_iff.1 (hkey.trans hskey)
      have hothers := hfirst _ (responseKey?_eq_some hhead)
      have hlast : withKey head.responseKey [s] = [s] :=
        List.filter_eq_self.2 (by simp [hasKey, hskey, hheadKey])
      have hnone : withoutKey head.responseKey [s] = [] :=
        List.filter_eq_nil_iff.2 (by simp [hasKey, hskey, hheadKey])
      rw [List.cons_append, merge_cons_field hhead, withKey_append, withKey_eq_nil hothers, hlast,
        withoutKey_append, withoutKey_eq_self hothers, hnone, List.nil_append, List.append_nil,
        merge_of_distinctKeys hrest, mergePair_eq_joined hhead]
    · next hother =>
      rw [List.cons_append, merge_cons_alone, ih hrest]
      intro key hkey x hx
      rcases List.mem_append.1 hx with hx | hx
      · exact hfirst key hkey x hx
      · obtain rfl := List.mem_singleton.1 hx
        intro hxkey
        exact hother (by simp [hkey, hxkey, isSome_head?_of_key hxkey])

/-- Merging can be done one selection after the other, in place. -/
theorem foldl_place (xs : List Selection) : xs.foldl place [] = merge xs := by
  induction xs using List.reverseRecOn with
  | nil => rw [List.foldl_nil, merge_nil]
  | append_singleton xs s ih =>
    rw [List.foldl_append, List.foldl_cons, List.foldl_nil, ih,
      ← merge_append_singleton (distinctKeys_merge xs), merge_merge_append]

/-- **Merging does not depend on grouping.** Two lists can be merged on their own before they are
merged together, and any list one selection after the other, each into the field that has its key.
Whatever fragments the spreads stand for, merged selections have the same paths of fields, across
the same conditions, as before. -/
theorem merge_in_groups (xs ys : List Selection) :
    merge (xs ++ ys) = merge (merge xs ++ merge ys) ∧ merge xs = xs.foldl place [] ∧
      ∀ table : FragmentTable, fieldPaths table (merge xs) = fieldPaths table xs := by
  refine ⟨?_, (foldl_place xs).symm, fun table => Set.ext fun path => hasPath_merge⟩
  rw [merge_merge_append, merge_append_merge]

end OperationSamples.Selection
