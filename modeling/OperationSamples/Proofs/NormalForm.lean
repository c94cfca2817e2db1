import OperationSamples.Proofs.Merging
import OperationSamples.Proofs.Unmarked

/-!
Resolved selections are in normal form.

In normal form there are no spreads and no fragments without a condition, and no two fields that
stand side by side have the same response key. This holds on every level, below fields and inside
fragments (`NormalForm`). Merging puts selections together that are in normal form one by one
(`normalForm_merge`), and resolving has nothing to do where they are in normal form together
(`resolve_of_normalForm`).
-/

namespace OperationSamples.Selection

/-- Whether no two fields side by side have the same response key. -/
def DistinctKeys (selections : List Selection) : Prop := (selections.filterMap responseKey?).Nodup

/-- Whether a selection is a field or a fragment with a condition, and what stands below it is in
normal form. -/
inductive Normal : Selection → Prop
  | leaf (head : FieldHead) : Normal (.leaf head)
  | branch (head : FieldHead) (mark : Option Nat) {selections : List Selection}
      (distinct : DistinctKeys selections) (below : ∀ s ∈ selections, Normal s) :
      Normal (.branch head mark selections)
  | inline (condition : String) (directives : List Directive) {selections : List Selection}
      (distinct : DistinctKeys selections) (below : ∀ s ∈ selections, Normal s) :
      Normal (.inline (some condition) directives selections)

/-- Whether selections are in normal form, at their level and on all levels below. -/
structure NormalForm (selections : List Selection) : Prop where
  distinct : DistinctKeys selections
  normal : ∀ s ∈ selections, s.Normal

/-! ### Merging -/

theorem distinctKeys_cons {s : Selection} {rest : List Selection} :
    DistinctKeys (s :: rest) ↔
      (∀ key, s.responseKey? = some key → ∀ t ∈ rest, t.responseKey? ≠ some key) ∧
        DistinctKeys rest := by
  unfold DistinctKeys
  cases hkey : s.responseKey? with
  | none => simp [hkey]
  | some key => simp [hkey, List.mem_filterMap]

/-- Merged fields have different keys. -/
theorem distinctKeys_merge (selections : List Selection) : DistinctKeys (merge selections) := by
  induction selections using merge.induct with
  | case1 =>
    rw [merge_nil]
    exact List.nodup_nil
  | case2 s rest hhead ih =>
    have hnone : s.responseKey? = none := by simp [responseKey?, hhead]
    rw [merge_cons_fragment hhead]
    exact distinctKeys_cons.2 ⟨fun key hkey => by simp [hnone] at hkey, ih⟩
  | case3 s rest head hhead _ ihRest =>
    rw [merge_cons_field hhead]
    refine distinctKeys_cons.2 ⟨fun key hkey => ?_, ihRest⟩
    -- what is left over has other keys than the field
    have hown := (mergedFrom_joined hhead rest).key s List.mem_cons_self
    rw [hkey, responseKey?_eq_some hhead] at hown
    obtain rfl := Option.some.inj hown
    exact ne_key_of_mem_merge fun t ht => (mem_withoutKey.1 ht).2

/-- Where all keys are different, there is nothing to merge. -/
theorem merge_of_distinctKeys {selections : List Selection} (h : DistinctKeys selections) :
    merge selections = selections := by
  induction selections with
  | nil => exact merge_nil
  | cons s rest ih =>
    obtain ⟨hfirst, hrest⟩ := distinctKeys_cons.1 h
    rw [merge_cons_alone hfirst, ih hrest]

theorem Normal.children {s : Selection} (h : s.Normal) : ∀ t ∈ s.children, t.Normal := by
  cases h with
  | leaf head => exact List.forall_mem_nil _
  | branch head mark distinct below => exact below
  | inline condition directives distinct below => exact List.forall_mem_nil _

theorem normal_childrenOf {fields : List Selection} (h : ∀ s ∈ fields, s.Normal) :
    ∀ t ∈ childrenOf fields, t.Normal := by
  intro t ht
  obtain ⟨s, hs, hchild⟩ := List.mem_flatMap.1 ht
  exact (h s hs).children t hchild

/-- Merging selections that are normal one by one gives a normal form: fields that become one have
what stands below them merged as well. -/
theorem normalForm_merge {selections : List Selection} (h : ∀ s ∈ selections, s.Normal) :
    NormalForm (merge selections) := by
  refine ⟨distinctKeys_merge selections, ?_⟩
  induction selections using merge.induct with
  | case1 => simp
  | case2 s rest hhead ih =>
    obtain ⟨hfirst, hrest⟩ := List.forall_mem_cons.1 h
    rw [merge_cons_fragment hhead]
    exact List.forall_mem_cons.2 ⟨hfirst, ih hrest⟩
  | case3 s rest head hhead ihBelow ihRest =>
    obtain ⟨hfirst, hrest⟩ := List.forall_mem_cons.1 h
    have hsame : ∀ t ∈ s :: withKey head.responseKey rest, t.Normal :=
      List.forall_mem_cons.2 ⟨hfirst, fun t ht => hrest t (mem_withKey.1 ht).1⟩
    rw [merge_cons_field hhead]
    refine List.forall_mem_cons.2 ⟨?_, ihRest fun t ht => hrest t (mem_withoutKey.1 ht).1⟩
    unfold joined
    split
    · exact hfirst
    · exact .branch head none (distinctKeys_merge _) (ihBelow (normal_childrenOf hsame))

/-! ### Resolving -/

section Expanding

variable {rule : SpreadRule}

mutual

/-- Every selection is replaced by normal ones, if every spread is. -/
theorem normal_of_mem_expand
    (hrule : ∀ chain level name directives,
      ∀ s ∈ (rule chain level name directives).value, s.Normal)
    (chain : List Entered) (level : Nat) :
    ∀ s : Selection, ∀ t ∈ (expand rule chain level s).value, t.Normal
  | .leaf head => List.forall_mem_singleton.2 (.leaf head)
  | .branch head mark selections => by
    have hbelow := normalForm_merge (normal_of_mem_expandList hrule chain (level + 1) selections)
    exact List.forall_mem_singleton.2 (.branch head none hbelow.distinct hbelow.normal)
  | .inline none directives selections => normal_of_mem_expandList hrule chain level selections
  | .inline (some condition) directives selections => by
    have hinside := normalForm_merge (normal_of_mem_expandList hrule chain level selections)
    exact List.forall_mem_singleton.2 (.inline condition directives hinside.distinct hinside.normal)
  | .spread name directives => hrule chain level name directives

theorem normal_of_mem_expandList
    (hrule : ∀ chain level name directives,
      ∀ s ∈ (rule chain level name directives).value, s.Normal)
    (chain : List Entered) (level : Nat) :
    ∀ selections : List Selection, ∀ t ∈ (expandList rule chain level selections).value, t.Normal
  | [] => List.forall_mem_nil _
  | s :: rest => List.forall_mem_append.2
      ⟨normal_of_mem_expand hrule chain level s, normal_of_mem_expandList hrule chain level rest⟩

end

/-- A spread is left out, or replaced by a fragment in normal form. -/
theorem normal_of_mem_expandWithin (table : FragmentTable) (limit remaining : Nat)
    (chain : List Entered) (level : Nat) (name : String) (directives : List Directive) :
    ∀ s ∈ (expandWithin table limit remaining chain level name directives).value, s.Normal := by
  refine expandWithin_induction (motive := fun _ _ _ _ result => ∀ s ∈ result.value, s.Normal)
    (fun _ _ _ _ _ _ => List.forall_mem_nil _) ?_ limit remaining chain level name directives
  intro rule chain level name directives fragment hrule _
  have hinside := normalForm_merge
    (normal_of_mem_expandList hrule (chain ++ [⟨name, level⟩]) level fragment.selections)
  exact List.forall_mem_singleton.2
    (.inline fragment.condition directives hinside.distinct hinside.normal)

theorem normalForm_resolve (table : FragmentTable) (limit : Nat) (selections : List Selection) :
    NormalForm (resolve table limit selections).value :=
  normalForm_merge (normal_of_mem_expandList (normal_of_mem_expandWithin table limit limit) [] 0
    selections)

end Expanding

/-! ### Resolving again -/

theorem responseKey?_unmarked (s : Selection) : s.unmarked.responseKey? = s.responseKey? := by
  cases s <;> rfl

theorem DistinctKeys.map_unmarked {selections : List Selection} (h : DistinctKeys selections) :
    DistinctKeys (selections.map unmarked) := by
  have hkeys : responseKey? ∘ unmarked = responseKey? := funext responseKey?_unmarked
  rw [DistinctKeys, List.filterMap_map, hkeys]
  exact h

/-- Expanding does nothing to lists whose members it does nothing to. -/
theorem expandList_of_expand {rule : SpreadRule} {chain : List Entered} {level : Nat}
    {selections : List Selection}
    (h : ∀ s ∈ selections, expand rule chain level s = pure [s.unmarked]) :
    expandList rule chain level selections = pure (selections.map unmarked) := by
  induction selections with
  | nil => rfl
  | cons s rest ih =>
    obtain ⟨hfirst, hrest⟩ := List.forall_mem_cons.1 h
    rw [expandList, hfirst, ih hrest, pure_bind, pure_bind, List.map_cons, List.singleton_append]

/-- A normal selection is its own expansion, whatever would be done with spreads. -/
theorem Normal.expand_eq {s : Selection} (h : s.Normal) (rule : SpreadRule) (chain : List Entered)
    (level : Nat) : expand rule chain level s = pure [s.unmarked] := by
  induction h generalizing level with
  | leaf head => rfl
  | branch head mark distinct _ ih =>
    rw [expand, expandList_of_expand fun s hs => ih s hs (level + 1), pure_bind,
      merge_of_distinctKeys distinct.map_unmarked, unmarked, unmarkedAll_eq_map]
  | inline condition directives distinct _ ih =>
    rw [expand, expandList_of_expand fun s hs => ih s hs level, pure_bind,
      merge_of_distinctKeys distinct.map_unmarked, unmarked, unmarkedAll_eq_map]

/-- Selections in normal form are resolved to themselves, marks aside. -/
theorem resolve_of_normalForm {selections : List Selection} (h : NormalForm selections)
    (table : FragmentTable) (limit : Nat) :
    resolve table limit selections = pure (selections.map unmarked) := by
  have hexpand := expandList_of_expand fun s hs =>
    (h.normal s hs).expand_eq (expandWithin table limit limit) [] 0
  rw [resolve, hexpand, pure_bind, merge_of_distinctKeys h.distinct.map_unmarked]

/-- **Resolving reaches a normal form**, for all fragments, limits and selections: no spreads, no
fragments without a condition, and no two fields side by side with the same response key, on any
level. Resolving once more, with whatever fragments and limit, gives the same selections and reports
nothing. -/
theorem resolve_reaches_normalForm (table : FragmentTable) (limit : Nat)
    (selections : List Selection) :
    let resolved := (resolve table limit selections).value
    NormalForm resolved ∧ ∀ table' limit', resolve table' limit' resolved = ⟨resolved, []⟩ := by
  intro resolved
  have hnormal : NormalForm resolved := normalForm_resolve table limit selections
  refine ⟨hnormal, fun table' limit' => ?_⟩
  have hunmarked : resolved.map unmarked = resolved := unmarked_resolve table limit selections
  rw [resolve_of_normalForm hnormal, hunmarked]
  rfl

end OperationSamples.Selection
