import OperationSamples.Selection.Mark
import OperationSamples.Selection.Members

/-!
Selections with other marks.

Marks tell selection sets apart; they do not take part in what a set selects. `Selection.remarked`
replaces every mark by another one, or removes it. Merging, analysing and splitting selections
commute with it: they move marked sets around, but never look at a mark.
-/

namespace OperationSamples

variable {f : Nat → Option Nat}

namespace Selection

mutual

/-- A selection in which the marks of all sets are replaced. A set without mark stays without. -/
def remarked (f : Nat → Option Nat) : Selection → Selection
  | .leaf head => .leaf head
  | .branch head mark selections => .branch head (mark.bind f) (remarkedAll f selections)
  | .inline condition directives selections =>
    .inline condition directives (remarkedAll f selections)
  | .spread name directives => .spread name directives

def remarkedAll (f : Nat → Option Nat) : List Selection → List Selection
  | [] => []
  | s :: rest => remarked f s :: remarkedAll f rest

end

@[simp] theorem remarkedAll_eq_map (selections : List Selection) :
    remarkedAll f selections = selections.map (remarked f) := by
  induction selections with
  | nil => rfl
  | cons s rest ih => rw [remarkedAll, ih, List.map_cons]

@[simp] theorem head?_remarked (s : Selection) : (s.remarked f).head? = s.head? := by
  cases s <;> simp [remarked, head?]

@[simp] theorem responseKey?_remarked (s : Selection) :
    (s.remarked f).responseKey? = s.responseKey? := by
  simp [responseKey?]

@[simp] theorem hasKey_remarked (key : String) (s : Selection) :
    hasKey key (s.remarked f) = hasKey key s := by
  simp [hasKey]

@[simp] theorem isBranch_remarked (s : Selection) : (s.remarked f).isBranch = s.isBranch := by
  cases s <;> simp [remarked, isBranch]

@[simp] theorem children_remarked (s : Selection) :
    (s.remarked f).children = s.children.map (remarked f) := by
  cases s <;> simp [remarked, children]

/-! ### Merging -/

theorem withKey_map_remarked (key : String) (selections : List Selection) :
    withKey key (selections.map (remarked f)) = (withKey key selections).map (remarked f) := by
  simp only [withKey, List.filter_map]
  exact congrArg _ (List.filter_congr fun s _ => hasKey_remarked key s)

theorem withoutKey_map_remarked (key : String) (selections : List Selection) :
    withoutKey key (selections.map (remarked f)) =
      (withoutKey key selections).map (remarked f) := by
  simp only [withoutKey, List.filter_map]
  exact congrArg _ (List.filter_congr fun s _ => by simp)

theorem childrenOf_map_remarked (selections : List Selection) :
    childrenOf (selections.map (remarked f)) = (childrenOf selections).map (remarked f) := by
  induction selections with
  | nil => rfl
  | cons s rest ih =>
    simp only [childrenOf, List.map_cons, List.flatMap_cons, List.map_append,
      children_remarked] at ih ⊢
    rw [ih]

theorem any_isBranch_map_remarked (selections : List Selection) :
    (selections.map (remarked f)).any isBranch = selections.any isBranch := by
  induction selections with
  | nil => rfl
  | cons s rest ih => simp only [List.map_cons, List.any_cons, isBranch_remarked, ih]

/-- What a merged field becomes: it stands alone, or is put together with its namesakes. -/
def joined (s : Selection) (head : FieldHead) (same : List Selection) : Selection :=
  if same.isEmpty || !(s :: same).any isBranch then s
  else .branch head none (merge (childrenOf (s :: same)))

theorem merge_cons_fragment {s : Selection} {rest : List Selection} (h : s.head? = none) :
    merge (s :: rest) = s :: merge rest := by
  rw [merge]
  simp only [h]

theorem merge_cons_field {s : Selection} {rest : List Selection} {head : FieldHead}
    (h : s.head? = some head) :
    merge (s :: rest) = joined s head (withKey head.responseKey rest)
      :: merge (withoutKey head.responseKey rest) := by
  rw [merge]
  simp only [h]
  rfl

theorem merge_map_remarked (selections : List Selection) :
    merge (selections.map (remarked f)) = (merge selections).map (remarked f) := by
  induction selections using merge.induct with
  | case1 => simp
  | case2 s rest hhead ih =>
    have hhead' : (s.remarked f).head? = none := by simpa using hhead
    rw [List.map_cons, merge_cons_fragment hhead', merge_cons_fragment hhead, ih, List.map_cons]
  | case3 s rest head hhead ihBelow ihRest =>
    have hhead' : (s.remarked f).head? = some head := by simpa using hhead
    have hjoined : joined (s.remarked f) head (withKey head.responseKey (rest.map (remarked f))) =
        (joined s head (withKey head.responseKey rest)).remarked f := by
      rw [withKey_map_remarked]
      unfold joined
      rw [← List.map_cons, any_isBranch_map_remarked, childrenOf_map_remarked, ihBelow]
      split
      · next h => rw [if_pos (by simpa using h)]
      · next h => rw [if_neg (by simpa using h), remarked, remarkedAll_eq_map, Option.bind_none]
    rw [List.map_cons, merge_cons_field hhead', merge_cons_field hhead, hjoined,
      withoutKey_map_remarked, ihRest, List.map_cons]

theorem mergePair_remarked (first second : Selection) :
    mergePair (first.remarked f) (second.remarked f) = (mergePair first second).remarked f := by
  unfold mergePair
  rw [head?_remarked]
  cases first.head? with
  | none => rfl
  | some head =>
    simp only [isBranch_remarked, children_remarked]
    rw [← List.map_append, merge_map_remarked]
    split <;> simp [remarked]

/-! ### Marking -/

section Moved

variable {f : Nat → Nat}

mutual

/-- Marks that are moved are numbered from a number that is moved as well. -/
theorem mark_remarked (hf : ∀ m, f (m + 1) = f m + 1) (next : Nat) :
    ∀ s : Selection, mark (f next) (s.remarked fun m => some (f m)) =
      ((mark next s).1.remarked fun m => some (f m), f (mark next s).2)
  | .leaf _ => rfl
  | .branch head (some m) selections => by
    simp only [remarked, mark, Option.bind_some, markAll_remarked hf next selections]
  | .branch head none selections => by
    have hbelow := markAll_remarked hf (next + 1) selections
    rw [hf] at hbelow
    simp only [remarked, mark, Option.bind_none, Option.bind_some, hbelow]
  | .inline condition directives selections => by
    simp only [remarked, mark, markAll_remarked hf next selections]
  | .spread _ _ => rfl

theorem markAll_remarked (hf : ∀ m, f (m + 1) = f m + 1) (next : Nat) :
    ∀ selections : List Selection,
      markAll (f next) (remarkedAll (fun m => some (f m)) selections) =
        (remarkedAll (fun m => some (f m)) (markAll next selections).1,
          f (markAll next selections).2)
  | [] => rfl
  | s :: rest => by
    simp only [remarkedAll, markAll, mark_remarked hf next s,
      markAll_remarked hf (mark next s).2 rest]

end

end Moved

end Selection

/-- A selection set with other marks. -/
def SelectionSet.remarked (f : Nat → Option Nat) (set : SelectionSet) : SelectionSet :=
  ⟨set.mark.bind f, set.selections.map (Selection.remarked f)⟩

theorem SelectionSet.marked_remarked {f : Nat → Nat} (hf : ∀ m, f (m + 1) = f m + 1) (next : Nat)
    (set : SelectionSet) :
    (set.remarked fun m => some (f m)).marked (f next) =
      ((set.marked next).1.remarked fun m => some (f m), f (set.marked next).2) := by
  obtain ⟨mark, selections⟩ := set
  have hall := fun next => Selection.markAll_remarked hf next selections
  simp only [Selection.remarkedAll_eq_map] at hall
  cases mark with
  | none =>
    have hnext := hall (next + 1)
    rw [hf] at hnext
    simp only [marked, remarked, Option.bind_none, Option.bind_some, hnext]
  | some m => simp only [marked, remarked, Option.bind_some, hall next]

@[simp] theorem Selection.set?_remarked (s : Selection) :
    (s.remarked f).set? = s.set?.map (SelectionSet.remarked f) := by
  cases s <;> simp [Selection.remarked, Selection.set?, SelectionSet.remarked]

/-- A selected field with other marks. -/
def FieldInfo.remarked (f : Nat → Option Nat) (info : FieldInfo) : FieldInfo :=
  { info with set := info.set.map (SelectionSet.remarked f) }

/-! ### Analysing -/

@[simp] theorem hasSelections_remarked (set : Option SelectionSet) :
    hasSelections (set.map (SelectionSet.remarked f)) = hasSelections set := by
  cases set with
  | none => rfl
  | some set => simp [hasSelections, SelectionSet.remarked, List.any_map, Function.comp_def]

namespace Analysis

def Entry.remarked (f : Nat → Option Nat) (e : Entry) : Entry :=
  { e with field := e.field.remarked f }

def Collected.remarked (f : Nat → Option Nat) (c : Collected) : Collected :=
  { c with entries := c.entries.map (Entry.remarked f) }

/-- An analysis with other marks. -/
def remarked (f : Nat → Option Nat) (a : Analysis) : Analysis :=
  { a with fields := a.fields.map (FieldInfo.remarked f) }

theorem fileField_remarked (entries : List Entry) (key : String) (type : TypeRef)
    (field : Selection) :
    fileField (entries.map (Entry.remarked f)) key type (field.remarked f) =
      (fileField entries key type field).map (Entry.remarked f) := by
  induction entries with
  | nil => rfl
  | cons e rest ih =>
    by_cases h : e.key == key
    · simp [fileField, Entry.remarked, h, Selection.mergePair_remarked]
    · simp only [List.map_cons, fileField, Entry.remarked, h, Bool.false_eq_true, if_false] at ih ⊢
      rw [ih]

theorem collectField_remarked (current : TypeDef) (state : Collected) (head : FieldHead)
    (field : Selection) :
    collectField current (state.remarked f) head (field.remarked f) =
      Collected.remarked f <$> collectField current state head field := by
  unfold collectField
  split
  · rfl
  · split
    · rfl
    · split
      · rfl
      · simp [Collected.remarked, fileField_remarked]

mutual

theorem collect_remarked (schema : Schema) (current : TypeDef) (state : Collected) :
    ∀ s : Selection, collect schema current (state.remarked f) (s.remarked f) =
      Collected.remarked f <$> collect schema current state s
  | .leaf head => by
    simpa only [collect, Selection.remarked] using
      collectField_remarked current state head (.leaf head)
  | .branch head mark selections => by
    simpa only [collect, Selection.remarked] using
      collectField_remarked current state head (.branch head mark selections)
  | .inline condition directives selections => by
    simp only [collect, Selection.remarked, map_bind]
    refine bind_congr fun target => ?_
    cases target with
    | none => rfl
    | some target =>
      exact collectList_remarked schema target
        { state with folded := foldType current target state.folded } selections
  | .spread name directives => rfl

theorem collectList_remarked (schema : Schema) (current : TypeDef) (state : Collected) :
    ∀ selections : List Selection,
      collectList schema current (state.remarked f) (Selection.remarkedAll f selections) =
        Collected.remarked f <$> collectList schema current state selections
  | [] => rfl
  | s :: rest => by
    simp only [Selection.remarkedAll, collectList, map_bind,
      collect_remarked schema current state s, bind_map_left]
    exact bind_congr fun next => collectList_remarked schema current next rest

end

@[simp] theorem hasMemberCondition_remarked (schema : Schema) (abstract : TypeDef)
    (set : Option SelectionSet) :
    hasMemberCondition schema abstract (set.map (SelectionSet.remarked f)) =
      hasMemberCondition schema abstract set := by
  cases set with
  | none => rfl
  | some set =>
    simp only [hasMemberCondition, Option.map_some, SelectionSet.remarked, Option.getD_some,
      List.any_map]
    refine congrArg (set.selections.any ·) (funext fun s => ?_)
    cases s with
    | inline condition directives selections => cases condition <;> rfl
    | _ => rfl

theorem fieldInfo_remarked (schema : Schema) (split : Bool) (e : Entry) :
    fieldInfo schema split (e.remarked f) =
      (fieldInfo schema split e).map (FieldInfo.remarked f) := by
  simp only [fieldInfo, Entry.remarked]
  cases schema.type? e.type.namedType with
  | none => rfl
  | some type =>
    cases hkind : type.kind? with
    | none => simp [hkind, Except.map]
    | some kind => simp [hkind, Except.map, FieldInfo.remarked, categorize]

theorem mapM_fieldInfo_remarked (schema : Schema) (split : Bool) (entries : List Entry) :
    (entries.map (Entry.remarked f)).mapM (fieldInfo schema split) =
      (entries.mapM (fieldInfo schema split)).map (List.map (FieldInfo.remarked f)) := by
  induction entries with
  | nil => rfl
  | cons e rest ih =>
    simp only [List.map_cons, List.mapM_cons, fieldInfo_remarked, ih]
    cases fieldInfo schema split e with
    | error fault => rfl
    | ok info =>
      cases rest.mapM (fieldInfo schema split) <;> rfl

/-- An analysis does not look at marks. -/
theorem ofSelections_remarked (schema : Schema) (split : Bool) (owner : TypeDef)
    (selections : List Selection) :
    ofSelections schema split owner (selections.map (Selection.remarked f)) =
      remarked f <$> ofSelections schema split owner selections := by
  have hcollect := collectList_remarked (f := f) schema owner ⟨[], []⟩ selections
  rw [Selection.remarkedAll_eq_map] at hcollect
  have hstart : Collected.remarked f ⟨[], []⟩ = ⟨[], []⟩ := rfl
  rw [hstart] at hcollect
  simp only [ofSelections, hcollect, bind_map_left, map_bind, map_pure]
  refine bind_congr fun collected => ?_
  simp only [Collected.remarked, mapM_fieldInfo_remarked]
  cases collected.entries.mapM (fieldInfo schema split) <;> rfl

end Analysis

/-! ### Splitting by member -/

namespace MemberSelection

def Split.remarked (f : Nat → Option Nat) (parts : Split) : Split :=
  ⟨parts.common.map (Selection.remarked f),
    parts.conditioned.map fun (member, own) => (member, own.map (Selection.remarked f))⟩

/-- The selections of a member with other marks. -/
def remarked (f : Nat → Option Nat) (m : MemberSelection) : MemberSelection :=
  { m with selections := m.selections.map (Selection.remarked f) }

mutual

theorem split_remarked (schema : Schema) (abstract : TypeDef) (state : Split) :
    ∀ s : Selection, split schema abstract (state.remarked f) (s.remarked f) =
      Split.remarked f <$> split schema abstract state s
  | .leaf head => by simp [split, Selection.remarked, Split.remarked]
  | .branch head mark selections => by simp [split, Selection.remarked, Split.remarked]
  | .spread name directives => rfl
  | .inline none directives selections => by
    simpa only [split, Selection.remarked] using splitList_remarked schema abstract state selections
  | .inline (some condition) directives selections => by
    simp only [split, Selection.remarked]
    by_cases hname : condition == abstract.name
    · simpa only [hname, if_true] using splitList_remarked schema abstract state selections
    · simp only [hname, Bool.false_eq_true, if_false]
      cases schema.type? condition with
      | none => rfl
      | some candidate =>
        by_cases hmember : Schema.isMember abstract candidate
        · simp [hmember, Split.remarked]
        · simp only [hmember, Bool.false_eq_true, if_false]
          rfl

theorem splitList_remarked (schema : Schema) (abstract : TypeDef) (state : Split) :
    ∀ selections : List Selection,
      splitList schema abstract (state.remarked f) (Selection.remarkedAll f selections) =
        Split.remarked f <$> splitList schema abstract state selections
  | [] => rfl
  | s :: rest => by
    simp only [Selection.remarkedAll, splitList, split_remarked schema abstract state s,
      bind_map_left, map_bind]
    exact bind_congr fun next => splitList_remarked schema abstract next rest

end

/-- Splitting by member does not look at marks. -/
theorem expand_remarked (schema : Schema) (info : FieldInfo) :
    expand schema (info.remarked f) = List.map (remarked f) <$> expand schema info := by
  unfold expand FieldInfo.remarked
  cases info.set with
  | none => rfl
  | some set =>
    have hsplit := splitList_remarked (f := f) schema info.namedType ⟨[], []⟩ set.selections
    have hstart : Split.remarked f ⟨[], []⟩ = ⟨[], []⟩ := rfl
    rw [Selection.remarkedAll_eq_map, hstart] at hsplit
    simp only [Option.map_some, SelectionSet.remarked, hsplit, bind_map_left, map_bind, map_pure]
    refine bind_congr fun parts => congrArg pure ?_
    simp only [Split.remarked, List.map_map]
    refine List.map_congr_left fun part _ => ?_
    simp only [Function.comp, remarked, ← List.map_append, Selection.merge_map_remarked]

end MemberSelection

end OperationSamples
