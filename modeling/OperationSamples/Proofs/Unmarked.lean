import OperationSamples.Proofs.Remarked
import OperationSamples.Selection.Resolve

/-!
Selections without their marks.

`Selection.unmarked` removes all marks, which is one way of replacing them. Merging, analysing and
splitting selections therefore commute with it, so that what is found in a marked set is found,
unmarked, in the set before it was marked.
-/

namespace OperationSamples

namespace Selection

mutual

/-- A selection in which no set has a mark. -/
def unmarked : Selection → Selection
  | .leaf head => .leaf head
  | .branch head _ selections => .branch head none (unmarkedAll selections)
  | .inline condition directives selections => .inline condition directives (unmarkedAll selections)
  | .spread name directives => .spread name directives

def unmarkedAll : List Selection → List Selection
  | [] => []
  | s :: rest => unmarked s :: unmarkedAll rest

end

@[simp] theorem unmarkedAll_eq_map (selections : List Selection) :
    unmarkedAll selections = selections.map unmarked := by
  induction selections with
  | nil => rfl
  | cons s rest ih => rw [unmarkedAll, ih, List.map_cons]

mutual

theorem remarked_none : ∀ s : Selection, s.remarked (fun _ => none) = s.unmarked
  | .leaf _ => rfl
  | .branch _ mark selections => by
    cases mark <;> simp only [remarked, unmarked, remarkedAll_none selections] <;> rfl
  | .inline _ _ selections => by simp only [remarked, unmarked, remarkedAll_none selections]
  | .spread _ _ => rfl

theorem remarkedAll_none :
    ∀ selections : List Selection, remarkedAll (fun _ => none) selections = unmarkedAll selections
  | [] => rfl
  | s :: rest => by simp only [remarkedAll, unmarkedAll, remarked_none s, remarkedAll_none rest]

end

theorem map_remarked_none (selections : List Selection) :
    selections.map (remarked fun _ => none) = selections.map unmarked :=
  List.map_congr_left fun s _ => remarked_none s

theorem merge_map_unmarked (selections : List Selection) :
    merge (selections.map unmarked) = (merge selections).map unmarked := by
  simpa only [map_remarked_none] using merge_map_remarked (f := fun _ => none) selections

end Selection

/-- A selection set without marks. -/
def SelectionSet.unmarked (set : SelectionSet) : SelectionSet :=
  ⟨none, set.selections.map Selection.unmarked⟩

theorem SelectionSet.remarked_none (set : SelectionSet) :
    set.remarked (fun _ => none) = set.unmarked := by
  obtain ⟨mark, selections⟩ := set
  cases mark <;> simp only [remarked, unmarked, Selection.map_remarked_none] <;> rfl

/-- A selected field without marks. -/
def FieldInfo.unmarked (info : FieldInfo) : FieldInfo :=
  { info with set := info.set.map SelectionSet.unmarked }

theorem FieldInfo.remarked_none (info : FieldInfo) :
    info.remarked (fun _ => none) = info.unmarked := by
  simp only [remarked, unmarked, funext SelectionSet.remarked_none]

namespace Analysis

/-- An analysis without marks. -/
def unmarked (a : Analysis) : Analysis := { a with fields := a.fields.map FieldInfo.unmarked }

/-- What a walk ends with, reports aside. -/
def Walk.result {α : Type} (walk : Walk α) : Except AnalysisFault α := walk.run.value

namespace Walk

variable {α β : Type}

@[simp] theorem result_pure (a : α) : result (Pure.pure a : Walk α) = .ok a := rfl

@[simp] theorem result_throw (fault : AnalysisFault) :
    result (throw fault : Walk α) = .error fault := rfl

@[simp] theorem result_lift (x : Logged α) : result (ExceptT.lift x : Walk α) = .ok x.value := rfl

@[simp] theorem result_liftExcept (x : Except AnalysisFault α) :
    result (liftM x : Walk α) = x := by
  cases x <;> rfl

@[simp] theorem result_bind (x : Walk α) (f : α → Walk β) :
    result (x >>= f) = x.result >>= fun a => (f a).result := by
  unfold result
  rw [ExceptT.run_bind, Logged.value_bind]
  cases x.run.value <;> rfl

@[simp] theorem result_map (x : Walk α) (f : α → β) : result (f <$> x) = x.result.map f := by
  rw [map_eq_pure_bind, result_bind]
  cases x.result <;> rfl

end Walk

/-- An analysis does not look at marks. -/
theorem ofSelections_unmarked (schema : Schema) (split : Bool) (owner : TypeDef)
    (selections : List Selection) :
    (ofSelections schema split owner (selections.map Selection.unmarked)).result =
      (ofSelections schema split owner selections).result.map unmarked := by
  have hremarked : remarked (fun _ => none) = unmarked := by
    funext a
    simp only [remarked, unmarked, funext FieldInfo.remarked_none]
  rw [← Selection.map_remarked_none, ofSelections_remarked, Walk.result_map, hremarked]

end Analysis

/-- The selections of a member without marks. -/
def MemberSelection.unmarked (m : MemberSelection) : MemberSelection :=
  { m with selections := m.selections.map Selection.unmarked }

/-- Splitting by member does not look at marks. -/
theorem MemberSelection.expand_unmarked (schema : Schema) (info : FieldInfo) :
    (expand schema info.unmarked).value = (expand schema info).value.map unmarked := by
  have hremarked : remarked (fun _ => none) = unmarked := by
    funext m
    simp only [remarked, unmarked, Selection.map_remarked_none]
  rw [← FieldInfo.remarked_none, expand_remarked, hremarked]
  rfl

/-! ### Resolving -/

namespace Selection

/-- Whether no set in some selections has a mark. -/
def Unmarked (selections : List Selection) : Prop := selections.map unmarked = selections

mutual

theorem remarked_unmarked (f : Nat → Option Nat) :
    ∀ s : Selection, s.unmarked.remarked f = s.unmarked
  | .leaf _ => rfl
  | .branch head mark selections => by
    simp only [unmarked, remarked, Option.bind_none, remarkedAll_unmarkedAll f selections]
  | .inline _ _ selections => by
    simp only [unmarked, remarked, remarkedAll_unmarkedAll f selections]
  | .spread _ _ => rfl

theorem remarkedAll_unmarkedAll (f : Nat → Option Nat) :
    ∀ selections : List Selection,
      remarkedAll f (unmarkedAll selections) = unmarkedAll selections
  | [] => rfl
  | s :: rest => by
    simp only [unmarkedAll, remarkedAll, remarked_unmarked f s, remarkedAll_unmarkedAll f rest]

end

/-- Where there are no marks, there are none to replace. -/
theorem Unmarked.map_remarked {selections : List Selection} (h : Unmarked selections)
    (f : Nat → Option Nat) : selections.map (remarked f) = selections := by
  have hall := remarkedAll_unmarkedAll f selections
  rwa [unmarkedAll_eq_map, h, remarkedAll_eq_map] at hall

theorem Unmarked.append {first second : List Selection} (h : Unmarked first)
    (h' : Unmarked second) : Unmarked (first ++ second) := by
  rw [Unmarked, List.map_append, h, h']

theorem Unmarked.merge {selections : List Selection} (h : Unmarked selections) :
    Unmarked (merge selections) := by
  rw [Unmarked, ← merge_map_unmarked, h]

mutual

theorem unmarked_expand {rule : SpreadRule}
    (hrule : ∀ chain level name directives, Unmarked (rule chain level name directives).value)
    (chain : List Entered) (level : Nat) :
    ∀ s : Selection, Unmarked (expand rule chain level s).value
  | .leaf head => rfl
  | .branch head mark selections => by
    have hbelow := (unmarked_expandList hrule chain (level + 1) selections).merge
    simp only [expand, Logged.value_bind, Logged.value_pure, Unmarked, List.map_cons, List.map_nil,
      unmarked, unmarkedAll_eq_map]
    rw [hbelow]
  | .inline none directives selections => unmarked_expandList hrule chain level selections
  | .inline (some condition) directives selections => by
    have hinside := (unmarked_expandList hrule chain level selections).merge
    simp only [expand, Logged.value_bind, Logged.value_pure, Unmarked, List.map_cons, List.map_nil,
      unmarked, unmarkedAll_eq_map]
    rw [hinside]
  | .spread name directives => hrule chain level name directives

theorem unmarked_expandList {rule : SpreadRule}
    (hrule : ∀ chain level name directives, Unmarked (rule chain level name directives).value)
    (chain : List Entered) (level : Nat) :
    ∀ selections : List Selection, Unmarked (expandList rule chain level selections).value
  | [] => rfl
  | s :: rest =>
    (unmarked_expand hrule chain level s).append (unmarked_expandList hrule chain level rest)

end

theorem unmarked_expandWithin (table : FragmentTable) (limit remaining : Nat)
    (chain : List Entered) (level : Nat) (name : String) (directives : List Directive) :
    Unmarked (expandWithin table limit remaining chain level name directives).value := by
  induction remaining generalizing chain level name directives with
  | zero =>
    unfold expandWithin
    split <;> rfl
  | succ remaining ih =>
    unfold expandWithin
    split
    · rfl
    · dsimp only
      split
      · rfl
      · next f _ =>
        have hinside := (unmarked_expandList ih (chain ++ [⟨name, level⟩]) level f.selections).merge
        simp only [Logged.value_bind, Logged.value_pure, Unmarked, List.map_cons, List.map_nil,
          unmarked, unmarkedAll_eq_map]
        rw [hinside]

/-- Resolving gives selections without marks. -/
theorem unmarked_resolve (table : FragmentTable) (limit : Nat) (selections : List Selection) :
    Unmarked (resolve table limit selections).value :=
  (unmarked_expandList (unmarked_expandWithin table limit limit) [] 0 selections).merge

end Selection

end OperationSamples
