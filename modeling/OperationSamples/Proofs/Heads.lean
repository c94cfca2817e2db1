import OperationSamples.Proofs.MemberConditions
import OperationSamples.Selection.Mark

/-!
Where the fields of selections come from.

Before a shape is built from selections they are resolved, merged, gathered by response key, split
by member and marked. No step makes up a field: what it leaves has no heads but those it was given.
So every response key below a definition is the key of a field that is written there or in a
fragment.
-/

namespace OperationSamples

namespace Selection

variable {selections : List Selection} {source : List FieldHead}

theorem allHeads_eq_flatMap (selections : List Selection) :
    allHeads selections = selections.flatMap heads := by
  induction selections with
  | nil => rfl
  | cons s rest ih => rw [allHeads, ih, List.flatMap_cons]

theorem allHeads_append (first second : List Selection) :
    allHeads (first ++ second) = allHeads first ++ allHeads second := by
  simp only [allHeads_eq_flatMap, List.flatMap_append]

theorem allHeads_mono {fewer more : List Selection} (h : fewer ⊆ more) :
    allHeads fewer ⊆ allHeads more := by
  rw [allHeads_eq_flatMap fewer]
  intro head hhead
  obtain ⟨s, hs, hmem⟩ := List.mem_flatMap.1 hhead
  exact mem_allHeads (h hs) hmem

theorem mem_heads_of_head? {s : Selection} {head : FieldHead} (h : s.head? = some head) :
    head ∈ s.heads := by
  cases s <;> simp_all [head?, heads]

/-! ### Merging -/

theorem allHeads_children_subset (s : Selection) : allHeads s.children ⊆ s.heads := by
  cases s with
  | branch head mark selections => exact List.subset_cons_self head _
  | _ => exact List.nil_subset _

theorem allHeads_childrenOf_subset (fields : List Selection) :
    allHeads (childrenOf fields) ⊆ allHeads fields := by
  induction fields with
  | nil => exact List.nil_subset _
  | cons f rest ih =>
    rw [childrenOf, List.flatMap_cons, allHeads_append, allHeads]
    exact List.append_subset.2
      ⟨List.subset_append_of_subset_left _ (allHeads_children_subset f),
        List.subset_append_of_subset_right _ ih⟩

theorem allHeads_merge_subset (selections : List Selection) :
    allHeads (merge selections) ⊆ allHeads selections := by
  induction selections using merge.induct with
  | case1 => simp
  | case2 s rest hhead ih =>
    rw [merge_cons_fragment hhead]
    exact List.append_subset.2
      ⟨List.subset_append_left _ _, List.subset_append_of_subset_right _ ih⟩
  | case3 s rest head hhead ihBelow ihRest =>
    rw [merge_cons_field hhead]
    have hsame : allHeads (s :: withKey head.responseKey rest) ⊆ allHeads (s :: rest) :=
      allHeads_mono (List.cons_subset_cons s (List.filter_subset_self rest))
    have hothers : allHeads (withoutKey head.responseKey rest) ⊆ allHeads (s :: rest) :=
      allHeads_mono (List.subset_cons_of_subset s (List.filter_subset_self rest))
    refine List.append_subset.2 ⟨?_, List.Subset.trans ihRest hothers⟩
    unfold joined
    split
    · exact List.subset_append_left _ _
    · refine List.cons_subset.2 ⟨mem_allHeads List.mem_cons_self (mem_heads_of_head? hhead), ?_⟩
      exact List.Subset.trans ihBelow (List.Subset.trans (allHeads_childrenOf_subset _) hsame)

theorem heads_mergePair_subset {first second : Selection} (hfirst : first.heads ⊆ source)
    (hsecond : second.heads ⊆ source) : (mergePair first second).heads ⊆ source := by
  unfold mergePair
  cases hhead : first.head? with
  | none => exact hfirst
  | some head =>
    dsimp only
    split
    · refine List.cons_subset.2 ⟨hfirst (mem_heads_of_head? hhead), ?_⟩
      refine List.Subset.trans (allHeads_merge_subset _) ?_
      rw [allHeads_append]
      exact List.append_subset.2 
        ⟨List.Subset.trans (allHeads_children_subset first) hfirst,
          List.Subset.trans (allHeads_children_subset second) hsecond⟩
    · exact hfirst

/-! ### Resolving -/

/-- Whether a rule puts no field in the place of a spread that is not in the source. -/
def TakesFrom (source : List FieldHead) (rule : SpreadRule) : Prop :=
  ∀ entered level name directives, allHeads (rule entered level name directives).value ⊆ source

mutual

theorem allHeads_expand_subset {rule : SpreadRule} (hrule : TakesFrom source rule)
    (entered : List Entered) (level : Nat) :
    ∀ s : Selection, s.heads ⊆ source → allHeads (expand rule entered level s).value ⊆ source
  | .leaf head => fun hs => hs
  | .branch head mark selections => fun hs => by
    obtain ⟨hhead, hbelow⟩ := List.cons_subset.1 hs
    have hexpanded := allHeads_expandList_subset hrule entered (level + 1) selections hbelow
    rw [expand, Logged.value_bind, Logged.value_pure, allHeads, allHeads, List.append_nil]
    exact List.cons_subset.2 ⟨hhead, List.Subset.trans (allHeads_merge_subset _) hexpanded⟩
  | .inline none directives selections => fun hs =>
    allHeads_expandList_subset hrule entered level selections hs
  | .inline (some condition) directives selections => fun hs => by
    have hexpanded := allHeads_expandList_subset hrule entered level selections hs
    rw [expand, Logged.value_bind, Logged.value_pure, allHeads, allHeads, List.append_nil]
    exact List.Subset.trans (allHeads_merge_subset _) hexpanded
  | .spread name directives => fun _ => hrule entered level name directives

theorem allHeads_expandList_subset {rule : SpreadRule} (hrule : TakesFrom source rule)
    (entered : List Entered) (level : Nat) :
    ∀ selections : List Selection, allHeads selections ⊆ source →
      allHeads (expandList rule entered level selections).value ⊆ source
  | [] => fun _ => List.nil_subset _
  | s :: rest => fun h => by
    obtain ⟨hs, hrest⟩ := List.append_subset.1 h
    rw [expandList, Logged.value_bind, Logged.value_bind, Logged.value_pure, allHeads_append]
    exact List.append_subset.2 ⟨allHeads_expand_subset hrule entered level s hs,
      allHeads_expandList_subset hrule entered level rest hrest⟩

end

/-- Resolving takes fields from the selections and from the fragments of the table. -/
theorem allHeads_resolve_subset {table : FragmentTable} (limit : Nat)
    (htable : ∀ fragment ∈ table, allHeads fragment.selections ⊆ source)
    (h : allHeads selections ⊆ source) :
    allHeads (resolve table limit selections).value ⊆ source := by
  have hrule : TakesFrom source (expandWithin table limit limit) := by
    refine expandWithin_induction (motive := fun _ _ _ _ result => allHeads result.value ⊆ source)
      ?_ ?_ limit limit
    · exact fun _ _ _ _ _ _ => List.nil_subset _
    · intro rule entered level name directives fragment hrule hfragment inside
      have hinside : allHeads inside.value ⊆ source := allHeads_expandList_subset hrule _ _ _
        (htable fragment (List.mem_of_find?_eq_some hfragment))
      rw [allHeads, allHeads, List.append_nil]
      exact List.Subset.trans (allHeads_merge_subset _) hinside
  exact List.Subset.trans (allHeads_merge_subset _)
    (allHeads_expandList_subset hrule [] 0 selections h)

/-! ### Marking -/

mutual

theorem heads_mark (next : Nat) : ∀ s : Selection, (mark next s).1.heads = s.heads
  | .leaf head => rfl
  | .branch head (some m) selections => by
    rw [mark, heads, heads, allHeads_markAll next selections]
  | .branch head none selections => by
    rw [mark, heads, heads, allHeads_markAll (next + 1) selections]
  | .inline condition directives selections => by
    rw [mark, heads, heads, allHeads_markAll next selections]
  | .spread name directives => rfl

theorem allHeads_markAll (next : Nat) :
    ∀ selections : List Selection, allHeads (markAll next selections).1 = allHeads selections
  | [] => rfl
  | s :: rest => by
    rw [markAll, allHeads, allHeads, heads_mark next s, allHeads_markAll _ rest]

end

end Selection

theorem SelectionSet.allHeads_marked (set : SelectionSet) (next : Nat) :
    Selection.allHeads (set.marked next).1.selections = Selection.allHeads set.selections := by
  unfold SelectionSet.marked
  exact Selection.allHeads_markAll _ set.selections

/-! ### Gathering -/

/-- Whether a field has a response key and selections that come from a source. -/
structure FieldInfo.TakenFrom (source : List FieldHead) (info : FieldInfo) : Prop where
  key : ∃ head ∈ source, head.responseKey = info.responseKey ∧ head.name ≠ typenameField
  below : ∀ set, info.set = some set → Selection.allHeads set.selections ⊆ source

namespace Analysis

variable {source : List FieldHead} {schema : Schema}

def Entry.TakenFrom (source : List FieldHead) (e : Entry) : Prop :=
  e.field.heads ⊆ source ∧
    ∃ head ∈ source, head.responseKey = e.key ∧ head.name ≠ typenameField

theorem takenFrom_fileField {entries : List Entry} {key : String} {type : TypeRef}
    {field : Selection} (h : ∀ e ∈ entries, e.TakenFrom source)
    (hfield : Entry.TakenFrom source ⟨key, type, field⟩) :
    ∀ e ∈ fileField entries key type field, e.TakenFrom source := by
  induction entries with
  | nil => exact List.forall_mem_singleton.2 hfield
  | cons first rest ih =>
    obtain ⟨hfirst, hrest⟩ := List.forall_mem_cons.1 h
    rw [fileField]
    split
    · exact List.forall_mem_cons.2
        ⟨⟨Selection.heads_mergePair_subset hfirst.1 hfield.1, hfirst.2⟩, hrest⟩
    · exact List.forall_mem_cons.2 ⟨hfirst, ih hrest⟩

theorem takenFrom_collectField {current : TypeDef} {state next : Collected} {head : FieldHead}
    {field : Selection} (h : ∀ e ∈ state.entries, e.TakenFrom source)
    (hfield : field.heads ⊆ source) (hhead : field.head? = some head)
    (hnext : (collectField current state head field).result = .ok next) :
    ∀ e ∈ next.entries, e.TakenFrom source := by
  unfold collectField at hnext
  split at hnext
  · cases hnext
    exact h
  · next hname =>
    split at hnext
    · cases hnext
    · split at hnext
      · cases hnext
        exact h
      · cases hnext
        exact takenFrom_fileField h ⟨hfield, head, hfield (Selection.mem_heads_of_head? hhead), rfl,
          by simpa using hname⟩

mutual

theorem takenFrom_collect (current : TypeDef) (state next : Collected)
    (h : ∀ e ∈ state.entries, e.TakenFrom source) :
    ∀ s : Selection, s.heads ⊆ source → (collect schema current state s).result = .ok next →
      ∀ e ∈ next.entries, e.TakenFrom source
  | .leaf head => fun hs hnext => by
    rw [collect] at hnext
    exact takenFrom_collectField h hs rfl hnext
  | .branch head mark selections => fun hs hnext => by
    rw [collect] at hnext
    exact takenFrom_collectField h hs rfl hnext
  | .inline condition directives selections => fun hs hnext => by
    simp only [collect, Walk.result_bind, Walk.result_lift] at hnext
    cases htarget : (conditionTarget schema current condition).value with
    | none =>
      rw [htarget] at hnext
      cases hnext
      exact h
    | some target =>
      rw [htarget] at hnext
      exact takenFrom_collectList target
        { state with folded := foldType current target state.folded } next h selections hs hnext
  | .spread name directives => fun _ hnext => by
    cases hnext
    exact h

theorem takenFrom_collectList (current : TypeDef) (state next : Collected)
    (h : ∀ e ∈ state.entries, e.TakenFrom source) :
    ∀ selections : List Selection, Selection.allHeads selections ⊆ source →
      (collectList schema current state selections).result = .ok next →
        ∀ e ∈ next.entries, e.TakenFrom source
  | [] => fun _ hnext => by
    cases hnext
    exact h
  | s :: rest => fun hs hnext => by
    obtain ⟨hfirst, hrest⟩ := List.append_subset.1 hs
    simp only [collectList, Walk.result_bind] at hnext
    cases hbetween : (collect schema current state s).result with
    | error fault =>
      rw [hbetween] at hnext
      cases hnext
    | ok between =>
      rw [hbetween] at hnext
      exact takenFrom_collectList current between next
        (takenFrom_collect current state between h s hfirst hbetween) rest hrest hnext

end

theorem takenFrom_fieldInfo {split : Bool} {e : Entry} {info : FieldInfo}
    (he : e.TakenFrom source) (h : fieldInfo schema split e = .ok info) :
    info.TakenFrom source := by
  unfold fieldInfo at h
  split at h
  · cases h
  · split at h
    · cases h
    · cases h
      refine ⟨he.2, fun set hset => ?_⟩
      have hbelow := List.Subset.trans (Selection.allHeads_children_subset e.field) he.1
      cases hfield : e.field with
      | branch head mark selections =>
        rw [hfield] at hset hbelow
        cases hset
        exact hbelow
      | _ =>
        rw [hfield] at hset
        cases hset

theorem takenFrom_fieldInfos {split : Bool} {entries : List Entry} {fields : List FieldInfo}
    (h : List.Forall₂ (fun e info => fieldInfo schema split e = .ok info) entries fields)
    (hentries : ∀ e ∈ entries, e.TakenFrom source) : ∀ info ∈ fields, info.TakenFrom source := by
  induction h with
  | nil => simp
  | cons hfirst _ ih =>
    obtain ⟨he, hrest⟩ := List.forall_mem_cons.1 hentries
    exact List.forall_mem_cons.2 ⟨takenFrom_fieldInfo he hfirst, ih hrest⟩

theorem takenFrom_of_mem_fields {split : Bool} {owner : TypeDef} {set : SelectionSet}
    {analysis : Analysis} {info : FieldInfo} (hset : Selection.allHeads set.selections ⊆ source)
    (h : (ofSet schema split owner (some set)).result = .ok analysis)
    (hinfo : info ∈ analysis.fields) : info.TakenFrom source := by
  obtain ⟨collected, hcollected, hfields⟩ := exists_collected h
  have hentries := takenFrom_collectList owner ⟨[], []⟩ collected (by simp) set.selections hset
    hcollected
  exact takenFrom_fieldInfos hfields hentries info hinfo

/-- No two fields of an analysis have the same response key. -/
theorem nodup_keys {split : Bool} {owner : TypeDef} {set : SelectionSet} {analysis : Analysis}
    (h : (ofSet schema split owner (some set)).result = .ok analysis) :
    (analysis.fields.map FieldInfo.responseKey).Nodup := by
  have hfiled := Selection.allFiled_unmarkedAll (fun _ => none) [] set.selections
  have hunmarked := ofSelections_unmarked schema split owner set.selections
  rw [← Selection.unmarkedAll_eq_map, show (ofSelections schema split owner
    set.selections).result = .ok analysis from h] at hunmarked
  have hkeys := (filed_ofSelections hfiled hunmarked).2
  rwa [unmarked, List.map_map] at hkeys

end Analysis

/-! ### Splitting by member -/

namespace MemberSelection

variable {source : List FieldHead} {schema : Schema} {abstract : TypeDef}

structure Split.TakenFrom (source : List FieldHead) (parts : Split) : Prop where
  common : Selection.allHeads parts.common ⊆ source
  conditioned : ∀ part ∈ parts.conditioned, Selection.allHeads part.2 ⊆ source

mutual

theorem takenFrom_split (state : Split) (h : state.TakenFrom source) :
    ∀ s : Selection, s.heads ⊆ source → (split schema abstract state s).value.TakenFrom source
  | .leaf head => fun hs => ⟨by
      rw [split, Logged.value_pure, Selection.allHeads_append]
      exact List.append_subset.2 ⟨h.common, by simpa [Selection.allHeads] using hs⟩, h.conditioned⟩
  | .branch head mark selections => fun hs => ⟨by
      rw [split, Logged.value_pure, Selection.allHeads_append]
      exact List.append_subset.2 ⟨h.common, by simpa [Selection.allHeads] using hs⟩, h.conditioned⟩
  | .spread name directives => fun _ => h
  | .inline none directives selections => fun hs => by
    rw [split]
    exact takenFrom_splitList state h selections hs
  | .inline (some condition) directives selections => fun hs => by
    rw [split]
    split
    · exact takenFrom_splitList state h selections hs
    · split
      · exact h
      · split
        · refine ⟨h.common, fun part hpart => ?_⟩
          rcases List.mem_append.1 hpart with hold | hnew
          · exact h.conditioned part hold
          · obtain rfl := List.mem_singleton.1 hnew
            exact hs
        · exact h

theorem takenFrom_splitList (state : Split) (h : state.TakenFrom source) :
    ∀ selections : List Selection, Selection.allHeads selections ⊆ source →
      (splitList schema abstract state selections).value.TakenFrom source
  | [] => fun _ => h
  | s :: rest => fun hs => by
    obtain ⟨hfirst, hrest⟩ := List.append_subset.1 hs
    exact takenFrom_splitList _ (takenFrom_split state h s hfirst) rest hrest

end

theorem takenFrom_expand {info : FieldInfo} (h : info.TakenFrom source) :
    ∀ m ∈ (expand schema info).value, Selection.allHeads m.selections ⊆ source := by
  intro m hm
  unfold expand at hm
  split at hm
  · cases hm
  · next set hset =>
    have hparts :
        (splitList schema info.namedType ⟨[], []⟩ set.selections).value.TakenFrom source :=
      takenFrom_splitList _ ⟨List.nil_subset _, by simp⟩ set.selections (h.below set hset)
    simp only [Logged.value_bind, Logged.value_pure, List.mem_map] at hm
    obtain ⟨part, hpart, rfl⟩ := hm
    refine List.Subset.trans (Selection.allHeads_merge_subset _) ?_
    rw [Selection.allHeads_append]
    exact List.append_subset.2 ⟨hparts.common, hparts.conditioned part hpart⟩

end MemberSelection

end OperationSamples
