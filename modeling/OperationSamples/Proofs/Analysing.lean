import Mathlib.Data.List.Forall2
import OperationSamples.Proofs.Applicability

/-!
What an analysis finds.

An analysis walks the selections on a type and goes on below the target of every fragment. The
fields that it comes to are what the selections yield (`Yields`): on a type with fields the walk
always ends, and it ends with the response keys that they yield (`collects_collectList`). An
analysis consists of what was gathered, field by field, and fails only where a field that was
gathered has no type that can be selected (`ofSelections_cases`).
-/

namespace OperationSamples

namespace Analysis

variable {schema : Schema}

/-! ### The walk -/

theorem type_of_mem_fileField {entries : List Entry} {key : String} {type : TypeRef}
    {field : Selection} {e : Entry} (he : e ∈ fileField entries key type field) :
    e.type = type ∨ ∃ before ∈ entries, before.type = e.type := by
  induction entries with
  | nil =>
    obtain rfl : e = ⟨key, type, field⟩ := by simpa [fileField] using he
    exact .inl rfl
  | cons first rest ih =>
    rw [fileField] at he
    split at he
    · refine .inr ?_
      rcases List.mem_cons.1 he with rfl | he
      · exact ⟨first, List.mem_cons_self, rfl⟩
      · exact ⟨e, List.mem_cons_of_mem first he, rfl⟩
    · rcases List.mem_cons.1 he with rfl | he
      · exact .inr ⟨e, List.mem_cons_self, rfl⟩
      · rcases ih he with hnew | ⟨before, hmem, heq⟩
        · exact .inl hnew
        · exact .inr ⟨before, List.mem_cons_of_mem first hmem, heq⟩

/-- Whether a selection on a type yields a field of some type under a response key, itself or
through fragments with a target. -/
inductive Yields (schema : Schema) : TypeDef → Selection → String → TypeRef → Prop
  | field {current : TypeDef} {s : Selection} {head : FieldHead} {type : TypeRef}
      (hhead : s.head? = some head) (hname : head.name ≠ typenameField)
      (htype : current.fieldType? head.name = some type) :
      Yields schema current s head.responseKey type
  | inline {current target : TypeDef} {condition : Option String} {directives : List Directive}
      {inside : List Selection} {s : Selection} {key : String} {type : TypeRef}
      (htarget : (conditionTarget schema current condition).value = some target) (hs : s ∈ inside)
      (h : Yields schema target s key type) :
      Yields schema current (.inline condition directives inside) key type

/-- Whether some of the selections on a type yields a field under a response key. -/
def SomeYields (schema : Schema) (current : TypeDef) (selections : List Selection) (key : String) :
    Prop :=
  ∃ s ∈ selections, ∃ type, Yields schema current s key type

theorem someYields_iff_exists {current : TypeDef} {selections : List Selection} {key : String} :
    SomeYields schema current selections key ↔
      ∃ s ∈ selections, SomeYields schema current [s] key := by
  simp [SomeYields]

theorem someYields_append {current : TypeDef} {first second : List Selection} {key : String} :
    SomeYields schema current (first ++ second) key ↔
      SomeYields schema current first key ∨ SomeYields schema current second key := by
  simp only [SomeYields, List.mem_append, or_and_right, exists_or]

theorem someYields_inline {current target : TypeDef} {condition : Option String}
    {directives : List Directive} {inside : List Selection} {key : String}
    (htarget : (conditionTarget schema current condition).value = some target) :
    SomeYields schema current [.inline condition directives inside] key ↔
      SomeYields schema target inside key := by
  constructor
  · rintro ⟨s, hs, type, hyields⟩
    obtain rfl := List.mem_singleton.1 hs
    cases hyields with
    | field hhead => cases hhead
    | inline hother hs hyields =>
      rw [htarget] at hother
      cases hother
      exact ⟨_, hs, type, hyields⟩
  · rintro ⟨s, hs, type, hyields⟩
    exact ⟨_, List.mem_singleton_self _, type, .inline htarget hs hyields⟩

theorem not_someYields_inline {current : TypeDef} {condition : Option String}
    {directives : List Directive} {inside : List Selection} {key : String}
    (htarget : (conditionTarget schema current condition).value = none) :
    ¬ SomeYields schema current [.inline condition directives inside] key := by
  rintro ⟨s, hs, type, hyields⟩
  obtain rfl := List.mem_singleton.1 hs
  cases hyields with
  | field hhead => cases hhead
  | inline hother =>
    rw [htarget] at hother
    cases hother

theorem not_someYields_spread {current : TypeDef} {name : String} {directives : List Directive}
    {key : String} : ¬ SomeYields schema current [.spread name directives] key := by
  rintro ⟨s, hs, type, hyields⟩
  obtain rfl := List.mem_singleton.1 hs
  cases hyields with
  | field hhead => cases hhead

theorem someYields_field {current : TypeDef} {f : Selection} {head : FieldHead} {key : String}
    (hhead : f.head? = some head) :
    SomeYields schema current [f] key ↔ head.responseKey = key ∧ head.name ≠ typenameField ∧
      (current.fieldType? head.name).isSome := by
  constructor
  · rintro ⟨s, hs, type, hyields⟩
    obtain rfl := List.mem_singleton.1 hs
    cases hyields with
    | field hown hname htype =>
      cases hhead.symm.trans hown
      exact ⟨rfl, hname, by simp [htype]⟩
    | inline => cases hhead
  · rintro ⟨rfl, hname, hexists⟩
    obtain ⟨type, htype⟩ := Option.isSome_iff_exists.1 hexists
    exact ⟨f, List.mem_singleton_self f, type, .field hhead hname htype⟩

/-- A fragment stays on its type, or leads to an object or interface type of the schema. -/
theorem conditionTarget_eq_some {current target : TypeDef} {condition : Option String}
    (h : (conditionTarget schema current condition).value = some target) :
    target = current ∨ schema.Finds target ∧ target.isComposite := by
  cases condition with
  | none => exact .inl (Option.some.inj h).symm
  | some condition =>
    rw [conditionTarget] at h
    split at h
    · exact .inl (Option.some.inj h).symm
    · cases hfound : schema.type? condition with
      | none =>
        simp only [hfound] at h
        cases h
      | some candidate =>
        simp only [hfound] at h
        split at h
        · exact .inl (Option.some.inj h).symm
        · split at h
          · next htest =>
            cases h
            simp only [Bool.and_eq_true] at htest
            exact .inr ⟨Schema.finds_of_type? hfound, htest.1.2⟩
          · cases h

theorem isComposite_of_conditionTarget {current target : TypeDef} {condition : Option String}
    (hcomposite : current.isComposite)
    (h : (conditionTarget schema current condition).value = some target) : target.isComposite :=
  (conditionTarget_eq_some h).elim (fun hsame => hsame ▸ hcomposite) And.right

/-- What a walk over some selections on a type adds: the response keys that they yield, with the
types of the fields. -/
structure Collects (schema : Schema) (current : TypeDef) (selections : List Selection)
    (before after : Collected) : Prop where
  keys : ∀ key, key ∈ after.entries.map Entry.key ↔
    key ∈ before.entries.map Entry.key ∨ SomeYields schema current selections key
  types : ∀ e ∈ after.entries, (∃ s ∈ selections, ∃ key, Yields schema current s key e.type) ∨
    ∃ old ∈ before.entries, old.type = e.type

theorem Collects.append {current : TypeDef} {first second : List Selection}
    {before between after : Collected} (h : Collects schema current first before between)
    (h' : Collects schema current second between after) :
    Collects schema current (first ++ second) before after where
  keys key := by rw [h'.keys, h.keys, someYields_append, or_assoc]
  types e he := by
    rcases h'.types e he with ⟨s, hs, hyields⟩ | ⟨old, hold, heq⟩
    · exact .inl ⟨s, List.mem_append_right first hs, hyields⟩
    · rw [← heq]
      refine (h.types old hold).imp_left ?_
      rintro ⟨s, hs, hyields⟩
      exact ⟨s, List.mem_append_left second hs, hyields⟩

theorem Collects.none {current : TypeDef} {selections : List Selection} (state : Collected)
    (h : ∀ key, ¬ SomeYields schema current selections key) :
    Collects schema current selections state state where
  keys key := by simp [h key]
  types e he := .inr ⟨e, he, rfl⟩

theorem exists_fields?_of_isComposite {t : TypeDef} (hcomposite : t.isComposite) :
    ∃ fields, t.fields? = some fields := by
  cases hbody : t.body <;>
    simp_all [TypeDef.fields?, TypeDef.isComposite, TypeDef.isObject, TypeDef.isInterface,
      TypeDef.kind?]

theorem collects_collectField {current : TypeDef} (hcomposite : current.isComposite)
    (state : Collected) {head : FieldHead} {field : Selection} (hhead : field.head? = some head) :
    ∃ after, (collectField current state head field).result = .ok after ∧
      Collects schema current [field] state after := by
  obtain ⟨fields, hfields⟩ := exists_fields?_of_isComposite hcomposite
  unfold collectField
  by_cases hname : head.name = typenameField
  · refine ⟨state, by simp [hname], .none state fun key hyields => ?_⟩
    exact ((someYields_field hhead).1 hyields).2.1 hname
  · simp only [beq_iff_eq, hname, if_false, hfields]
    cases htype : current.fieldType? head.name with
    | none =>
      refine ⟨state, rfl, .none state fun key hyields => ?_⟩
      simpa [htype] using ((someYields_field hhead).1 hyields).2.2
    | some type =>
      refine ⟨_, rfl, ?_, ?_⟩
      · intro key
        rw [someYields_field hhead, keys_fileField]
        split
        · -- a key that was filed before is not filed again
          next hold =>
          exact ⟨.inl, fun h => h.elim id fun hsame => hsame.1 ▸ hold⟩
        · simp [hname, htype, eq_comm]
      · intro e he
        rcases type_of_mem_fileField he with heq | hold
        · exact .inl ⟨field, List.mem_singleton_self field, head.responseKey,
            .field hhead hname (heq ▸ htype)⟩
        · exact .inr hold

mutual

theorem collects_collect (schema : Schema) (current : TypeDef) (hcomposite : current.isComposite)
    (state : Collected) :
    ∀ s : Selection, ∃ after, (collect schema current state s).result = .ok after ∧
      Collects schema current [s] state after
  | .leaf head => by
    rw [collect]
    exact collects_collectField hcomposite state rfl
  | .branch head mark selections => by
    rw [collect]
    exact collects_collectField hcomposite state rfl
  | .inline condition directives selections => by
    cases htarget : (conditionTarget schema current condition).value with
    | none =>
      refine ⟨state, ?_, .none state fun key => not_someYields_inline htarget⟩
      simp only [collect, Walk.result_bind, Walk.result_lift, htarget]
      rfl
    | some target =>
      obtain ⟨after, hresult, hcollects⟩ := collects_collectList schema target
        (isComposite_of_conditionTarget hcomposite htarget)
        { state with folded := foldType current target state.folded } selections
      refine ⟨after, ?_, fun key => ?_, fun e he => ?_⟩
      · simp only [collect, Walk.result_bind, Walk.result_lift, htarget]
        exact hresult
      · rw [hcollects.keys, someYields_inline htarget]
      · refine (hcollects.types e he).imp_left ?_
        rintro ⟨s, hs, key, hyields⟩
        exact ⟨_, List.mem_singleton_self _, key, .inline htarget hs hyields⟩
  | .spread name directives => ⟨state, rfl, .none state fun _ => not_someYields_spread⟩

theorem collects_collectList (schema : Schema) (current : TypeDef)
    (hcomposite : current.isComposite) (state : Collected) :
    ∀ selections : List Selection,
      ∃ after, (collectList schema current state selections).result = .ok after ∧
        Collects schema current selections state after
  | [] => ⟨state, rfl, .none state fun _ hnone => by
      obtain ⟨s, hs, -⟩ := hnone
      cases hs⟩
  | s :: rest => by
    obtain ⟨between, hfirst, hcollects⟩ := collects_collect schema current hcomposite state s
    obtain ⟨after, hothers, hcollects'⟩ :=
      collects_collectList schema current hcomposite between rest
    refine ⟨after, ?_, hcollects.append hcollects'⟩
    simp only [collectList, Walk.result_bind, hfirst]
    exact hothers

end

/-! ### The fields -/

theorem mapM_cases {α β ε : Type} (f : α → Except ε β) (xs : List α) :
    (∃ ys, xs.mapM f = .ok ys ∧ List.Forall₂ (fun x y => f x = .ok y) xs ys) ∨
      ∃ fault, xs.mapM f = .error fault ∧ ∃ x ∈ xs, f x = .error fault := by
  induction xs with
  | nil => exact .inl ⟨[], rfl, .nil⟩
  | cons x rest ih =>
    rw [List.mapM_cons]
    cases hfirst : f x with
    | error fault => exact .inr ⟨fault, rfl, x, List.mem_cons_self, hfirst⟩
    | ok y =>
      rcases ih with ⟨ys, heq, hall⟩ | ⟨fault, heq, other, hother, hfault⟩
      · rw [heq]
        exact .inl ⟨y :: ys, rfl, .cons hfirst hall⟩
      · rw [heq]
        exact .inr ⟨fault, rfl, other, List.mem_cons_of_mem x hother, hfault⟩

/-- What is known about a field of an analysis: it has a type of the schema that can be selected,
and the category of that type and its selections. -/
structure FieldOf (schema : Schema) (split : Bool) (info : FieldInfo) : Prop where
  finds : schema.Finds info.namedType
  kind : info.namedType.kind? = some info.kind
  category : info.category = categorize schema split info.namedType info.kind info.set

theorem fieldOf_fieldInfo {schema : Schema} {split : Bool} {e : Entry} {info : FieldInfo}
    (h : fieldInfo schema split e = .ok info) :
    info.responseKey = e.key ∧ FieldOf schema split info := by
  unfold fieldInfo at h
  split at h
  · cases h
  · next type htype =>
    split at h
    · cases h
    · next kind hkind =>
      cases h
      exact ⟨rfl, Schema.finds_of_type? htype, hkind, rfl⟩

theorem fieldsOf_fieldInfo {schema : Schema} {split : Bool} {entries : List Entry}
    {fields : List FieldInfo}
    (h : List.Forall₂ (fun e info => fieldInfo schema split e = .ok info) entries fields) :
    fields.map FieldInfo.responseKey = entries.map Entry.key ∧
      ∀ info ∈ fields, FieldOf schema split info := by
  induction h with
  | nil => simp
  | cons hfirst _ ih =>
    obtain ⟨hkey, hfield⟩ := fieldOf_fieldInfo hfirst
    exact ⟨by rw [List.map_cons, List.map_cons, ih.1, hkey],
      List.forall_mem_cons.2 ⟨hfield, ih.2⟩⟩

theorem not_isOutputType_of_fieldInfo {schema : Schema} {split : Bool} {e : Entry}
    {fault : AnalysisFault} (h : fieldInfo schema split e = .error fault) :
    schema.isOutputType e.type = false := by
  unfold fieldInfo at h
  unfold Schema.isOutputType
  split at h
  · next htype => simp [htype]
  · next type htype =>
    split at h
    · next hkind => simp [htype, hkind]
    · cases h

/-- An analysis consists of what was gathered, field by field, or fails at a field that was
gathered. -/
theorem ofSelections_cases {schema : Schema} (split : Bool) {owner : TypeDef}
    {selections : List Selection} {collected : Collected}
    (hcollected : (collectList schema owner ⟨[], []⟩ selections).result = .ok collected) :
    (∃ fields, (ofSelections schema split owner selections).result =
        .ok ⟨owner, fields, collected.folded⟩ ∧
      List.Forall₂ (fun e info => fieldInfo schema split e = .ok info) collected.entries fields) ∨
    ∃ fault, (ofSelections schema split owner selections).result = .error fault ∧
      ∃ e ∈ collected.entries, fieldInfo schema split e = .error fault := by
  simp only [ofSelections, Walk.result_bind, Walk.result_liftExcept, hcollected]
  rcases mapM_cases (fieldInfo schema split) collected.entries with
    ⟨fields, hfields, hall⟩ | ⟨fault, hfault, e, he, hown⟩
  · refine .inl ⟨fields, ?_, hall⟩
    simp only [bind, Except.bind, hfields]
    rfl
  · refine .inr ⟨fault, ?_, e, he, hown⟩
    simp only [bind, Except.bind, hfault]

/-- An analysis consists of what was gathered, field by field. -/
theorem exists_collected {schema : Schema} {split : Bool} {owner : TypeDef}
    {set : Option SelectionSet} {analysis : Analysis}
    (hanalysis : (ofSet schema split owner set).result = .ok analysis) :
    ∃ collected, (collectList schema owner ⟨[], []⟩
        ((set.map SelectionSet.selections).getD [])).result = .ok collected ∧
      List.Forall₂ (fun e info => fieldInfo schema split e = .ok info) collected.entries
        analysis.fields := by
  unfold ofSet at hanalysis
  cases hcollected : (collectList schema owner ⟨[], []⟩
      ((set.map SelectionSet.selections).getD [])).result with
  | error fault =>
    simp only [ofSelections, Walk.result_bind, hcollected] at hanalysis
    cases hanalysis
  | ok collected =>
    rcases ofSelections_cases split hcollected with
      ⟨fields, hresult, hfields⟩ | ⟨fault, hresult, -⟩
    · rw [hresult] at hanalysis
      cases hanalysis
      exact ⟨collected, rfl, hfields⟩
    · rw [hresult] at hanalysis
      cases hanalysis

/-- Every field of an analysis was found in the schema. -/
theorem fieldOf_of_mem_fields {schema : Schema} {split : Bool} {owner : TypeDef}
    {set : Option SelectionSet} {analysis : Analysis} {info : FieldInfo}
    (hanalysis : (ofSet schema split owner set).result = .ok analysis)
    (hinfo : info ∈ analysis.fields) : FieldOf schema split info := by
  obtain ⟨collected, -, hfields⟩ := exists_collected hanalysis
  exact (fieldsOf_fieldInfo hfields).2 info hinfo

end Analysis

end OperationSamples
