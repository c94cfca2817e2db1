import OperationSamples.Proofs.Analysing

/-!
What a schema without issues guarantees.

A schema has no issues when the examination finds nothing wrong with it. Then the fields of every
object and interface type have types that can be selected, and a type that declares an interface has
the fields of the interface. So every selection on such a type can be analysed
(`Analysis.exists_of_valid`).
-/

namespace OperationSamples

namespace Schema

variable {schema : Schema} {t interface : TypeDef}

theorem exists_typeIssues_nil {types : List TypeDef} {seen : List String}
    (h : typesIssues schema seen types = []) (ht : t ∈ types) :
    ∃ seen, (typeIssues schema seen t).issues = [] := by
  induction types generalizing seen with
  | nil => cases ht
  | cons first rest ih =>
    obtain ⟨hfirst, hrest⟩ := List.append_eq_nil_iff.1 h
    rcases List.mem_cons.1 ht with rfl | ht
    · exact ⟨seen, hfirst⟩
    · exact ih hrest ht

/-- Nothing is wrong with the fields and the interfaces of a type in a valid schema. -/
theorem fieldsIssues_and_interfaceIssues (hvalid : schema.issues = []) (ht : t ∈ schema.types)
    (hcomposite : t.isComposite) :
    fieldsIssues schema t.name (fieldDefsOf t) = [] ∧
      interfaceIssues schema t [] t.interfaces = [] := by
  have htypes : typesIssues schema [] schema.types = [] := by
    simp only [issues, List.append_eq_nil_iff] at hvalid
    exact hvalid.1.2
  obtain ⟨seen, hissues⟩ := exists_typeIssues_nil htypes ht
  unfold typeIssues at hissues
  unfold fieldDefsOf TypeDef.interfaces
  cases hbody : t.body with
  | object interfaces fields =>
    simp only [hbody, List.append_eq_nil_iff] at hissues
    exact ⟨hissues.1.2, hissues.2⟩
  | interface interfaces fields =>
    simp only [hbody, List.append_eq_nil_iff] at hissues
    exact ⟨hissues.1.2, hissues.2⟩
  | _ => simp [TypeDef.isComposite, TypeDef.isObject, TypeDef.isInterface, TypeDef.kind?, hbody]
      at hcomposite

theorem isObject_of_rootType? (hvalid : schema.issues = []) {kind : OperationKind}
    (h : schema.rootType? kind = some t) : t.isObject = true := by
  have hroots : rootIssues schema = [] := by
    simp only [issues, List.append_eq_nil_iff] at hvalid
    exact hvalid.1.1.1
  simp only [rootIssues, List.append_eq_nil_iff, List.map_eq_nil_iff] at hroots
  have hkind : kind ∈ rootKinds := by cases kind <;> decide
  have hroot : (kind, t) ∈ rootKinds.filterMap fun kind =>
      (schema.rootType? kind).map fun t => (kind, t) :=
    List.mem_filterMap.2 ⟨kind, hkind, by rw [h, Option.map_some]⟩
  simpa using List.filter_eq_nil_iff.1 hroots.1.2 (kind, t) hroot

theorem fieldType?_eq_find? (hcomposite : t.isComposite) (name : String) :
    t.fieldType? name = ((fieldDefsOf t).find? fun f => f.name == name).map FieldDef.type := by
  have hfields : t.fields? = some ((fieldDefsOf t).map fun f => (f.name, f.type)) := by
    cases hbody : t.body <;>
      simp_all [TypeDef.fields?, fieldDefsOf, TypeDef.isComposite, TypeDef.isObject,
        TypeDef.isInterface, TypeDef.kind?]
  rw [TypeDef.fieldType?, hfields, Option.getD_some, List.find?_map, Option.map_map]
  rfl

/-- Whether all fields of object and interface types have types that can be selected. -/
def HasOutputFields (schema : Schema) : Prop :=
  ∀ t ∈ schema.types, ∀ f ∈ fieldDefsOf t, schema.isOutputType f.type = true

theorem hasOutputFields_of_valid (hvalid : schema.issues = []) : schema.HasOutputFields := by
  intro t ht f hf
  have hcomposite : t.isComposite := by
    cases hbody : t.body <;>
      simp_all [fieldDefsOf, TypeDef.isComposite, TypeDef.isObject, TypeDef.isInterface,
        TypeDef.kind?]
  have hissues := (fieldsIssues_and_interfaceIssues hvalid ht hcomposite).1
  have hfield : fieldIssues schema t.name f = [] :=
    List.flatMap_eq_nil_iff.1 (List.append_eq_nil_iff.1 hissues).2 f hf
  by_contra hnot
  simp [fieldIssues, hnot] at hfield

theorem HasOutputFields.isOutputType (h : schema.HasOutputFields) (ht : schema.Finds t)
    (hcomposite : t.isComposite) {name : String} {type : TypeRef}
    (htype : t.fieldType? name = some type) : schema.isOutputType type = true := by
  rw [fieldType?_eq_find? hcomposite] at htype
  obtain ⟨f, hf, rfl⟩ := Option.map_eq_some_iff.1 htype
  exact h t (List.mem_of_find?_eq_some ht) f (List.mem_of_find?_eq_some hf)

/-- What is expected of a type by an interface that was checked without issues. -/
theorem ancestorIssues_and_implementedFieldIssues {known names : List String}
    (h : interfaceIssues schema t known names = []) (hname : interface.name ∈ names)
    (hfinds : schema.Finds interface) (hinterface : interface.isInterface) :
    ancestorIssues t interface = [] ∧ ∀ expected ∈ fieldDefsOf interface,
      implementedFieldIssues schema t interface expected = [] := by
  induction names generalizing known with
  | nil => cases hname
  | cons name rest ih =>
    rw [interfaceIssues] at h
    split at h
    · cases h
    · next other hother =>
      dsimp only at h
      split at h
      · simp at h
      · simp only [List.append_eq_nil_iff] at h
        obtain ⟨⟨⟨-, hancestors⟩, hfields⟩, hrest⟩ := h
        rcases List.mem_cons.1 hname with rfl | hname
        · rw [hfinds, Option.filter_some, if_pos hinterface] at hother
          cases hother
          exact ⟨hancestors, List.flatMap_eq_nil_iff.1 hfields⟩
        · exact ih hrest hname

/-- A type of a valid schema has the fields of the interfaces that it declares. -/
theorem fieldType?_isSome_of_declares (hvalid : schema.issues = []) (ht : schema.Finds t)
    (hinterface : schema.Finds interface) (hdeclares : t.Declares interface) {name : String}
    (h : (interface.fieldType? name).isSome) : (t.fieldType? name).isSome := by
  have hcomposite : t.isComposite := TypeDef.isComposite_of_mem_interfaces hdeclares.2
  rw [fieldType?_eq_find? (TypeDef.isComposite_iff.2 (.inr hdeclares.1)), Option.isSome_map] at h
  obtain ⟨expected, hexpected⟩ := Option.isSome_iff_exists.1 h
  have hissues := (ancestorIssues_and_implementedFieldIssues
    (fieldsIssues_and_interfaceIssues hvalid (List.mem_of_find?_eq_some ht) hcomposite).2
    hdeclares.2 hinterface hdeclares.1).2 expected (List.mem_of_find?_eq_some hexpected)
  obtain rfl : expected.name = name := by simpa using List.find?_some hexpected
  rw [fieldType?_eq_find? hcomposite, Option.isSome_map]
  unfold implementedFieldIssues at hissues
  split at hissues
  · cases hissues
  · next f hf => rw [hf, Option.isSome_some]

end Schema

namespace Analysis

variable {schema : Schema} {current : TypeDef}

/-- What selections yield on a type of the schema has the type of a field of such a type. -/
theorem Yields.exists_composite {s : Selection} {key : String} {type : TypeRef}
    (h : Yields schema current s key type) (hfinds : schema.Finds current)
    (hcomposite : current.isComposite) :
    ∃ t name, schema.Finds t ∧ t.isComposite ∧ t.fieldType? name = some type := by
  induction h with
  | field _ _ htype => exact ⟨_, _, hfinds, hcomposite, htype⟩
  | inline htarget _ _ ih =>
    rcases conditionTarget_eq_some htarget with rfl | ⟨hfound, htarget⟩
    · exact ih hfinds hcomposite
    · exact ih hfound htarget

/-- Where fields have types that can be selected, every selection set on an object or interface type
has an analysis, with the response keys that its selections yield. -/
theorem exists_of_hasOutputFields (houtput : schema.HasOutputFields) (hfinds : schema.Finds current)
    (hcomposite : current.isComposite) (split : Bool) (set : SelectionSet) :
    ∃ analysis, (ofSet schema split current (some set)).result = .ok analysis ∧
      ∀ key, key ∈ analysis.fields.map FieldInfo.responseKey ↔
        SomeYields schema current set.selections key := by
  obtain ⟨collected, hcollected, hcollects⟩ :=
    collects_collectList schema current hcomposite ⟨[], []⟩ set.selections
  rcases ofSelections_cases split hcollected with
    ⟨fields, hresult, hfields⟩ | ⟨fault, -, e, he, hfault⟩
  · refine ⟨_, hresult, fun key => ?_⟩
    rw [(fieldsOf_fieldInfo hfields).1, hcollects.keys]
    simp
  · -- the types of fields that were gathered come from the schema
    rcases hcollects.types e he with ⟨s, -, key, hyields⟩ | ⟨old, hold, -⟩
    · obtain ⟨t, name, ht, hfields, htype⟩ := hyields.exists_composite hfinds hcomposite
      have hselectable := houtput.isOutputType ht hfields htype
      rw [not_isOutputType_of_fieldInfo hfault] at hselectable
      cases hselectable
    · cases hold

/-- In a valid schema every selection set on an object or interface type has an analysis. -/
theorem exists_of_valid (hvalid : schema.issues = []) (hfinds : schema.Finds current)
    (hcomposite : current.isComposite) (split : Bool) (set : SelectionSet) :
    ∃ analysis, (ofSet schema split current (some set)).result = .ok analysis ∧
      ∀ key, key ∈ analysis.fields.map FieldInfo.responseKey ↔
        SomeYields schema current set.selections key :=
  exists_of_hasOutputFields (Schema.hasOutputFields_of_valid hvalid) hfinds hcomposite split set

end Analysis

end OperationSamples
