import OperationSamples.Proofs.Collection
import OperationSamples.Proofs.Grouping

/-!
Field collection on an object type.

The fields that some selections ask of an object can be listed without gathering anything: they are
met one after the other, through the fragments that apply to the type, and those that the type has
are kept (`occurrences`). An analysis gathers them on the way, two fields at a time. What has been
gathered is at every point what has been met, merged (`Places`), so in the end the fields with one
response key were put together in one go (`gatheredSet`).

On an object type no fragment leads to another type, and nothing is folded.
-/

namespace OperationSamples

instance Schema.decidableApplies (schema : Schema) (owner : TypeDef) (condition : String) :
    Decidable (schema.Applies owner condition) :=
  decidable_of_iff (condition = owner.name ∨
      (schema.type? condition).any TypeDef.isInterface ∧ condition ∈ owner.interfaces) <| by
    cases hfound : schema.type? condition <;> simp [Schema.Applies, hfound]

namespace Selection

/-- The selection set of the fields with one response key: that of a field which has the key to
itself, none if no field has one, and otherwise the selections of all of them, merged. -/
def gatheredSet : List Selection → Option SelectionSet
  | [only] => only.set?
  | fields => if fields.any isBranch then some ⟨none, merge (childrenOf fields)⟩ else none

theorem set?_eq_none {s : Selection} (h : s.isBranch = false) : s.set? = none := by
  cases s <;> first | rfl | cases h

theorem set?_joined {s : Selection} {head : FieldHead} {same : List Selection} :
    (joined s head same).set? = gatheredSet (s :: same) := by
  cases same with
  | nil => rfl
  | cons t rest =>
    rw [gatheredSet]
    · rcases joined_cases s head (t :: rest) with hnil | ⟨hleaves, heq⟩ | ⟨-, hbranch, heq⟩
      · cases hnil
      · rw [List.any_cons, Bool.or_eq_false_iff] at hleaves
        rw [heq, set?_eq_none hleaves.1, List.any_cons, hleaves.1, hleaves.2]
        rfl
      · rw [heq, hbranch, if_pos rfl, set?]
    · simp

/-- Merged fields have the keys of the fields, in the order in which they first occur. -/
theorem keys_merge (xs : List Selection) :
    (merge xs).filterMap responseKey? = (xs.filterMap responseKey?).eraseDups := by
  induction xs using merge.induct with
  | case1 => rw [merge_nil]; rfl
  | case2 s rest hs ih =>
    have hnone : s.responseKey? = none := by rw [responseKey?, hs]; rfl
    rw [merge_cons_fragment hs, List.filterMap_cons_none hnone, List.filterMap_cons_none hnone, ih]
  | case3 s rest head hs _ ih =>
    have hothers : (withoutKey head.responseKey rest).filterMap responseKey? =
        (rest.filterMap responseKey?).filter fun key => !key == head.responseKey := by
      rw [withoutKey, List.filterMap_filter, List.filter_filterMap]
      refine List.filterMap_congr fun t _ => ?_
      cases hkey : t.responseKey? <;> simp [hasKey, hkey, Option.filter]
    rw [merge_cons_field hs, List.filterMap_cons_some (responseKey?_eq_some (head?_joined hs)),
      List.filterMap_cons_some (responseKey?_eq_some hs), List.eraseDups_cons, ih, hothers]

/-- Under its key, a merged field is what was put together from the fields with that key. -/
theorem exists_joined_of_mem_merge {xs : List Selection} {f : Selection} {key : String}
    (hf : f ∈ merge xs) (hkey : f.responseKey? = some key) :
    ∃ first others head, withKey key xs = first :: others ∧ first.head? = some head ∧
      f = joined first head others := by
  have hmem : f ∈ merge (withKey key xs) := by
    rw [merge_withKey]
    exact mem_withKey.2 ⟨hf, hkey⟩
  cases hfound : withKey key xs with
  | nil =>
    rw [hfound, merge_nil] at hmem
    cases hmem
  | cons first others =>
    have hkeys : ∀ t ∈ first :: others, t.responseKey? = some key := fun t ht =>
      (mem_withKey.1 (hfound ▸ ht)).2
    obtain ⟨head, hhead, rfl⟩ := Option.map_eq_some_iff.1 (hkeys first List.mem_cons_self)
    rw [hfound, merge_of_key hhead fun t ht => hkeys t (List.mem_cons_of_mem first ht)] at hmem
    exact ⟨first, others, head, rfl, hhead, List.mem_singleton.1 hmem⟩

end Selection

namespace Analysis

open Selection

variable {schema : Schema} {owner : TypeDef}

/-! ### The fields that are met -/

mutual

/-- The fields met in a selection, inside the fragments that apply to an object type. -/
def fieldsMet (schema : Schema) (owner : TypeDef) : Selection → List Selection
  | .leaf head => [.leaf head]
  | .branch head mark selections => [.branch head mark selections]
  | .inline none _ selections => fieldsMetIn schema owner selections
  | .inline (some condition) _ selections =>
    if schema.Applies owner condition then fieldsMetIn schema owner selections else []
  | .spread _ _ => []

/-- The fields met in some selections, from left to right. -/
def fieldsMetIn (schema : Schema) (owner : TypeDef) : List Selection → List Selection
  | [] => []
  | s :: rest => fieldsMet schema owner s ++ fieldsMetIn schema owner rest

end

/-- Whether a selection is a field that a type has. -/
def hasField (owner : TypeDef) (f : Selection) : Bool :=
  f.head?.any fun head => head.name != typenameField && (owner.fieldType? head.name).isSome

/-- The fields that some selections ask of an object type. -/
def occurrences (schema : Schema) (owner : TypeDef) (selections : List Selection) :
    List Selection :=
  (fieldsMetIn schema owner selections).filter (hasField owner)

/-! ### What is gathered -/

/-- Whether an entry has the key of its field, and the type that a type gives to the field. -/
def EntryOf (owner : TypeDef) (e : Entry) : Prop :=
  ∃ head, e.field.head? = some head ∧ e.key = head.responseKey ∧
    owner.fieldType? head.name = some e.type

/-- What a walk that meets the given fields does: they are added to the fields that were gathered
before, one after the other, and nothing is folded. -/
structure Places (owner : TypeDef) (found : List Selection) (before after : Collected) : Prop where
  fields : after.entries.map Entry.field = found.foldl place (before.entries.map Entry.field)
  entries : ∀ e ∈ after.entries, EntryOf owner e
  folded : after.folded = before.folded

theorem Places.refl {state : Collected} (h : ∀ e ∈ state.entries, EntryOf owner e) :
    Places owner [] state state := ⟨rfl, h, rfl⟩

theorem Places.append {found more : List Selection} {before middle after : Collected}
    (h : Places owner found before middle) (h' : Places owner more middle after) :
    Places owner (found ++ more) before after where
  fields := by rw [h'.fields, h.fields, List.foldl_append]
  entries := h'.entries
  folded := h'.folded.trans h.folded

section FileField

variable {entries : List Entry} {head : FieldHead} {type : TypeRef} {f : Selection}

/-- A field is filed where it would be placed among the fields. -/
theorem fields_fileField (hentries : ∀ e ∈ entries, EntryOf owner e) (hhead : f.head? = some head) :
    (fileField entries head.responseKey type f).map Entry.field =
      place (entries.map Entry.field) f := by
  induction entries with
  | nil => rfl
  | cons e rest ih =>
    obtain ⟨⟨own, hown, hkey, -⟩, hrest⟩ := List.forall_mem_cons.1 hentries
    have hsame : (f.head?.isSome && e.field.responseKey? == f.responseKey?) =
        (e.key == head.responseKey) := by
      rw [responseKey?_eq_some hown, responseKey?_eq_some hhead, hhead, hkey]
      simp
    rw [fileField, List.map_cons, place, hsame]
    split
    · rfl
    · rw [List.map_cons, ih hrest]

theorem entryOf_fileField (hentries : ∀ e ∈ entries, EntryOf owner e) (hhead : f.head? = some head)
    (htype : owner.fieldType? head.name = some type) :
    ∀ e ∈ fileField entries head.responseKey type f, EntryOf owner e := by
  induction entries with
  | nil => exact List.forall_mem_singleton.2 ⟨head, hhead, rfl, htype⟩
  | cons e rest ih =>
    obtain ⟨hfirst, hrest⟩ := List.forall_mem_cons.1 hentries
    rw [fileField]
    split
    · -- the field that was there first keeps its head
      obtain ⟨own, hown, hkey, hfound⟩ := hfirst
      refine List.forall_mem_cons.2 ⟨⟨own, ?_, hkey, hfound⟩, hrest⟩
      rw [mergePair_eq_joined hown]
      exact head?_joined hown
    · exact List.forall_mem_cons.2 ⟨hfirst, ih hrest⟩

end FileField

theorem places_collectField (hobject : owner.isObject) {state : Collected}
    (hstate : ∀ e ∈ state.entries, EntryOf owner e) {head : FieldHead} {f : Selection}
    (hhead : f.head? = some head) :
    ∃ after, (collectField owner state head f).result = .ok after ∧
      Places owner ([f].filter (hasField owner)) state after := by
  have hkept : hasField owner f =
      (head.name != typenameField && (owner.fieldType? head.name).isSome) := by
    rw [hasField, hhead, Option.any_some]
  obtain ⟨fields, hfields⟩ :=
    exists_fields?_of_isComposite (TypeDef.isComposite_iff.2 (.inl hobject))
  rw [List.filter_singleton, hkept, collectField]
  cases hname : head.name == typenameField with
  | true => exact ⟨state, rfl, by simpa [bne, hname] using Places.refl hstate⟩
  | false =>
    cases htype : owner.fieldType? head.name with
    | none =>
      simp only [Bool.false_eq_true, if_false, hfields]
      exact ⟨state, rfl, by simpa using Places.refl hstate⟩
    | some type =>
      simp only [Bool.false_eq_true, if_false, hfields, bne, hname, Bool.not_false,
        Option.isSome_some, Bool.and_self]
      exact ⟨_, rfl, fields_fileField hstate hhead, entryOf_fileField hstate hhead htype, rfl⟩

/-- Nothing is folded where a fragment leads back to the type it stands on. -/
theorem foldType_self (owner : TypeDef) (folded : List String) :
    foldType owner owner folded = folded := by simp [foldType]

/-- A fragment that leads back to the type it stands on is entered with what was gathered. -/
theorem result_collect_inline (state : Collected) {condition : Option String}
    (htarget : (conditionTarget schema owner condition).value = some owner)
    (directives : List Directive) (selections : List Selection) :
    (collect schema owner state (.inline condition directives selections)).result =
      (collectList schema owner state selections).result := by
  simp only [collect, Walk.result_bind, Walk.result_lift, htarget]
  show (collectList schema owner ⟨state.entries, foldType owner owner state.folded⟩
    selections).result = _
  rw [foldType_self]

mutual

theorem places_collect (schema : Schema) (hobject : owner.isObject) {state : Collected}
    (hstate : ∀ e ∈ state.entries, EntryOf owner e) :
    ∀ s : Selection, ∃ after, (collect schema owner state s).result = .ok after ∧
      Places owner ((fieldsMet schema owner s).filter (hasField owner)) state after
  | .leaf head => by
    rw [collect, fieldsMet]
    exact places_collectField hobject hstate rfl
  | .branch head mark selections => by
    rw [collect, fieldsMet]
    exact places_collectField hobject hstate rfl
  | .inline none directives selections => by
    rw [result_collect_inline state rfl, fieldsMet]
    exact places_collectList schema hobject hstate selections
  | .inline (some condition) directives selections => by
    rw [fieldsMet]
    rcases conditionTarget_of_isObject schema hobject condition with
      ⟨happlies, htarget⟩ | ⟨happlies, htarget⟩
    · rw [result_collect_inline state htarget, if_pos happlies]
      exact places_collectList schema hobject hstate selections
    · rw [if_neg happlies]
      refine ⟨state, ?_, Places.refl hstate⟩
      simp only [collect, Walk.result_bind, Walk.result_lift, htarget]
      rfl
  | .spread name directives => by
    rw [collect, fieldsMet]
    exact ⟨state, rfl, Places.refl hstate⟩

theorem places_collectList (schema : Schema) (hobject : owner.isObject) {state : Collected}
    (hstate : ∀ e ∈ state.entries, EntryOf owner e) :
    ∀ selections : List Selection,
      ∃ after, (collectList schema owner state selections).result = .ok after ∧
        Places owner (occurrences schema owner selections) state after
  | [] => by
    rw [collectList]
    exact ⟨state, rfl, Places.refl hstate⟩
  | s :: rest => by
    obtain ⟨middle, hmiddle, hfirst⟩ := places_collect schema hobject hstate s
    obtain ⟨after, hafter, hrest⟩ := places_collectList schema hobject hfirst.entries rest
    refine ⟨after, ?_, ?_⟩
    · rw [collectList, Walk.result_bind, hmiddle]
      exact hafter
    · rw [occurrences, fieldsMetIn, List.filter_append]
      exact hfirst.append hrest

end

/-! ### The analysis -/

/-- A field of an analysis has what its entry has, and the type that the schema has under the name
of its type. -/
theorem fieldInfo_eq_ok {split : Bool} {e : Entry} {info : FieldInfo}
    (h : fieldInfo schema split e = .ok info) :
    info.responseKey = e.key ∧ info.type = e.type ∧ info.set = e.field.set? ∧
      info.fieldName = (e.field.head?.map FieldHead.name).getD e.key ∧
      schema.type? info.type.namedType = some info.namedType ∧
      info.namedType.kind? = some info.kind := by
  unfold fieldInfo at h
  split at h
  · cases h
  · next type htype =>
    split at h
    · cases h
    · next kind hkind =>
      cases h
      exact ⟨rfl, rfl, rfl, rfl, htype, hkind⟩

theorem exists_entry_of_mem {split : Bool} {entries : List Entry} {fields : List FieldInfo}
    (h : List.Forall₂ (fun e info => fieldInfo schema split e = .ok info) entries fields)
    {info : FieldInfo} (hinfo : info ∈ fields) :
    ∃ e ∈ entries, fieldInfo schema split e = .ok info := by
  induction h with
  | nil => cases hinfo
  | @cons e own _ _ hfirst _ ih =>
    rcases List.mem_cons.1 hinfo with rfl | hinfo
    · exact ⟨e, List.mem_cons_self, hfirst⟩
    · obtain ⟨other, hother, hfield⟩ := ih hinfo
      exact ⟨other, List.mem_cons_of_mem e hother, hfield⟩

theorem keys_of_entryOf {entries : List Entry} (h : ∀ e ∈ entries, EntryOf owner e) :
    entries.map Entry.key = (entries.map Entry.field).filterMap responseKey? := by
  induction entries with
  | nil => rfl
  | cons e rest ih =>
    obtain ⟨⟨head, hhead, hkey, -⟩, hrest⟩ := List.forall_mem_cons.1 h
    rw [List.map_cons, List.map_cons, List.filterMap_cons_some (responseKey?_eq_some hhead),
      ih hrest, hkey]

/-- **An analysis is field collection.** On an object type there is one field for each response key
that occurs, in the order of the first occurrences. It has the name and the type of the first field
that occurs under its key, and the selections of all of them together; nothing is folded. There is
no analysis only if a field occurs whose type is no output type. -/
theorem fields_of_occurrences (schema : Schema) (split : Bool) (owner : TypeDef)
    (set : SelectionSet) (hobject : owner.isObject) :
    match (ofSet schema split owner (some set)).result with
    | .ok analysis => analysis.owner = owner ∧ analysis.folded = [] ∧
        analysis.fields.map FieldInfo.responseKey =
          ((occurrences schema owner set.selections).filterMap responseKey?).eraseDups ∧
        ∀ info ∈ analysis.fields, ∃ first others head,
          withKey info.responseKey (occurrences schema owner set.selections) = first :: others ∧
          first.head? = some head ∧ info.fieldName = head.name ∧
          owner.fieldType? head.name = some info.type ∧
          schema.type? info.type.namedType = some info.namedType ∧
          info.namedType.kind? = some info.kind ∧ info.set = gatheredSet (first :: others)
    | .error _ => ∃ f ∈ occurrences schema owner set.selections, ∃ head type,
        f.head? = some head ∧ owner.fieldType? head.name = some type ∧
        schema.isOutputType type = false := by
  obtain ⟨collected, hcollected, hplaces⟩ :
      ∃ after, (collectList schema owner ⟨[], []⟩ set.selections).result = .ok after ∧
        Places owner (occurrences schema owner set.selections) ⟨[], []⟩ after :=
    places_collectList schema hobject (fun e he => by cases he) set.selections
  have hmerged : collected.entries.map Entry.field =
      merge (occurrences schema owner set.selections) := by
    rw [hplaces.fields, List.map_nil, foldl_place]
  -- the field of an entry was put together from the fields that occur under its key
  have hjoined : ∀ e ∈ collected.entries, ∃ first others head,
      withKey e.key (occurrences schema owner set.selections) = first :: others ∧
        first.head? = some head ∧ owner.fieldType? head.name = some e.type ∧
        e.field = joined first head others := by
    intro e he
    obtain ⟨own, hown, hkey, htype⟩ := hplaces.entries e he
    obtain ⟨first, others, head, hfound, hhead, hfield⟩ :=
      exists_joined_of_mem_merge (hmerged ▸ List.mem_map_of_mem he)
        (hkey ▸ responseKey?_eq_some hown)
    obtain rfl : own = head :=
      Option.some.inj (hown.symm.trans (hfield ▸ head?_joined hhead))
    exact ⟨first, others, own, hfound, hhead, htype, hfield⟩
  rw [ofSet, Option.map_some, Option.getD_some]
  rcases ofSelections_cases split hcollected with
    ⟨fields, hresult, hfields⟩ | ⟨fault, hresult, e, he, hfault⟩
  · rw [hresult]
    refine ⟨rfl, hplaces.folded, ?_, fun info hinfo => ?_⟩
    · rw [(fieldsOf_fieldInfo hfields).1, keys_of_entryOf hplaces.entries, hmerged, keys_merge]
    · obtain ⟨e, he, hinfo⟩ := exists_entry_of_mem hfields hinfo
      obtain ⟨hkey, htype, hset, hname, hnamed, hkind⟩ := fieldInfo_eq_ok hinfo
      obtain ⟨first, others, head, hfound, hhead, hfieldType, hfield⟩ := hjoined e he
      refine ⟨first, others, head, hkey ▸ hfound, hhead, ?_, htype ▸ hfieldType, hnamed, hkind, ?_⟩
      · rw [hname, hfield, head?_joined hhead]
        rfl
      · rw [hset, hfield, set?_joined]
  · rw [hresult]
    obtain ⟨first, others, head, hfound, hhead, htype, -⟩ := hjoined e he
    have hfirst : first ∈ withKey e.key (occurrences schema owner set.selections) :=
      hfound ▸ List.mem_cons_self
    exact ⟨first, (mem_withKey.1 hfirst).1, head, e.type, hhead, htype,
      not_isOutputType_of_fieldInfo hfault⟩

end Analysis

namespace Cats

def cat : TypeDef :=
  ⟨"Cat", [], .object ["Animal"]
    [⟨"name", [], .named "String", []⟩, ⟨"mother", [], .named "Cat", []⟩]⟩

/-- Cats, which are animals and have cats as mothers. -/
def schema : Schema where
  types :=
    [⟨"Query", [], .object [] [⟨"cat", [], .named "Cat", []⟩]⟩, cat,
      ⟨"Animal", [], .interface [] [⟨"name", [], .named "String", []⟩]⟩,
      ⟨"String", [], .scalar⟩]
  directives := []
  query := some "Query"
  mutation := none
  subscription := none

def name : Selection := .leaf ⟨none, "name", [], []⟩

def mother (selections : List Selection) : Selection :=
  .branch ⟨none, "mother", [], []⟩ none selections

/-- The mother of a cat twice, once among the animals; neither a field that cats do not have nor one
of a type that no cat has is met. -/
def selections : List Selection :=
  [mother [name], .leaf ⟨none, "colour", [], []⟩,
    .inline (some "Animal") [] [.inline none [] [mother [.spread "Kin" []], name]],
    .inline (some "Query") [] [.leaf ⟨some "cat", "name", [], []⟩], .spread "Kin" []]

end Cats

theorem Analysis.fields_of_cat : Cats.cat.isObject ∧
    ∃ analysis, (ofSet Cats.schema false Cats.cat (some ⟨none, Cats.selections⟩)).result =
        .ok analysis ∧
      analysis.fields.map FieldInfo.responseKey = ["mother", "name"] ∧
      ∀ info ∈ analysis.fields, info.responseKey = "mother" →
        info.set = some ⟨none, [Cats.name, .spread "Kin" []]⟩ := by
  have hobject : Cats.cat.isObject := rfl
  have hmet : occurrences Cats.schema Cats.cat Cats.selections =
      [Cats.mother [Cats.name], Cats.mother [.spread "Kin" []], Cats.name] := by
    rfl
  have hexact := fields_of_occurrences Cats.schema false Cats.cat ⟨none, Cats.selections⟩ hobject
  rw [hmet] at hexact
  refine ⟨hobject, ?_⟩
  cases hresult : (ofSet Cats.schema false Cats.cat (some ⟨none, Cats.selections⟩)).result with
  | error fault =>
    have hsome : (ofSet Cats.schema false Cats.cat
        (some ⟨none, Cats.selections⟩)).result.toOption.isSome := by decide +kernel
    rw [hresult] at hsome
    cases hsome
  | ok analysis =>
    rw [hresult] at hexact
    obtain ⟨-, -, hkeys, hfields⟩ := hexact
    refine ⟨analysis, rfl, hkeys, fun info hinfo hkey => ?_⟩
    obtain ⟨first, others, head, hfound, -, -, -, -, -, hset⟩ := hfields info hinfo
    rw [hkey] at hfound
    have hboth : first :: others = [Cats.mother [Cats.name], Cats.mother [.spread "Kin" []]] :=
      hfound.symm
    rw [hset, hboth]
    cbv

end OperationSamples
