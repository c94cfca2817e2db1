import OperationSamples.Proofs.Collisions
import OperationSamples.Proofs.Dictionaries

/-!
Looking references up by name agrees with the shapes that they stand for.

`Shape.unfolded` is the value of a shape written out: the value of a field that refers to a shape is
the value of that very shape, and a union has the value of its first member. All other fields have
the values of the sample. No factory is looked up on the way, so it does not matter what shapes are
called or what else was built.

A registry knows names only. When artifacts have different names, the factory of a shape leads to
the artifact of that shape and to no other. Following the dependencies from the first artifact on,
looking up by name then gives the value written out (`materialize_eq_unfolded`).
-/

namespace OperationSamples

namespace Shape

/-- The members of a sample, with other values in the places of those for which there are some. -/
def writtenOut (references : Members (Option Json)) (value : List (String × Sample)) :
    List (String × Json) :=
  value.map fun member =>
    (member.1, (Members.get? references member.1).join.getD member.2.toJson)

mutual

/-- The value of a shape, with the values of the shapes that its fields refer to in the places of
the references. -/
def unfolded : Shape → Json
  | ⟨_, _, _, _, _, fields, value, _⟩ =>
    .obj (writtenOut (Members.ofList (unfoldedFields fields)) value)

def unfoldedFields : List (Field Shape) → List (String × Option Json)
  | [] => []
  | f :: rest => unfoldedField f :: unfoldedFields rest

def unfoldedField : Field Shape → String × Option Json
  | ⟨name, isList, _, content⟩ =>
    (name, (unfoldedContent content).map fun value => if isList then .arr [value] else value)

def unfoldedContent : Content Shape → Option Json
  | .shape target => some (unfolded target)
  | .union members => unfoldedFirst members
  | _ => none

def unfoldedFirst : List Shape → Option Json
  | [] => none
  | first :: _ => some (unfolded first)

end

theorem unfoldedField_eq (f : Field Shape) : unfoldedField f =
    (f.name, (unfoldedContent f.content).map fun value =>
      if f.isList then .arr [value] else value) := by
  obtain ⟨name, isList, isNullable, content⟩ := f
  rw [unfoldedField]

theorem unfoldedFields_eq_map (fields : List (Field Shape)) :
    unfoldedFields fields = fields.map unfoldedField := by
  induction fields with
  | nil => rfl
  | cons f rest ih => rw [unfoldedFields, ih, List.map_cons]

theorem unfolded_eq (s : Shape) :
    s.unfolded = .obj (writtenOut (Members.ofList (s.fields.map unfoldedField)) s.value) := by
  obtain ⟨id, name, typeName, path, depth, fields, value, dependencies⟩ := s
  rw [unfolded, unfoldedFields_eq_map]

end Shape

namespace Sample

mutual

/-- A plain value is written as it is. -/
theorem toJson_ofJson : ∀ value : Json, (ofJson value).toJson = value
  | .null => rfl
  | .bool _ => rfl
  | .int _ => rfl
  | .float _ => rfl
  | .str _ => rfl
  | .arr items => by rw [ofJson, toJson, toJsons_ofJsons items]
  | .obj members => by rw [ofJson, toJson, toMembers_ofMembers members]

theorem toJsons_ofJsons : ∀ items : List Json, toJsons (ofJsons items) = items
  | [] => rfl
  | item :: rest => by rw [ofJsons, toJsons, toJson_ofJson item, toJsons_ofJsons rest]

theorem toMembers_ofMembers : ∀ members : List (String × Json),
    toMembers (ofMembers members) = members
  | [] => rfl
  | (key, value) :: rest => by
    rw [ofMembers, toMembers, toJson_ofJson value, toMembers_ofMembers rest]

end

theorem listIf_ofJson (isList : Bool) (value : Json) :
    listIf isList (ofJson value) = ofJson (if isList then .arr [value] else value) := by
  cases isList <;> rfl

end Sample

namespace Registry

variable {follow : String → Except RegistryFault Json}

/-! ### Replacing references -/

mutual

/-- A plain value holds no references to be replaced. -/
theorem resolve_ofJson (follow : String → Except RegistryFault Json) :
    ∀ value : Json, resolve follow (.ofJson value) = .ok value
  | .null => rfl
  | .bool _ => rfl
  | .int _ => rfl
  | .float _ => rfl
  | .str _ => rfl
  | .arr items => by rw [Sample.ofJson, resolve, resolveItems_ofJsons follow items]; rfl
  | .obj members => by rw [Sample.ofJson, resolve, resolveMembers_ofMembers follow members]; rfl

theorem resolveItems_ofJsons (follow : String → Except RegistryFault Json) :
    ∀ items : List Json, resolveItems follow (Sample.ofJsons items) = .ok items
  | [] => rfl
  | item :: rest => by
    rw [Sample.ofJsons, resolveItems, resolve_ofJson follow item, resolveItems_ofJsons follow rest]
    rfl

theorem resolveMembers_ofMembers (follow : String → Except RegistryFault Json) :
    ∀ members : List (String × Json), resolveMembers follow (Sample.ofMembers members) = .ok members
  | [] => rfl
  | (key, value) :: rest => by
    rw [Sample.ofMembers, resolveMembers, resolve_ofJson follow value,
      resolveMembers_ofMembers follow rest]
    rfl

end

/-- The members of an object are resolved one by one, under the same keys. -/
theorem resolveMembers_of_forall₂ {samples : List (String × Sample)}
    {values : List (String × Json)}
    (h : List.Forall₂ (fun x y => x.1 = y.1 ∧ resolve follow x.2 = .ok y.2) samples values) :
    resolveMembers follow samples = .ok values := by
  induction h with
  | nil => rfl
  | @cons x y _ _ hfirst _ ih =>
    obtain ⟨key, sample⟩ := x
    obtain ⟨key', value⟩ := y
    obtain ⟨rfl, hvalue⟩ : key = key' ∧ resolve follow sample = .ok value := hfirst
    rw [resolveMembers, hvalue, ih]
    rfl

theorem resolve_listIf {sample : Sample} {value : Json} (isList : Bool)
    (h : resolve follow sample = .ok value) :
    resolve follow (.listIf isList sample) = .ok (if isList then .arr [value] else value) := by
  cases isList with
  | false => exact h
  | true =>
    simp only [Sample.listIf, if_true, resolve, resolveItems, h]
    rfl

/-- Whether a sample is resolved to a reference written out, or to itself if it is none. -/
def ResolvesTo (follow : String → Except RegistryFault Json) (sample : Sample)
    (reference : Option Json) : Prop :=
  resolve follow sample = .ok (reference.getD sample.toJson)

/-- The sample of a slot is resolved to what its field stands for, if the factories of the shapes it
refers to lead to those shapes. -/
theorem resolvesTo_slot {slot : Slot} (hslot : slot.Linked)
    (h : ∀ t ∈ slot.dependencies, follow t.name.factory = .ok t.unfolded) :
    ResolvesTo follow slot.value (Shape.unfoldedField slot.field).2 := by
  obtain ⟨item, hvalue, hitem⟩ := hslot.value
  rw [hslot.dependencies] at h
  rw [ResolvesTo, Shape.unfoldedField_eq, hvalue]
  have hplain : (∃ value, item = .ofJson value) →
      resolve follow (.listIf slot.field.isList item) =
        .ok (Sample.listIf slot.field.isList item).toJson := by
    rintro ⟨value, rfl⟩
    rw [Sample.listIf_ofJson, resolve_ofJson, Sample.toJson_ofJson]
  cases hcontent : slot.field.content with
  | shape target =>
    rw [hcontent] at hitem h
    rw [show item = .factory target.name.factory from hitem]
    exact resolve_listIf _ (h target (List.mem_singleton_self _))
  | union members =>
    rw [hcontent] at hitem h
    cases members with
    | nil => exact hplain hitem
    | cons first rest =>
      rw [show item = .factory first.name.factory from hitem]
      exact resolve_listIf _ (h first List.mem_cons_self)
  | _ =>
    rw [hcontent] at hitem
    exact hplain hitem

/-- The sample of a shape is resolved to the value of the shape, if the factories of the shapes it
depends on lead to those shapes. -/
theorem resolve_shape {s : Shape} (hs : s.Linked)
    (h : ∀ t ∈ s.dependencies, follow t.name.factory = .ok t.unfolded) :
    resolve follow (.obj s.value) = .ok s.unfolded := by
  obtain ⟨slots, hlinked, hslots⟩ := hs
  have hentries : List.Forall₂ (fun x y => x.1 = y.1 ∧ ResolvesTo follow x.2 y.2)
      (slots.map fun slot => (slot.field.name, slot.value))
      (s.fields.map Shape.unfoldedField) := by
    rw [hslots.fields, List.map_map, List.forall₂_map_left_iff, List.forall₂_map_right_iff,
      List.forall₂_same]
    intro slot hslot
    refine ⟨by rw [Function.comp_apply, Shape.unfoldedField_eq], ?_⟩
    refine resolvesTo_slot (hlinked slot hslot) fun t ht => h t ?_
    rw [hslots.dependencies]
    exact List.mem_flatMap.2 ⟨slot, hslot, ht⟩
  have hmembers := Members.forall₂_ofList (R := ResolvesTo follow) hentries
  rw [← hslots.value] at hmembers
  have hresolved : resolveMembers follow s.value =
      .ok (Shape.writtenOut (Members.ofList (s.fields.map Shape.unfoldedField)) s.value) := by
    refine resolveMembers_of_forall₂ ?_
    rw [Shape.writtenOut, List.forall₂_map_right_iff, List.forall₂_same]
    intro member hmember
    obtain ⟨reference, hget, hvalue⟩ := Members.exists_get?_of_forall₂
      (R := ResolvesTo follow) hmembers (Members.nodup_keys_ofList _) hmember
    refine ⟨rfl, ?_⟩
    rw [hget]
    exact hvalue
  rw [resolve, hresolved, Shape.unfolded_eq]
  rfl

/-! ### Looking up -/

variable {r : Registry}

/-- When factories differ, the factory of an artifact leads to that artifact. -/
theorem Ordered.get?_factory_eq (h : r.Ordered)
    (hfactories : (r.artifacts.map Artifact.factory).Nodup) {a : Artifact}
    (ha : a ∈ r.artifacts) : r.get? a.factory = some a := by
  rw [h.get?_factory_eq_find? ha]
  cases hfind : r.artifacts.find? fun b => b.factory == a.factory with
  | none => exact absurd (beq_self_eq_true a.factory) (List.find?_eq_none.1 hfind a ha)
  | some b =>
    have hfactory : b.factory = a.factory := by simpa using List.find?_some hfind
    rw [List.inj_on_of_nodup_map hfactories (List.mem_of_find?_eq_some hfind) ha hfactory]

/-- The artifact at index `i` has the value of its shape as soon as `i` references in a row are
followed. -/
theorem Ordered.resolve_eq_unfolded (h : r.Ordered)
    (hfactories : (r.artifacts.map Artifact.factory).Nodup)
    (hlinked : ∀ a ∈ r.artifacts, a.shape.Linked)
    (hbefore : ∀ (i : Nat) (a : Artifact), r.artifacts[i]? = some a →
      ∀ t ∈ a.shape.dependencies, ∃ j b, j < i ∧ r.artifacts[j]? = some b ∧ b.shape = t)
    (i : Nat) : ∀ a, r.artifacts[i]? = some a → ∀ limit, i ≤ limit →
      resolve (r.materializeWithin limit) (.obj a.value) = .ok a.shape.unfolded := by
  induction i using Nat.strongRecOn with
  | ind i ih =>
    intro a ha limit hlimit
    refine resolve_shape (hlinked a (List.mem_of_getElem? ha)) fun t ht => ?_
    -- what the shape refers to has an earlier artifact, which needs fewer references in a row
    obtain ⟨j, b, hji, hb, rfl⟩ := hbefore i a ha t ht
    obtain ⟨limit, rfl⟩ : ∃ n, limit = n + 1 := ⟨limit - 1, by omega⟩
    have hget : r.get? b.shape.name.factory = some b :=
      h.get?_factory_eq hfactories (List.mem_of_getElem? hb)
    rw [materializeWithin, get, hget]
    exact ih j hji b hb limit (by omega)

end Registry

/-- **Resolution by name.** When the artifacts of a run have different names, the name and the
factory of an artifact both give the value of its shape written out, in which nothing was looked up
by name. -/
theorem materialize_eq_unfolded {providers : Providers} {schema : Schema} {config : Config}
    {sources : List SourceDocument} {artifacts : List Artifact}
    (h : (generateSamples providers schema config sources).result = .ok artifacts)
    (hnames : (artifacts.map Artifact.name).Nodup) {a : Artifact} (ha : a ∈ artifacts) :
    (Registry.mk artifacts).materialize a.name = .ok a.shape.unfolded ∧
    (Registry.mk artifacts).materialize a.factory = .ok a.shape.unfolded := by
  obtain ⟨gs, w, trees, hemitted⟩ := Run.exists_emitted h
  have hfactories := hemitted.nodup_factories_iff.2 hnames
  have hname : (Registry.mk artifacts).get? a.name = some a :=
    (Registry.get?_name_iff hemitted.nodup_ids.of_map).2 hnames a ha
  have hfactory : (Registry.mk artifacts).get? a.factory = some a :=
    hemitted.ordered.get?_factory_eq hfactories ha
  obtain ⟨i, hi⟩ := List.mem_iff_getElem?.1 ha
  have hlength : i < artifacts.length := (List.getElem?_eq_some_iff.1 hi).1
  have hvalue := hemitted.ordered.resolve_eq_unfolded hfactories (fun _ => hemitted.linked)
    (fun _ _ hb _ ht => hemitted.exists_before hb ht) i a hi artifacts.length
    (Nat.le_of_lt hlength)
  constructor
  · rw [Registry.materialize, Registry.materializeWithin, Registry.get, hname]
    exact hvalue
  · rw [Registry.materialize, Registry.materializeWithin, Registry.get, hfactory]
    exact hvalue

/-- Below the owner, the second variant of the query refers to the dog, and the dog to its owner. -/
theorem materialize_eq_unfolded_dog : ∃ artifacts a,
    (generateSamples Pets.providers Pets.schema .defaults Pets.owner).result = .ok artifacts ∧
    (artifacts.map Artifact.name).Nodup ∧ a ∈ artifacts ∧ a.name = "HomeQueryAsDog" ∧
    (Registry.mk artifacts).materialize "HomeQueryAsDog" = .ok a.shape.unfolded ∧
    (Registry.mk artifacts).materialize "aHomeQueryAsDog" = .ok a.shape.unfolded := by
  obtain ⟨artifacts, hresult, hcheck⟩ := Pets.exists_result Pets.owner
    (fun artifacts => decide (artifacts.map Artifact.name).Nodup && artifacts.any fun a =>
      a.name == "HomeQueryAsDog" && a.factory == "aHomeQueryAsDog")
    (by decide +kernel)
  simp only [Bool.and_eq_true, decide_eq_true_eq, List.any_eq_true, beq_iff_eq] at hcheck
  obtain ⟨hnames, a, ha, hname, hfactory⟩ := hcheck
  have hvalues := materialize_eq_unfolded hresult hnames ha
  rw [hname, hfactory] at hvalues
  exact ⟨artifacts, a, hresult, hnames, ha, hname, hvalues⟩

end OperationSamples
