import OperationSamples.Artifact.Registry
import OperationSamples.Proofs.Order

/-!
Every artifact of a run can be built from its references.

References are followed by name, and of several artifacts with the same name the first counts. That
may be another artifact than the one referred to, but never a later one: what an artifact refers to
comes before it, and the first artifact with a factory comes no later than any other with that
factory. Because no shape is named like a factory, a reference is never taken for the name of a
shape. Following references therefore goes down in the list, and ends.
-/

namespace OperationSamples

/-! ### Names at places -/

section Names

variable {root : Nat} {w : World} {address : Address} {member : Option Nat} {t : VisitTree}

theorem ShapeName.proper_led {stem : String} (h : startsSmall stem.toList = false) (key : String)
    (name : Option String) : (ShapeName.led stem key name).Proper := by
  have hled : startsSmall (stem ++ spelled key).toList = false := by
    rw [String.toList_append]
    exact startsSmall_append h (startsSmall_spelled key)
  cases name with
  | none => exact proper_of hled
  | some member => exact proper_variant hled member

theorem Frame.proper_variantName {frame : Frame} (h : frame.name.Proper) (onePath : Bool)
    (v : Variant) : (frame.variantName onePath v).Proper := by
  unfold Frame.variantName
  split
  · exact ShapeName.proper_variant h.large _
  · exact ShapeName.proper_variantAt h.large _ _

/-- The plain shape of a tree has the name of its address. -/
theorem Grown.name_eq (h : Grown root w address member t) : t.built.shape.name = address.name := by
  cases h with
  | node shaped =>
    subst shaped
    rfl

theorem Grown.proper_variant (h : Grown root w address member t) (hname : address.name.Proper)
    {v : Variant} (hv : v ∈ t.built.variants) : v.shape.name.Proper := by
  cases h with
  | @node _ _ typeName number built branches shaped =>
    subst shaped
    obtain ⟨i, hi⟩ := List.mem_iff_getElem?.1 hv
    rw [VisitTree.built, Frame.built, List.getElem?_mapIdx] at hi
    obtain ⟨placed, -, rfl⟩ := Option.map_eq_some_iff.1 hi
    exact Frame.proper_variantName hname _ _

/-- Whatever is emitted from a tree has a proper name. -/
theorem Grown.proper_of_emitted? (h : Grown root w address member t)
    (hname : address.name.Proper) (hstem : startsSmall address.stem.toList = false) {plain : Bool}
    {steps : List VisitTree.Step} {variant : Option Nat} {s : Shape}
    (hs : t.emitted? plain steps variant = some s) : s.name.Proper := by
  induction steps generalizing t address member plain with
  | nil =>
    rcases VisitTree.mem_tops.1 (VisitTree.mem_tops_iff_emitted?.2 ⟨variant, hs⟩) with
      ⟨-, rfl⟩ | hvariant
    · exact h.name_eq ▸ hname
    · obtain ⟨v, hv, rfl⟩ := List.mem_map.1 hvariant
      exact h.proper_variant hname hv
  | cons step steps ih =>
    obtain ⟨name, child, hchild, hbelow⟩ := VisitTree.exists_child_of_emitted? hs
    have hled := ShapeName.proper_led hstem step.1 name
    exact ih (h.child hchild) hled hled.large hbelow

end Names

/-- All artifacts of a run have proper names. -/
theorem Run.Emitted.proper {providers : Providers} {schema : Schema} {config : Config}
    {sources : List SourceDocument} {artifacts : List Artifact} {gs : List Generated} {w : World}
    {trees : List (Address × VisitTree)}
    (h : Emitted providers schema config sources artifacts gs w trees) {a : Artifact}
    (ha : a ∈ artifacts) :
    a.shape.name.Proper := by
  obtain ⟨i, e, hi, steps, variant, hemitted⟩ :=
    (h.mem_shapes_iff_emitted? a.shape).1 (List.mem_map_of_mem ha)
  have hplanted := h.planted i e hi
  exact hplanted.grown.proper_of_emitted? hplanted.name hplanted.stem hemitted

/-! ### Replacing references -/

namespace Registry

mutual

theorem exists_resolve {follow : String → Except RegistryFault Json} :
    ∀ sample : Sample, (∀ f ∈ sample.factories, ∃ value, follow f = .ok value) →
      ∃ value, resolve follow sample = .ok value
  | .null => fun _ => ⟨_, rfl⟩
  | .bool _ => fun _ => ⟨_, rfl⟩
  | .int _ => fun _ => ⟨_, rfl⟩
  | .float _ => fun _ => ⟨_, rfl⟩
  | .str _ => fun _ => ⟨_, rfl⟩
  | .factory name => fun h => h name (by simp [Sample.factories])
  | .arr items => fun h => by
    obtain ⟨values, hvalues⟩ := exists_resolveItems items h
    exact ⟨.arr values, by rw [resolve, hvalues]; rfl⟩
  | .obj members => fun h => by
    obtain ⟨values, hvalues⟩ := exists_resolveMembers members h
    exact ⟨.obj values, by rw [resolve, hvalues]; rfl⟩

theorem exists_resolveItems {follow : String → Except RegistryFault Json} :
    ∀ items : List Sample,
      (∀ f ∈ Sample.factoriesOfItems items, ∃ value, follow f = .ok value) →
      ∃ values, resolveItems follow items = .ok values
  | [] => fun _ => ⟨[], rfl⟩
  | item :: rest => fun h => by
    obtain ⟨value, hvalue⟩ := exists_resolve item fun f hf => h f (List.mem_append_left _ hf)
    obtain ⟨values, hvalues⟩ :=
      exists_resolveItems rest fun f hf => h f (List.mem_append_right _ hf)
    exact ⟨value :: values, by rw [resolveItems, hvalue, hvalues]; rfl⟩

theorem exists_resolveMembers {follow : String → Except RegistryFault Json} :
    ∀ members : List (String × Sample),
      (∀ f ∈ Sample.factoriesOfMembers members, ∃ value, follow f = .ok value) →
      ∃ values, resolveMembers follow members = .ok values
  | [] => fun _ => ⟨[], rfl⟩
  | (key, item) :: rest => fun h => by
    obtain ⟨value, hvalue⟩ := exists_resolve item fun f hf => h f (List.mem_append_left _ hf)
    obtain ⟨values, hvalues⟩ :=
      exists_resolveMembers rest fun f hf => h f (List.mem_append_right _ hf)
    exact ⟨(key, value) :: values, by rw [resolveMembers, hvalue, hvalues]; rfl⟩

end

mutual

theorem resolve_congr {follow other : String → Except RegistryFault Json} :
    ∀ sample : Sample, (∀ f ∈ sample.factories, follow f = other f) →
      resolve follow sample = resolve other sample
  | .null => fun _ => rfl
  | .bool _ => fun _ => rfl
  | .int _ => fun _ => rfl
  | .float _ => fun _ => rfl
  | .str _ => fun _ => rfl
  | .factory name => fun h => h name (by simp [Sample.factories])
  | .arr items => fun h => by rw [resolve, resolve, resolveItems_congr items h]
  | .obj members => fun h => by rw [resolve, resolve, resolveMembers_congr members h]

theorem resolveItems_congr {follow other : String → Except RegistryFault Json} :
    ∀ items : List Sample, (∀ f ∈ Sample.factoriesOfItems items, follow f = other f) →
      resolveItems follow items = resolveItems other items
  | [] => fun _ => rfl
  | item :: rest => fun h => by
    rw [resolveItems, resolveItems, resolve_congr item fun f hf => h f (List.mem_append_left _ hf),
      resolveItems_congr rest fun f hf => h f (List.mem_append_right _ hf)]

theorem resolveMembers_congr {follow other : String → Except RegistryFault Json} :
    ∀ members : List (String × Sample),
      (∀ f ∈ Sample.factoriesOfMembers members, follow f = other f) →
      resolveMembers follow members = resolveMembers other members
  | [] => fun _ => rfl
  | (key, item) :: rest => fun h => by
    rw [resolveMembers, resolveMembers,
      resolve_congr item fun f hf => h f (List.mem_append_left _ hf),
      resolveMembers_congr rest fun f hf => h f (List.mem_append_right _ hf)]

end

/-! ### Following references -/

/-- Whether references lead to earlier artifacts, and cannot be taken for the names of shapes. -/
structure Ordered (r : Registry) : Prop where
  before : ∀ (i : Nat) (a : Artifact), r.artifacts[i]? = some a →
    ∀ f ∈ (Sample.obj a.value).factories, ∃ j b, j < i ∧ r.artifacts[j]? = some b ∧ b.factory = f
  proper : ∀ a ∈ r.artifacts, a.shape.name.Proper

variable {r : Registry}

/-- The factory of an artifact is looked up among the factories. -/
theorem Ordered.get?_factory_eq_find? (h : r.Ordered) {b : Artifact} (hb : b ∈ r.artifacts) :
    r.get? b.factory = r.artifacts.find? fun a => a.factory == b.factory := by
  have hname : (r.artifacts.find? fun a => a.name == b.factory) = none := by
    refine List.find?_eq_none.2 fun a ha heq => ?_
    exact (h.proper a ha).qualified_ne_factory (h.proper b hb) (beq_iff_eq.1 heq)
  rw [get?, hname]
  rfl

/-- The factory of an artifact leads to an artifact that comes no later. -/
theorem Ordered.get?_factory (h : r.Ordered) {j : Nat} {b : Artifact}
    (hb : r.artifacts[j]? = some b) :
    ∃ k c, k ≤ j ∧ r.artifacts[k]? = some c ∧ r.get? b.factory = some c := by
  have hmem := List.mem_of_getElem? hb
  rw [h.get?_factory_eq_find? hmem]
  cases hfind : r.artifacts.find? fun a => a.factory == b.factory with
  | none => exact absurd (beq_self_eq_true b.factory) (List.find?_eq_none.1 hfind b hmem)
  | some c =>
    obtain ⟨-, k, hk, rfl, hfirst⟩ := List.find?_eq_some_iff_getElem.1 hfind
    refine ⟨k, _, ?_, List.getElem?_eq_getElem hk, rfl⟩
    -- before the first artifact with the factory there is no other
    refine Nat.le_of_not_lt fun hjk => ?_
    obtain ⟨hj, rfl⟩ := List.getElem?_eq_some_iff.1 hb
    simpa using hfirst j hjk

/-- The sample of the artifact at index `i` has a value as soon as `i` references in a row are
followed. -/
theorem Ordered.exists_value (h : r.Ordered) (i : Nat) :
    ∀ a, r.artifacts[i]? = some a → ∃ value, ∀ limit, i ≤ limit →
      resolve (r.materializeWithin limit) (.obj a.value) = .ok value := by
  induction i using Nat.strongRecOn with
  | ind i ih =>
    intro a ha
    have hfollow : ∀ f ∈ (Sample.obj a.value).factories,
        ∃ value, ∀ limit, i ≤ limit → r.materializeWithin limit f = .ok value := by
      intro f hf
      obtain ⟨j, b, hji, hb, rfl⟩ := h.before i a ha f hf
      obtain ⟨k, c, hkj, hc, hget⟩ := h.get?_factory hb
      obtain ⟨value, hvalue⟩ := ih k (by omega) c hc
      refine ⟨value, fun limit hlimit => ?_⟩
      obtain ⟨limit, rfl⟩ : ∃ n, limit = n + 1 := ⟨limit - 1, by omega⟩
      rw [materializeWithin, get, hget]
      exact hvalue limit (by omega)
    obtain ⟨value, hvalue⟩ := exists_resolve (.obj a.value) fun f hf => by
      obtain ⟨v, hv⟩ := hfollow f hf
      exact ⟨v, hv i (Nat.le_refl i)⟩
    refine ⟨value, fun limit hlimit => ?_⟩
    rw [← hvalue]
    refine resolve_congr _ fun f hf => ?_
    obtain ⟨v, hv⟩ := hfollow f hf
    rw [hv limit hlimit, hv i (Nat.le_refl i)]

/-- Whatever is in the registry has a value, however many references more are allowed. -/
theorem Ordered.exists_materialize (h : r.Ordered) {name : String}
    (hname : r.contains name = true) :
    ∃ a value, r.get? name = some a ∧ r.materialize name = .ok value ∧
      resolve r.materialize (.obj a.value) = .ok value ∧
      ∀ limit, r.artifacts.length < limit → r.materializeWithin limit name = .ok value := by
  obtain ⟨a, ha⟩ := Option.isSome_iff_exists.1 hname
  have hmem : a ∈ r.artifacts := by
    rw [get?] at ha
    cases hfind : r.artifacts.find? fun a => a.name == name with
    | some b =>
      rw [hfind] at ha
      cases ha
      exact List.mem_of_find?_eq_some hfind
    | none =>
      rw [hfind] at ha
      exact List.mem_of_find?_eq_some ha
  obtain ⟨i, hi⟩ := List.mem_iff_getElem?.1 hmem
  have hlength : i < r.artifacts.length := (List.getElem?_eq_some_iff.1 hi).1
  obtain ⟨value, hvalue⟩ := h.exists_value i a hi
  have hwithin : ∀ limit, r.artifacts.length < limit →
      r.materializeWithin limit name = .ok value := by
    intro limit hlimit
    obtain ⟨limit, rfl⟩ : ∃ n, limit = n + 1 := ⟨limit - 1, by omega⟩
    rw [materializeWithin, get, ha]
    exact hvalue limit (by omega)
  exact ⟨a, value, ha, hwithin _ (Nat.lt_succ_self _), hvalue _ (by omega), hwithin⟩

end Registry

theorem Run.Emitted.ordered {providers : Providers} {schema : Schema} {config : Config}
    {sources : List SourceDocument} {artifacts : List Artifact} {gs : List Generated} {w : World}
    {trees : List (Address × VisitTree)}
    (h : Emitted providers schema config sources artifacts gs w trees) :
    (Registry.mk artifacts).Ordered where
  before := by
    intro i a ha f hf
    obtain ⟨t, ht, hname⟩ := (h.linked (List.mem_of_getElem? ha)).factories_value hf
    obtain ⟨j, b, hji, hb, hshape⟩ := h.exists_before ha ht
    exact ⟨j, b, hji, hb, by rw [Artifact.factory, hshape, hname]⟩
  proper := fun _ ha => h.proper ha

/-- From the artifacts of a run, every name and every factory in the registry gives a value: the
sample of its artifact with all references replaced in the same way. Following references ends,
finds an artifact for every reference, and leaves none. -/
theorem materialize_succeeds {providers : Providers} {schema : Schema} {config : Config}
    {sources : List SourceDocument}
    {artifacts : List Artifact}
    (h : (generateSamples providers schema config sources).result = .ok artifacts)
    {name : String} (hname : (Registry.mk artifacts).contains name = true) :
    ∃ a value, (Registry.mk artifacts).get? name = some a ∧
      (Registry.mk artifacts).materialize name = .ok value ∧
      Registry.resolve (Registry.mk artifacts).materialize (.obj a.value) = .ok value ∧
      (∀ limit, artifacts.length < limit →
        (Registry.mk artifacts).materializeWithin limit name = .ok value) ∧
      (Sample.ofJson value).factories = [] := by
  obtain ⟨gs, w, trees, hemitted⟩ := Run.exists_emitted h
  obtain ⟨a, value, hget, hvalue, hresolve, hlimit⟩ := hemitted.ordered.exists_materialize hname
  exact ⟨a, value, hget, hvalue, hresolve, hlimit, Sample.factories_ofJson value⟩

/-- Two artifacts share a name here, and the query refers to the second. -/
theorem materialize_succeeds_friends : ∃ artifacts value,
    (generateSamples Pets.providers Pets.schema .defaults Pets.friends).result = .ok artifacts ∧
    artifacts.map Artifact.name =
      ["HomeOwnerFriend", "HomeOwnerFriend", "HomeOwner", "HomeQuery"] ∧
    (Registry.mk artifacts).contains "aHomeQuery" = true ∧
    (Registry.mk artifacts).materialize "aHomeQuery" = .ok value := by
  obtain ⟨artifacts, hresult, hcheck⟩ := Pets.exists_result Pets.friends
    (fun artifacts => artifacts.map Artifact.name ==
      ["HomeOwnerFriend", "HomeOwnerFriend", "HomeOwner", "HomeQuery"] &&
        (Registry.mk artifacts).contains "aHomeQuery")
    (by decide +kernel)
  simp only [Bool.and_eq_true, beq_iff_eq] at hcheck
  obtain ⟨a, value, -, hvalue, -⟩ := materialize_succeeds hresult hcheck.2
  exact ⟨artifacts, value, hresult, hcheck.1, hcheck.2, hvalue⟩

end OperationSamples
