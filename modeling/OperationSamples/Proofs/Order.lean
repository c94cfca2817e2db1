import OperationSamples.Proofs.Emission
import OperationSamples.Proofs.Generation
import OperationSamples.Proofs.Places

/-!
The artifacts of a run are in the order of their dependencies.

Everything that a run builds is on record in one world, where identities tell shapes apart. Emitting
the roots of all definitions one after the other therefore lists every shape that can be reached
from them, each once and after the shapes it refers to.
-/

namespace OperationSamples

namespace Run

/-- What a run builds is on record in one world, as planned. -/
theorem exists_plantedAll {providers : Providers} {schema : Schema} {config : Config}
    {sources : List SourceDocument} {gs : List Generated} {after : BuildState}
    (h : (generated providers schema config sources).run.run .start = (.ok gs, after)) :
    ∃ ps w trees, plans providers schema config sources = .ok ps ∧ PlantedAll 0 w trees gs ps := by
  have hfollows := follows_generated providers schema config sources .start (fits_empty _ _)
  rw [h] at hfollows
  generalize plans providers schema config sources = result at hfollows
  match result with
  | .ok ps =>
    obtain ⟨w, -, -, trees, hplanted⟩ := hfollows
    exact ⟨ps, w, trees, rfl, hplanted⟩
  | .error fault => exact hfollows.elim

/-- The shapes that stand for a definition are the tops of its tree. -/
theorem Generated.roots_eq_tops {g : Generated} {t : VisitTree} (h : g.built = t.built) :
    g.roots.map Prod.fst = t.tops t.built.variants.isEmpty := by
  unfold roots Run.roots
  rw [h, VisitTree.tops]
  cases hvariants : t.built.variants with
  | nil => rfl
  | cons v rest =>
    change ((v :: rest).map fun v => (v.shape, ArtifactKind.variant)).map Prod.fst = _
    simp [Function.comp_def]

/-- The shapes that stand for the definitions of a run. -/
theorem PlantedAll.roots_eq {start : Nat} {w : World} {trees : List (Address × VisitTree)}
    {gs : List Generated} {ps : List VisitTree} (h : PlantedAll start w trees gs ps) :
    gs.flatMap (fun g => g.roots.map Prod.fst) =
      trees.flatMap fun e => e.2.tops e.2.built.variants.isEmpty := by
  have hmap : gs.map (fun g => g.roots.map Prod.fst) =
      trees.map fun e => e.2.tops e.2.built.variants.isEmpty := by
    refine List.ext_getElem? fun i => ?_
    have hbuilt := congrArg (fun builts => builts[i]?) h.built
    simp only [List.getElem?_map] at hbuilt ⊢
    cases hg : gs[i]? with
    | none =>
      cases he : trees[i]? with
      | none => rfl
      | some e => simp [hg, he] at hbuilt
    | some g =>
      cases he : trees[i]? with
      | none => simp [hg, he] at hbuilt
      | some e =>
        have heq : g.built = e.2.built := by simpa [hg, he] using hbuilt
        exact congrArg some (Generated.roots_eq_tops heq)
  rw [List.flatMap_def, hmap, ← List.flatMap_def]

/-- The shapes that stand for a definition are on record. -/
theorem Planted.has_top {w : World} {number : Nat} {address : Address} {t : VisitTree}
    (h : Planted w number address t) {plain : Bool} {x : Shape} (hx : x ∈ t.tops plain) :
    ∃ o, w.Has x o := by
  rcases VisitTree.mem_tops.1 hx with ⟨-, rfl⟩ | hx
  · exact ⟨_, h.grown.has_shape⟩
  · obtain ⟨v, hv, rfl⟩ := List.mem_map.1 hx
    exact h.grown.has_variant hv

theorem PlantedAll.has_root {start : Nat} {w : World} {trees : List (Address × VisitTree)}
    {gs : List Generated} {ps : List VisitTree} (h : PlantedAll start w trees gs ps) :
    ∀ g ∈ gs, ∀ r ∈ g.roots, ∃ o, w.Has r.1 o := by
  intro g hg r hr
  have hmem : r.1 ∈ gs.flatMap fun g => g.roots.map Prod.fst :=
    List.mem_flatMap.2 ⟨g, hg, List.mem_map_of_mem hr⟩
  rw [h.roots_eq] at hmem
  obtain ⟨e, he, htop⟩ := List.mem_flatMap.1 hmem
  obtain ⟨i, hi⟩ := List.mem_iff_getElem?.1 he
  exact (h.planted i e hi).has_top htop

/-! ### Emitting roots -/

section Emitting

variable {U : Shape → Prop}

theorem sound_emitRoots (hU : Distinguished U) (origin : Provenance) (state : Emission)
    (roots : List (Shape × ArtifactKind)) (h : Emission.Sound U [] state)
    (hroots : ∀ r ∈ roots, U r.1) :
    Emission.Sound U [] (emitRoots origin state roots) ∧
      Emission.Adds (roots.map Prod.fst) state (emitRoots origin state roots) := by
  induction roots generalizing state with
  | nil => exact ⟨h, Emission.Adds.refl_of_mem (by simp)⟩
  | cons r rest ih =>
    obtain ⟨s, kind⟩ := r
    obtain ⟨hsound, hadds⟩ := Emission.sound_shape hU origin kind h (hroots (s, kind) (by simp))
    obtain ⟨hsound', hadds'⟩ := ih _ hsound fun x hx => hroots x (by simp [hx])
    exact ⟨hsound', hadds.append hadds'⟩

theorem sound_emitAll (hU : Distinguished U) (state : Emission) (gs : List Generated)
    (h : Emission.Sound U [] state) (hroots : ∀ g ∈ gs, ∀ r ∈ g.roots, U r.1) :
    Emission.Sound U [] (gs.foldl Generated.emit state) ∧
      Emission.Adds (gs.flatMap fun g => g.roots.map Prod.fst) state
        (gs.foldl Generated.emit state) := by
  induction gs generalizing state with
  | nil => exact ⟨h, Emission.Adds.refl_of_mem (by simp)⟩
  | cons g rest ih =>
    obtain ⟨hsound, hadds⟩ := sound_emitRoots hU ⟨g.target.name, g.location⟩ state g.roots h
      (hroots g (by simp))
    obtain ⟨hsound', hadds'⟩ := ih _ hsound fun x hx => hroots x (by simp [hx])
    exact ⟨hsound', hadds.append hadds'⟩

end Emitting

/-- What the artifacts of a run are: the roots of everything that was built as planned, emitted
soundly. -/
structure Emitted (providers : Providers) (schema : Schema) (config : Config)
    (sources : List SourceDocument) (artifacts : List Artifact) (gs : List Generated) (w : World)
    (trees : List (Address × VisitTree)) : Prop where
  generated : ∃ after,
    (Run.generated providers schema config sources).run.run .start = (.ok gs, after)
  artifacts : artifacts = (gs.foldl Generated.emit .empty).artifacts
  plans : Run.plans providers schema config sources =
    .ok ((trees.map Prod.snd).map VisitTree.unnumbered)
  roots : gs.flatMap (fun g => g.roots.map Prod.fst) =
    trees.flatMap fun e => e.2.tops e.2.built.variants.isEmpty
  planted : ∀ i e, trees[i]? = some e → Planted w i e.1 e.2
  sound : Emission.Sound (fun s => ∃ o, w.Has s o) [] (gs.foldl Generated.emit .empty)
  adds : Emission.Adds (gs.flatMap fun g => g.roots.map Prod.fst) .empty
    (gs.foldl Generated.emit .empty)

theorem exists_emitted {providers : Providers} {schema : Schema} {config : Config}
    {sources : List SourceDocument} {artifacts : List Artifact}
    (h : (generateSamples providers schema config sources).result = .ok artifacts) :
    ∃ gs w trees, Emitted providers schema config sources artifacts gs w trees := by
  obtain ⟨gs, after, hgenerated, hartifacts⟩ := exists_generated h
  obtain ⟨ps, w, trees, hplans, hplanted⟩ := exists_plantedAll hgenerated
  obtain ⟨hsound, hadds⟩ := sound_emitAll w.distinguished .empty gs (Emission.sound_empty _)
    hplanted.has_root
  refine ⟨gs, w, trees, ⟨after, hgenerated⟩, hartifacts, ?_, hplanted.roots_eq, ?_, hsound, hadds⟩
  · rw [hplans, hplanted.plans, List.map_map]
    rfl
  · intro i e he
    have hnumber := hplanted.planted i e he
    rwa [Nat.zero_add] at hnumber

section Emitted

variable {providers : Providers} {schema : Schema} {config : Config} {sources : List SourceDocument}
  {artifacts : List Artifact} {gs : List Generated} {w : World}
  {trees : List (Address × VisitTree)}

/-- No shape is emitted twice. -/
theorem Emitted.nodup_ids (h : Emitted providers schema config sources artifacts gs w trees) :
    (artifacts.map fun a => a.shape.id).Nodup := by
  rw [h.artifacts]
  exact h.sound.nodup

/-- The emitted shapes are those that can be reached from the roots of some definition. -/
theorem Emitted.mem_shapes
    (h : Emitted providers schema config sources artifacts gs w trees) (s : Shape) :
    s ∈ artifacts.map Artifact.shape ↔
      ∃ r ∈ gs.flatMap (fun g => g.roots.map Prod.fst), r.Reaches s := by
  rw [h.artifacts]
  constructor
  · intro hs
    obtain ⟨a, ha, rfl⟩ := List.mem_map.1 hs
    exact (h.adds.origin a ha).resolve_left fun hnone => nomatch hnone
  · rintro ⟨r, hr, hreach⟩
    exact h.sound.mem_of_reaches (h.adds.present r hr) hreach

/-- They are those that stand at the places of the trees where shapes are emitted. -/
theorem Emitted.mem_shapes_iff_emitted?
    (h : Emitted providers schema config sources artifacts gs w trees)
    (s : Shape) :
    s ∈ artifacts.map Artifact.shape ↔ ∃ (i : Nat) (e : Address × VisitTree),
      trees[i]? = some e ∧ ∃ steps variant,
        e.2.emitted? e.2.built.variants.isEmpty steps variant = some s := by
  rw [h.mem_shapes, h.roots]
  constructor
  · rintro ⟨r, hr, hreach⟩
    obtain ⟨e, he, htop⟩ := List.mem_flatMap.1 hr
    obtain ⟨i, hi⟩ := List.mem_iff_getElem?.1 he
    exact ⟨i, e, hi, ((h.planted i e hi).grown.reaches_iff_emitted? _ _).1 ⟨r, htop, hreach⟩⟩
  · rintro ⟨i, e, hi, hemitted⟩
    obtain ⟨r, hr, hreach⟩ := ((h.planted i e hi).grown.reaches_iff_emitted? _ _).2 hemitted
    exact ⟨r, List.mem_flatMap.2 ⟨e, List.mem_of_getElem? hi, hr⟩, hreach⟩

/-- The sample and the dependencies of an artifact agree with its fields. -/
theorem Emitted.linked
    (h : Emitted providers schema config sources artifacts gs w trees) {a : Artifact}
    (ha : a ∈ artifacts) : a.shape.Linked := by
  obtain ⟨i, e, hi, steps, variant, hemitted⟩ :=
    (h.mem_shapes_iff_emitted? a.shape).1 (List.mem_map_of_mem ha)
  exact (h.planted i e hi).grown.linked_of_emitted? hemitted

/-- What an artifact refers to comes before it. -/
theorem Emitted.exists_before
    (h : Emitted providers schema config sources artifacts gs w trees) {i : Nat}
    {a : Artifact} (ha : artifacts[i]? = some a) {t : Shape} (ht : t ∈ a.shape.dependencies) :
    ∃ j b, j < i ∧ artifacts[j]? = some b ∧ b.shape = t := by
  rw [h.artifacts] at ha ⊢
  obtain ⟨hi, rfl⟩ := List.getElem?_eq_some_iff.1 ha
  rcases h.sound.inOrder.exists_lt hi ht with hnil | ⟨j, hj, hji, hshape⟩
  · cases hnil
  · exact ⟨j, _, hji, List.getElem?_eq_getElem hj, hshape⟩

end Emitted

end Run

/-- The artifacts of a run come in the order of their dependencies: what an artifact refers to, in
its fields and in its sample, is an earlier artifact. No shape is emitted twice, and the emitted
shapes are exactly those that can be reached from the roots of the definitions that the run
processed. -/
theorem artifacts_in_dependency_order {providers : Providers} {schema : Schema} {config : Config}
    {sources : List SourceDocument} {artifacts : List Artifact}
    (h : (generateSamples providers schema config sources).result = .ok artifacts) :
    (∀ (i : Nat) (a : Artifact), artifacts[i]? = some a →
      (∀ f ∈ a.shape.fields, ∀ t, f.content.target? = some t ∨ t ∈ f.content.members →
        ∃ j b, j < i ∧ artifacts[j]? = some b ∧ b.shape = t) ∧
      ∀ factory ∈ (Sample.obj a.value).factories, ∃ j b, j < i ∧ artifacts[j]? = some b ∧
        b.shape ∈ a.shape.dependencies ∧ b.factory = factory) ∧
    (artifacts.map fun a => a.shape.id).Nodup ∧
    ∃ gs after, (Run.generated providers schema config sources).run.run .start = (.ok gs, after) ∧
      artifacts = (gs.foldl Run.Generated.emit .empty).artifacts ∧
      ∀ s, s ∈ artifacts.map Artifact.shape ↔
        ∃ r ∈ gs.flatMap (fun g => g.roots.map Prod.fst), r.Reaches s := by
  obtain ⟨gs, w, trees, hemitted⟩ := Run.exists_emitted h
  obtain ⟨after, hgenerated⟩ := hemitted.generated
  refine ⟨?_, hemitted.nodup_ids, gs, after, hgenerated, hemitted.artifacts, hemitted.mem_shapes⟩
  · intro i a ha
    have hlinked := hemitted.linked (List.mem_of_getElem? ha)
    constructor
    · intro f hf t ht
      have htarget : t ∈ f.content.targets := by
        cases hcontent : f.content <;>
          simp_all [Content.target?, Content.members, Content.targets]
      exact hemitted.exists_before ha (hlinked.mem_dependencies.2 ⟨f, hf, htarget⟩)
    · intro factory hfactory
      obtain ⟨t, ht, hname⟩ := hlinked.factories_value hfactory
      obtain ⟨j, b, hji, hb, hshape⟩ := hemitted.exists_before ha ht
      refine ⟨j, b, hji, hb, hshape ▸ ht, ?_⟩
      rw [Artifact.factory, hshape, hname]

namespace Pets

/-- The providers of the catalogue, with the epoch as the present. -/
def providers : Providers := Generator.providers 0

/-- A field without arguments. -/
def field (name type : String) : FieldDef := ⟨name, [], .named type, []⟩

/-- People with pets and friends. -/
def schema : Schema where
  types :=
    [⟨"Query", [], .object [] [field "owner" "Person", field "ownerFriend" "Person"]⟩,
      ⟨"Person", [], .object [] [field "mood" "Mood", field "pet" "Pet", field "friend" "Person"]⟩,
      ⟨"Pet", [], .union ["Cat", "Dog"]⟩,
      ⟨"Cat", [], .object [] [field "mood" "Mood"]⟩,
      ⟨"Dog", [], .object [] [field "owner" "Person"]⟩,
      ⟨"Mood", [], .enum [⟨"CALM", []⟩]⟩]
  directives := []
  query := some "Query"
  mutation := none
  subscription := none

def leaf (name : String) : Selection := .leaf ⟨none, name, [], []⟩

def branch (name : String) (selections : List Selection) : Selection :=
  .branch ⟨none, name, [], []⟩ none selections

/-- A document with one query. -/
def query (selections : List Selection) : List SourceDocument :=
  [⟨[.operation ⟨.query, some "Home", [], [], selections⟩], none⟩]

/-- An owner, the owner's pet and a friend. The friend is a shape of both variants. -/
def owner : List SourceDocument :=
  query [branch "owner"
    [branch "pet"
      [.inline (some "Cat") [] [leaf "mood"],
        .inline (some "Dog") [] [branch "owner" [leaf "mood"]]],
      branch "friend" [leaf "mood"]]]

/-- A friend of an owner, asked for in two ways. -/
def friends : List SourceDocument :=
  query [branch "ownerFriend" [leaf "mood"], branch "owner" [branch "friend" [leaf "mood"]]]

/-- A run that returns artifacts which pass a check. -/
theorem exists_result (sources : List SourceDocument) (check : List Artifact → Bool)
    (h : (generateSamples providers schema .defaults sources).result.toOption.any check = true) :
    ∃ artifacts, (generateSamples providers schema .defaults sources).result = .ok artifacts ∧
      check artifacts = true := by
  cases hresult : (generateSamples providers schema .defaults sources).result with
  | ok artifacts =>
    rw [hresult] at h
    exact ⟨artifacts, rfl, h⟩
  | error fault =>
    rw [hresult] at h
    cases h

end Pets

theorem artifacts_in_dependency_order_owner : ∃ artifacts,
    (generateSamples Pets.providers Pets.schema .defaults Pets.owner).result = .ok artifacts ∧
    artifacts.map Artifact.name =
      ["HomeOwnerPetAsCat", "HomeOwnerFriend", "HomeOwnerAsCat", "HomeQueryAsCat",
        "HomeOwnerPetAsDogOwner", "HomeOwnerPetAsDog", "HomeOwnerAsDog", "HomeQueryAsDog"] ∧
    (artifacts.map fun a => a.shape.id).Nodup := by
  obtain ⟨artifacts, hresult, hnames⟩ := Pets.exists_result Pets.owner
    (fun artifacts => artifacts.map Artifact.name ==
      ["HomeOwnerPetAsCat", "HomeOwnerFriend", "HomeOwnerAsCat", "HomeQueryAsCat",
        "HomeOwnerPetAsDogOwner", "HomeOwnerPetAsDog", "HomeOwnerAsDog", "HomeQueryAsDog"])
    (by decide +kernel)
  exact ⟨artifacts, hresult, beq_iff_eq.1 hnames, (artifacts_in_dependency_order hresult).2.1⟩

end OperationSamples
