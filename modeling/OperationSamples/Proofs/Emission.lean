import Mathlib.Logic.Relation
import OperationSamples.Artifact.Basic
import OperationSamples.Proofs.References

/-!
The order in which shapes are emitted.

`Emission.shape` walks a shape and everything it refers to, dependencies first, and skips what was
emitted before. What counts as emitted is decided by identity. The results of this module hold for
every set of shapes in which the identity of a shape tells which shape it is (`Distinguished`) and
which holds the dependencies of its members.

While a shape's dependencies are emitted, the shape itself is open: its identity is taken although
its artifact is not there yet. `Emission.Sound` is the invariant of the walk, given the open
identities. An open identity is never met again further down, because a shape is larger than what it
refers to.
-/

namespace OperationSamples

namespace Shape

/-- A shape can be reached from another by following references. -/
def Reaches : Shape → Shape → Prop := Relation.ReflTransGen fun s t => t ∈ s.dependencies

theorem sizeOf_lt_of_mem_dependencies {s t : Shape} (h : t ∈ s.dependencies) :
    sizeOf t < sizeOf s := by
  have hmember : sizeOf t < sizeOf s.dependencies := List.sizeOf_lt_of_mem h
  have hown : sizeOf s.dependencies < sizeOf s := by
    cases s
    simp only [Shape.mk.sizeOf_spec]
    omega
  omega

/-- What holds of a shape and of everything that its dependencies lead to holds of all it leads
to. -/
theorem forall_reaches {P : Shape → Prop} {s : Shape} (hown : P s)
    (hbelow : ∀ t ∈ s.dependencies, ∀ u, t.Reaches u → P u) : ∀ u, s.Reaches u → P u := by
  intro u hreach
  rcases Relation.ReflTransGen.cases_head hreach with rfl | ⟨t, ht, hrest⟩
  · exact hown
  · exact hbelow t ht u hrest

theorem Reaches.sizeOf_le {s t : Shape} (h : s.Reaches t) : sizeOf t ≤ sizeOf s := by
  induction h with
  | refl => exact Nat.le_refl _
  | tail _ hstep ih => exact Nat.le_trans (Nat.le_of_lt (sizeOf_lt_of_mem_dependencies hstep)) ih

/-- Induction on shapes along their dependencies. -/
theorem dependencyInduction {P : Shape → Prop}
    (step : ∀ s : Shape, (∀ t ∈ s.dependencies, P t) → P s) (s : Shape) : P s :=
  step s fun t _ => dependencyInduction step t
termination_by sizeOf s
decreasing_by exact sizeOf_lt_of_mem_dependencies ‹_›

end Shape

/-- A set of shapes that holds what its members refer to, and in which shapes with the same identity
are the same. -/
structure Distinguished (U : Shape → Prop) : Prop where
  closed : ∀ s t, U s → t ∈ s.dependencies → U t
  eq_of_id : ∀ s t, U s → U t → s.id = t.id → s = t

theorem Distinguished.of_reaches {U : Shape → Prop} (hU : Distinguished U) {s t : Shape}
    (hs : U s) (h : s.Reaches t) : U t := by
  induction h with
  | refl => exact hs
  | tail _ hstep ih => exact hU.closed _ _ ih hstep

/-- Nothing that a shape depends on leads back to the shape. -/
theorem Distinguished.id_ne_of_dependency {U : Shape → Prop} (hU : Distinguished U)
    {s t x : Shape} (hs : U s) (ht : t ∈ s.dependencies) (hx : t.Reaches x) : x.id ≠ s.id := by
  intro hid
  have hxU : U x := hU.of_reaches (hU.closed s t hs ht) hx
  have heq : x = s := hU.eq_of_id x s hxU hs hid
  have hlt := Shape.sizeOf_lt_of_mem_dependencies ht
  have hle := hx.sizeOf_le
  rw [heq] at hle
  omega

namespace Emission

/-! ### The walk over the dependencies of a shape -/

/-- The artifact that a shape is emitted as. -/
def artifactOf (origin : Provenance) (kind : ArtifactKind) (s : Shape) : Artifact :=
  ⟨kind, s, origin.operation, origin.location⟩

/-- Emitting a shape in terms of its dependencies. -/
theorem shape_eq (origin : Provenance) (kind : ArtifactKind) (state : Emission) (s : Shape) :
    shape origin kind state s =
      if s.id ∈ state.emitted then state
      else
        let after := shapes origin { state with emitted := s.id :: state.emitted } s.dependencies
        { after with artifacts := after.artifacts ++ [artifactOf origin kind s] } := by
  obtain ⟨id, name, typeName, path, depth, fields, value, dependencies⟩ := s
  rw [shape]
  simp only [List.contains_eq_mem, decide_eq_true_eq]
  rfl

/-! ### The invariant -/

/-- The identities of the shapes that were emitted. -/
def ids (state : Emission) : List Nat := state.artifacts.map fun a => a.shape.id

/-- Whether every artifact comes after the shapes it depends on, given the shapes that come before
all of them. -/
def InOrder (seen : List Shape) : List Artifact → Prop
  | [] => True
  | a :: rest => (∀ t ∈ a.shape.dependencies, t ∈ seen) ∧ InOrder (seen ++ [a.shape]) rest

theorem inOrder_snoc {seen : List Shape} {artifacts : List Artifact} {last : Artifact} :
    InOrder seen (artifacts ++ [last]) ↔
      InOrder seen artifacts ∧
        ∀ t ∈ last.shape.dependencies, t ∈ seen ++ artifacts.map Artifact.shape := by
  induction artifacts generalizing seen with
  | nil => simp [InOrder]
  | cons a rest ih => simp [InOrder, ih, and_assoc]

/-- In order, the dependencies of an artifact are shapes of artifacts with a smaller index. -/
theorem InOrder.exists_lt {seen : List Shape} {artifacts : List Artifact}
    (h : InOrder seen artifacts) {i : Nat} (hi : i < artifacts.length) {t : Shape}
    (ht : t ∈ (artifacts.get ⟨i, hi⟩).shape.dependencies) :
    t ∈ seen ∨ ∃ (j : Nat) (hj : j < artifacts.length), j < i ∧
      (artifacts.get ⟨j, hj⟩).shape = t := by
  induction artifacts generalizing seen i with
  | nil => simp at hi
  | cons a rest ih =>
    cases i with
    | zero => exact Or.inl (h.1 t ht)
    | succ i =>
      rcases ih h.2 (by simpa using hi) ht with hseen | ⟨j, hj, hji, hshape⟩
      · rcases List.mem_append.1 hseen with hseen | hfirst
        · exact Or.inl hseen
        · have heq : a.shape = t := by simpa using (List.mem_singleton.1 hfirst).symm
          exact Or.inr ⟨0, by simp, by omega, heq⟩
      · exact Or.inr ⟨j + 1, by simpa using hj, by omega, hshape⟩

/-- What holds during the walk over shapes of `U`, with the given identities open. -/
structure Sound (U : Shape → Prop) (opened : List Nat) (state : Emission) : Prop where
  taken : ∀ id, id ∈ state.emitted ↔ id ∈ opened ∨ id ∈ state.ids
  nodup : state.ids.Nodup
  apart : ∀ id ∈ opened, id ∉ state.ids
  inside : ∀ a ∈ state.artifacts, U a.shape
  inOrder : InOrder [] state.artifacts

theorem sound_empty (U : Shape → Prop) : Sound U [] empty := by
  refine ⟨?_, ?_, ?_, ?_, trivial⟩ <;> simp [empty, ids]

/-- What emitting shapes adds: artifacts are only appended, the given shapes are among them, and
every new one can be reached from a given shape. -/
structure Adds (given : List Shape) (before after : Emission) : Prop where
  grows : before.artifacts <+: after.artifacts
  present : ∀ s ∈ given, s ∈ after.artifacts.map Artifact.shape
  origin : ∀ a ∈ after.artifacts, a ∈ before.artifacts ∨ ∃ s ∈ given, s.Reaches a.shape

theorem mem_shapes_of_prefix {before after : Emission} (h : before.artifacts <+: after.artifacts)
    {s : Shape} (hs : s ∈ before.artifacts.map Artifact.shape) :
    s ∈ after.artifacts.map Artifact.shape := (h.map Artifact.shape).subset hs

theorem Adds.refl_of_mem {given : List Shape} {state : Emission}
    (h : ∀ s ∈ given, s ∈ state.artifacts.map Artifact.shape) : Adds given state state :=
  ⟨List.prefix_rfl, h, fun _ ha => Or.inl ha⟩

theorem Adds.append {given more : List Shape} {first second third : Emission}
    (h : Adds given first second) (h' : Adds more second third) :
    Adds (given ++ more) first third := by
  refine ⟨h.grows.trans h'.grows, ?_, ?_⟩
  · intro x hx
    rcases List.mem_append.1 hx with hx | hx
    · exact mem_shapes_of_prefix h'.grows (h.present x hx)
    · exact h'.present x hx
  · intro a ha
    rcases h'.origin a ha with ha | ⟨x, hx, hreach⟩
    · rcases h.origin a ha with ha | ⟨x, hx, hreach⟩
      · exact Or.inl ha
      · exact Or.inr ⟨x, List.mem_append_left _ hx, hreach⟩
    · exact Or.inr ⟨x, List.mem_append_right _ hx, hreach⟩

/-- Opening a shape that is not taken. -/
theorem Sound.open {U : Shape → Prop} {opened : List Nat} {state : Emission} {s : Shape}
    (h : Sound U opened state) (hs : s.id ∉ state.emitted) :
    Sound U (s.id :: opened) { state with emitted := s.id :: state.emitted } := by
  have hfree : s.id ∉ state.ids := fun hmem => hs ((h.taken _).2 (Or.inr hmem))
  refine ⟨?_, h.nodup, ?_, h.inside, h.inOrder⟩
  · intro id
    have := h.taken id
    simp only [List.mem_cons, ids] at this ⊢
    rw [this, or_assoc]
  · intro id hid
    rcases List.mem_cons.1 hid with rfl | hid
    · exact hfree
    · exact h.apart id hid

/-- Closing a shape whose dependencies were emitted. -/
theorem Sound.close {U : Shape → Prop} {opened : List Nat} {state : Emission} {s : Shape}
    (origin : Provenance) (kind : ArtifactKind) (h : Sound U (s.id :: opened) state) (hU : U s)
    (hdeps : ∀ t ∈ s.dependencies, t ∈ state.artifacts.map Artifact.shape)
    (hopen : s.id ∉ opened) :
    Sound U opened { state with artifacts := state.artifacts ++ [artifactOf origin kind s] } := by
  have hids : (Emission.mk state.emitted (state.artifacts ++ [artifactOf origin kind s])).ids =
      state.ids ++ [s.id] := by simp [ids, artifactOf]
  refine ⟨?_, ?_, ?_, ?_, ?_⟩
  · intro id
    rw [hids]
    have := h.taken id
    simp only [List.mem_cons, List.mem_append, List.not_mem_nil, or_false] at this ⊢
    rw [this, or_comm (a := id = s.id), or_assoc, or_comm (a := id = s.id)]
  · rw [hids]
    refine List.nodup_append.2 ⟨h.nodup, by simp, ?_⟩
    intro x hx y hy hxy
    obtain rfl : y = s.id := by simpa using hy
    exact h.apart _ List.mem_cons_self (hxy ▸ hx)
  · intro id hid
    rw [hids]
    intro hmem
    rcases List.mem_append.1 hmem with hmem | hmem
    · exact h.apart id (List.mem_cons_of_mem _ hid) hmem
    · obtain rfl : id = s.id := by simpa using hmem
      exact hopen hid
  · intro a ha
    rcases List.mem_append.1 ha with ha | ha
    · exact h.inside a ha
    · obtain rfl : a = artifactOf origin kind s := by simpa using ha
      exact hU
  · exact inOrder_snoc.2 ⟨h.inOrder, by simpa [artifactOf] using hdeps⟩

/-- What the walk from one shape keeps and adds. -/
def Walks (U : Shape → Prop) (origin : Provenance) (s : Shape) : Prop :=
  ∀ (kind : ArtifactKind) (opened : List Nat) (state : Emission), Sound U opened state → U s →
    (∀ id ∈ opened, ∀ x, s.Reaches x → x.id ≠ id) →
    Sound U opened (shape origin kind state s) ∧ Adds [s] state (shape origin kind state s)

theorem walks_list {U : Shape → Prop} {origin : Provenance} :
    ∀ (given : List Shape) (opened : List Nat) (state : Emission),
      (∀ t ∈ given, Walks U origin t) → Sound U opened state → (∀ t ∈ given, U t) →
      (∀ id ∈ opened, ∀ t ∈ given, ∀ x, t.Reaches x → x.id ≠ id) →
      Sound U opened (shapes origin state given) ∧
        Adds given state (shapes origin state given) := by
  intro given
  induction given with
  | nil =>
    intro opened state _ h _ _
    exact ⟨h, Adds.refl_of_mem (by simp)⟩
  | cons t given ih =>
    intro opened state hwalks h hU hopen
    obtain ⟨hsound, hadds⟩ := hwalks t (by simp) .nestedShape opened state h (hU t (by simp))
      (fun id hid => hopen id hid t (by simp))
    obtain ⟨hsound', hadds'⟩ := ih opened _ (fun x hx => hwalks x (by simp [hx])) hsound
      (fun x hx => hU x (by simp [hx])) (fun id hid x hx => hopen id hid x (by simp [hx]))
    exact ⟨hsound', hadds.append hadds'⟩

theorem walks {U : Shape → Prop} (hU : Distinguished U) (origin : Provenance) (s : Shape) :
    Walks U origin s := by
  induction s using Shape.dependencyInduction with
  | step s ih =>
    intro kind opened state h hs hopen
    rw [shape_eq]
    by_cases htaken : s.id ∈ state.emitted
    · -- the shape is not open, so its identity is that of an artifact
      rw [if_pos htaken]
      have hid : s.id ∈ state.ids := by
        refine ((h.taken _).1 htaken).resolve_left fun hmem => ?_
        exact hopen _ hmem s Relation.ReflTransGen.refl rfl
      obtain ⟨a, ha, hida⟩ := List.mem_map.1 hid
      have heq : a.shape = s := hU.eq_of_id _ _ (h.inside a ha) hs hida
      refine ⟨h, Adds.refl_of_mem ?_⟩
      intro x hx
      obtain rfl : x = s := by simpa using hx
      exact List.mem_map.2 ⟨a, ha, heq⟩
    · rw [if_neg htaken]
      have hopened : s.id ∉ opened := fun hmem =>
        hopen _ hmem s Relation.ReflTransGen.refl rfl
      obtain ⟨hsound, hadds⟩ := walks_list s.dependencies (s.id :: opened) _
        (fun t ht => ih t ht) (h.open htaken) (fun t ht => hU.closed s t hs ht) (by
          intro id hid t ht x hx
          rcases List.mem_cons.1 hid with rfl | hid
          · exact hU.id_ne_of_dependency hs ht hx
          · exact hopen id hid x (Relation.ReflTransGen.head ht hx))
      refine ⟨hsound.close origin kind hs hadds.present hopened, ?_, ?_, ?_⟩
      · exact hadds.grows.trans (List.prefix_append _ _)
      · intro x hx
        obtain rfl : x = s := by simpa using hx
        simp [artifactOf]
      · intro a ha
        rcases List.mem_append.1 ha with ha | ha
        · rcases hadds.origin a ha with ha | ⟨t, ht, hreach⟩
          · exact Or.inl ha
          · exact Or.inr ⟨s, by simp, Relation.ReflTransGen.head ht hreach⟩
        · obtain rfl : a = artifactOf origin kind s := by simpa using ha
          exact Or.inr ⟨s, by simp, Relation.ReflTransGen.refl⟩

/-- Emitting one shape at the top keeps the invariant and adds what can be reached from it. -/
theorem sound_shape {U : Shape → Prop} (hU : Distinguished U) (origin : Provenance)
    (kind : ArtifactKind) {state : Emission} {s : Shape} (h : Sound U [] state) (hs : U s) :
    Sound U [] (shape origin kind state s) ∧ Adds [s] state (shape origin kind state s) :=
  walks hU origin s kind [] state h hs (by simp)

/-- What can be reached from an emitted shape is emitted. -/
theorem Sound.mem_of_reaches {U : Shape → Prop} {state : Emission} (h : Sound U [] state)
    {s t : Shape} (hs : s ∈ state.artifacts.map Artifact.shape) (hreach : s.Reaches t) :
    t ∈ state.artifacts.map Artifact.shape := by
  induction hreach with
  | refl => exact hs
  | @tail x y _ hstep ih =>
    obtain ⟨a, ha, rfl⟩ := List.mem_map.1 ih
    obtain ⟨⟨i, hi⟩, rfl⟩ := List.mem_iff_get.1 ha
    rcases h.inOrder.exists_lt hi hstep with hnil | ⟨j, hj, -, rfl⟩
    · cases hnil
    · exact List.mem_map.2 ⟨_, List.get_mem _ _, rfl⟩

end Emission

end OperationSamples
