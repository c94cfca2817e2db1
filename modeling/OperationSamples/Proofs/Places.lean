import OperationSamples.Proofs.Emission
import OperationSamples.Proofs.Visit

/-!
Which shapes of a tree are emitted.

A place in a tree is given by the steps that lead to a node, each a response key and, for a union,
the position of a member; at the node stand its plain shape and its variants. From the roots of a
definition not every shape of the tree can be reached: when a definition has variants its plain
shape is left out, and with it those that only the plain shape refers to. `VisitTree.emitted?` says
what is reached at a place without following references.
-/

namespace OperationSamples

namespace VisitTree

/-- A response key, and the position of a member if the field is a union. -/
abbrev Step := String × Option Nat

/-- The subtree that a step leads to, with the name of the member. -/
def child? (t : VisitTree) (step : Step) : Option (Option String × VisitTree) :=
  t.branches.findSome? fun b => if b.key = step.1 then b.child? step.2 else none

/-- Whether some other field than the one with the given key can be fixed. -/
def variesBeside (t : VisitTree) (key : String) : Bool :=
  t.branches.any fun b => b.key != key && !b.slot.alternatives.isEmpty

/-- The shape that is emitted at a place: the plain shape of a node, or one of its variants.
Variants are always emitted. The plain shape of the tree is if `plain` says so; below it, the plain
shape of a member always is, and that of an object if the plain shape above it is or another field
can be fixed. -/
def emitted? : VisitTree → Bool → List Step → Option Nat → Option Shape
  | t, plain, [], none => if plain then some t.built.shape else none
  | t, _, [], some i => t.built.variants[i]?.map Variant.shape
  | t, plain, step :: steps, variant =>
    match t.child? step with
    | none => none
    | some (_, child) =>
      child.emitted? (step.2.isSome || plain || t.variesBeside step.1) steps variant

/-- The shapes that a tree offers to what is above it: its variants, and its plain shape if `plain`
says so. -/
def tops (t : VisitTree) (plain : Bool) : List Shape :=
  (if plain then [t.built.shape] else []) ++ t.built.variants.map Variant.shape

theorem mem_tops {t : VisitTree} {plain : Bool} {x : Shape} :
    x ∈ t.tops plain ↔
      (plain = true ∧ x = t.built.shape) ∨ x ∈ t.built.variants.map Variant.shape := by
  cases plain <;> simp [tops]

end VisitTree

/-! ### References of the shapes of a node -/

/-- Whether the shapes of a node have the slots of its branches. -/
def VisitTree.Shaped (t : VisitTree) : Prop :=
  ∃ (frame : Frame) (number : Nat → Nat), t.built = frame.built number (t.branches.map Branch.slot)

section Node

variable {t : VisitTree} {x : Shape}

theorem mem_dependencies_plain (h : t.Shaped) :
    x ∈ t.built.shape.dependencies ↔ ∃ b ∈ t.branches, x ∈ b.slot.dependencies := by
  obtain ⟨frame, number, hbuilt⟩ := h
  simp [hbuilt, Frame.built, Frame.shape, Shape.ofSlots, List.flatMap_map]

/-- A shape with a fixed slot refers to what the slot is fixed to, and to what the other slots refer
to. -/
theorem mem_dependencies_fixedAt {slots : List Slot} {position : Nat} {v : Variant} :
    (∃ slot ∈ Slot.fixedAt slots position v, x ∈ slot.dependencies) ↔
      (position < slots.length ∧ x = v.shape) ∨
        ∃ other slot, other ≠ position ∧ slots[other]? = some slot ∧ x ∈ slot.dependencies := by
  constructor
  · rintro ⟨fixed, hfixed, hx⟩
    obtain ⟨i, hi⟩ := List.mem_iff_getElem?.1 hfixed
    rw [Slot.fixedAt, List.getElem?_modify] at hi
    obtain ⟨slot, hslot, rfl⟩ := Option.map_eq_some_iff.1 hi
    by_cases hposition : position = i
    · subst hposition
      left
      refine ⟨(List.getElem?_eq_some_iff.1 hslot).1, ?_⟩
      simpa [Slot.fixed] using hx
    · right
      refine ⟨i, slot, Ne.symm hposition, hslot, ?_⟩
      simpa [hposition] using hx
  · rintro (⟨hposition, rfl⟩ | ⟨other, slot, hother, hslot, hx⟩)
    · refine ⟨slots[position].fixed v, ?_, List.mem_singleton_self _⟩
      refine List.mem_iff_getElem?.2 ⟨position, ?_⟩
      simp [Slot.fixedAt, hposition]
    · refine ⟨slot, List.mem_iff_getElem?.2 ⟨other, ?_⟩, hx⟩
      simp [Slot.fixedAt, hslot, Ne.symm hother]

/-- A variant of a node fixes one branch to one of its alternatives. -/
theorem exists_of_mem_variants (h : t.Shaped) {v : Variant} (hv : v ∈ t.built.variants) :
    ∃ position b alternative, t.branches[position]? = some b ∧ alternative ∈ b.slot.alternatives ∧
      v.shape.HasSlots (Slot.fixedAt (t.branches.map Branch.slot) position alternative) := by
  obtain ⟨frame, number, hbuilt⟩ := h
  obtain ⟨i, hi⟩ := List.mem_iff_getElem?.1 hv
  rw [hbuilt, Frame.built, List.getElem?_mapIdx] at hi
  obtain ⟨⟨position, alternative⟩, hplaced, rfl⟩ := Option.map_eq_some_iff.1 hi
  obtain ⟨slot, hslot, halternative⟩ :=
    Slot.mem_placedAlternatives.1 (List.mem_of_getElem? hplaced)
  rw [List.getElem?_map] at hslot
  obtain ⟨b, hb, rfl⟩ := Option.map_eq_some_iff.1 hslot
  exact ⟨position, b, alternative, hb, halternative, rfl⟩

/-- Every alternative of every branch is fixed by some variant. -/
theorem exists_variant (h : t.Shaped) {position : Nat} {b : Branch VisitTree}
    {alternative : Variant} (hb : t.branches[position]? = some b)
    (halternative : alternative ∈ b.slot.alternatives) :
    ∃ v ∈ t.built.variants,
      v.shape.HasSlots (Slot.fixedAt (t.branches.map Branch.slot) position alternative) := by
  obtain ⟨frame, number, hbuilt⟩ := h
  have hplaced : (position, alternative) ∈ Slot.placedAlternatives (t.branches.map Branch.slot) :=
    Slot.mem_placedAlternatives.2 ⟨b.slot, by simp [hb], halternative⟩
  obtain ⟨i, hi⟩ := List.mem_iff_getElem?.1 hplaced
  refine ⟨frame.variant (t.branches.map Branch.slot)
    (Shaper.haveOnePath (Slot.placedAlternatives (t.branches.map Branch.slot))) (number (i + 1))
    (position, alternative), List.mem_iff_getElem?.2 ⟨i, ?_⟩, rfl⟩
  rw [hbuilt, Frame.built, List.getElem?_mapIdx, hi]
  rfl

theorem mem_dependencies_of_fixed {s : Shape} {position : Nat} {alternative : Variant}
    (h : s.HasSlots (Slot.fixedAt (t.branches.map Branch.slot) position alternative)) :
    x ∈ s.dependencies ↔ (position < t.branches.length ∧ x = alternative.shape) ∨
      ∃ other b, other ≠ position ∧ t.branches[other]? = some b ∧ x ∈ b.slot.dependencies := by
  rw [h.dependencies, List.mem_flatMap, mem_dependencies_fixedAt]
  simp only [List.length_map, List.getElem?_map, Option.map_eq_some_iff]
  constructor
  · rintro (hfixed | ⟨other, slot, hother, ⟨b, hb, rfl⟩, hx⟩)
    · exact Or.inl hfixed
    · exact Or.inr ⟨other, b, hother, hb, hx⟩
  · rintro (hfixed | ⟨other, b, hother, hb, hx⟩)
    · exact Or.inl hfixed
    · exact Or.inr ⟨other, b.slot, hother, ⟨b, hb, rfl⟩, hx⟩

end Node

/-! ### Steps -/

namespace VisitTree

theorem exists_branch_of_child? {t : VisitTree} {step : Step} {entry : Option String × VisitTree}
    (h : t.child? step = some entry) :
    ∃ b ∈ t.branches, b.key = step.1 ∧ b.child? step.2 = some entry := by
  obtain ⟨b, hb, hentry⟩ := List.exists_of_findSome?_eq_some h
  split at hentry
  · next hkey => exact ⟨b, hb, hkey, hentry⟩
  · cases hentry

/-- Among branches with different keys, the key of a branch leads to its subtrees. -/
theorem findSome?_child? {branches : List (Branch VisitTree)} {position : Option Nat}
    {b : Branch VisitTree} {entry : Option String × VisitTree}
    (hdistinct : branches.Pairwise Branch.Apart) (hb : b ∈ branches)
    (hchild : b.child? position = some entry) :
    (branches.findSome? fun c => if c.key = b.key then c.child? position else none) =
      some entry := by
  induction branches with
  | nil => cases hb
  | cons c rest ih =>
    rw [List.pairwise_cons] at hdistinct
    rw [List.findSome?_cons]
    rcases List.mem_cons.1 hb with rfl | hrest
    · simp [hchild]
    · have hskip : (if c.key = b.key then c.child? position else none) = none := by
        split
        · next hkey =>
          cases hcase : c.child? position with
          | none => rfl
          | some entry' =>
            exact absurd hkey (hdistinct.1 b hrest (Branch.isInner_of_child? hcase)
              (Branch.isInner_of_child? hchild))
        · rfl
      rw [hskip]
      exact ih hdistinct.2 hrest

end VisitTree

section Grown

variable {root : Nat} {w : World} {address : Address} {member : Option Nat} {t : VisitTree}

theorem Grown.shaped (h : Grown root w address member t) : t.Shaped := by
  cases h with
  | node shaped => exact ⟨_, _, shaped⟩

theorem Grown.distinct (h : Grown root w address member t) : t.branches.Pairwise Branch.Apart := by
  cases h with
  | node _ _ _ distinct => exact distinct

theorem Grown.child?_eq (h : Grown root w address member t) {b : Branch VisitTree}
    (hb : b ∈ t.branches) {position : Option Nat} {entry : Option String × VisitTree}
    (hchild : b.child? position = some entry) : t.child? (b.key, position) = some entry :=
  VisitTree.findSome?_child? h.distinct hb hchild

/-- A subtree that a step leads to is on record at the address that the step leads to. -/
theorem Grown.child {child : VisitTree} {step : VisitTree.Step} {name : Option String}
    (h : Grown root w address member t) (hchild : t.child? step = some (name, child)) :
    Grown root w (address.led step.1 name) step.2 child := by
  obtain ⟨b, hb, hkey, hentry⟩ := VisitTree.exists_branch_of_child? hchild
  cases h with
  | node _ _ _ _ _ below => exact hkey ▸ below b hb step.2 name child hentry

/-- Branches at different positions have different keys. -/
theorem key_ne_of_position_ne {branches : List (Branch VisitTree)}
    (h : branches.Pairwise Branch.Apart) {i j : Nat} {b c : Branch VisitTree}
    (hb : branches[i]? = some b) (hc : branches[j]? = some c) (hbInner : b.isInner = true)
    (hcInner : c.isInner = true) (hij : i ≠ j) : b.key ≠ c.key := by
  obtain ⟨hi, rfl⟩ := List.getElem?_eq_some_iff.1 hb
  obtain ⟨hj, rfl⟩ := List.getElem?_eq_some_iff.1 hc
  rcases Nat.lt_or_gt_of_ne hij with hlt | hgt
  · exact List.pairwise_iff_getElem.1 h i j hi hj hlt hbInner hcInner
  · exact (List.pairwise_iff_getElem.1 h j i hj hi hgt hcInner hbInner).symm

/-! ### What can be reached -/

/-- What a top of a tree refers to is a top of a subtree. -/
theorem Grown.exists_child_top (h : Grown root w address member t) {plain : Bool} {x y : Shape}
    (hx : x ∈ t.tops plain) (hy : y ∈ x.dependencies) :
    ∃ b ∈ t.branches, ∃ position name child, b.child? position = some (name, child) ∧
      y ∈ child.tops (position.isSome || plain || t.variesBeside b.key) := by
  rcases VisitTree.mem_tops.1 hx with ⟨hplain, rfl⟩ | hx
  · obtain ⟨b, hb, htarget⟩ := (mem_dependencies_plain h.shaped).1 hy
    obtain ⟨position, name, child, hchild, rfl⟩ := Branch.mem_dependencies_slot.1 htarget
    refine ⟨b, hb, position, name, child, hchild, ?_⟩
    simp [VisitTree.mem_tops, hplain]
  · obtain ⟨v, hv, rfl⟩ := List.mem_map.1 hx
    obtain ⟨position, b, alternative, hb, halternative, hslots⟩ :=
      exists_of_mem_variants h.shaped hv
    have hshape : alternative.shape ∈ b.slot.alternatives.map Variant.shape :=
      List.mem_map_of_mem halternative
    rcases (mem_dependencies_of_fixed hslots).1 hy with ⟨-, rfl⟩ | ⟨other, c, hother, hc, hy⟩
    · -- what the branch is fixed to
      obtain ⟨index, name, child, hchild, htop⟩ := Branch.mem_alternatives_slot.1 hshape
      refine ⟨b, List.mem_of_getElem? hb, index, name, child, hchild, ?_⟩
      rcases htop with ⟨hindex, heq⟩ | hvariant
      · simp [VisitTree.mem_tops, hindex, heq]
      · exact VisitTree.mem_tops.2 (Or.inr hvariant)
    · -- what another branch keeps: the fixed branch varies beside it
      obtain ⟨index, name, child, hchild, rfl⟩ := Branch.mem_dependencies_slot.1 hy
      obtain ⟨_, _, _, hfixed, -⟩ := Branch.mem_alternatives_slot.1 hshape
      have hkey : b.key ≠ c.key := key_ne_of_position_ne h.distinct hb hc
        (Branch.isInner_of_child? hfixed) (Branch.isInner_of_child? hchild) (Ne.symm hother)
      have hvaries : t.variesBeside c.key = true := by
        refine List.any_eq_true.2 ⟨b, List.mem_of_getElem? hb, ?_⟩
        have hne : b.slot.alternatives ≠ [] := List.ne_nil_of_mem halternative
        simp [hkey, hne]
      refine ⟨c, List.mem_of_getElem? hc, index, name, child, hchild, ?_⟩
      simp [VisitTree.mem_tops, hvaries]

/-- An alternative of a branch is referred to by a variant of the tree. -/
theorem Grown.exists_top_of_alternative (h : Grown root w address member t) (plain : Bool)
    {b : Branch VisitTree} {y : Shape} (hb : b ∈ t.branches)
    (hy : y ∈ b.slot.alternatives.map Variant.shape) : ∃ x ∈ t.tops plain, y ∈ x.dependencies := by
  obtain ⟨i, hi⟩ := List.mem_iff_getElem?.1 hb
  obtain ⟨alternative, halternative, rfl⟩ := List.mem_map.1 hy
  obtain ⟨v, hv, hslots⟩ := exists_variant h.shaped hi halternative
  have hlength : i < t.branches.length := (List.getElem?_eq_some_iff.1 hi).1
  exact ⟨v.shape, VisitTree.mem_tops.2 (Or.inr (List.mem_map_of_mem hv)),
    (mem_dependencies_of_fixed hslots).2 (Or.inl ⟨hlength, rfl⟩)⟩

/-- What a branch refers to is referred to by the variants that fix a branch with another key. -/
theorem Grown.exists_top_of_varies (h : Grown root w address member t) (plain : Bool)
    {b : Branch VisitTree} {y : Shape} (hb : b ∈ t.branches)
    (hvaries : t.variesBeside b.key = true) (hy : y ∈ b.slot.dependencies) :
    ∃ x ∈ t.tops plain, y ∈ x.dependencies := by
  obtain ⟨i, hi⟩ := List.mem_iff_getElem?.1 hb
  obtain ⟨c, hc, hcVaries⟩ := List.any_eq_true.1 hvaries
  simp only [Bool.and_eq_true, bne_iff_ne, Bool.not_eq_true', ne_eq] at hcVaries
  obtain ⟨hkey, hnonempty⟩ := hcVaries
  obtain ⟨j, hj⟩ := List.mem_iff_getElem?.1 hc
  have hij : i ≠ j := by
    rintro rfl
    exact hkey (congrArg Branch.key (Option.some.inj (hj.symm.trans hi)))
  obtain ⟨alternative, halternative⟩ :=
    List.exists_mem_of_ne_nil _ (List.isEmpty_eq_false_iff.1 hnonempty)
  obtain ⟨v, hv, hslots⟩ := exists_variant h.shaped hj halternative
  exact ⟨v.shape, VisitTree.mem_tops.2 (Or.inr (List.mem_map_of_mem hv)),
    (mem_dependencies_of_fixed hslots).2 (Or.inr ⟨i, b, hij, hi, hy⟩)⟩

/-- Every top of a subtree is referred to by a top of the tree. -/
theorem Grown.exists_top (h : Grown root w address member t) {plain : Bool}
    {b : Branch VisitTree} {position : Option Nat} {name : Option String} {child : VisitTree}
    {y : Shape} (hb : b ∈ t.branches) (hchild : b.child? position = some (name, child))
    (hy : y ∈ child.tops (position.isSome || plain || t.variesBeside b.key)) :
    ∃ x ∈ t.tops plain, y ∈ x.dependencies := by
  rcases VisitTree.mem_tops.1 hy with ⟨hflag, rfl⟩ | hvariant
  · have htarget : child.built.shape ∈ b.slot.dependencies :=
      Branch.mem_dependencies_slot.2 ⟨position, name, child, hchild, rfl⟩
    simp only [Bool.or_eq_true] at hflag
    rcases hflag with (hposition | hplain) | hvaries
    · exact h.exists_top_of_alternative plain hb (Branch.mem_alternatives_slot.2
        ⟨position, name, child, hchild, Or.inl ⟨hposition, rfl⟩⟩)
    · exact ⟨_, VisitTree.mem_tops.2 (Or.inl ⟨hplain, rfl⟩),
        (mem_dependencies_plain h.shaped).2 ⟨b, hb, htarget⟩⟩
    · exact h.exists_top_of_varies plain hb hvaries htarget
  · exact h.exists_top_of_alternative plain hb (Branch.mem_alternatives_slot.2
      ⟨position, name, child, hchild, Or.inr hvariant⟩)

theorem VisitTree.emitted?_cons {plain : Bool} {step : Step} {steps : List Step}
    {variant : Option Nat} {name : Option String} {child : VisitTree}
    (h : t.child? step = some (name, child)) :
    t.emitted? plain (step :: steps) variant =
      child.emitted? (step.2.isSome || plain || t.variesBeside step.1) steps variant := by
  rw [emitted?, h]

/-- What is emitted after a step is emitted from the subtree that the step leads to. -/
theorem VisitTree.exists_child_of_emitted? {plain : Bool} {step : Step} {steps : List Step}
    {variant : Option Nat} {s : Shape} (h : t.emitted? plain (step :: steps) variant = some s) :
    ∃ name child, t.child? step = some (name, child) ∧
      child.emitted? (step.2.isSome || plain || t.variesBeside step.1) steps variant = some s := by
  rw [emitted?] at h
  split at h
  · cases h
  · next name child hchild => exact ⟨name, child, hchild, h⟩

/-- The tops are what is emitted at the tree itself. -/
theorem VisitTree.mem_tops_iff_emitted? {plain : Bool} {x : Shape} :
    x ∈ t.tops plain ↔ ∃ variant, t.emitted? plain [] variant = some x := by
  rw [mem_tops]
  constructor
  · rintro (⟨hplain, rfl⟩ | hx)
    · exact ⟨none, by simp [emitted?, hplain]⟩
    · obtain ⟨i, hi⟩ := List.mem_iff_getElem?.1 hx
      exact ⟨some i, by simpa [emitted?] using hi⟩
  · rintro ⟨variant, h⟩
    cases variant with
    | none =>
      rw [emitted?] at h
      split at h
      · next hplain => exact Or.inl ⟨hplain, (Option.some.inj h).symm⟩
      · cases h
    | some i =>
      rw [emitted?, ← List.getElem?_map] at h
      exact Or.inr (List.mem_of_getElem? h)

/-- What can be reached from the tops of a tree is what is emitted at its places. -/
theorem Grown.reaches_iff_emitted? (h : Grown root w address member t) (plain : Bool) (s : Shape) :
    (∃ x ∈ t.tops plain, x.Reaches s) ↔
      ∃ steps variant, t.emitted? plain steps variant = some s := by
  constructor
  · rintro ⟨x, hx, hreach⟩
    induction hreach using Relation.ReflTransGen.head_induction_on
      generalizing t address member plain with
    | refl =>
      obtain ⟨variant, hvariant⟩ := VisitTree.mem_tops_iff_emitted?.1 hx
      exact ⟨[], variant, hvariant⟩
    | head hstep _ ih =>
      obtain ⟨b, hb, position, name, child, hchild, htop⟩ := h.exists_child_top hx hstep
      have hfound := h.child?_eq hb hchild
      obtain ⟨steps, variant, hemitted⟩ := ih (h.child hfound) _ htop
      exact ⟨(b.key, position) :: steps, variant, by
        rw [VisitTree.emitted?_cons hfound]; exact hemitted⟩
  · rintro ⟨steps, variant, hemitted⟩
    induction steps generalizing t address member plain with
    | nil =>
      exact ⟨s, VisitTree.mem_tops_iff_emitted?.2 ⟨variant, hemitted⟩, .refl⟩
    | cons step steps ih =>
      obtain ⟨name, child, hchild, hbelow⟩ := VisitTree.exists_child_of_emitted? hemitted
      obtain ⟨b, hb, hkey, hentry⟩ := VisitTree.exists_branch_of_child? hchild
      obtain ⟨y, hy, hreach⟩ := ih (h.child hchild) _ hbelow
      obtain ⟨x, hx, hdep⟩ := h.exists_top hb hentry (hkey ▸ hy)
      exact ⟨x, hx, .head hdep hreach⟩

/-- The sample and the dependencies of what stands at a node agree with its fields. -/
theorem VisitTree.Shaped.linked_top (h : t.Shaped) {plain : Bool} {x : Shape}
    (hx : x ∈ t.tops plain) : x.Linked := by
  obtain ⟨frame, number, hbuilt⟩ := h
  have hslots : ∀ slot ∈ t.branches.map Branch.slot, slot.Linked :=
    List.forall_mem_map.2 fun b _ => b.linked_slot
  rcases VisitTree.mem_tops.1 hx with ⟨-, rfl⟩ | hx
  · rw [hbuilt]
    exact ⟨_, hslots, rfl⟩
  · obtain ⟨v, hv, rfl⟩ := List.mem_map.1 hx
    obtain ⟨i, hi⟩ := List.mem_iff_getElem?.1 hv
    rw [hbuilt, Frame.built, List.getElem?_mapIdx] at hi
    obtain ⟨placed, -, rfl⟩ := Option.map_eq_some_iff.1 hi
    exact ⟨_, Slot.linked_fixedAt hslots _ _, rfl⟩

theorem Grown.linked_of_emitted? (h : Grown root w address member t) {plain : Bool}
    {steps : List VisitTree.Step} {variant : Option Nat} {s : Shape}
    (hs : t.emitted? plain steps variant = some s) : s.Linked := by
  induction steps generalizing t address member plain with
  | nil => exact h.shaped.linked_top (VisitTree.mem_tops_iff_emitted?.2 ⟨variant, hs⟩)
  | cons step steps ih =>
    obtain ⟨name, child, hchild, hbelow⟩ := VisitTree.exists_child_of_emitted? hs
    exact ih (h.child hchild) hbelow

end Grown

end OperationSamples
