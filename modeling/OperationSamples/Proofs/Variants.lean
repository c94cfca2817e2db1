import Mathlib.Data.List.Forall2
import OperationSamples.Proofs.Visit

/-!
The variants of a shape and the members of the unions below it.

A visit gives one variant for every member of every union in its tree, in the order in which the
members are met. From the shape of a variant, the fixed fields lead down to the shape of its member:
each shape on the way is that of a node with one field fixed to the next.
-/

namespace OperationSamples

/-- A member of a union in a tree, with the positions of the fields that lead to it. -/
structure Member where
  route : List Nat
  name : String
  tree : VisitTree

def Member.below (position : Nat) (m : Member) : Member := { m with route := position :: m.route }

namespace VisitTree

mutual

/-- The members of all unions in a tree: field by field, a member before those below it. -/
def members : VisitTree → List Member
  | .node _ branches => membersOfBranches 0 branches

def membersOfBranches (position : Nat) : List (Branch VisitTree) → List Member
  | [] => []
  | b :: rest =>
    (membersOfBranch b).map (Member.below position) ++ membersOfBranches (position + 1) rest

def membersOfBranch : Branch VisitTree → List Member
  | .plain _ _ => []
  | .object _ child => members child
  | .union _ alternatives => membersOfUnion alternatives

def membersOfUnion : List (String × VisitTree) → List Member
  | [] => []
  | (name, child) :: rest => ⟨[], name, child⟩ :: members child ++ membersOfUnion rest

end

/-- The shape is that of a node with the field at a position fixed to a target. -/
structure Fixes (t : VisitTree) (position : Nat) (s target : Shape) : Prop where
  typeName : s.typeName = t.built.shape.typeName
  path : s.path = t.built.shape.path
  depth : s.depth = t.built.shape.depth
  fields : s.fields = t.built.shape.fields.modify position
    fun f => { f with content := .shape target }

/-- From a shape of a node, fixed fields at the given positions lead to the plain shape of a member
of a union. -/
inductive Leads : VisitTree → List Nat → Shape → VisitTree → Prop
  | stop {t member : VisitTree} {position index : Nat} {s : Shape} {b : Branch VisitTree}
      {name : Option String} (branch : t.branches[position]? = some b)
      (below : b.child? (some index) = some (name, member))
      (fixes : t.Fixes position s member.built.shape) : Leads t [position] s member
  | onward {t child member : VisitTree} {position : Nat} {index : Option Nat} {s next : Shape}
      {b : Branch VisitTree} {name : Option String} {route : List Nat}
      (branch : t.branches[position]? = some b) (below : b.child? index = some (name, child))
      (fixes : t.Fixes position s next) (rest : Leads child route next member) :
      Leads t (position :: route) s member

/-- The variant is that of a member: it fixes the fields on the route to the member. -/
structure VariantOf (t : VisitTree) (v : Variant) (m : Member) : Prop where
  name : v.member = m.name
  typeName : m.tree.built.shape.typeName = m.name
  leads : Leads t m.route v.shape m.tree

end VisitTree

/-- The alternative of a branch is that of a member: the plain shape of a member of the branch's own
union, or a variant of a subtree. -/
structure Branch.AlternativeOf (b : Branch VisitTree) (v : Variant) (m : Member) : Prop where
  name : v.member = m.name
  typeName : m.tree.built.shape.typeName = m.name
  reached : (∃ index name, b.child? (some index) = some (name, m.tree) ∧ m.route = [] ∧
      v.shape = m.tree.built.shape) ∨
    ∃ index name child, b.child? index = some (name, child) ∧
      child.Leads m.route v.shape m.tree

/-- The statement about one tree: variants and members correspond in order. -/
def VisitTree.Complete (t : VisitTree) : Prop :=
  List.Forall₂ t.VariantOf t.built.variants t.members

section Branches

variable {b : Branch VisitTree}

/-- The alternatives of a union field: each member, then what is below it. -/
theorem alternatives_union {info : FieldInfo} {all : List (String × VisitTree)}
    (hb : b = .union info all) (hcomplete : ∀ m ∈ all, m.2.Complete)
    (hnamed : ∀ m ∈ all, m.2.built.shape.typeName = m.1) :
    ∀ members : List (String × VisitTree), members ⊆ all →
      List.Forall₂ b.AlternativeOf
        (members.flatMap fun m => Slot.memberAlternatives info m.1 m.2.built)
        (VisitTree.membersOfUnion members) := by
  intro members
  induction members with
  | nil => exact fun _ => .nil
  | cons m rest ih =>
    intro hsubset
    obtain ⟨name, child⟩ := m
    have hmem : (name, child) ∈ all := hsubset (by simp)
    obtain ⟨index, hindex⟩ : ∃ index, b.child? (some index) = some (some name, child) := by
      rw [hb]
      exact Branch.child?_union info hmem
    rw [List.flatMap_cons, VisitTree.membersOfUnion, Slot.memberAlternatives, List.cons_append,
      List.cons_append]
    refine .cons ⟨rfl, hnamed _ hmem, Or.inl ⟨index, _, hindex, rfl, rfl⟩⟩ ?_
    refine List.rel_append ?_ (ih fun x hx => hsubset (by simp [hx]))
    rw [List.forall₂_map_left_iff]
    refine (hcomplete _ hmem).imp ?_
    rintro v m ⟨hname, htype, hleads⟩
    exact ⟨hname, htype, Or.inr ⟨_, _, child, hindex, hleads⟩⟩

/-- The alternatives of a field are those of the members below it. -/
theorem alternatives_branch
    (hcomplete : ∀ index name child, b.child? index = some (name, child) → child.Complete)
    (hnamed : ∀ index name child, b.child? index = some (some name, child) →
      child.built.shape.typeName = name) :
    List.Forall₂ b.AlternativeOf b.slot.alternatives (VisitTree.membersOfBranch b) := by
  cases b with
  | plain field value => exact .nil
  | object info child =>
    rw [VisitTree.membersOfBranch, Branch.slot, Slot.ofObject,
      List.forall₂_map_left_iff]
    refine (hcomplete none none child rfl).imp ?_
    rintro v m ⟨hname, htype, hleads⟩
    exact ⟨hname, htype, Or.inr ⟨none, none, child, rfl, hleads⟩⟩
  | union info members =>
    rw [VisitTree.membersOfBranch, Branch.slot, Slot.ofUnion, List.flatMap_map]
    refine alternatives_union rfl ?_ ?_ members (List.Subset.refl _)
    · intro m hm
      obtain ⟨index, hindex⟩ := Branch.child?_union info hm
      exact hcomplete _ _ _ hindex
    · intro m hm
      obtain ⟨index, hindex⟩ := Branch.child?_union info hm
      exact hnamed _ _ _ hindex

end Branches

/-- An alternative at a position is that of a member whose route starts there. -/
def PlacedOf (branches : List (Branch VisitTree)) (placed : Nat × Variant) (m : Member) : Prop :=
  ∃ b below, branches[placed.1]? = some b ∧ b.AlternativeOf placed.2 below ∧
    m = Member.below placed.1 below

/-- The alternatives of all fields, those from position `start` on. -/
theorem placed_branches {all : List (Branch VisitTree)}
    (hall : ∀ b ∈ all, List.Forall₂ b.AlternativeOf b.slot.alternatives
      (VisitTree.membersOfBranch b)) :
    ∀ (branches : List (Branch VisitTree)) (start : Nat),
      (∀ i, branches[i]? = all[start + i]?) →
      List.Forall₂ (PlacedOf all)
        (((branches.map Branch.slot).zipIdx start).flatMap fun (slot, position) =>
          slot.alternatives.map fun v => (position, v))
        (VisitTree.membersOfBranches start branches) := by
  intro branches
  induction branches with
  | nil => exact fun _ _ => .nil
  | cons b rest ih =>
    intro start hposition
    have hb : all[start]? = some b := by simpa using (hposition 0).symm
    rw [List.map_cons, List.zipIdx_cons, List.flatMap_cons, VisitTree.membersOfBranches]
    refine List.rel_append ?_ (ih (start + 1) fun i => ?_)
    · rw [List.forall₂_map_left_iff, List.forall₂_map_right_iff]
      refine (hall b (List.mem_of_getElem? hb)).imp ?_
      intro v m h
      exact ⟨b, m, hb, h, rfl⟩
    · have hnext : start + 1 + i = start + (i + 1) := by omega
      rw [hnext, ← hposition (i + 1), List.getElem?_cons_succ]

theorem forall₂_mapIdx {α β γ : Type} {R : α → γ → Prop} {S : β → γ → Prop} {xs : List α}
    {ys : List γ} (h : List.Forall₂ R xs ys) (f : Nat → α → β)
    (hf : ∀ i x y, R x y → S (f i x) y) : List.Forall₂ S (xs.mapIdx f) ys := by
  induction h generalizing f with
  | nil => exact .nil
  | cons hfirst _ ih =>
    rw [List.mapIdx_cons]
    exact .cons (hf 0 _ _ hfirst) (ih _ fun i => hf (i + 1))

/-- Fixing a slot changes the content of its field. -/
theorem Slot.fields_fixedAt (slots : List Slot) (position : Nat) (v : Variant) :
    (fixedAt slots position v).map Slot.field =
      (slots.map Slot.field).modify position fun f => { f with content := .shape v.shape } := by
  refine List.ext_getElem? fun i => ?_
  rw [fixedAt, List.getElem?_map, List.getElem?_modify, List.getElem?_modify, List.getElem?_map]
  cases slots[i]? with
  | none => rfl
  | some slot =>
    simp only [Option.map_some]
    split <;> rfl

/-- Fixing a slot of a node gives a shape that fixes the field of the slot. -/
theorem Frame.fixes_variant (frame : Frame) (number : Nat → Nat)
    (branches : List (Branch VisitTree)) (onePath : Bool) (id : Nat) (placed : Nat × Variant) :
    (VisitTree.node (frame.built number (branches.map Branch.slot)) branches).Fixes placed.1
      (frame.variant (branches.map Branch.slot) onePath id placed).shape placed.2.shape :=
  ⟨rfl, rfl, rfl, Slot.fields_fixedAt _ placed.1 placed.2⟩

/-- Every tree that is on record has one variant for each member of each union in it. -/
theorem Grown.complete {root : Nat} {w : World} {address : Address} {member : Option Nat}
    {t : VisitTree} (h : Grown root w address member t) : t.Complete := by
  induction h with
  | @node address member typeName number built branches shaped _ _ _ named _ ih =>
    subst shaped
    have hall : ∀ b ∈ branches, List.Forall₂ b.AlternativeOf b.slot.alternatives
        (VisitTree.membersOfBranch b) := by
      intro b hb
      exact alternatives_branch (ih b hb) (named b hb)
    have hplaced := placed_branches hall branches 0 (by simp)
    refine forall₂_mapIdx hplaced _ ?_
    rintro i placed _ ⟨b, below, hb, halternative, rfl⟩
    refine ⟨halternative.name, halternative.typeName, ?_⟩
    have hfixes := (address.frame typeName).fixes_variant number branches
      (Shaper.haveOnePath (Slot.placedAlternatives (branches.map Branch.slot))) (number (i + 1))
      placed
    rcases halternative.reached with ⟨index, name, hchild, hroute, hshape⟩ |
      ⟨index, name, child, hchild, hleads⟩
    · have hroute' : (Member.below placed.1 below).route = [placed.1] := by
        rw [Member.below, hroute]
      rw [hroute']
      exact .stop hb hchild (hshape ▸ hfixes)
    · exact .onward hb hchild hfixes hleads

/-- The visit of a root, in whatever state it starts, writes out a tree that is its draft, and has
one variant for each member of each union in the tree, in the same order; the fixed fields of a
variant lead to the shape of its member. A visit fails only where its draft does. -/
theorem variants_match_members (shaper : Shaper) (owner : TypeDef) (table : FragmentTable)
    (limit : Nat) (selections : List Selection) (name : ShapeName) (base : String)
    (state : BuildState) :
    let resolved := (Selection.resolve table limit selections).value
    let drafted := shaper.draft shaper.maxDepth (.ofRoot owner resolved name base)
    match ((shaper.visitRoot owner resolved name base).run.run state).1 with
    | .ok built => ∃ t : VisitTree, t.built = built ∧ drafted = .ok t.unnumbered ∧
        List.Forall₂ t.VariantOf built.variants t.members
    | .error fault => drafted = .error fault := by
  intro resolved drafted
  have hresolved : Selection.Unmarked resolved := Selection.unmarked_resolve table limit selections
  have hvisit : Matches shaper none .empty (Visited 0 (.ofRoot owner resolved name base) none)
      ((shaper.visitRoot owner resolved name base).run.run state) drafted :=
    Follows.visitRoot 0 hresolved state (fits_empty shaper state)
  generalize (shaper.visitRoot owner resolved name base).run.run state = outcome at hvisit ⊢
  generalize drafted = drafted at hvisit ⊢
  match outcome, drafted with
  | (.ok built, after), .ok draft =>
    obtain ⟨w, -, -, ⟨t, rfl, rfl, hgrown⟩, -⟩ := hvisit
    exact ⟨t, rfl, rfl, hgrown.complete⟩
  | (.error fault, after), .error fault' => exact congrArg Except.error hvisit.symm
  | (.ok _, _), .error _ => exact hvisit.elim
  | (.error _, _), .ok _ => exact hvisit.elim

end OperationSamples
