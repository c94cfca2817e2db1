import OperationSamples.Proofs.Naming
import OperationSamples.Proofs.References
import OperationSamples.Proofs.Renumbered
import OperationSamples.Proofs.Unmarked

/-!
Visit trees.

A visit builds a shape and its variants from a selection, and below it the shapes of the objects and
union members that the selection leads to. A `VisitTree` is such a visit written out: every node
holds what was built there, every branch one field of it. Nothing is shared in a tree, and a shape
that was taken again stands in it as often as it was visited.

`Shaper.draft` computes the tree of a visit without building anything: no shape is taken again, and
all identities are zero. It is what a visit comes to when identities are left aside, and the
definition that says which shapes there are, what they are called and in which order variants come.
-/

namespace OperationSamples

/-! ### Shapes without identity -/

namespace Shape

mutual

/-- A shape in which all identities, its own and those below, are zero. -/
def unnumbered : Shape → Shape
  | ⟨_, name, typeName, path, depth, fields, value, dependencies⟩ =>
    ⟨0, name, typeName, path, depth, unnumberedFields fields, value, unnumberedAll dependencies⟩

def unnumberedFields : List (Field Shape) → List (Field Shape)
  | [] => []
  | f :: rest => unnumberedField f :: unnumberedFields rest

def unnumberedField : Field Shape → Field Shape
  | ⟨name, isList, isNullable, content⟩ => ⟨name, isList, isNullable, unnumberedContent content⟩

def unnumberedContent : Content Shape → Content Shape
  | .typename literals => .typename literals
  | .scalar type => .scalar type
  | .enum literals => .enum literals
  | .shape target => .shape (unnumbered target)
  | .union members => .union (unnumberedAll members)
  | .minimal literals => .minimal literals

def unnumberedAll : List Shape → List Shape
  | [] => []
  | s :: rest => unnumbered s :: unnumberedAll rest

end

mutual

theorem renumbered_zero : ∀ s : Shape, s.renumbered (fun _ => 0) = s.unnumbered
  | ⟨_, _, _, _, _, fields, _, dependencies⟩ => by
    rw [renumbered, unnumbered, renumberedFields_zero fields, renumberedAll_zero dependencies]

theorem renumberedFields_zero : ∀ fields : List (Field Shape),
    renumberedFields (fun _ => 0) fields = unnumberedFields fields
  | [] => rfl
  | f :: rest => by
    rw [renumberedFields, unnumberedFields, renumberedField_zero f, renumberedFields_zero rest]

theorem renumberedField_zero : ∀ f : Field Shape, renumberedField (fun _ => 0) f = unnumberedField f
  | ⟨_, _, _, content⟩ => by rw [renumberedField, unnumberedField, renumberedContent_zero content]

theorem renumberedContent_zero : ∀ content : Content Shape,
    renumberedContent (fun _ => 0) content = unnumberedContent content
  | .typename _ => rfl
  | .scalar _ => rfl
  | .enum _ => rfl
  | .shape target => by rw [renumberedContent, unnumberedContent, renumbered_zero target]
  | .union members => by rw [renumberedContent, unnumberedContent, renumberedAll_zero members]
  | .minimal _ => rfl

theorem renumberedAll_zero : ∀ shapes : List Shape,
    renumberedAll (fun _ => 0) shapes = unnumberedAll shapes
  | [] => rfl
  | s :: rest => by rw [renumberedAll, unnumberedAll, renumbered_zero s, renumberedAll_zero rest]

end

theorem unnumbered_eq_renumbered : unnumbered = renumbered fun _ => 0 :=
  funext fun s => (renumbered_zero s).symm

theorem unnumbered_eq (s : Shape) :
    s.unnumbered =
      { s with
        id := 0
        fields := s.fields.map (Field.map unnumbered)
        dependencies := s.dependencies.map unnumbered } := by
  rw [unnumbered_eq_renumbered]
  exact renumbered_eq s

@[simp] theorem name_unnumbered (s : Shape) : s.unnumbered.name = s.name := by
  rw [unnumbered_eq]

@[simp] theorem typeName_unnumbered (s : Shape) : s.unnumbered.typeName = s.typeName := by
  rw [unnumbered_eq]

end Shape

def Variant.unnumbered (v : Variant) : Variant := { v with shape := v.shape.unnumbered }

theorem Variant.unnumbered_eq_renumbered : unnumbered = renumbered fun _ => 0 := by
  funext v
  rw [unnumbered, renumbered, Shape.renumbered_zero]

def Built.unnumbered (b : Built) : Built := ⟨b.shape.unnumbered, b.variants.map Variant.unnumbered⟩

theorem Built.unnumbered_eq_renumbered : unnumbered = renumbered fun _ => 0 := by
  funext b
  rw [unnumbered, renumbered, Shape.renumbered_zero, Variant.unnumbered_eq_renumbered]

namespace Slot

def unnumbered (slot : Slot) : Slot where
  field := slot.field.map Shape.unnumbered
  value := slot.value
  dependencies := slot.dependencies.map Shape.unnumbered
  alternatives := slot.alternatives.map Variant.unnumbered

theorem unnumbered_eq_renumbered : unnumbered = renumbered fun _ => 0 := by
  funext slot
  rw [unnumbered, renumbered, Shape.unnumbered_eq_renumbered, Variant.unnumbered_eq_renumbered]

theorem ofObject_unnumbered (info : FieldInfo) (child : Built) :
    ofObject info child.unnumbered = (ofObject info child).unnumbered := by
  rw [unnumbered_eq_renumbered, Built.unnumbered_eq_renumbered]
  exact ofObject_renumbered info child

theorem ofUnion_unnumbered (info : FieldInfo) (members : List (String × Built)) :
    ofUnion info (members.map fun m => (m.1, m.2.unnumbered)) =
      (ofUnion info members).unnumbered := by
  rw [unnumbered_eq_renumbered, Built.unnumbered_eq_renumbered]
  exact ofUnion_renumbered info members

/-- An alternative together with its position, without identities. -/
def placedUnnumbered (placed : Nat × Variant) : Nat × Variant := (placed.1, placed.2.unnumbered)

theorem placedUnnumbered_eq_renumbered : placedUnnumbered = placedRenumbered fun _ => 0 := by
  funext placed
  rw [placedUnnumbered, placedRenumbered, Variant.unnumbered_eq_renumbered]

theorem placedAlternatives_unnumbered (slots : List Slot) :
    placedAlternatives (slots.map unnumbered) =
      (placedAlternatives slots).map placedUnnumbered := by
  rw [unnumbered_eq_renumbered, placedUnnumbered_eq_renumbered]
  exact placedAlternatives_renumbered slots

theorem fixedAt_unnumbered (slots : List Slot) (position : Nat) (alternative : Variant) :
    fixedAt (slots.map unnumbered) position alternative.unnumbered =
      (fixedAt slots position alternative).map unnumbered := by
  rw [unnumbered_eq_renumbered, Variant.unnumbered_eq_renumbered]
  exact fixedAt_renumbered slots position alternative

end Slot

theorem haveOnePath_unnumbered (placed : List (Nat × Variant)) :
    Shaper.haveOnePath (placed.map Slot.placedUnnumbered) = Shaper.haveOnePath placed := by
  rw [Slot.placedUnnumbered_eq_renumbered]
  exact haveOnePath_renumbered placed

/-! ### The shapes of one place -/

/-- What the plain shape of a place and its variants have in common, and the plain shape's name. -/
structure Frame where
  name : ShapeName
  typeName : String
  path : String
  depth : Nat

namespace Frame

/-- A shape of the place. -/
def shape (frame : Frame) (id : Nat) (name : ShapeName) (slots : List Slot) : Shape :=
  .ofSlots id name frame.typeName frame.path frame.depth slots

/-- The name of a variant: the path of the union is told when there are several. -/
def variantName (frame : Frame) (onePath : Bool) (v : Variant) : ShapeName :=
  if onePath then ShapeName.variant frame.name.qualified v.member
  else ShapeName.variantAt frame.name.qualified v.member v.unionPath

/-- The variant with the given identity that fixes an alternative. -/
def variant (frame : Frame) (slots : List Slot) (onePath : Bool) (id : Nat)
    (placed : Nat × Variant) : Variant :=
  { placed.2 with
    shape := frame.shape id (frame.variantName onePath placed.2)
      (Slot.fixedAt slots placed.1 placed.2) }

/-- The plain shape that has the given slots, and its variants. The plain shape has the identity
`number 0`, the variants those that follow. -/
def built (frame : Frame) (number : Nat → Nat) (slots : List Slot) : Built :=
  let placed := Slot.placedAlternatives slots
  ⟨frame.shape (number 0) frame.name slots,
    placed.mapIdx fun i p => frame.variant slots (Shaper.haveOnePath placed) (number (i + 1)) p⟩

theorem shape_unnumbered (frame : Frame) (id : Nat) (name : ShapeName) (slots : List Slot) :
    (frame.shape id name slots).unnumbered =
      frame.shape 0 name (slots.map Slot.unnumbered) := by
  rw [Shape.unnumbered_eq_renumbered, Slot.unnumbered_eq_renumbered]
  exact Shape.ofSlots_renumbered ..

theorem variant_unnumbered (frame : Frame) (slots : List Slot) (onePath : Bool) (id : Nat)
    (placed : Nat × Variant) :
    (frame.variant slots onePath id placed).unnumbered =
      frame.variant (slots.map Slot.unnumbered) onePath 0 (Slot.placedUnnumbered placed) := by
  simp only [variant, Variant.unnumbered, shape_unnumbered, ← Slot.fixedAt_unnumbered]
  rfl

/-- Without identities, it does not matter how the shapes of a place were numbered. -/
theorem built_unnumbered (frame : Frame) (number : Nat → Nat) (slots : List Slot) :
    (frame.built number slots).unnumbered =
      frame.built (fun _ => 0) (slots.map Slot.unnumbered) := by
  simp only [built, Built.unnumbered, shape_unnumbered, Slot.placedAlternatives_unnumbered,
    haveOnePath_unnumbered]
  congr 1
  refine List.ext_getElem? fun i => ?_
  simp [List.getElem?_mapIdx, Function.comp_def, variant_unnumbered]

end Frame

/-! ### Trees -/

/-- What one field of a visited shape leads to. A field that leads nowhere has a plain sample, a
member of a union comes with its name. -/
inductive Branch (α : Type) where
  | plain (field : Field Empty) (value : Json)
  | object (info : FieldInfo) (child : α)
  | union (info : FieldInfo) (members : List (String × α))

/-- A visit written out. -/
inductive VisitTree where
  | node (built : Built) (branches : List (Branch VisitTree))

namespace Branch

variable {α β : Type}

def map (f : α → β) : Branch α → Branch β
  | .plain field value => .plain field value
  | .object info child => .object info (f child)
  | .union info members => .union info (members.map fun m => (m.1, f m.2))

/-- The response key of the field. -/
def key : Branch α → String
  | .plain field _ => field.name
  | .object info _ => info.responseKey
  | .union info _ => info.responseKey

/-- A subtree: that of an object field, or that of the member of a union at the given position,
which has a name. -/
def child? : Branch α → Option Nat → Option (Option String × α)
  | .object _ child, none => some (none, child)
  | .union _ members, some position => members[position]?.map fun m => (some m.1, m.2)
  | _, _ => none

/-- Whether the field leads to further shapes. -/
def isInner : Branch α → Bool
  | .plain _ _ => false
  | _ => true

/-- Whether two fields have different keys, if both lead to further shapes. -/
def Apart (b c : Branch α) : Prop := b.isInner = true → c.isInner = true → b.key ≠ c.key

/-- A field without shapes below it. -/
def ofLeaf (info : FieldInfo) (content : Content Empty) (value : Json) : Branch α :=
  .plain ⟨info.responseKey, info.isList, info.isNullable, content⟩ value

end Branch

namespace VisitTree

def built : VisitTree → Built
  | .node built _ => built

def branches : VisitTree → List (Branch VisitTree)
  | .node _ branches => branches

mutual

/-- A tree of shapes without identity. -/
def unnumbered : VisitTree → VisitTree
  | .node built branches => .node built.unnumbered (unnumberedBranches branches)

def unnumberedBranches : List (Branch VisitTree) → List (Branch VisitTree)
  | [] => []
  | b :: rest => unnumberedBranch b :: unnumberedBranches rest

def unnumberedBranch : Branch VisitTree → Branch VisitTree
  | .plain field value => .plain field value
  | .object info child => .object info (unnumbered child)
  | .union info members => .union info (unnumberedMembers members)

def unnumberedMembers : List (String × VisitTree) → List (String × VisitTree)
  | [] => []
  | (member, child) :: rest => (member, unnumbered child) :: unnumberedMembers rest

end

theorem unnumberedMembers_eq_map (members : List (String × VisitTree)) :
    unnumberedMembers members = members.map fun m => (m.1, unnumbered m.2) := by
  induction members with
  | nil => rfl
  | cons m rest ih => rw [unnumberedMembers, ih, List.map_cons]

theorem unnumberedBranch_eq_map (b : Branch VisitTree) :
    unnumberedBranch b = b.map unnumbered := by
  cases b with
  | plain field value => rfl
  | object info child => rfl
  | union info members => rw [unnumberedBranch, unnumberedMembers_eq_map, Branch.map]

theorem unnumberedBranches_eq_map (branches : List (Branch VisitTree)) :
    unnumberedBranches branches = branches.map (Branch.map unnumbered) := by
  induction branches with
  | nil => rfl
  | cons b rest ih => rw [unnumberedBranches, unnumberedBranch_eq_map, ih, List.map_cons]

theorem unnumbered_eq (t : VisitTree) :
    t.unnumbered = .node t.built.unnumbered (t.branches.map (Branch.map unnumbered)) := by
  obtain ⟨built, branches⟩ := t
  rw [unnumbered, unnumberedBranches_eq_map]
  rfl

@[simp] theorem branches_unnumbered (t : VisitTree) :
    t.unnumbered.branches = t.branches.map (Branch.map unnumbered) := by
  rw [unnumbered_eq, branches]

@[simp] theorem built_unnumbered (t : VisitTree) : t.unnumbered.built = t.built.unnumbered := by
  rw [unnumbered_eq, built]

end VisitTree

/-- The slot of a branch: its field, with what it refers to and the alternatives that it gives. -/
def Branch.slot : Branch VisitTree → Slot
  | .plain field value => ⟨field.map Empty.elim, .listIf field.isList (.ofJson value), [], []⟩
  | .object info child => Slot.ofObject info child.built
  | .union info members => Slot.ofUnion info (members.map fun m => (m.1, m.2.built))

theorem Branch.slot_unnumbered (b : Branch VisitTree) :
    (b.map VisitTree.unnumbered).slot = b.slot.unnumbered := by
  cases b with
  | plain field value =>
    obtain ⟨name, isList, isNullable, content⟩ := field
    cases content with
    | shape target => exact target.elim
    | union members =>
      have hnil : members = [] := List.eq_nil_iff_forall_not_mem.2 fun e => e.elim
      simp [map, slot, Slot.unnumbered, Field.map, Content.map, hnil]
    | _ => rfl
  | object info child =>
    rw [map, slot, slot, VisitTree.built_unnumbered, Slot.ofObject_unnumbered]
  | union info members =>
    simp only [map, slot, ← Slot.ofUnion_unnumbered, List.map_map, Function.comp_def,
      VisitTree.built_unnumbered]

/-! ### What the shapes of a tree refer to -/

namespace Branch

theorem child?_map {α β : Type} (f : α → β) (b : Branch α) (position : Option Nat) :
    (b.map f).child? position = (b.child? position).map fun e => (e.1, f e.2) := by
  cases b <;> cases position <;> simp [map, child?, Function.comp_def]

theorem child?_union {α : Type} (info : FieldInfo) {members : List (String × α)}
    {m : String × α} (h : m ∈ members) :
    ∃ position, (union info members).child? (some position) = some (some m.1, m.2) := by
  obtain ⟨position, hposition⟩ := List.mem_iff_getElem?.1 h
  exact ⟨position, by simp [child?, hposition]⟩

theorem isInner_of_child? {α : Type} {b : Branch α} {position : Option Nat}
    {entry : Option String × α} (h : b.child? position = some entry) : b.isInner = true := by
  cases b with
  | plain field => cases position <;> cases h
  | _ => rfl

/-- A field refers to the plain shapes of its subtrees. -/
theorem mem_dependencies_slot {b : Branch VisitTree} {s : Shape} :
    s ∈ b.slot.dependencies ↔
      ∃ position name child, b.child? position = some (name, child) ∧ s = child.built.shape := by
  cases b with
  | plain field value =>
    constructor
    · intro h
      cases h
    · rintro ⟨position, name, child, hchild, -⟩
      cases isInner_of_child? hchild
  | object info child =>
    constructor
    · intro h
      exact ⟨none, none, child, rfl, List.mem_singleton.1 h⟩
    · rintro ⟨position, name, child', hchild, rfl⟩
      cases position <;> cases hchild
      exact List.mem_singleton_self _
  | union info members =>
    simp only [slot, Slot.ofUnion, List.map_map, List.mem_map]
    constructor
    · rintro ⟨m, hm, rfl⟩
      obtain ⟨position, hposition⟩ := child?_union info hm
      exact ⟨_, _, _, hposition, rfl⟩
    · rintro ⟨position, name, child, hchild, rfl⟩
      cases position with
      | none => cases hchild
      | some position =>
        obtain ⟨m, hm, hpair⟩ := Option.map_eq_some_iff.1 hchild
        cases hpair
        exact ⟨m, List.mem_of_getElem? hm, rfl⟩

/-- The sample and the dependencies of a field stand for what its content refers to. -/
theorem linked_slot (b : Branch VisitTree) : b.slot.Linked := by
  cases b with
  | plain field value =>
    obtain ⟨name, isList, isNullable, content⟩ := field
    cases content with
    | shape target => exact target.elim
    | union members =>
      cases members with
      | nil => exact ⟨⟨_, rfl, value, rfl⟩, rfl⟩
      | cons first rest => exact first.elim
    | _ => exact ⟨⟨_, rfl, value, rfl⟩, rfl⟩
  | object info child => exact Slot.linked_ofObject info child.built
  | union info members => exact Slot.linked_ofUnion info _

/-- A field can be fixed to the variants of its subtrees, and to the plain shapes of the members of
a union. -/
theorem mem_alternatives_slot {b : Branch VisitTree} {s : Shape} :
    s ∈ b.slot.alternatives.map Variant.shape ↔
      ∃ position name child, b.child? position = some (name, child) ∧
        (position.isSome = true ∧ s = child.built.shape ∨
          s ∈ child.built.variants.map Variant.shape) := by
  cases b with
  | plain field value =>
    constructor
    · intro h
      cases h
    · rintro ⟨position, name, child, hchild, -⟩
      cases isInner_of_child? hchild
  | object info child =>
    have hshapes : (slot (.object info child)).alternatives.map Variant.shape =
        child.built.variants.map Variant.shape := by
      simp [slot, Slot.ofObject, Slot.fieldOf, Function.comp_def]
    rw [hshapes]
    constructor
    · intro h
      exact ⟨none, none, child, rfl, Or.inr h⟩
    · rintro ⟨position, name, child', hchild, hs⟩
      cases position <;> cases hchild
      simpa using hs
  | union info members =>
    have hshapes : (slot (.union info members)).alternatives.map Variant.shape =
        members.flatMap fun m => m.2.built.shape :: m.2.built.variants.map Variant.shape := by
      simp [slot, Slot.ofUnion, Slot.fieldOf, Slot.memberAlternatives, List.flatMap_map,
        List.map_flatMap, Function.comp_def]
    rw [hshapes]
    simp only [List.mem_flatMap, List.mem_cons]
    constructor
    · rintro ⟨m, hm, hs⟩
      obtain ⟨position, hposition⟩ := child?_union info hm
      exact ⟨_, _, _, hposition, by simpa using hs⟩
    · rintro ⟨position, name, child, hchild, hs⟩
      cases position with
      | none => cases hchild
      | some position =>
        obtain ⟨m, hm, hpair⟩ := Option.map_eq_some_iff.1 hchild
        cases hpair
        exact ⟨m, List.mem_of_getElem? hm, by simpa using hs⟩

end Branch

/-- A node whose shapes have the slots of its branches keeps them when identities are left aside. -/
theorem VisitTree.unnumbered_node (frame : Frame) (number : Nat → Nat)
    (branches : List (Branch VisitTree)) :
    (node (frame.built number (branches.map Branch.slot)) branches).unnumbered =
      node (frame.built (fun _ => 0) ((branches.map (Branch.map unnumbered)).map Branch.slot))
        (branches.map (Branch.map unnumbered)) := by
  rw [unnumbered_eq, VisitTree.built, VisitTree.branches, Frame.built_unnumbered, List.map_map,
    List.map_map]
  congr 2
  exact List.map_congr_left fun b _ => (Branch.slot_unnumbered b).symm

/-! ### Drafting -/

/-- The text of a path given by its response keys. -/
def pathText (keys : List String) : String :=
  keys.foldl (fun path key => ShapeName.joinPath [path, key]) ""

theorem pathText_snoc (keys : List String) (key : String) :
    pathText (keys ++ [key]) = ShapeName.joinPath [pathText keys, key] := by
  simp [pathText]

/-- The name of the shape that a response key leads to from a shape whose inner names start with
`stem`: the shape of an object, or of the member of a union with the given name. -/
def ShapeName.led (stem key : String) : Option String → ShapeName
  | none => of (stem ++ spelled key)
  | some member => variant (stem ++ spelled key) member

/-- Where a shape stands: its name, what the names of the shapes below it start with, and the
response keys that lead to it from the root. -/
structure Address where
  name : ShapeName
  stem : String
  keys : List String

namespace Address

def frame (address : Address) (typeName : String) : Frame :=
  ⟨address.name, typeName, pathText address.keys, address.keys.length⟩

/-- The address that a response key leads to, for an object or for a member of a union. -/
def led (address : Address) (key : String) (member : Option String) : Address :=
  let name := ShapeName.led address.stem key member
  ⟨name, name.qualified, address.keys ++ [key]⟩

end Address

/-- A place to visit. -/
structure Spot extends Address where
  owner : TypeDef
  selections : List Selection

/-- The spot that a response key leads to. -/
def Spot.led (spot : Spot) (key : String) (member : Option String) (owner : TypeDef)
    (selections : List Selection) : Spot :=
  ⟨spot.toAddress.led key member, owner, selections⟩

namespace Shaper

/-- How the tree at a spot is drafted. -/
abbrev Draft := Spot → Except BuildFault VisitTree

def draftLeaf (shaper : Shaper) (spot : Spot) (info : FieldInfo) :
    Except BuildFault (Branch VisitTree) :=
  if info.kind = .enum then .ok (.ofLeaf info (.enum info.namedType.enumValues)
    ((info.namedType.enumValues.head?.map Json.str).getD .null))
  else do
    let scalar := info.namedType.name
    let place : ScalarPlace :=
      ⟨scalar, spot.owner.name, spot.name.qualified ++ "." ++ info.responseKey⟩
    let value ← (shaper.oracle.sample place).mapError .sample
    return .ofLeaf info (.scalar (some (scalarType scalar))) value

def draftMinimal (shaper : Shaper) (info : FieldInfo) : Branch VisitTree :=
  let names := shaper.typenames info.namedType
  .ofLeaf info (.minimal names) (.obj [(typenameField, .str (names.headD ""))])

def draftMembers (draft : Draft) (spot : Spot) (info : FieldInfo) :
    List MemberSelection → Except BuildFault (List (String × VisitTree))
  | [] => .ok []
  | m :: rest => do
    let tree ← draft (spot.led info.responseKey (some m.member.name) m.member m.selections)
    let others ← draftMembers draft spot info rest
    return (m.member.name, tree) :: others

def draftUnion (shaper : Shaper) (draft : Draft) (spot : Spot) (info : FieldInfo) :
    Except BuildFault (Branch VisitTree) :=
  let members := (MemberSelection.expand shaper.schema info).value
  if members.isEmpty then .ok (shaper.draftMinimal info)
  else do
    let trees ← draftMembers draft spot info members
    return .union info trees

/-- The branch of a field. Without a way to draft trees below, objects are minimal. -/
def draftBranch (shaper : Shaper) (below : Option Draft) (spot : Spot) (info : FieldInfo) :
    Except BuildFault (Branch VisitTree) :=
  match info.category, below, info.set with
  | .leaf, _, _ => shaper.draftLeaf spot info
  | .union, some draft, _ => shaper.draftUnion draft spot info
  | .object, some draft, some set => do
    let child ← draft (spot.led info.responseKey none info.namedType set.selections)
    return .object info child
  | _, _, _ => .ok (shaper.draftMinimal info)

def draftBranches (shaper : Shaper) (below : Option Draft) (spot : Spot) :
    List FieldInfo → Except BuildFault (List (Branch VisitTree))
  | [] => .ok []
  | info :: rest => do
    let branch ← shaper.draftBranch below spot info
    let others ← shaper.draftBranches below spot rest
    return branch :: others

/-- The branch of the discriminant. -/
def draftTypename (names : List String) (typeName : String) : Branch VisitTree :=
  .plain ⟨typenameField, false, false, .typename names⟩ (.str typeName)

/-- The tree at a spot, given how trees below it are drafted. -/
def draftNode (shaper : Shaper) (below : Option Draft) (spot : Spot) :
    Except BuildFault VisitTree := do
  let analysis ← (Analysis.ofSelections shaper.schema shaper.split spot.owner
    spot.selections).result.mapError .analysis
  let names := shaper.typenames spot.owner
  let typeName := represented names analysis.folded
  let others ← shaper.draftBranches below spot analysis.fields
  let branches := draftTypename names typeName :: others
  return .node ((spot.frame typeName).built (fun _ => 0) (branches.map Branch.slot)) branches

/-- The tree at a spot, with `remaining` levels below it. -/
def draft (shaper : Shaper) : Nat → Draft
  | 0 => shaper.draftNode none
  | remaining + 1 => shaper.draftNode (some (shaper.draft remaining))

end Shaper

end OperationSamples
