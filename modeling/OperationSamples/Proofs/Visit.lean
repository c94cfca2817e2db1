import OperationSamples.Proofs.World

/-!
A visit does what its draft says.

`Shaper.visit` numbers shapes, marks sets and takes again what it built before; `Shaper.draft` does
none of that. The main result is that the two agree: a visit fails where its draft fails, and what
it builds is a tree that is the draft when identities are left aside. Its shapes are on record for
the places where they stand in the tree.

Taking a shape again is sound because it was built under the same name for a set with the same mark.
The mark decides the set and the response keys that lead to it, hence the depth and the levels that
remain.
-/

namespace OperationSamples

variable {shaper : Shaper} {root : Nat} {w : World}

/-- A place for a shape stands where a spot says, in a world that knows its marks. -/
structure Stands (shaper : Shaper) (w : World) (site : Site) (spot : Spot) (member : Option Nat) :
    Prop where
  owner : site.owner = spot.owner
  selections : site.set.selections.map Selection.unmarked = spot.selections
  name : site.name = spot.name
  stem : (ShapeName.below site.base site.relative).qualified = spot.stem
  full : site.full = pathText spot.keys
  depth : site.depth = spot.keys.length
  onFile : site.set.OnFile w.files spot.keys member
  /-- Below the root, shapes are named by their stem and have types of the schema. -/
  inner : spot.keys ≠ [] → spot.name = .of spot.stem ∧ shaper.schema.Finds spot.owner

/-- What a visit of a spot ends with: a tree that is on record, and is the draft without identities.
The shape of an object type stands for that type. -/
def Visited (root : Nat) (spot : Spot) (member : Option Nat) (w : World) (built : Built)
    (draft : VisitTree) : Prop :=
  (∃ t : VisitTree, t.built = built ∧ t.unnumbered = draft ∧ Grown root w spot.toAddress member t) ∧
    (spot.owner.isObject = true → built.shape.typeName = spot.owner.name)

/-- Building shapes at a depth follows drafting them, wherever one of them is possible. -/
def Descends (shaper : Shaper) (root depth : Nat) :
    Option Shaper.Visit → Option Shaper.Draft → Prop
  | none, none => True
  | some visit, some draft => ∀ w site spot member, Stands shaper w site spot member →
    spot.keys.length = depth →
      Follows shaper (some root) w (visit site) (draft spot) (Visited root spot member)
  | _, _ => False

/-! ### Places below a place -/

namespace Stands

variable {site : Site} {spot : Spot} {member : Option Nat}

theorem mono {newer : World} (h : Stands shaper w site spot member) (hle : w.Within newer) :
    Stands shaper newer site spot member :=
  { h with onFile := h.onFile.mono hle.files }

theorem below_stem (h : Stands shaper w site spot member) (key : String) :
    ShapeName.below site.base (site.relativeTo key) = .of (spot.stem ++ ShapeName.spelled key) := by
  rw [Site.relativeTo, ShapeName.below_joinPath, h.stem]

theorem fullTo_eq (h : Stands shaper w site spot member) (key : String) :
    site.fullTo key = pathText (spot.keys ++ [key]) := by
  rw [Site.fullTo, h.full, pathText_snoc]

/-- The object that a field selects. -/
theorem ofField (h : Stands shaper w site spot member) {info : FieldInfo} {set : SelectionSet}
    (hset : set.OnFile w.files (spot.keys ++ [info.responseKey]) none)
    (htype : shaper.schema.Finds info.namedType) :
    Stands shaper w (site.ofField info set)
      (spot.led info.responseKey none info.namedType (set.selections.map Selection.unmarked))
      none where
  owner := rfl
  selections := rfl
  name := h.below_stem info.responseKey
  stem := by rw [Site.ofField, h.below_stem]; rfl
  full := h.fullTo_eq info.responseKey
  depth := by simp [Site.ofField, Spot.led, Address.led, h.depth]
  onFile := hset
  inner := fun _ => ⟨rfl, htype⟩

/-- A member of the union that a field selects. -/
theorem ofMember (h : Stands shaper w site spot member) {info : FieldInfo} {type : TypeDef}
    {set : SelectionSet} {position : Nat}
    (hset : set.OnFile w.files (spot.keys ++ [info.responseKey]) (some position))
    (htype : shaper.schema.Finds type) :
    Stands shaper w (site.ofMember info type set)
      (spot.led info.responseKey (some type.name) type (set.selections.map Selection.unmarked))
      (some position) where
  owner := rfl
  selections := rfl
  name := by simp only [Site.ofMember, h.below_stem]; rfl
  stem := by
    simp only [Site.ofMember, h.below_stem, ShapeName.below_eq, ShapeName.spelled_empty,
      String.append_empty]
    rfl
  full := h.fullTo_eq info.responseKey
  depth := by simp [Site.ofMember, Spot.led, Address.led, h.depth]
  onFile := hset
  inner := fun _ => ⟨rfl, htype⟩

/-- Below the root, the name that a shape is remembered by says what it and the shapes below it are
called. -/
theorem address_key (h : Stands shaper w site spot member) (hkeys : spot.keys ≠ []) :
    (⟨.of site.key.name, site.key.name, spot.keys⟩ : Address) = spot.toAddress := by
  obtain ⟨hname, -⟩ := h.inner hkeys
  have hqualified : site.key.name = spot.stem := by
    rw [Site.key, h.name, hname]
    rfl
  rw [hqualified, ← hname]

end Stands

/-! ### Fields -/

/-- Whether the subtrees of a branch are on record, below the address of its shape. -/
def Branch.Grown (root : Nat) (w : World) (address : Address) (b : Branch VisitTree) : Prop :=
  ∀ position name child, b.child? position = some (name, child) →
    OperationSamples.Grown root w (address.led b.key name) position child ∧
      ∀ member, name = some member → child.built.shape.typeName = member

theorem Branch.Grown.mono {newer : World} {address : Address} {b : Branch VisitTree}
    (h : b.Grown root w address) (hle : w.Within newer) : b.Grown root newer address := by
  intro position name child hchild
  obtain ⟨hgrown, htype⟩ := h position name child hchild
  exact ⟨hgrown.mono hle, htype⟩

theorem Branch.grown_plain (address : Address) (field : Field Empty) (value : Json) :
    (Branch.plain field value).Grown root w address := by
  intro position name child hchild
  cases position <;> cases hchild

/-- Whether the marks in what a field selects are on record, and there is one for its own set. -/
def FieldInfo.OnFile (files : Files) (keys : List String) (info : FieldInfo) : Prop :=
  ∀ set, info.set = some set → set.OnFile files (keys ++ [info.responseKey]) none

/-- What a field to be built has: marks and a type of the schema. -/
structure FieldInfo.Ready (shaper : Shaper) (w : World) (keys : List String) (info : FieldInfo) :
    Prop where
  onFile : info.OnFile w.files keys
  type : shaper.schema.Finds info.namedType

theorem FieldInfo.Ready.mono {newer : World} {keys : List String} {info : FieldInfo}
    (h : info.Ready shaper w keys) (hle : w.Within newer) : info.Ready shaper newer keys :=
  ⟨fun set hset => (h.onFile set hset).mono hle.files, h.type⟩

/-- What building a field ends with: the slot of a branch that is on record. -/
def SlotBuilt (root : Nat) (address : Address) (info : FieldInfo) (w : World) (slot : Slot)
    (draft : Branch VisitTree) : Prop :=
  ∃ b : Branch VisitTree, b.slot = slot ∧ b.map VisitTree.unnumbered = draft ∧
    b.key = info.responseKey ∧ b.Grown root w address

namespace Follows

variable {site : Site} {spot : Spot} {member : Option Nat} {info : FieldInfo}

theorem minimalSlot (address : Address) :
    Follows shaper (some root) w (pure (shaper.minimalSlot info))
      (.ok (shaper.draftMinimal info.unmarked))
      (SlotBuilt root address info) :=
  Follows.pure ⟨shaper.draftMinimal info, rfl, rfl, rfl, Branch.grown_plain address _ _⟩

/-- The slot of an enum field is that of the branch with the first value. -/
theorem slot_ofEnum (info : FieldInfo) (values : List String) :
    (Branch.ofLeaf info (.enum values) ((values.head?.map Json.str).getD .null)).slot =
      Slot.ofEnum info values := by
  cases values <;> rfl

theorem leafSlot (h : Stands shaper w site spot member) :
    Follows shaper (some root) w (shaper.leafSlot site info) (shaper.draftLeaf spot info.unmarked)
      (SlotBuilt root spot.toAddress info) := by
  unfold Shaper.leafSlot Shaper.draftLeaf
  by_cases henum : info.kind = .enum
  · rw [if_pos henum, if_pos (show info.unmarked.kind = .enum from henum)]
    exact Follows.pure ⟨_, slot_ofEnum info _, rfl, rfl, Branch.grown_plain _ _ _⟩
  · rw [if_neg henum, if_neg (show info.unmarked.kind ≠ .enum from henum), h.owner, h.name]
    refine Follows.bind (ofSample _) ?_
    rintro _ value _ - - ⟨rfl, rfl⟩
    exact Follows.pure ⟨.ofLeaf info (.scalar (some (scalarType info.namedType.name))) value, rfl,
      rfl, rfl, Branch.grown_plain _ _ _⟩

/-- The members of a union are built one after the other, each for its position. -/
theorem visitMembers {visit : Shaper.Visit} {draft : Shaper.Draft}
    (hbelow : Descends shaper root (spot.keys.length + 1) (some visit) (some draft))
    (ms : List MemberSelection) (start : Nat) (h : Stands shaper w site spot member)
    (hms : ∀ m ∈ ms, Selection.AllFiled w.files (spot.keys ++ [info.responseKey]) m.selections ∧
      shaper.schema.Finds m.member ∧ m.member.isObject = true) :
    Follows shaper (some root) w (Shaper.visitMembers visit site info ms)
      (Shaper.draftMembers draft spot info.unmarked (ms.map MemberSelection.unmarked))
      fun w' built drafts => ∃ trees : List (String × VisitTree),
        trees.map (fun m => (m.1, m.2.built)) = built ∧
        trees.map (fun m => (m.1, m.2.unnumbered)) = drafts ∧
        ∀ position name child, trees[position]? = some (name, child) →
          Grown root w' (spot.toAddress.led info.responseKey (some name)) (some (start + position))
            child ∧ child.built.shape.typeName = name := by
  induction ms generalizing w start with
  | nil => exact Follows.pure ⟨[], rfl, rfl, by simp⟩
  | cons m rest ih =>
    obtain ⟨hfiled, htype, hobject⟩ := hms m (by simp)
    rw [Shaper.visitMembers, List.map_cons, Shaper.draftMembers]
    have hown : (SelectionSet.mk none m.selections).Filed w.files (spot.keys ++ [info.responseKey])
        (some start) := ⟨hfiled, by simp⟩
    refine Follows.step (marked hown) ?_
    rintro w₁ set hw₁ ⟨hset, hsame⟩
    have hselections : set.selections.map Selection.unmarked = m.unmarked.selections :=
      congrArg SelectionSet.selections hsame
    have hstands := (h.mono hw₁).ofMember hset htype
    rw [hselections] at hstands
    refine Follows.bind (hbelow w₁ _ _ _ hstands (by simp [Spot.led, Address.led])) ?_
    rintro w₂ built _ hw₂ - ⟨⟨tree, rfl, rfl, hgrown⟩, hname⟩
    have hw := hw₁.trans hw₂
    refine Follows.bind (ih (start + 1) (h.mono hw) fun x hx => ?_) ?_
    · obtain ⟨hx', hfound⟩ := hms x (by simp [hx])
      exact ⟨Selection.AllFiled.mono hw.files _ _ hx', hfound⟩
    rintro w₃ _ _ hw₃ - ⟨trees, rfl, rfl, htrees⟩
    refine Follows.pure ⟨(m.member.name, tree) :: trees, rfl, rfl, ?_⟩
    intro position name child hchild
    cases position with
    | zero =>
      cases hchild
      exact ⟨hgrown.mono hw₃, hname hobject⟩
    | succ position =>
      have hposition : start + 1 + position = start + (position + 1) := by omega
      have htree := htrees position name child (by simpa using hchild)
      rw [hposition] at htree
      exact htree

theorem unionSlot {visit : Shaper.Visit} {draft : Shaper.Draft}
    (hbelow : Descends shaper root (spot.keys.length + 1) (some visit) (some draft))
    (h : Stands shaper w site spot member) (hinfo : info.Ready shaper w spot.keys) :
    Follows shaper (some root) w (shaper.unionSlot visit site info)
      (shaper.draftUnion draft spot info.unmarked) (SlotBuilt root spot.toAddress info) := by
  have hfiled : info.Filed w.files spot.keys := fun set hset => (hinfo.onFile set hset).filed
  unfold Shaper.unionSlot Shaper.draftUnion
  refine logged ?_
  simp only [MemberSelection.expand_unmarked]
  have hmembers := MemberSelection.filed_expand shaper.schema hfiled
  generalize (MemberSelection.expand shaper.schema info).value = members at hmembers
  by_cases hempty : members.isEmpty = true
  · rw [if_pos hempty, if_pos (by simpa using hempty)]
    refine Follows.step (note _) ?_
    rintro _ _ - rfl
    exact minimalSlot spot.toAddress
  · rw [if_neg hempty, if_neg (by simpa using hempty)]
    refine Follows.bind (visitMembers hbelow members 0 h hmembers) ?_
    rintro w₁ _ _ - - ⟨trees, rfl, rfl, htrees⟩
    refine Follows.pure ⟨.union info.unmarked trees, rfl, rfl, rfl, ?_⟩
    intro position name child hchild
    cases position with
    | none => cases hchild
    | some position =>
      obtain ⟨⟨type, tree⟩, htree, hpair⟩ := Option.map_eq_some_iff.1 hchild
      cases hpair
      obtain ⟨hgrown, htype⟩ := htrees position type tree htree
      rw [Nat.zero_add] at hgrown
      exact ⟨hgrown, by rintro _ ⟨⟩; exact htype⟩

theorem slotOf {below : Option Shaper.Visit} {drafts : Option Shaper.Draft}
    (hbelow : Descends shaper root (spot.keys.length + 1) below drafts)
    (h : Stands shaper w site spot member) (hinfo : info.Ready shaper w spot.keys) :
    Follows shaper (some root) w (shaper.slotOf below site info)
      (shaper.draftBranch drafts spot info.unmarked) (SlotBuilt root spot.toAddress info) := by
  unfold Shaper.slotOf Shaper.draftBranch
  have hcategory : info.unmarked.category = info.category := rfl
  have hset : info.unmarked.set = info.set.map SelectionSet.unmarked := rfl
  rw [hcategory, hset]
  match hcase : info.category, below, drafts, hbelow with
  | .leaf, _, _, _ => exact leafSlot h
  | .minimal, _, _, _ => exact minimalSlot spot.toAddress
  | .union, none, none, _ => exact minimalSlot spot.toAddress
  | .object, none, none, _ => exact minimalSlot spot.toAddress
  | .union, some visit, some draft, hbelow => exact unionSlot hbelow h hinfo
  | .object, some visit, some draft, hbelow =>
    cases hown : info.set with
    | none => exact minimalSlot spot.toAddress
    | some set =>
      have hstands := h.ofField (hinfo.onFile set hown) hinfo.type
      refine Follows.bind (hbelow w _ _ _ hstands (by simp [Spot.led, Address.led])) ?_
      rintro w₁ _ _ - - ⟨⟨tree, rfl, rfl, hgrown⟩, -⟩
      refine Follows.pure ⟨.object info.unmarked tree, rfl, rfl, rfl, ?_⟩
      intro position name child hchild
      cases position with
      | none =>
        cases hchild
        exact ⟨hgrown, by simp⟩
      | some position => cases hchild

/-- The fields are built one after the other. -/
theorem slotsOf {below : Option Shaper.Visit} {drafts : Option Shaper.Draft}
    (hbelow : Descends shaper root (spot.keys.length + 1) below drafts) (infos : List FieldInfo)
    (h : Stands shaper w site spot member)
    (hinfos : ∀ info ∈ infos, info.Ready shaper w spot.keys) :
    Follows shaper (some root) w (shaper.slotsOf below site infos)
      (shaper.draftBranches drafts spot (infos.map FieldInfo.unmarked))
      fun w' slots draft => ∃ branches : List (Branch VisitTree),
        branches.map Branch.slot = slots ∧
        branches.map (Branch.map VisitTree.unnumbered) = draft ∧
        branches.map Branch.key = infos.map FieldInfo.responseKey ∧
        ∀ b ∈ branches, b.Grown root w' spot.toAddress := by
  induction infos generalizing w with
  | nil => exact Follows.pure ⟨[], rfl, rfl, rfl, by simp⟩
  | cons info rest ih =>
    refine Follows.bind (slotOf hbelow h (hinfos info (by simp))) ?_
    rintro w₁ _ _ hw₁ - ⟨b, rfl, rfl, hkey, hb⟩
    refine Follows.bind (ih (h.mono hw₁) fun x hx => (hinfos x (by simp [hx])).mono hw₁) ?_
    rintro w₂ _ _ hw₂ - ⟨branches, rfl, rfl, hkeys, hbranches⟩
    refine Follows.pure ⟨b :: branches, rfl, rfl, by simp [hkey, hkeys], ?_⟩
    intro x hx
    rcases List.mem_cons.1 hx with rfl | hx
    · exact hb.mono hw₂
    · exact hbranches x hx

/-- Marking the fields of an analysis makes them ready and changes nothing else. -/
theorem markedFields {keys : List String} (infos : List FieldInfo)
    (hinfos : ∀ info ∈ infos, info.Filed w.files keys ∧ shaper.schema.Finds info.namedType) :
    Follows shaper (some root) w (infos.mapM Build.markedField) (.ok ()) fun w' ready _ =>
      ready.map FieldInfo.unmarked = infos.map FieldInfo.unmarked ∧
      ∀ info ∈ ready, info.Ready shaper w' keys := by
  induction infos generalizing w with
  | nil => exact Follows.pure ⟨rfl, by simp⟩
  | cons info rest ih =>
    obtain ⟨hfiled, htype⟩ := hinfos info (by simp)
    have hfirst : Follows shaper (some root) w (Build.markedField info) (.ok ()) fun w' ready _ =>
        ready.unmarked = info.unmarked ∧ ready.Ready shaper w' keys := by
      unfold Build.markedField
      cases hset : info.set with
      | none => exact Follows.pure ⟨rfl, by simp [FieldInfo.OnFile, hset], htype⟩
      | some set =>
        refine Follows.step (marked (hfiled set hset)) ?_
        rintro w₁ set' - ⟨honFile, hsame⟩
        refine Follows.pure ⟨by simp [FieldInfo.unmarked, hset, hsame], ?_, htype⟩
        intro x hx
        cases hx
        exact honFile
    rw [List.mapM_cons]
    refine Follows.step hfirst ?_
    rintro w₁ ready hw₁ ⟨hsame, hready⟩
    refine Follows.step (ih fun x hx => ?_) ?_
    · obtain ⟨hx', hfound⟩ := hinfos x (by simp [hx])
      exact ⟨fun set hset => (hx' set hset).mono hw₁.files, hfound⟩
    rintro w₂ others hw₂ ⟨hsames, hothers⟩
    refine Follows.pure ⟨by simp [hsame, hsames], ?_⟩
    intro x hx
    rcases List.mem_cons.1 hx with rfl | hx
    · exact hready.mono hw₂
    · exact hothers x hx

end Follows

/-! ### Shapes and their variants -/

theorem Grown.has_shape {address : Address} {member : Option Nat} {t : VisitTree}
    (h : Grown root w address member t) :
    w.Has t.built.shape (.plain root address.keys member) := by
  cases h with
  | node _ plain => exact plain

theorem Grown.has_variant_at {address : Address} {member : Option Nat} {t : VisitTree}
    (h : Grown root w address member t) {i : Nat} {v : Variant}
    (hv : t.built.variants[i]? = some v) : w.Has v.shape (.variant t.built.shape.id i) := by
  cases h with
  | node _ _ variants => exact variants i v hv

theorem Grown.has_variant {address : Address} {member : Option Nat} {t : VisitTree}
    (h : Grown root w address member t) {v : Variant} (hv : v ∈ t.built.variants) :
    ∃ o, w.Has v.shape o := by
  obtain ⟨i, hi⟩ := List.mem_iff_getElem?.1 hv
  exact ⟨_, h.has_variant_at hi⟩

theorem Branch.Grown.has_target {address : Address} {b : Branch VisitTree}
    (h : b.Grown root w address) {s : Shape} (hs : s ∈ b.slot.dependencies) :
    ∃ o, w.Has s o := by
  obtain ⟨position, name, child, hchild, rfl⟩ := Branch.mem_dependencies_slot.1 hs
  exact ⟨_, (h position name child hchild).1.has_shape⟩

theorem Branch.Grown.has_alternative {address : Address} {b : Branch VisitTree}
    (h : b.Grown root w address) {v : Variant} (hv : v ∈ b.slot.alternatives) :
    ∃ o, w.Has v.shape o := by
  have hshape : v.shape ∈ b.slot.alternatives.map Variant.shape := List.mem_map_of_mem hv
  obtain ⟨position, name, child, hchild, hs⟩ := Branch.mem_alternatives_slot.1 hshape
  have hgrown := (h position name child hchild).1
  rcases hs with ⟨-, hs⟩ | hs
  · exact ⟨_, hs ▸ hgrown.has_shape⟩
  · obtain ⟨x, hx, hs⟩ := List.mem_map.1 hs
    exact hs ▸ hgrown.has_variant hx

namespace Slot

theorem mem_placedAlternatives {slots : List Slot} {position : Nat} {v : Variant} :
    (position, v) ∈ placedAlternatives slots ↔
      ∃ slot, slots[position]? = some slot ∧ v ∈ slot.alternatives := by
  simp only [placedAlternatives, List.mem_flatMap, List.mem_map, Prod.mk.injEq, Prod.exists,
    List.mem_zipIdx_iff_getElem?]
  constructor
  · rintro ⟨slot, i, hslot, x, hx, rfl, rfl⟩
    exact ⟨slot, hslot, hx⟩
  · rintro ⟨slot, hslot, hv⟩
    exact ⟨slot, position, hslot, v, hv, rfl, rfl⟩

end Slot

namespace Follows

variable {site : Site} {spot : Spot} {member : Option Nat}

/-- The variants of the shape with identity `plain`, from position `start` on. -/
theorem variantsOf {typeName : String} {slots : List Slot} {onePath : Bool} (plain start : Nat)
    (h : Stands shaper w site spot member) (placed : List (Nat × Variant))
    (hslots : ∀ slot ∈ slots, ∀ t ∈ slot.dependencies, ∃ o, w.Has t o)
    (hplaced : ∀ p ∈ placed, ∃ o, w.Has p.2.shape o) :
    Follows shaper (some root) w (Shaper.variantsOf site typeName slots onePath placed) (.ok ())
      fun w' variants _ => ∃ number : Nat → Nat,
        variants = placed.mapIdx (fun i p =>
          (spot.toAddress.frame typeName).variant slots onePath (number i) p) ∧
        ∀ i v, variants[i]? = some v → w'.Has v.shape (.variant plain (start + i)) := by
  induction placed generalizing w start with
  | nil => exact Follows.pure ⟨id, rfl, by simp⟩
  | cons p rest ih =>
    obtain ⟨position, v⟩ := p
    have hname : Shaper.variantName site onePath v =
        (spot.toAddress.frame typeName).variantName onePath v := by
      rw [Shaper.variantName, h.name]
      rfl
    rw [Shaper.variantsOf, hname]
    refine Follows.step (assemble (.variant plain start) ?_) ?_
    · intro slot hslot t ht
      rcases Slot.mem_fixedAt hslot with hold | ⟨before, -, rfl⟩
      · exact hslots slot hold t ht
      · obtain rfl : t = v.shape := List.mem_singleton.1 ht
        exact hplaced (position, v) (by simp)
    rintro w₁ s hw₁ ⟨hhas, id, hs⟩
    refine Follows.step (ih (start + 1) (h.mono hw₁) ?_ ?_) ?_
    · intro slot hslot t ht
      obtain ⟨o, ho⟩ := hslots slot hslot t ht
      exact ⟨o, hw₁.shapes t o ho⟩
    · intro q hq
      obtain ⟨o, ho⟩ := hplaced q (by simp [hq])
      exact ⟨o, hw₁.shapes _ o ho⟩
    rintro w₂ others hw₂ ⟨number, hothers, hvariants⟩
    have hshape : s = (spot.toAddress.frame typeName).shape id
        ((spot.toAddress.frame typeName).variantName onePath v)
        (Slot.fixedAt slots position v) := by
      rw [hs, h.full, h.depth]
      rfl
    refine Follows.pure ⟨fun i => i.casesOn id number, ?_, ?_⟩
    · rw [List.mapIdx_cons, hothers, hshape]
      rfl
    · intro i x hx
      cases i with
      | zero =>
        cases hx
        exact hw₂.shapes _ _ hhas
      | succ i =>
        have hposition : start + 1 + i = start + (i + 1) := by omega
        have hhas' := hvariants i x (by simpa using hx)
        rwa [hposition] at hhas'

/-- The analysis of a place is that of its spot, with marks that are on record. -/
theorem analysis (h : Stands shaper w site spot member) :
    Follows shaper (some root) w
      (Build.ofWalk (Analysis.ofSet shaper.schema shaper.split site.owner (some site.set)))
      ((Analysis.ofSelections shaper.schema shaper.split spot.owner
        spot.selections).result.mapError .analysis)
      fun w' a b => w' = w ∧ b = a.unmarked ∧
        (∀ info ∈ a.fields, info.Filed w.files spot.keys ∧ shaper.schema.Finds info.namedType) ∧
        (a.fields.map FieldInfo.responseKey).Nodup := by
  rw [← h.selections, Analysis.ofSelections_unmarked, h.owner]
  have hswap : ∀ x : Except AnalysisFault Analysis,
      (x.map Analysis.unmarked).mapError BuildFault.analysis =
        (x.mapError BuildFault.analysis).map Analysis.unmarked := by
    intro x
    cases x <;> rfl
  rw [hswap]
  refine ((ofWalk _).map Analysis.unmarked).mono ?_
  rintro w' a _ - ⟨b, hresult, rfl, rfl, rfl⟩
  have hok : (Analysis.ofSelections shaper.schema shaper.split spot.owner
      site.set.selections).result = .ok a := by
    change Except.mapError _ (Analysis.ofSelections shaper.schema shaper.split spot.owner
      site.set.selections).result = _ at hresult
    generalize (Analysis.ofSelections shaper.schema shaper.split spot.owner
      site.set.selections).result = result at hresult
    cases result <;> cases hresult
    rfl
  exact ⟨rfl, rfl, Analysis.filed_ofSelections h.onFile.below hok⟩

/-- An object type is represented by itself. -/
theorem represented_of_object {t : TypeDef} (h : t.isObject = true) (folded : List String) :
    Shaper.represented (shaper.typenames t) folded = t.name := by
  have hconcrete : t.isAbstract = false := by
    unfold TypeDef.isObject at h
    unfold TypeDef.isAbstract TypeDef.isInterface TypeDef.isUnion
    cases hbody : t.body <;> simp_all
  have hnames : shaper.typenames t = [t.name] := by simp [Shaper.typenames, hconcrete]
  unfold Shaper.represented
  rw [hnames]
  cases hfind : folded.find? fun x => [t.name].contains x with
  | none => rfl
  | some x => simpa using List.find?_some hfind

/-- Numbering the shapes of a place once its fields are built. -/
theorem assembled {typeName : String} {branches : List (Branch VisitTree)}
    (h : Stands shaper w site spot member)
    (htype : spot.owner.isObject = true → typeName = spot.owner.name)
    (hgrown : ∀ b ∈ branches, b.Grown root w spot.toAddress)
    (hdistinct : branches.Pairwise Branch.Apart) :
    Follows shaper (some root) w
      (do
        let slots := branches.map Branch.slot
        let shape ← Shaper.assemble site site.name typeName slots
        let alternatives := Slot.placedAlternatives slots
        let variants ← Shaper.variantsOf site typeName slots (Shaper.haveOnePath alternatives)
          alternatives
        return (⟨shape, variants⟩ : Built))
      (.ok (.node ((spot.toAddress.frame typeName).built (fun _ => 0)
        ((branches.map (Branch.map VisitTree.unnumbered)).map Branch.slot))
          (branches.map (Branch.map VisitTree.unnumbered))))
      (Visited root spot member) := by
  have hslots : ∀ slot ∈ branches.map Branch.slot, ∀ t ∈ slot.dependencies,
      ∃ o, w.Has t o := by
    intro slot hslot t ht
    obtain ⟨b, hb, rfl⟩ := List.mem_map.1 hslot
    exact (hgrown b hb).has_target ht
  have hplaced : ∀ p ∈ Slot.placedAlternatives (branches.map Branch.slot),
      ∃ o, w.Has p.2.shape o := by
    rintro ⟨position, v⟩ hp
    obtain ⟨slot, hslot, hv⟩ := Slot.mem_placedAlternatives.1 hp
    obtain ⟨b, hb, rfl⟩ := List.mem_map.1 (List.mem_of_getElem? hslot)
    exact (hgrown b hb).has_alternative hv
  dsimp only
  rw [h.name]
  refine Follows.step (assemble (.plain root spot.keys member) hslots) ?_
  rintro w₁ s hw₁ ⟨hhas, id, hs⟩
  refine Follows.step (variantsOf s.id 0 (h.mono hw₁) _ ?_ ?_) ?_
  · intro slot hslot t ht
    obtain ⟨o, ho⟩ := hslots slot hslot t ht
    exact ⟨o, hw₁.shapes t o ho⟩
  · intro p hp
    obtain ⟨o, ho⟩ := hplaced p hp
    exact ⟨o, hw₁.shapes _ o ho⟩
  rintro w₂ variants hw₂ ⟨number, hvariants, hnumbered⟩
  have hbuilt : (⟨s, variants⟩ : Built) = (spot.toAddress.frame typeName).built
      (fun i => i.casesOn id number) (branches.map Branch.slot) := by
    rw [hvariants, hs, h.full, h.depth]
    rfl
  refine Follows.pure ⟨⟨.node ⟨s, variants⟩ branches, rfl, ?_, ?_⟩, ?_⟩
  · rw [hbuilt, VisitTree.unnumbered_node]
  · refine .node hbuilt (hw₂.shapes _ _ hhas) ?_ hdistinct ?_ ?_
    · intro i v hv
      simpa using hnumbered i v hv
    · intro b hb position name child hchild
      exact (hgrown b hb position _ child hchild).2 name rfl
    · intro b hb position name child hchild
      exact (hgrown b hb position name child hchild).1.mono (hw₁.trans hw₂)
  · intro hobject
    rw [hs]
    exact htype hobject

/-- Building the shape at a place, given how shapes below it are built. -/
theorem construct {below : Option Shaper.Visit} {drafts : Option Shaper.Draft}
    (hbelow : Descends shaper root (spot.keys.length + 1) below drafts)
    (h : Stands shaper w site spot member) :
    Follows shaper (some root) w (shaper.construct below site) (shaper.draftNode drafts spot)
      (Visited root spot member) := by
  unfold Shaper.construct Shaper.draftNode
  refine Follows.step (note _) ?_
  rintro _ _ - rfl
  refine Follows.bind (analysis h) ?_
  rintro w₀ a _ - - ⟨rfl, rfl, hfields, hkeys⟩
  refine Follows.step (markedFields a.fields hfields) ?_
  rintro w₁ infos hw₁ ⟨hsame, hready⟩
  dsimp only [Analysis.unmarked]
  rw [← hsame, h.owner]
  refine Follows.bind (slotsOf hbelow infos (h.mono hw₁) hready) ?_
  rintro w₂ _ _ hw₂ - ⟨branches, rfl, rfl, hbranchKeys, hgrown⟩
  have hnodup : (branches.map Branch.key).Nodup := by
    have hunmarked : infos.map FieldInfo.responseKey = a.fields.map FieldInfo.responseKey := by
      have := congrArg (List.map FieldInfo.responseKey) hsame
      simpa [Function.comp_def, FieldInfo.unmarked] using this
    rw [hbranchKeys, hunmarked]
    exact hkeys
  generalize htypeName : Shaper.represented (shaper.typenames spot.owner) a.folded = typeName
  have hslots : Slot.discriminant (shaper.typenames spot.owner) typeName ::
      branches.map Branch.slot =
      (Shaper.draftTypename (shaper.typenames spot.owner) typeName :: branches).map Branch.slot :=
    rfl
  have hdrafts : Shaper.draftTypename (shaper.typenames spot.owner) typeName ::
      branches.map (Branch.map VisitTree.unnumbered) =
      (Shaper.draftTypename (shaper.typenames spot.owner) typeName :: branches).map
        (Branch.map VisitTree.unnumbered) := rfl
  rw [hslots, hdrafts]
  refine assembled ((h.mono hw₁).mono hw₂) ?_ ?_ ?_
  · intro hobject
    rw [← htypeName]
    exact represented_of_object hobject a.folded
  · intro b hb
    rcases List.mem_cons.1 hb with rfl | hb
    · exact Branch.grown_plain _ _ _
    · exact hgrown b hb
  · have hapart : branches.Pairwise Branch.Apart := by
      refine (List.pairwise_map.1 hnodup).imp ?_
      intro b c hkey _ _
      exact hkey
    refine List.pairwise_cons.2 ⟨?_, hapart⟩
    intro c _ hinner
    cases hinner

/-- What is built below the root can be taken again for its mark. -/
theorem constructed {below : Option Shaper.Visit} {drafts : Option Shaper.Draft}
    (hbelow : Descends shaper root (spot.keys.length + 1) below drafts)
    (hdraft : shaper.draft (shaper.maxDepth - spot.keys.length) = shaper.draftNode drafts)
    (h : Stands shaper w site spot member) :
    Follows shaper (some root) w
      (do
        let built ← shaper.construct below site
        Build.remember site.key site.set.mark built
        return built)
      (shaper.draftNode drafts spot) (Visited root spot member) := by
  have hbind : shaper.draftNode drafts spot = (shaper.draftNode drafts spot >>= Except.ok) := by
    cases shaper.draftNode drafts spot <;> rfl
  rw [hbind]
  refine Follows.bind (construct hbelow h) ?_
  rintro w₁ built _ hw₁ htree ⟨⟨tree, rfl, rfl, hgrown⟩, hname⟩
  have hrecalls : Recalls shaper root w₁ (site.key, site.set.mark, tree.built) := by
    obtain ⟨m, hm, hfile⟩ := h.onFile.own
    refine ⟨m, _, hm, hw₁.files m _ hfile, fun hkeys => ⟨tree, rfl, ?_⟩⟩
    refine ⟨h.address_key hkeys ▸ hgrown, fun owner howner => ?_⟩
    have heq : owner = spot.owner := by
      rw [Site.key, h.owner, (h.inner hkeys).2] at howner
      exact (Option.some.inj howner).symm
    simp only [h.address_key hkeys, heq, h.selections, hdraft]
    exact htree
  refine Follows.step (remember hrecalls) ?_
  rintro _ _ - rfl
  exact Follows.pure ⟨⟨tree, rfl, rfl, hgrown⟩, hname⟩

/-- Also in a draft, the shape of an object type stands for that type. -/
theorem typeName_draftNode {drafts : Option Shaper.Draft} {t : VisitTree}
    (h : shaper.draftNode drafts spot = .ok t) (hobject : spot.owner.isObject = true) :
    t.built.shape.typeName = spot.owner.name := by
  unfold Shaper.draftNode at h
  generalize (Analysis.ofSelections shaper.schema shaper.split spot.owner
    spot.selections).result.mapError BuildFault.analysis = result at h
  cases result with
  | error fault => cases h
  | ok a =>
    change (shaper.draftBranches drafts spot a.fields >>= _) = _ at h
    cases hbranches : shaper.draftBranches drafts spot a.fields with
    | error fault =>
      rw [hbranches] at h
      cases h
    | ok branches =>
      rw [hbranches] at h
      cases h
      exact represented_of_object hobject a.folded

/-- Below the root, a shape that is taken again is the one that would be built. -/
theorem recallOr {below : Option Shaper.Visit} {drafts : Option Shaper.Draft}
    (hbelow : Descends shaper root (spot.keys.length + 1) below drafts)
    (hdraft : shaper.draft (shaper.maxDepth - spot.keys.length) = shaper.draftNode drafts)
    (h : Stands shaper w site spot member) (hkeys : spot.keys ≠ []) :
    Follows shaper (some root) w (shaper.recallOr site (shaper.construct below site))
      (shaper.draftNode drafts spot) (Visited root spot member) := by
  have hconstructed := constructed hbelow hdraft h
  unfold Shaper.recallOr
  dsimp only
  split
  · refine Follows.step (known? _ _) ?_
    rintro _ known - ⟨rfl, hrecalls⟩
    cases known with
    | none => exact hconstructed
    | some built =>
      obtain ⟨m, filing, hm, hfile, hbuilt⟩ := hrecalls built rfl
      -- the mark decides what the set is and where it stands
      obtain ⟨own, hown, hownFile⟩ := h.onFile.own
      obtain rfl : own = m := Option.some.inj (hown.symm.trans hm)
      obtain rfl : ⟨site.set.selections, spot.keys, member⟩ = filing :=
        Option.some.inj (hownFile.symm.trans hfile)
      obtain ⟨tree, rfl, hgrown, htree⟩ := hbuilt hkeys
      have hdrafted : shaper.draftNode drafts spot = .ok tree.unnumbered := by
        have howner := htree spot.owner (by rw [Site.key, h.owner]; exact (h.inner hkeys).2)
        simp only [h.address_key hkeys, h.selections, hdraft] at howner
        exact howner
      rw [hdrafted]
      refine Follows.pure ⟨⟨tree, rfl, rfl, h.address_key hkeys ▸ hgrown⟩, fun hobject => ?_⟩
      simpa [Built.unnumbered] using typeName_draftNode hdrafted hobject
  · rw [pure_bind]
    exact hconstructed

/-- A visit below the root follows the draft with the levels that remain. -/
theorem visit (remaining : Nat) (h : Stands shaper w site spot member) (hkeys : spot.keys ≠ [])
    (hlevels : remaining + spot.keys.length = shaper.maxDepth) :
    Follows shaper (some root) w (shaper.visit remaining site) (shaper.draft remaining spot)
      (Visited root spot member) := by
  induction remaining generalizing w site spot member with
  | zero =>
    have hzero : shaper.maxDepth - spot.keys.length = 0 := by omega
    exact recallOr trivial (by rw [hzero, Shaper.draft]) h hkeys
  | succ remaining ih =>
    have hsucc : shaper.maxDepth - spot.keys.length = remaining + 1 := by omega
    refine recallOr ?_ (by rw [hsucc, Shaper.draft]) h hkeys
    intro w₁ site₁ spot₁ member₁ hstands hdepth
    refine ih hstands ?_ (by omega)
    intro hnil
    simp [hnil] at hdepth

end Follows

/-! ### Roots -/

/-- The spot of a root. -/
def Spot.ofRoot (owner : TypeDef) (selections : List Selection) (name : ShapeName)
    (base : String) : Spot :=
  ⟨⟨name, base, []⟩, owner, selections⟩

/-- When nothing is remembered, a shape is built. -/
theorem Shaper.run_recallOr_of_memo_nil {site : Site} {build : Build Built} {state : BuildState}
    (h : state.memo = []) :
    (shaper.recallOr site build).run.run state =
      (do
        let built ← build
        Build.remember site.key site.set.mark built
        return built : Build Built).run.run state := by
  have hknown : (Build.known? site.key site.set.mark).run.run state = (.ok none, state) := by
    obtain ⟨nextMark, nextId, memo, notices⟩ := state
    obtain rfl : memo = [] := h
    rfl
  unfold Shaper.recallOr
  dsimp only
  split
  · rw [Follows.run_bind, hknown]
  · rw [pure_bind]

/-- The visit of a root follows its draft, whatever was built before. -/
theorem Follows.visitRoot (root : Nat) {owner : TypeDef} {selections : List Selection}
    {name : ShapeName} {base : String} (hselections : Selection.Unmarked selections) :
    Follows shaper none w (shaper.visitRoot owner selections name base)
      (shaper.draft shaper.maxDepth (.ofRoot owner selections name base))
      (Visited root (.ofRoot owner selections name base) none) := by
  intro state hfits
  have hfiled : (SelectionSet.mk none selections).Filed w.files [] none := by
    refine ⟨?_, by simp⟩
    have := Selection.allFiled_unmarkedAll w.files [] selections
    rwa [Selection.unmarkedAll_eq_map, hselections] at this
  obtain ⟨files, hgrows, honFile, hsame⟩ :=
    SelectionSet.exists_onFile_marked hfits.marks hfiled
  have hwithin : w.Within (w.refile files) := World.within_refile (hgrows.within hfits.marks)
  let site : Site :=
    ⟨owner, ((SelectionSet.mk none selections).marked state.nextMark).1, name, base, "", "", 0⟩
  let ready : BuildState :=
    ⟨((SelectionSet.mk none selections).marked state.nextMark).2, state.nextId, [], state.notices⟩
  have hready : Fits shaper (some root) (w.refile files) ready :=
    ⟨hgrows.bounded, hfits.ids, by simp [ready]⟩
  have hstands : Stands shaper (w.refile files) site (.ofRoot owner selections name base) none :=
    { owner := rfl
      selections := (congrArg SelectionSet.selections hsame).trans hselections
      name := rfl
      stem := by
        change (ShapeName.below base "").qualified = base
        rw [ShapeName.below_eq, ShapeName.spelled_empty, String.append_empty]
        rfl
      full := rfl
      depth := rfl
      onFile := honFile
      inner := fun hkeys => absurd rfl hkeys }
  have hvisit : Matches shaper (some root) (w.refile files)
      (Visited root (.ofRoot owner selections name base) none)
      ((shaper.visit shaper.maxDepth site).run.run ready)
      (shaper.draft shaper.maxDepth (.ofRoot owner selections name base)) := by
    cases hmax : shaper.maxDepth with
    | zero =>
      rw [Shaper.visit, Shaper.run_recallOr_of_memo_nil rfl, Shaper.draft]
      have hbelow : Descends shaper root 1 none none := trivial
      exact Follows.constructed hbelow (by rw [hmax]; rfl) hstands ready hready
    | succ remaining =>
      rw [Shaper.visit, Shaper.run_recallOr_of_memo_nil rfl, Shaper.draft]
      refine Follows.constructed ?_ (by rw [hmax]; rfl) hstands ready hready
      intro w₁ site₁ spot₁ member₁ hstands₁ hdepth
      refine Follows.visit remaining hstands₁ ?_ ?_
      · intro hnil
        simp [hnil] at hdepth
      · rw [hdepth, hmax]
        rfl
  exact hvisit.leave.of_within hwithin

end OperationSamples
