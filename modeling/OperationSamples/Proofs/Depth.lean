import OperationSamples.Proofs.Completion

/-!
How deep shapes are, and which paths lead to them.

A shape says how deep it is and which path leads to it. Both are given to it by its place, while its
name can start anew at the member of a union. In a tree that is on record they are those of the
address of its node (`Grown.stands`), for plain shapes and variants alike, so a reference leads one
level down, along the key of its field (`Shape.Stationed.target`). A draft has no more levels than it
was given (`Shaper.withinLevels_draft`), which bounds the depth of everything that is built.
-/

namespace OperationSamples

/-! ### Levels of a tree -/

/-- Whether a tree has at most so many levels below its root. -/
def VisitTree.WithinLevels : Nat → VisitTree → Prop
  | 0, t => ∀ b ∈ t.branches, ∀ position, b.child? position = none
  | levels + 1, t => ∀ b ∈ t.branches, ∀ position name child,
    b.child? position = some (name, child) → child.WithinLevels levels

theorem VisitTree.withinLevels_unnumbered {levels : Nat} {t : VisitTree} :
    t.unnumbered.WithinLevels levels ↔ t.WithinLevels levels := by
  induction levels generalizing t with
  | zero =>
    simp only [WithinLevels, branches_unnumbered, List.forall_mem_map, Branch.child?_map,
      Option.map_eq_none_iff]
  | succ levels ih =>
    simp only [WithinLevels, branches_unnumbered, List.forall_mem_map, Branch.child?_map]
    refine forall₂_congr fun b _ => forall_congr' fun position => ?_
    constructor
    · intro h name child hchild
      exact ih.1 (h name child.unnumbered (by rw [hchild]; rfl))
    · intro h name child hchild
      obtain ⟨⟨_, own⟩, hown, hpair⟩ := Option.map_eq_some_iff.1 hchild
      cases hpair
      exact ih.2 (h _ own hown)

theorem exists_of_bind {ε α β : Type} {x : Except ε α} {f : α → Except ε β} {b : β}
    (h : (x >>= f) = .ok b) : ∃ a, x = .ok a ∧ f a = .ok b := by
  cases x with
  | ok a => exact ⟨a, rfl, h⟩
  | error fault => cases h

namespace Shaper

variable {shaper : Shaper} {below : Option Draft} {spot : Spot}

theorem exists_draft_of_mem_members {draft : Draft} {info : FieldInfo}
    {members : List MemberSelection} {trees : List (String × VisitTree)}
    (h : draftMembers draft spot info members = .ok trees) :
    ∀ m ∈ trees, ∃ spot', draft spot' = .ok m.2 := by
  induction members generalizing trees with
  | nil =>
    cases h
    exact List.forall_mem_nil _
  | cons m rest ih =>
    obtain ⟨tree, htree, h⟩ := exists_of_bind h
    obtain ⟨others, hothers, h⟩ := exists_of_bind h
    cases h
    exact List.forall_mem_cons.2 ⟨⟨_, htree⟩, ih hothers⟩

/-- What stands below a branch is drafted like everything below. -/
theorem exists_draft_of_child? {info : FieldInfo} {b : Branch VisitTree}
    (h : shaper.draftBranch below spot info = .ok b) {position : Option Nat}
    {name : Option String} {child : VisitTree} (hchild : b.child? position = some (name, child)) :
    ∃ draft spot', below = some draft ∧ draft spot' = .ok child := by
  have hplain : ∀ field value, (Branch.plain field value : Branch VisitTree) ≠ b := by
    rintro field value rfl
    cases position <;> cases hchild
  have hminimal : Except.ok (shaper.draftMinimal info) ≠ (Except.ok b : Except BuildFault _) :=
    fun heq => hplain _ _ (Except.ok.inj heq)
  unfold draftBranch at h
  split at h
  · unfold draftLeaf at h
    split at h
    · exact absurd (Except.ok.inj h) (hplain _ _)
    · obtain ⟨value, -, h⟩ := exists_of_bind h
      exact absurd (Except.ok.inj h) (hplain _ _)
  · next draft _ =>
    unfold draftUnion at h
    dsimp only at h
    split at h
    · exact absurd h hminimal
    · obtain ⟨trees, htrees, h⟩ := exists_of_bind h
      cases h
      cases position with
      | none => cases hchild
      | some index =>
        obtain ⟨m, hm, hpair⟩ := Option.map_eq_some_iff.1 hchild
        cases hpair
        obtain ⟨spot', hdraft⟩ := exists_draft_of_mem_members htrees m (List.mem_of_getElem? hm)
        exact ⟨draft, spot', rfl, hdraft⟩
  · next draft set _ _ =>
    obtain ⟨own, hown, h⟩ := exists_of_bind h
    cases h
    cases position <;> cases hchild
    exact ⟨draft, _, rfl, hown⟩
  · exact absurd h hminimal

theorem exists_draftBranch_of_mem {infos : List FieldInfo} {branches : List (Branch VisitTree)}
    (h : shaper.draftBranches below spot infos = .ok branches) :
    ∀ b ∈ branches, ∃ info, shaper.draftBranch below spot info = .ok b := by
  induction infos generalizing branches with
  | nil =>
    cases h
    exact List.forall_mem_nil _
  | cons info rest ih =>
    obtain ⟨b, hb, h⟩ := exists_of_bind h
    obtain ⟨others, hothers, h⟩ := exists_of_bind h
    cases h
    exact List.forall_mem_cons.2 ⟨⟨info, hb⟩, ih hothers⟩

theorem exists_draft_of_draftNode {t : VisitTree} (h : shaper.draftNode below spot = .ok t)
    {b : Branch VisitTree} (hb : b ∈ t.branches) {position : Option Nat} {name : Option String}
    {child : VisitTree} (hchild : b.child? position = some (name, child)) :
    ∃ draft spot', below = some draft ∧ draft spot' = .ok child := by
  obtain ⟨analysis, -, h⟩ := exists_of_bind h
  obtain ⟨others, hothers, h⟩ := exists_of_bind h
  cases h
  rcases List.mem_cons.1 hb with rfl | hb
  · cases position <;> cases hchild
  · obtain ⟨info, hinfo⟩ := exists_draftBranch_of_mem hothers b hb
    exact exists_draft_of_child? hinfo hchild

/-- A draft has no more levels than it may have. -/
theorem withinLevels_draft {remaining : Nat} {t : VisitTree}
    (h : shaper.draft remaining spot = .ok t) : t.WithinLevels remaining := by
  induction remaining generalizing spot t with
  | zero =>
    intro b hb position
    refine Option.eq_none_iff_forall_ne_some.2 fun entry hentry => ?_
    obtain ⟨draft, spot', hnone, -⟩ := exists_draft_of_draftNode h hb hentry
    cases hnone
  | succ remaining ih =>
    intro b hb position name child hchild
    obtain ⟨draft, spot', hdraft, hchild⟩ := exists_draft_of_draftNode h hb hchild
    cases hdraft
    exact ih hchild

end Shaper

namespace Run

theorem withinLevels_planSubjects {context : Context} {tasks : List (Option String × Subject)}
    {ps : List VisitTree} (h : planSubjects context tasks = .ok ps) :
    ∀ t ∈ ps, t.WithinLevels context.config.maxDepth := by
  induction tasks generalizing ps with
  | nil =>
    cases h
    exact List.forall_mem_nil _
  | cons task rest ih =>
    obtain ⟨plan, hplan, h⟩ := exists_of_bind h
    obtain ⟨others, hothers, h⟩ := exists_of_bind h
    cases h
    refine List.forall_mem_append.2 ⟨fun t ht => ?_, ih hothers⟩
    obtain rfl : plan = some t := by simpa using ht
    unfold planSubject at hplan
    split at hplan
    · cases hplan
    · dsimp only at hplan
      split at hplan
      · cases hplan
      · obtain ⟨tree, htree, hplan⟩ := exists_of_bind hplan
        cases hplan
        exact Shaper.withinLevels_draft htree

end Run

/-! ### Shapes at their addresses -/

section Grown

variable {root : Nat} {w : World} {address : Address} {member : Option Nat} {t : VisitTree}
  {x d : Shape} {f : Field Shape}

/-- The shapes of a node are as deep as its address, and have its path. -/
theorem Grown.stands (h : Grown root w address member t) (hx : x ∈ t.built.shapes) :
    x.depth = address.keys.length ∧ x.path = pathText address.keys := by
  cases h with
  | node shaped =>
    subst shaped
    rcases List.mem_cons.1 hx with rfl | hx
    · exact ⟨rfl, rfl⟩
    · obtain ⟨v, hv, rfl⟩ := List.mem_map.1 hx
      obtain ⟨i, hi⟩ := List.mem_iff_getElem?.1 hv
      change (List.mapIdx _ _)[i]? = _ at hi
      rw [List.getElem?_mapIdx] at hi
      obtain ⟨placed, -, rfl⟩ := Option.map_eq_some_iff.1 hi
      exact ⟨rfl, rfl⟩

theorem Grown.child_of_branch (h : Grown root w address member t) {b : Branch VisitTree}
    (hb : b ∈ t.branches) {position : Option Nat} {name : Option String} {child : VisitTree}
    (hchild : b.child? position = some (name, child)) :
    Grown root w (address.led b.key name) position child := by
  cases h with
  | node _ _ _ _ _ below => exact below b hb position name child hchild

theorem Branch.name_slot (b : Branch VisitTree) : b.slot.field.name = b.key := by
  cases b <;> rfl

/-- A reference leads to a shape of a subtree, through a field with the key of the branch. -/
theorem VisitTree.Shaped.exists_child_of_target (h : t.Shaped) (hx : x ∈ t.built.shapes)
    (hf : f ∈ x.fields) (hd : d ∈ f.content.targets) :
    ∃ b ∈ t.branches, b.key = f.name ∧ ∃ position name child,
      b.child? position = some (name, child) ∧ d ∈ child.built.shapes := by
  have hkept : ∀ b ∈ t.branches, f = b.slot.field → ∃ b ∈ t.branches, b.key = f.name ∧
      ∃ position name child, b.child? position = some (name, child) ∧ d ∈ child.built.shapes := by
    rintro b hb rfl
    rw [← b.linked_slot.dependencies] at hd
    obtain ⟨position, name, child, hchild, rfl⟩ := Branch.mem_dependencies_slot.1 hd
    exact ⟨b, hb, b.name_slot.symm, position, name, child, hchild, List.mem_cons_self⟩
  rcases List.mem_cons.1 hx with rfl | hx
  · obtain ⟨frame, number, hbuilt⟩ := h
    rw [hbuilt] at hf
    obtain ⟨slot, hslot, rfl⟩ := List.mem_map.1 hf
    obtain ⟨b, hb, rfl⟩ := List.mem_map.1 hslot
    exact hkept b hb rfl
  · obtain ⟨v, hv, rfl⟩ := List.mem_map.1 hx
    obtain ⟨position, b, alternative, hb, halternative, hslots⟩ := exists_of_mem_variants h hv
    rw [hslots.fields] at hf
    obtain ⟨slot, hslot, rfl⟩ := List.mem_map.1 hf
    obtain ⟨i, hi⟩ := List.mem_iff_getElem?.1 hslot
    rw [Slot.fixedAt, List.getElem?_modify, List.getElem?_map] at hi
    obtain ⟨before, hbefore, hfixed⟩ := Option.map_eq_some_iff.1 hi
    obtain ⟨c, hc, rfl⟩ := Option.map_eq_some_iff.1 hbefore
    split at hfixed
    · -- the field that the variant fixes
      next heq =>
      subst heq hfixed
      obtain rfl := Option.some.inj (hb.symm.trans hc)
      obtain rfl : d = alternative.shape := List.mem_singleton.1 hd
      obtain ⟨index, name, child, hchild, hshape⟩ :=
        Branch.mem_alternatives_slot.1 (List.mem_map_of_mem halternative)
      refine ⟨b, List.mem_of_getElem? hb, b.name_slot.symm, index, name, child, hchild, ?_⟩
      rcases hshape with ⟨-, heq⟩ | hvariant
      · exact heq ▸ List.mem_cons_self
      · exact List.mem_cons_of_mem _ hvariant
    · exact hkept c (List.mem_of_getElem? hc) (congrArg Slot.field hfixed.symm)

end Grown

/-! ### Built shapes -/

/-- Whether a shape is built at some address, as deep as the levels that remain below it allow. -/
def Shape.Stationed (maxDepth : Nat) (s : Shape) : Prop :=
  ∃ root w address member t levels, Grown root w address member t ∧ t.WithinLevels levels ∧
    address.keys.length + levels = maxDepth ∧ s ∈ t.built.shapes

/-- Whether content has no shapes below it. -/
def Content.IsPlain {α : Type} : Content α → Prop
  | .shape _ => False
  | .union _ => False
  | _ => True

/-- Whether a shape is no deeper than the limit, everything that its fields refer to stands one
level below it, on its path continued by the field, and nothing stands below it at the limit. -/
structure Shape.Leveled (maxDepth : Nat) (s : Shape) : Prop where
  bounded : s.depth ≤ maxDepth
  below : ∀ f ∈ s.fields, ∀ t, f.content.target? = some t ∨ t ∈ f.content.members →
    t.depth = s.depth + 1 ∧ t.path = ShapeName.joinPath [s.path, f.name]
  last : s.depth = maxDepth → s.dependencies = [] ∧ ∀ f ∈ s.fields, f.content.IsPlain

namespace Shape.Stationed

variable {maxDepth : Nat} {s d : Shape} {f : Field Shape}

theorem depth_le (h : s.Stationed maxDepth) : s.depth ≤ maxDepth := by
  obtain ⟨root, w, address, member, t, levels, hgrown, -, hlevels, hs⟩ := h
  have hdepth := (hgrown.stands hs).1
  omega

/-- A reference leads one level down, and along the key of its field. -/
theorem target (h : s.Stationed maxDepth) (hf : f ∈ s.fields) (hd : d ∈ f.content.targets) :
    d.Stationed maxDepth ∧ d.depth = s.depth + 1 ∧
      d.path = ShapeName.joinPath [s.path, f.name] := by
  obtain ⟨root, w, address, member, t, levels, hgrown, hwithin, hlevels, hs⟩ := h
  obtain ⟨b, hb, hkey, position, name, child, hchild, hshape⟩ :=
    hgrown.shaped.exists_child_of_target hs hf hd
  have hbelow := hgrown.child_of_branch hb hchild
  have hkeys : (address.led b.key name).keys = address.keys ++ [f.name] := by
    rw [← hkey]
    rfl
  obtain ⟨hdepth, hpath⟩ := hgrown.stands hs
  obtain ⟨hdepth', hpath'⟩ := hbelow.stands hshape
  rw [hkeys, List.length_append, List.length_singleton] at hdepth'
  rw [hkeys, pathText_snoc, ← hpath] at hpath'
  refine ⟨?_, by omega, hpath'⟩
  cases levels with
  | zero =>
    rw [hwithin b hb position] at hchild
    cases hchild
  | succ levels =>
    refine ⟨root, w, _, _, child, levels, hbelow, hwithin b hb position name child hchild, ?_,
      hshape⟩
    rw [hkeys, List.length_append, List.length_singleton]
    omega

theorem linked (h : s.Stationed maxDepth) : s.Linked := by
  obtain ⟨root, w, address, member, t, levels, hgrown, -, -, hs⟩ := h
  have htop : s ∈ t.tops true :=
    VisitTree.mem_tops.2 ((List.mem_cons.1 hs).imp_left fun hplain => ⟨rfl, hplain⟩)
  exact hgrown.shaped.linked_top htop

theorem of_reaches (h : s.Stationed maxDepth) (hreach : s.Reaches d) : d.Stationed maxDepth := by
  induction hreach with
  | refl => exact h
  | tail _ hstep ih =>
    obtain ⟨f, hf, htarget⟩ := ih.linked.mem_dependencies.1 hstep
    exact (ih.target hf htarget).1

theorem leveled (h : s.Stationed maxDepth)
    (hmembers : ∀ f ∈ s.fields, f.content.InRange s.typeName) : s.Leveled maxDepth := by
  have hnone : s.depth = maxDepth → ∀ f ∈ s.fields, f.content.targets = [] := by
    intro hlast f hf
    refine List.eq_nil_iff_forall_not_mem.2 fun d hd => ?_
    obtain ⟨hd', hdepth, -⟩ := h.target hf hd
    have := hd'.depth_le
    omega
  refine ⟨h.depth_le, fun f hf t ht => ?_, fun hlast => ⟨?_, fun f hf => ?_⟩⟩
  · have htarget : t ∈ f.content.targets := by
      cases hcontent : f.content <;> simp_all [Content.target?, Content.members, Content.targets]
    exact (h.target hf htarget).2
  · refine List.eq_nil_iff_forall_not_mem.2 fun d hd => ?_
    obtain ⟨f, hf, htarget⟩ := h.linked.mem_dependencies.1 hd
    rw [hnone hlast f hf] at htarget
    cases htarget
  · have htargets := hnone hlast f hf
    have hrange := hmembers f hf
    cases hcontent : f.content with
    | shape target =>
      rw [hcontent] at htargets
      cases htargets
    | union members =>
      -- a union has members
      rw [hcontent] at htargets hrange
      exact absurd htargets hrange
    | _ => trivial

end Shape.Stationed

/-! ### Kinds of artifacts -/

namespace Emission

/-- What one step adds and what all steps add. -/
theorem mem_artifacts_foldl {α : Type} {step : Emission → α → Emission} {new : Artifact → Prop}
    {items : List α} (h : ∀ item ∈ items, ∀ state, ∀ a ∈ (step state item).artifacts,
      a ∈ state.artifacts ∨ new a) (state : Emission) :
    ∀ a ∈ (items.foldl step state).artifacts, a ∈ state.artifacts ∨ new a := by
  induction items generalizing state with
  | nil =>
    intro a ha
    exact .inl ha
  | cons first rest ih =>
    obtain ⟨hfirst, hrest⟩ := List.forall_mem_cons.1 h
    intro a ha
    rcases ih hrest _ a ha with hold | hnew
    · exact hfirst state a hold
    · exact .inr hnew

theorem shapes_eq_foldl (origin : Provenance) (state : Emission) (given : List Shape) :
    shapes origin state given = given.foldl (shape origin .nestedShape) state := by
  induction given generalizing state with
  | nil => rfl
  | cons s rest ih => exact ih _

/-- Only the shape that is emitted itself is anything else than a nested shape. -/
theorem nested_or_given_shape (origin : Provenance) (s : Shape) :
    ∀ (kind : ArtifactKind) (state : Emission), ∀ a ∈ (shape origin kind state s).artifacts,
      a ∈ state.artifacts ∨ a.kind = .nestedShape ∨ a.shape = s ∧ a.kind = kind := by
  induction s using Shape.dependencyInduction with
  | step s ih =>
    intro kind state a ha
    rw [shape_eq] at ha
    split at ha
    · exact .inl ha
    · rcases List.mem_append.1 ha with hbelow | hown
      · have hdeps : ∀ t ∈ s.dependencies, ∀ state : Emission,
            ∀ a ∈ (shape origin .nestedShape state t).artifacts,
              a ∈ state.artifacts ∨ a.kind = .nestedShape := by
          intro t ht state a ha
          rcases ih t ht .nestedShape state a ha with hold | hnested | ⟨-, hnested⟩
          · exact .inl hold
          · exact .inr hnested
          · exact .inr hnested
        rw [shapes_eq_foldl] at hbelow
        exact (mem_artifacts_foldl hdeps _ a hbelow).imp_right .inl
      · rw [List.mem_singleton.1 hown]
        exact .inr (.inr ⟨rfl, rfl⟩)

end Emission

namespace Run

theorem emitRoots_eq_foldl (origin : Provenance) (state : Emission)
    (roots : List (Shape × ArtifactKind)) :
    emitRoots origin state roots =
      roots.foldl (fun state r => state.shape origin r.2 r.1) state := by
  induction roots generalizing state with
  | nil => rfl
  | cons r rest ih => exact ih _

/-- An artifact that is no nested shape stands for a definition. -/
theorem nested_or_root (gs : List Generated) (state : Emission) :
    ∀ a ∈ (gs.foldl Generated.emit state).artifacts, a ∈ state.artifacts ∨
      a.kind = .nestedShape ∨ ∃ g ∈ gs, a.shape ∈ g.roots.map Prod.fst := by
  refine Emission.mem_artifacts_foldl (fun g hg state => ?_) state
  rw [Generated.emit, emitRoots_eq_foldl]
  refine Emission.mem_artifacts_foldl (fun r hr state a ha => ?_) state
  rcases Emission.nested_or_given_shape _ r.1 r.2 state a ha with hold | hnested | ⟨hown, -⟩
  · exact .inl hold
  · exact .inr (.inl hnested)
  · exact .inr (.inr ⟨g, hg, hown ▸ List.mem_map_of_mem hr⟩)

/-- Whatever is built for a definition of a run stands at some address below its root. -/
theorem stationed_of_generated {providers : Providers} {schema : Schema} {config : Config}
    {sources : List SourceDocument} {gs : List Generated} {after : BuildState}
    (h : (generated providers schema config sources).run.run .start = (.ok gs, after))
    {g : Generated}
    (hg : g ∈ gs) {r : Shape} (hr : r ∈ g.built.shapes) :
    r.depth = 0 ∧ r.path = "" ∧ r.Stationed config.maxDepth := by
  obtain ⟨ps, w, trees, hplans, hplanted⟩ := exists_plantedAll h
  have hbuilt : g.built ∈ trees.map fun e => e.2.built := hplanted.built ▸ List.mem_map_of_mem hg
  obtain ⟨e, he, heq⟩ := List.mem_map.1 hbuilt
  obtain ⟨i, hi⟩ := List.mem_iff_getElem?.1 he
  have hroot := hplanted.planted i e hi
  rw [← heq] at hr
  obtain ⟨-, -, hsubjects⟩ := exists_of_bind hplans
  have hwithin : e.2.WithinLevels config.maxDepth := by
    refine VisitTree.withinLevels_unnumbered.1 (withinLevels_planSubjects hsubjects _ ?_)
    rw [hplanted.plans]
    exact List.mem_map_of_mem he
  obtain ⟨hdepth, hpath⟩ := hroot.grown.stands hr
  rw [hroot.keys] at hdepth hpath
  refine ⟨hdepth, hpath, _, w, e.1, _, e.2, _, hroot.grown, hwithin, ?_, hr⟩
  rw [hroot.keys, List.length_nil, Nat.zero_add]

theorem leveled_of_generated {providers : Providers} {schema : Schema} {config : Config}
    {sources : List SourceDocument} {gs : List Generated} {after : BuildState}
    (h : (generated providers schema config sources).run.run .start = (.ok gs, after))
    {g : Generated}
    (hg : g ∈ gs) {r s : Shape} (hr : r ∈ g.built.shapes) (hreach : r.Reaches s) :
    s.Leveled config.maxDepth := by
  obtain ⟨-, -, hstationed⟩ := stationed_of_generated h hg hr
  exact (hstationed.of_reaches hreach).leveled (builds_of_generated h hg hr hreach).arranged.inRange

end Run

/-- **Depths and paths.** Every artifact of a run is no deeper than the limit; what its fields refer
to, in a plain shape or in a variant, stands one level below it, on its path continued by the field;
and at the limit it refers to nothing. Artifacts that are no nested shapes have depth zero and no
path. The same holds of everything that is built for the definitions, emitted or not: the plain
shape and the variants of a definition have depth zero and no path, and all that they lead to is on
its level. -/
theorem shapes_on_their_levels {providers : Providers} {schema : Schema} {config : Config}
    {sources : List SourceDocument} {artifacts : List Artifact}
    (h : (generateSamples providers schema config sources).result = .ok artifacts) :
    (∀ a ∈ artifacts, a.shape.Leveled config.maxDepth ∧
      (a.kind ≠ .nestedShape → a.shape.depth = 0 ∧ a.shape.path = "")) ∧
    ∃ gs after, (Run.generated providers schema config sources).run.run .start = (.ok gs, after) ∧
      ∀ g ∈ gs, ∀ r ∈ g.built.shapes, (r.depth = 0 ∧ r.path = "") ∧
        ∀ s, r.Reaches s → s.Leveled config.maxDepth := by
  obtain ⟨gs, w, trees, hemitted⟩ := Run.exists_emitted h
  obtain ⟨after, hgenerated⟩ := hemitted.generated
  have htop : ∀ g ∈ gs, ∀ r ∈ g.built.shapes, r.depth = 0 ∧ r.path = "" := by
    intro g hg r hr
    obtain ⟨hdepth, hpath, -⟩ := Run.stationed_of_generated hgenerated hg hr
    exact ⟨hdepth, hpath⟩
  refine ⟨fun a ha => ⟨?_, fun hkind => ?_⟩, gs, after, hgenerated, fun g hg r hr =>
    ⟨htop g hg r hr, fun s => Run.leveled_of_generated hgenerated hg hr⟩⟩
  · obtain ⟨r, hr, hreach⟩ := (hemitted.mem_shapes a.shape).1 (List.mem_map_of_mem ha)
    obtain ⟨g, hg, hroot⟩ := List.mem_flatMap.1 hr
    exact Run.leveled_of_generated hgenerated hg (g.roots_subset hroot) hreach
  · rw [hemitted.artifacts] at ha
    rcases Run.nested_or_root gs .empty a ha with hnone | hnested | ⟨g, hg, hroot⟩
    · cases hnone
    · exact absurd hnested hkind
    · exact htop g hg a.shape (g.roots_subset hroot)

/-- At depth two nothing is built below an owner's pets and friends; the member of the union has a
name that starts anew, but the path of its field. -/
theorem shapes_on_their_levels_owner :
    let config := { Config.defaults with maxDepth := 2 }
    ∃ artifacts,
      (generateSamples Pets.providers Pets.schema config Pets.owner).result = .ok artifacts ∧
      artifacts.map (fun a => (a.name, a.shape.path, a.shape.depth)) =
        [("HomeOwnerPetAsCat", "owner.pet", 2), ("HomeOwnerFriend", "owner.friend", 2),
          ("HomeOwnerAsCat", "owner", 1), ("HomeQueryAsCat", "", 0),
          ("HomeOwnerPetAsDog", "owner.pet", 2), ("HomeOwnerAsDog", "owner", 1),
          ("HomeQueryAsDog", "", 0)] ∧
      ∀ a ∈ artifacts, a.shape.Leveled 2 := by
  intro config
  have hrun : (generateSamples Pets.providers Pets.schema config Pets.owner).result.toOption.map
      (fun artifacts => artifacts.map fun a => (a.name, a.shape.path, a.shape.depth)) = some
        [("HomeOwnerPetAsCat", "owner.pet", 2), ("HomeOwnerFriend", "owner.friend", 2),
          ("HomeOwnerAsCat", "owner", 1), ("HomeQueryAsCat", "", 0),
          ("HomeOwnerPetAsDog", "owner.pet", 2), ("HomeOwnerAsDog", "owner", 1),
          ("HomeQueryAsDog", "", 0)] := by decide +kernel
  cases hresult : (generateSamples Pets.providers Pets.schema config Pets.owner).result with
  | error fault =>
    rw [hresult] at hrun
    cases hrun
  | ok artifacts =>
    rw [hresult] at hrun
    exact ⟨artifacts, rfl, Option.some.inj hrun,
      fun a ha => ((shapes_on_their_levels hresult).1 a ha).1⟩

end OperationSamples
