import Mathlib.Data.List.Dedup
import Mathlib.Data.List.Induction
import Mathlib.Data.List.Nodup
import OperationSamples.Proofs.Materialize
import OperationSamples.Schema.Issues

/-!
When artifacts share a name.

Names are put together from pieces without marks between them, so different places can spell the
same name. The plans of a run decide whether that happens: the artifacts of a run have different
names exactly when no two places of its plans at which shapes are emitted have the same name.

One direction needs that places do not share shapes silently. A shape that is taken again stands at
several places, which differ in the members of unions that lead to them. Above two such places the
names agree as well, and where the members differ both nodes are emitted: two artifacts have one
name.
-/

namespace OperationSamples

/-! ### Places of plans -/

namespace Branch

variable {α β : Type}

@[simp] theorem key_map (f : α → β) (b : Branch α) : (b.map f).key = b.key := by
  cases b <;> rfl

/-- Members of unions have names, and objects have none. -/
theorem isSome_name_of_child? {b : Branch α} {position : Option Nat} {name : Option String}
    {child : α} (h : b.child? position = some (name, child)) : name.isSome = position.isSome := by
  cases b with
  | plain field => cases h
  | object info child =>
    cases position with
    | none =>
      cases h
      rfl
    | some i => cases h
  | union info members =>
    cases position with
    | none => cases h
    | some i =>
      obtain ⟨m, -, hm⟩ := Option.map_eq_some_iff.1 h
      cases hm
      rfl

/-- Different subtrees of a branch are those of members. -/
theorem isSome_of_child?_ne {b : Branch α} {position position' : Option Nat}
    {entry entry' : Option String × α} (h : b.child? position = some entry)
    (h' : b.child? position' = some entry') (hne : position ≠ position') :
    position.isSome = true ∧ position'.isSome = true := by
  cases position with
  | none =>
    cases position' with
    | none => exact absurd rfl hne
    | some i =>
      cases b with
      | plain => cases h
      | object => cases h'
      | union => cases h
  | some i =>
    cases position' with
    | none =>
      cases b with
      | plain => cases h
      | object => cases h
      | union => cases h'
    | some j => exact ⟨rfl, rfl⟩

end Branch

namespace VisitTree

theorem child?_unnumbered (t : VisitTree) (step : Step) :
    t.unnumbered.child? step = (t.child? step).map fun e => (e.1, e.2.unnumbered) := by
  simp only [child?, branches_unnumbered, List.findSome?_map, List.map_findSome?]
  congr 1
  funext b
  simp only [Function.comp, Branch.key_map, Branch.child?_map]
  split <;> rfl

theorem variesBeside_unnumbered (t : VisitTree) (key : String) :
    t.unnumbered.variesBeside key = t.variesBeside key := by
  simp only [variesBeside, branches_unnumbered, List.any_map]
  congr 1
  funext b
  simp [Function.comp, Branch.slot_unnumbered, Slot.unnumbered]

/-- What is emitted at a place does not depend on identities. -/
theorem emitted?_unnumbered (t : VisitTree) (plain : Bool) (steps : List Step)
    (variant : Option Nat) :
    t.unnumbered.emitted? plain steps variant =
      (t.emitted? plain steps variant).map Shape.unnumbered := by
  induction steps generalizing t plain with
  | nil =>
    cases variant with
    | none =>
      cases plain <;> simp [emitted?, Built.unnumbered]
    | some i =>
      simp [emitted?, Built.unnumbered, Variant.unnumbered, Function.comp_def]
  | cons step steps ih =>
    rw [emitted?, emitted?, child?_unnumbered]
    cases t.child? step with
    | none => rfl
    | some entry =>
      simp only [Option.map_some, variesBeside_unnumbered]
      exact ih entry.2 _

end VisitTree

namespace Run

/-- A place in the plans of a run: a definition, the steps to a node, and one of its variants if it
is not the plain shape. -/
structure Place where
  definition : Nat
  steps : List VisitTree.Step
  variant : Option Nat
deriving DecidableEq, Repr

/-- The shape that is emitted at a place of some plans. -/
def emittedAt? (plans : List VisitTree) (p : Place) : Option Shape :=
  plans[p.definition]?.bind fun t => t.emitted? t.built.variants.isEmpty p.steps p.variant

/-- The name of the shape that is emitted at a place. -/
def nameAt? (plans : List VisitTree) (p : Place) : Option String :=
  (emittedAt? plans p).map fun s => s.name.qualified

/-- Whether names tell apart the places at which shapes are emitted. -/
def Unambiguous (plans : List VisitTree) : Prop :=
  ∀ p q name, nameAt? plans p = some name → nameAt? plans q = some name → p = q

theorem nameAt?_unnumbered (trees : List VisitTree) :
    nameAt? (trees.map VisitTree.unnumbered) = nameAt? trees := by
  funext p
  rw [nameAt?, nameAt?, emittedAt?, emittedAt?, List.getElem?_map]
  cases trees[p.definition]? with
  | none => rfl
  | some t => simp [VisitTree.emitted?_unnumbered, Built.unnumbered, Function.comp_def]

end Run

/-! ### Nodes -/

namespace VisitTree

/-- The node that some steps lead to, with its address. -/
def locate : VisitTree → Address → List Step → Option (Address × VisitTree)
  | t, address, [] => some (address, t)
  | t, address, step :: steps =>
    match t.child? step with
    | none => none
    | some (name, child) => child.locate (address.led step.1 name) steps

theorem locate_cons_eq_some {t : VisitTree} {address : Address} {step : Step} {steps : List Step}
    {e : Address × VisitTree} :
    t.locate address (step :: steps) = some e ↔ ∃ name child, t.child? step = some (name, child) ∧
      child.locate (address.led step.1 name) steps = some e := by
  rw [locate]
  cases t.child? step with
  | none => simp
  | some entry =>
    obtain ⟨name, child⟩ := entry
    simp

theorem locate_append (t : VisitTree) (address : Address) (first rest : List Step) :
    t.locate address (first ++ rest) =
      (t.locate address first).bind fun e => e.2.locate e.1 rest := by
  induction first generalizing t address with
  | nil => rfl
  | cons step first ih =>
    rw [List.cons_append, locate, locate]
    cases t.child? step with
    | none => rfl
    | some entry => exact ih entry.2 _

theorem keys_locate {t u : VisitTree} {address above : Address} {steps : List Step}
    (h : t.locate address steps = some (above, u)) :
    above.keys = address.keys ++ steps.map Prod.fst := by
  induction steps generalizing t address with
  | nil =>
    cases h
    simp
  | cons step steps ih =>
    obtain ⟨name, child, -, hbelow⟩ := locate_cons_eq_some.1 h
    rw [ih hbelow]
    simp [Address.led]

/-- Once the plain shape of a tree is emitted, all plain shapes in it are. -/
theorem emitted?_of_plain {t u : VisitTree} {address above : Address} {steps : List Step}
    (h : t.locate address steps = some (above, u)) :
    t.emitted? true steps none = some u.built.shape := by
  induction steps generalizing t address with
  | nil =>
    cases h
    rfl
  | cons step steps ih =>
    obtain ⟨name, child, hchild, hbelow⟩ := locate_cons_eq_some.1 h
    rw [emitted?_cons hchild]
    simpa using ih hbelow

/-- What is emitted at a place belongs to the node there. -/
theorem exists_locate {t : VisitTree} {plain : Bool} {steps : List Step} {variant : Option Nat}
    {s : Shape} (h : t.emitted? plain steps variant = some s) (address : Address) :
    ∃ above u, t.locate address steps = some (above, u) ∧
      ((variant = none ∧ s = u.built.shape) ∨
        ∃ i v, variant = some i ∧ u.built.variants[i]? = some v ∧ s = v.shape) := by
  induction steps generalizing t plain address with
  | nil =>
    refine ⟨address, t, rfl, ?_⟩
    cases variant with
    | none =>
      rw [emitted?] at h
      split at h
      · exact Or.inl ⟨rfl, (Option.some.inj h).symm⟩
      · cases h
    | some i =>
      obtain ⟨v, hv, rfl⟩ := Option.map_eq_some_iff.1 h
      exact Or.inr ⟨i, v, rfl, hv, rfl⟩
  | cons step steps ih =>
    obtain ⟨name, child, hchild, hbelow⟩ := exists_child_of_emitted? h
    obtain ⟨above, u, hlocate, hs⟩ := ih hbelow (address.led step.1 name)
    exact ⟨above, u, locate_cons_eq_some.2 ⟨name, child, hchild, hlocate⟩, hs⟩

/-- The node above one that is not the root. -/
theorem exists_locate_above {t u : VisitTree} {address above : Address} {steps : List Step}
    {step : Step} (h : t.locate address (steps ++ [step]) = some (above, u)) :
    ∃ parent p name, t.locate address steps = some (parent, p) ∧
      p.child? step = some (name, u) ∧ above = parent.led step.1 name := by
  rw [locate_append] at h
  obtain ⟨⟨parent, p⟩, hparent, hlast⟩ := Option.bind_eq_some_iff.1 h
  obtain ⟨name, child, hchild, hend⟩ := locate_cons_eq_some.1 hlast
  cases hend
  exact ⟨parent, p, name, hparent, hchild, rfl⟩

end VisitTree

/-! ### Going up -/

/-- The name that a key leads to says which stem it was led from. -/
theorem ShapeName.stem_eq_of_led {stem other : String} (key : String) (member : Option String)
    (h : led stem key member = led other key member) : stem = other := by
  have hqualified := congrArg ShapeName.qualified h
  cases member <;>
    simpa [led, of, variant, String.append_assoc] using hqualified

/-- Below the root, the stem of an address is its name. -/
theorem VisitTree.name_locate {t u : VisitTree} {address above : Address} {steps : List Step}
    (h : t.locate address steps = some (above, u)) (hne : steps ≠ []) :
    above.name = .of above.stem := by
  rcases steps.eq_nil_or_concat' with rfl | ⟨steps, step, rfl⟩
  · exact absurd rfl hne
  · obtain ⟨_, _, name, -, -, rfl⟩ := exists_locate_above h
    cases name <;> rfl

section Grown

variable {root : Nat} {w : World} {address : Address} {member : Option Nat} {t : VisitTree}

theorem Grown.locate (h : Grown root w address member t) {steps : List VisitTree.Step}
    {above : Address} {u : VisitTree} (hu : t.locate address steps = some (above, u)) :
    ∃ last, Grown root w above last u := by
  induction steps generalizing t address member with
  | nil =>
    cases hu
    exact ⟨member, h⟩
  | cons step steps ih =>
    obtain ⟨name, child, hchild, hbelow⟩ := VisitTree.locate_cons_eq_some.1 hu
    exact ih (h.child hchild) hbelow

/-- The step to a subtree and the type of its shape say which name the step gives. -/
theorem Grown.child_name (h : Grown root w address member t) {step : VisitTree.Step}
    {name : Option String} {child : VisitTree} (hchild : t.child? step = some (name, child)) :
    name = step.2.map fun _ => child.built.shape.typeName := by
  obtain ⟨b, hb, -, hentry⟩ := VisitTree.exists_branch_of_child? hchild
  have hsome := Branch.isSome_name_of_child? hentry
  cases h with
  | node _ _ _ _ named =>
    cases name with
    | none =>
      have hposition : step.2 = none := by simpa using hsome.symm
      rw [hposition, Option.map_none]
    | some name =>
      obtain ⟨i, hposition⟩ := Option.isSome_iff_exists.1 hsome.symm
      rw [hposition, Option.map_some, named b hb _ _ _ hentry]

/-- A plain shape stands below one root, at one list of keys and for one member. -/
theorem Grown.origin_eq {root' : Nat} {address' : Address} {member' : Option Nat} {u : VisitTree}
    (h : Grown root w address member t) (h' : Grown root' w address' member' u)
    (hshape : t.built.shape = u.built.shape) :
    root = root' ∧ address.keys = address'.keys ∧ member = member' := by
  have hplain := h.has_shape
  rw [World.Has, hshape, h'.has_shape] at hplain
  obtain ⟨hroot, hkeys, hmember⟩ : root' = root ∧ address'.keys = address.keys ∧ member' = member :=
    by simpa using hplain
  exact ⟨hroot.symm, hkeys.symm, hmember.symm⟩

/-- Two steps with the same key choose members of a union. -/
theorem Grown.isSome_of_positions (h : Grown root w address member t) {key : String}
    {position position' : Option Nat} {entry entry' : Option String × VisitTree}
    (hchild : t.child? (key, position) = some entry)
    (hchild' : t.child? (key, position') = some entry') (hne : position ≠ position') :
    position.isSome = true ∧ position'.isSome = true := by
  obtain ⟨b, hb, hkey, hentry⟩ := VisitTree.exists_branch_of_child? hchild
  obtain ⟨c, hc, hkey', hentry'⟩ := VisitTree.exists_branch_of_child? hchild'
  obtain ⟨i, hi⟩ := List.mem_iff_getElem?.1 hb
  obtain ⟨j, hj⟩ := List.mem_iff_getElem?.1 hc
  have hij : i = j := by
    refine Decidable.byContradiction fun hij => ?_
    exact key_ne_of_position_ne h.distinct hi hj (Branch.isInner_of_child? hentry)
      (Branch.isInner_of_child? hentry') hij (hkey.trans hkey'.symm)
  subst hij
  cases hi.symm.trans hj
  exact Branch.isSome_of_child?_ne hentry hentry' hne

/-- Two ways along the same keys part at a union, so that the plain shapes at their ends are both
emitted. -/
theorem Grown.emitted?_of_parted (h : Grown root w address member t) {plain : Bool}
    {first second : List VisitTree.Step} {above above' : Address} {u u' : VisitTree}
    (hfirst : t.locate address first = some (above, u))
    (hsecond : t.locate address second = some (above', u'))
    (hkeys : first.map Prod.fst = second.map Prod.fst) (hne : first ≠ second) :
    t.emitted? plain first none = some u.built.shape ∧
      t.emitted? plain second none = some u'.built.shape := by
  induction first generalizing t address member plain second with
  | nil => exact absurd (List.map_eq_nil_iff.1 hkeys.symm).symm hne
  | cons step first ih =>
    obtain ⟨key, position⟩ := step
    cases second with
    | nil => cases hkeys
    | cons step' second =>
      obtain ⟨key', position'⟩ := step'
      obtain ⟨hkey, htail⟩ := List.cons.inj hkeys
      cases hkey
      obtain ⟨name, child, hchild, hbelow⟩ := VisitTree.locate_cons_eq_some.1 hfirst
      obtain ⟨name', child', hchild', hbelow'⟩ := VisitTree.locate_cons_eq_some.1 hsecond
      rw [VisitTree.emitted?_cons hchild, VisitTree.emitted?_cons hchild']
      by_cases hposition : position = position'
      · subst hposition
        cases hchild.symm.trans hchild'
        exact ih (h.child hchild) hbelow hbelow' htail (by simpa using hne)
      · obtain ⟨hsome, hsome'⟩ := h.isSome_of_positions hchild hchild' hposition
        simp only [hsome, hsome', Bool.true_or]
        exact ⟨VisitTree.emitted?_of_plain hbelow, VisitTree.emitted?_of_plain hbelow'⟩

/-- When plain shapes that are emitted from a tree have different names, every plain shape of the
tree stands at one place. The induction is on the steps, from their end: the names of two nodes with
the same shape fix the names above them, and nodes above that differ are both emitted. -/
theorem Grown.steps_eq (h : Grown root w address none t) (hroot : address.keys = []) (plain : Bool)
    (hnames : ∀ first second s s', t.emitted? plain first none = some s →
      t.emitted? plain second none = some s' → s.name = s'.name → s = s')
    {first second : List VisitTree.Step} {above above' : Address} {u u' : VisitTree}
    (hfirst : t.locate address first = some (above, u))
    (hsecond : t.locate address second = some (above', u'))
    (hshape : u.built.shape = u'.built.shape) : first = second := by
  have hkeys : first.map Prod.fst = second.map Prod.fst := by
    obtain ⟨_, hu⟩ := h.locate hfirst
    obtain ⟨_, hu'⟩ := h.locate hsecond
    have hsame := (hu.origin_eq hu' hshape).2.1
    rwa [VisitTree.keys_locate hfirst, VisitTree.keys_locate hsecond, hroot, List.nil_append,
      List.nil_append] at hsame
  induction first using List.reverseRecOn generalizing second above above' u u' with
  | nil => exact (List.map_eq_nil_iff.1 hkeys.symm).symm
  | append_singleton first step ih =>
    rcases second.eq_nil_or_concat' with rfl | ⟨second, step', rfl⟩
    · simp at hkeys
    obtain ⟨parent, p, name, hp, hchild, rfl⟩ := VisitTree.exists_locate_above hfirst
    obtain ⟨parent', p', name', hp', hchild', rfl⟩ := VisitTree.exists_locate_above hsecond
    obtain ⟨_, hgrown⟩ := h.locate hp
    obtain ⟨_, hgrown'⟩ := h.locate hp'
    obtain ⟨htail, hkey⟩ : first.map Prod.fst = second.map Prod.fst ∧ step.1 = step'.1 := by
      simpa using hkeys
    have hposition : step.2 = step'.2 :=
      ((hgrown.child hchild).origin_eq (hgrown'.child hchild') hshape).2.2
    have hstep : step = step' := Prod.ext hkey hposition
    subst hstep
    have hmember : name = name' := by
      rw [hgrown.child_name hchild, hgrown'.child_name hchild', hshape]
    subst hmember
    have hstem : parent.stem = parent'.stem := by
      refine ShapeName.stem_eq_of_led step.1 name ?_
      have hu := (hgrown.child hchild).name_eq
      have hu' := (hgrown'.child hchild').name_eq
      rw [hshape, hu'] at hu
      exact hu.symm
    by_cases hsame : first = second
    · rw [hsame]
    -- the nodes above differ, so both are emitted, with one name
    have hne : first ≠ [] := by
      rintro rfl
      exact hsame (List.map_eq_nil_iff.1 htail.symm).symm
    have hne' : second ≠ [] := by
      rintro rfl
      exact hsame (List.map_eq_nil_iff.1 htail)
    obtain ⟨hemitted, hemitted'⟩ := h.emitted?_of_parted hp hp' htail hsame
    have hparents : p.built.shape = p'.built.shape := by
      refine hnames first second _ _ hemitted hemitted' ?_
      rw [hgrown.name_eq, hgrown'.name_eq, VisitTree.name_locate hp hne,
        VisitTree.name_locate hp' hne', hstem]
    rw [ih hp hp' hparents htail]

/-- A shape of a tree says whether it is plain; the plain shape says at which place it stands, and a
variant whose it is and which. -/
theorem Grown.place_eq {root' : Nat} {address' : Address} {t' : VisitTree}
    (h : Grown root w address none t) (h' : Grown root' w address' none t')
    {plain plain' : Bool} {steps steps' : List VisitTree.Step} {variant variant' : Option Nat}
    {s : Shape} (hs : t.emitted? plain steps variant = some s)
    (hs' : t'.emitted? plain' steps' variant' = some s) :
    root = root' ∧ variant = variant' ∧ ∃ above u above' u',
      t.locate address steps = some (above, u) ∧ t'.locate address' steps' = some (above', u') ∧
        u.built.shape = u'.built.shape := by
  obtain ⟨above, u, hu, hnode⟩ := VisitTree.exists_locate hs address
  obtain ⟨above', u', hu', hnode'⟩ := VisitTree.exists_locate hs' address'
  obtain ⟨_, hgrown⟩ := h.locate hu
  obtain ⟨_, hgrown'⟩ := h'.locate hu'
  suffices hsame : variant = variant' ∧ u.built.shape = u'.built.shape from
    ⟨(hgrown.origin_eq hgrown' hsame.2).1, hsame.1, above, u, above', u', hu, hu', hsame.2⟩
  rcases hnode with ⟨rfl, rfl⟩ | ⟨i, v, rfl, hv, rfl⟩ <;>
    rcases hnode' with ⟨rfl, hshape⟩ | ⟨j, v', rfl, hv', hshape⟩
  · exact ⟨rfl, hshape⟩
  -- no shape is on record both as a plain shape and as a variant
  · have horigin := hgrown.has_shape
    rw [World.Has, hshape, hgrown'.has_variant_at hv'] at horigin
    simp at horigin
  · have horigin := hgrown.has_variant_at hv
    rw [World.Has, hshape, hgrown'.has_shape] at horigin
    simp at horigin
  · have horigin := hgrown.has_variant_at hv
    rw [World.Has, hshape, hgrown'.has_variant_at hv'] at horigin
    obtain ⟨hid, hposition⟩ : u'.built.shape.id = u.built.shape.id ∧ j = i := by
      simpa using horigin
    exact ⟨by rw [hposition], w.distinguished.2 _ _ ⟨_, hgrown.has_shape⟩ ⟨_, hgrown'.has_shape⟩
      hid.symm⟩

end Grown

namespace Run

section Emitted

variable {providers : Providers} {schema : Schema} {config : Config} {sources : List SourceDocument}
  {artifacts : List Artifact} {gs : List Generated} {w : World}
  {trees : List (Address × VisitTree)}

theorem emittedAt?_eq_some {trees : List (Address × VisitTree)} {p : Place} {s : Shape} :
    emittedAt? (trees.map Prod.snd) p = some s ↔ ∃ e, trees[p.definition]? = some e ∧
      e.2.emitted? e.2.built.variants.isEmpty p.steps p.variant = some s := by
  rw [emittedAt?, List.getElem?_map]
  cases trees[p.definition]? <;> simp

/-- The shapes of artifacts are what is emitted at places. -/
theorem Emitted.mem_shapes_iff_place
    (h : Emitted providers schema config sources artifacts gs w trees)
    (s : Shape) :
    s ∈ artifacts.map Artifact.shape ↔ ∃ p, emittedAt? (trees.map Prod.snd) p = some s := by
  rw [h.mem_shapes_iff_emitted?]
  constructor
  · rintro ⟨i, e, he, steps, variant, hs⟩
    exact ⟨⟨i, steps, variant⟩, emittedAt?_eq_some.2 ⟨e, he, hs⟩⟩
  · rintro ⟨p, hp⟩
    obtain ⟨e, he, hs⟩ := emittedAt?_eq_some.1 hp
    exact ⟨p.definition, e, he, p.steps, p.variant, hs⟩

/-- When artifacts have different names, a name belongs to one shape. -/
theorem shape_eq_of_name_eq (hnames : (artifacts.map Artifact.name).Nodup) {s s' : Shape}
    (hs : s ∈ artifacts.map Artifact.shape) (hs' : s' ∈ artifacts.map Artifact.shape)
    (hname : s.name.qualified = s'.name.qualified) : s = s' := by
  obtain ⟨a, ha, rfl⟩ := List.mem_map.1 hs
  obtain ⟨b, hb, rfl⟩ := List.mem_map.1 hs'
  rw [List.inj_on_of_nodup_map hnames ha hb hname]

/-- When artifacts have different names, every shape is emitted at one place. -/
theorem Emitted.place_unique (h : Emitted providers schema config sources artifacts gs w trees)
    (hnames : (artifacts.map Artifact.name).Nodup) {p q : Place} {s : Shape}
    (hp : emittedAt? (trees.map Prod.snd) p = some s)
    (hq : emittedAt? (trees.map Prod.snd) q = some s) : p = q := by
  obtain ⟨i, steps, variant⟩ := p
  obtain ⟨j, steps', variant'⟩ := q
  obtain ⟨e, he, hs⟩ := emittedAt?_eq_some.1 hp
  obtain ⟨e', he', hs'⟩ := emittedAt?_eq_some.1 hq
  have hplanted := h.planted i e he
  obtain ⟨hroot, hvariant, above, u, above', u', hu, hu', hshape⟩ :=
    hplanted.grown.place_eq (h.planted j e' he').grown hs hs'
  subst hroot hvariant
  cases he.symm.trans he'
  have hsteps : steps = steps' := by
    refine hplanted.grown.steps_eq hplanted.keys e.2.built.variants.isEmpty ?_ hu hu' hshape
    intro first second x y hx hy hname
    exact shape_eq_of_name_eq hnames
      ((h.mem_shapes_iff_place x).2 ⟨⟨i, first, none⟩, emittedAt?_eq_some.2 ⟨e, he, hx⟩⟩)
      ((h.mem_shapes_iff_place y).2 ⟨⟨i, second, none⟩, emittedAt?_eq_some.2 ⟨e, he, hy⟩⟩)
      (congrArg ShapeName.qualified hname)
  rw [hsteps]

/-- The names of artifacts are the names at places. -/
theorem Emitted.mem_names_iff (h : Emitted providers schema config sources artifacts gs w trees)
    (name : String) :
    name ∈ artifacts.map Artifact.name ↔ ∃ p, nameAt? (trees.map Prod.snd) p = some name := by
  constructor
  · intro hname
    obtain ⟨a, ha, rfl⟩ := List.mem_map.1 hname
    obtain ⟨p, hp⟩ := (h.mem_shapes_iff_place a.shape).1 (List.mem_map_of_mem ha)
    exact ⟨p, Option.map_eq_some_iff.2 ⟨a.shape, hp, rfl⟩⟩
  · rintro ⟨p, hp⟩
    obtain ⟨s, hs, rfl⟩ := Option.map_eq_some_iff.1 hp
    obtain ⟨a, ha, rfl⟩ := List.mem_map.1 ((h.mem_shapes_iff_place s).2 ⟨p, hs⟩)
    exact List.mem_map.2 ⟨a, ha, rfl⟩

/-- Artifacts have different names when places have, and only then. -/
theorem Emitted.nodup_names_iff (h : Emitted providers schema config sources artifacts gs w trees) :
    (artifacts.map Artifact.name).Nodup ↔ Unambiguous (trees.map Prod.snd) := by
  constructor
  · intro hnames p q name hp hq
    obtain ⟨s, hs, rfl⟩ := Option.map_eq_some_iff.1 hp
    obtain ⟨s', hs', hname⟩ := Option.map_eq_some_iff.1 hq
    have heq : s = s' := shape_eq_of_name_eq hnames ((h.mem_shapes_iff_place s).2 ⟨p, hs⟩)
      ((h.mem_shapes_iff_place s').2 ⟨q, hs'⟩) hname.symm
    exact h.place_unique hnames hs (heq ▸ hs')
  · intro hplaces
    rw [List.nodup_map_iff_inj_on h.nodup_ids.of_map]
    intro a ha b hb hname
    obtain ⟨p, hp⟩ := (h.mem_shapes_iff_place a.shape).1 (List.mem_map_of_mem ha)
    obtain ⟨q, hq⟩ := (h.mem_shapes_iff_place b.shape).1 (List.mem_map_of_mem hb)
    have hpq : p = q := hplaces p q a.name (Option.map_eq_some_iff.2 ⟨_, hp, rfl⟩)
      (Option.map_eq_some_iff.2 ⟨_, hq, hname.symm⟩)
    subst hpq
    have hshape : a.shape = b.shape := Option.some.inj (hp.symm.trans hq)
    exact List.inj_on_of_nodup_map h.nodup_ids ha hb (congrArg Shape.id hshape)

/-- Factories are as different as names. -/
theorem Emitted.nodup_factories_iff
    (h : Emitted providers schema config sources artifacts gs w trees) :
    (artifacts.map Artifact.factory).Nodup ↔ (artifacts.map Artifact.name).Nodup := by
  have hfactories : artifacts.map Artifact.factory =
      (artifacts.map Artifact.name).map ShapeName.factoryFor := by
    rw [List.map_map]
    exact List.map_congr_left fun a ha => (h.proper ha).factory
  rw [hfactories]
  exact List.nodup_map_iff fun _ _ => ShapeName.factoryFor_inj.1

end Emitted

end Run

/-! ### What a registry keeps -/

namespace Registry

/-- The list of names after one more artifact. -/
def listName (names : List String) (a : Artifact) : List String :=
  if names.contains a.name then names else names ++ [a.name]

theorem names_eq (r : Registry) : r.names = r.artifacts.foldl listName [] := rfl

theorem nodup_listName {names : List String} (h : names.Nodup) (a : Artifact) :
    (listName names a).Nodup := by
  unfold listName
  split
  · exact h
  · next hnew =>
    rw [List.contains_iff_mem] at hnew
    exact List.nodup_append.2 ⟨h, by simp, by rintro x hx y hy rfl; simp_all⟩

theorem mem_listName {names : List String} {a : Artifact} {name : String} :
    name ∈ listName names a ↔ name ∈ names ∨ name = a.name := by
  unfold listName
  split
  · next hseen =>
    rw [List.contains_iff_mem] at hseen
    exact ⟨Or.inl, fun h => h.elim id fun heq => heq ▸ hseen⟩
  · simp

theorem nodup_foldl_listName (artifacts : List Artifact) {names : List String}
    (h : names.Nodup) : (artifacts.foldl listName names).Nodup := by
  induction artifacts generalizing names with
  | nil => exact h
  | cons a rest ih => exact ih (nodup_listName h a)

theorem mem_foldl_listName {artifacts : List Artifact} {names : List String} {name : String} :
    name ∈ artifacts.foldl listName names ↔
      name ∈ names ∨ name ∈ artifacts.map Artifact.name := by
  induction artifacts generalizing names with
  | nil => simp
  | cons a rest ih =>
    rw [List.foldl_cons, ih, mem_listName, List.map_cons, List.mem_cons, or_assoc]

variable {r : Registry}

/-- A registry lists every name once. -/
theorem names_perm_dedup (r : Registry) : r.names.Perm (r.artifacts.map Artifact.name).dedup := by
  rw [names_eq]
  refine (List.perm_ext_iff_of_nodup (nodup_foldl_listName _ List.nodup_nil)
    (List.nodup_dedup _)).2 fun name => ?_
  simp [mem_foldl_listName]

theorem size_eq_length_iff :
    r.size = r.artifacts.length ↔ (r.artifacts.map Artifact.name).Nodup := by
  rw [size, r.names_perm_dedup.length_eq]
  constructor
  · intro hlength
    rw [← List.dedup_eq_self]
    exact (List.dedup_sublist _).eq_of_length (by simpa using hlength)
  · intro hnames
    rw [hnames.dedup, List.length_map]

/-- A registry keeps every artifact when their names differ, and only then. -/
theorem get?_name_iff (hartifacts : r.artifacts.Nodup) :
    (∀ a ∈ r.artifacts, r.get? a.name = some a) ↔ (r.artifacts.map Artifact.name).Nodup := by
  rw [List.nodup_map_iff_inj_on hartifacts]
  constructor
  · intro hget a ha b hb hname
    exact Option.some.inj ((hget a ha).symm.trans (hname ▸ hget b hb))
  · intro hinj a ha
    cases hfind : r.artifacts.find? fun b => b.name == a.name with
    | none => exact absurd (beq_self_eq_true a.name) (List.find?_eq_none.1 hfind a ha)
    | some b =>
      have hname : b.name = a.name := by simpa using List.find?_some hfind
      rw [get?, hfind, hinj b (List.mem_of_find?_eq_some hfind) a ha hname]
      rfl

end Registry

/-- The names of the artifacts of a run are those at the places of its plans, and they differ
exactly when no two places have the same name. Then, and only then, factories differ too, and a
registry keeps every artifact. -/
theorem artifact_names_distinct_iff {providers : Providers} {schema : Schema} {config : Config}
    {sources : List SourceDocument} {artifacts : List Artifact}
    (h : (generateSamples providers schema config sources).result = .ok artifacts) :
    ∃ plans, Run.plans providers schema config sources = .ok plans ∧
      (∀ name, name ∈ artifacts.map Artifact.name ↔ ∃ p, Run.nameAt? plans p = some name) ∧
      ((artifacts.map Artifact.name).Nodup ↔ Run.Unambiguous plans) ∧
      ((artifacts.map Artifact.factory).Nodup ↔ Run.Unambiguous plans) ∧
      ((∀ a ∈ artifacts, (Registry.mk artifacts).get? a.name = some a) ↔
        Run.Unambiguous plans) ∧
      ((Registry.mk artifacts).size = artifacts.length ↔ Run.Unambiguous plans) := by
  obtain ⟨gs, w, trees, hemitted⟩ := Run.exists_emitted h
  have hunambiguous : Run.Unambiguous ((trees.map Prod.snd).map VisitTree.unnumbered) ↔
      (artifacts.map Artifact.name).Nodup := by
    rw [hemitted.nodup_names_iff, Run.Unambiguous, Run.nameAt?_unnumbered, Run.Unambiguous]
  refine ⟨_, hemitted.plans, ?_, ?_⟩
  · rw [Run.nameAt?_unnumbered]
    exact hemitted.mem_names_iff
  · rw [hunambiguous]
    exact ⟨Iff.rfl, hemitted.nodup_factories_iff,
      Registry.get?_name_iff hemitted.nodup_ids.of_map, Registry.size_eq_length_iff⟩

theorem artifact_names_distinct_iff_owner : ∃ artifacts plans,
    (generateSamples Pets.providers Pets.schema .defaults Pets.owner).result = .ok artifacts ∧
    Run.plans Pets.providers Pets.schema .defaults Pets.owner = .ok plans ∧
    (artifacts.map Artifact.name).Nodup ∧ Run.Unambiguous plans ∧
    (Registry.mk artifacts).size = 8 := by
  obtain ⟨artifacts, hresult, hcheck⟩ := Pets.exists_result Pets.owner
    (fun artifacts => decide (artifacts.map Artifact.name).Nodup && artifacts.length == 8)
    (by decide +kernel)
  simp only [Bool.and_eq_true, beq_iff_eq, decide_eq_true_eq] at hcheck
  obtain ⟨plans, hplans, -, hnames, -, -, hsize⟩ := artifact_names_distinct_iff hresult
  have hunambiguous := hnames.1 hcheck.1
  exact ⟨artifacts, plans, hresult, hplans, hcheck.1, hunambiguous,
    (hsize.2 hunambiguous).trans hcheck.2⟩

/-- The only query of a document asks for no union, and two of its shapes have the same name: the
friend of the owner, and what is asked for as `ownerFriend`. -/
theorem artifact_names_collide : Pets.schema.issues = [] ∧ ∃ gs after artifacts,
    (Run.generated Pets.providers Pets.schema .defaults Pets.friends).run.run .start =
      (.ok gs, after) ∧
    gs.map (fun g => g.target.name) = ["Home"] ∧ (∀ g ∈ gs, g.built.variants = []) ∧
    (generateSamples Pets.providers Pets.schema .defaults Pets.friends).result = .ok artifacts ∧
    ¬ (artifacts.map Artifact.name).Nodup ∧ ¬ (artifacts.map Artifact.factory).Nodup ∧
    (Registry.mk artifacts).size = 3 ∧ artifacts.length = 4 := by
  obtain ⟨artifacts, hresult, hcheck⟩ := Pets.exists_result Pets.friends
    (fun artifacts => !decide (artifacts.map Artifact.name).Nodup &&
      !decide (artifacts.map Artifact.factory).Nodup && (Registry.mk artifacts).size == 3 &&
      artifacts.length == 4)
    (by decide +kernel)
  simp only [Bool.and_eq_true, beq_iff_eq, Bool.not_eq_true', decide_eq_false_iff_not] at hcheck
  obtain ⟨⟨⟨hnames, hfactories⟩, hsize⟩, hlength⟩ := hcheck
  obtain ⟨gs, after, hgenerated, -⟩ := Run.exists_generated hresult
  have hgs : ((Run.generated Pets.providers Pets.schema .defaults
      Pets.friends).run.run .start).1.toOption.any
      (fun gs => gs.map (fun g => g.target.name) == ["Home"] &&
        gs.all fun g => g.built.variants.isEmpty) = true := by decide +kernel
  rw [hgenerated] at hgs
  obtain ⟨htargets, hvariants⟩ : gs.map (fun g => g.target.name) = ["Home"] ∧
      ∀ g ∈ gs, g.built.variants = [] := by simpa [Except.toOption] using hgs
  exact ⟨List.isEmpty_iff.1 (by decide +kernel), gs, after, artifacts, hgenerated, htargets,
    hvariants, hresult, hnames, hfactories, hsize, hlength⟩

end OperationSamples
