import Mathlib.Data.List.Forall2
import OperationSamples.Proofs.Renumbered
import OperationSamples.Proofs.World

/-!
Visits that run in lockstep.

Two states are compared up to an `Offset`: the numbers for marks and identities in one are ahead of
those in the other by fixed amounts, and what is remembered is the same with its numbers moved.
Two computations run in lockstep when, from such states, both fail in the same way, or both succeed
in such states again with results that are related.

A `Pairing` relates selection sets which a visit cannot tell apart: they are marked alike, their
analyses find the same fields over paired sets, and splitting them by member gives paired sets
again. Visits of paired sets run in lockstep and build the same shapes, with moved identities.
-/

namespace OperationSamples

/-- How far the numbers of one state are ahead of those of another. -/
structure Offset where
  marks : Nat
  ids : Nat

namespace Offset

variable (o : Offset)

def mark (m : Nat) : Nat := m + o.marks

def id (id : Nat) : Nat := id + o.ids

def entry (e : MemoKey × Option Nat × Built) : MemoKey × Option Nat × Built :=
  (e.1, e.2.1.map o.mark, e.2.2.renumbered o.id)

theorem mark_inj {m m' : Option Nat} : m.map o.mark = m'.map o.mark ↔ m = m' :=
  (Option.map_injective fun _ _ h => Nat.add_right_cancel h).eq_iff

/-- The first state is the second one with its numbers moved. What is remembered counts only while
a root is visited, and what was reported never does. -/
structure Moved (visiting : Bool) (moved state : BuildState) : Prop where
  nextMark : moved.nextMark = o.mark state.nextMark
  nextId : moved.nextId = o.id state.nextId
  memo : visiting = true → moved.memo = state.memo.map o.entry

/-- Both outcomes are the same fault, or both are results that are related. -/
def Agree {α β : Type} (visiting : Bool) (Q : α → β → Prop) :
    Except BuildFault α × BuildState → Except BuildFault β × BuildState → Prop
  | (.ok a, moved), (.ok b, state) => Q a b ∧ o.Moved visiting moved state
  | (.error fault, _), (.error fault', _) => fault = fault'
  | _, _ => False

/-- After a root was visited, what is remembered does not count. -/
theorem Agree.leave {α β : Type} {o : Offset} {Q : α → β → Prop}
    {first : Except BuildFault α × BuildState} {second : Except BuildFault β × BuildState}
    (h : o.Agree true Q first second) : o.Agree false Q first second := by
  match first, second with
  | (.ok _, _), (.ok _, _) => exact ⟨h.1, h.2.nextMark, h.2.nextId, by simp⟩
  | (.error _, _), (.error _, _) => exact h

end Offset

/-- The same fault, or related results. -/
inductive Alike {ε α β : Type} (Q : α → β → Prop) : Except ε α → Except ε β → Prop
  | ok {a : α} {b : β} : Q a b → Alike Q (.ok a) (.ok b)
  | error (fault : ε) : Alike Q (.error fault) (.error fault)

/-- From states that differ by the offset the two computations do the same. -/
def Lockstep {α β : Type} (o : Offset) (visiting : Bool) (Q : α → β → Prop) (x : Build α)
    (y : Build β) : Prop :=
  ∀ moved state, o.Moved visiting moved state →
    o.Agree visiting Q (x.run.run moved) (y.run.run state)

namespace Lockstep

variable {α β γ δ : Type} {o : Offset} {visiting : Bool}

protected theorem pure {Q : α → β → Prop} {a : α} {b : β} (h : Q a b) :
    Lockstep o visiting Q (pure a) (pure b) := fun _ _ hmoved => ⟨h, hmoved⟩

protected theorem throw {Q : α → β → Prop} (fault : BuildFault) :
    Lockstep o visiting Q (throw fault : Build α) (throw fault : Build β) := fun _ _ _ => rfl

protected theorem bind {Q : α → β → Prop} {R : γ → δ → Prop} {x : Build α} {y : Build β}
    {f : α → Build γ} {g : β → Build δ} (hx : Lockstep o visiting Q x y)
    (hf : ∀ a b, Q a b → Lockstep o visiting R (f a) (g b)) :
    Lockstep o visiting R (x >>= f) (y >>= g) := by
  intro moved state hmoved
  have hout := hx moved state hmoved
  rw [Follows.run_bind, Follows.run_bind]
  generalize x.run.run moved = first at hout
  generalize y.run.run state = second at hout
  match first, second with
  | (.ok a, _), (.ok b, _) => exact hf a b hout.1 _ _ hout.2
  | (.error _, _), (.error _, _) => exact hout
  | (.ok _, _), (.error _, _) => exact hout.elim
  | (.error _, _), (.ok _, _) => exact hout.elim

/-! Single steps. -/

theorem note (notices others : List Notice) :
    Lockstep o visiting (fun _ _ => True) (Build.note notices) (Build.note others) :=
  fun _ _ hmoved => ⟨trivial, hmoved.nextMark, hmoved.nextId, hmoved.memo⟩

/-- Reports do not count, only the values that they come with. -/
theorem logged {R : γ → δ → Prop} {x : Logged α} {y : Logged β} {f : α → Build γ}
    {g : β → Build δ} (h : Lockstep o visiting R (f x.value) (g y.value)) :
    Lockstep o visiting R (Build.ofLogged x >>= f) (Build.ofLogged y >>= g) := by
  simp only [Build.ofLogged, bind_assoc, pure_bind]
  exact Lockstep.bind (note _ _) fun _ _ _ => h

theorem ofWalk {Q : α → β → Prop} {walk : Analysis.Walk α} {other : Analysis.Walk β}
    (h : Alike Q walk.result other.result) :
    Lockstep o visiting Q (Build.ofWalk walk) (Build.ofWalk other) := by
  refine logged ?_
  unfold Analysis.Walk.result at h
  generalize walk.run.value = result at h ⊢
  generalize other.run.value = result' at h ⊢
  cases h with
  | ok hQ => exact Lockstep.pure hQ
  | error fault => exact Lockstep.throw _

theorem ofSample (x : Except SampleFault α) :
    Lockstep o visiting Eq (Build.ofSample x) (Build.ofSample x) := by
  cases x with
  | ok a => exact Lockstep.pure rfl
  | error fault => exact Lockstep.throw _

/-- A new shape gets the next identity, which is moved as well. -/
theorem assemble (site : Site) (set : SelectionSet) (name : ShapeName) (typeName : String)
    (slots : List Slot) :
    Lockstep o visiting (fun s t => s = t.renumbered o.id)
      (Shaper.assemble { site with set := set } name typeName (slots.map (Slot.renumbered o.id)))
      (Shaper.assemble site name typeName slots) := by
  intro moved state hmoved
  refine ⟨?_, hmoved.nextMark, ?_, hmoved.memo⟩
  · change _ = Shape.renumbered o.id _
    rw [Shape.ofSlots_renumbered, ← hmoved.nextId]
  · change moved.nextId + 1 = state.nextId + 1 + o.ids
    have hnext : moved.nextId = state.nextId + o.ids := hmoved.nextId
    omega

theorem known? (key : MemoKey) (mark : Option Nat) :
    Lockstep o true (fun x y => x = y.map (Built.renumbered o.id))
      (Build.known? key (mark.map o.mark)) (Build.known? key mark) := by
  intro moved state hmoved
  rw [Follows.run_known?, Follows.run_known?]
  refine ⟨?_, hmoved⟩
  have hfind : moved.memo.find? (fun e => e.1 = key) =
      (state.memo.find? fun e => e.1 = key).map o.entry := by
    rw [hmoved.memo rfl, List.find?_map]
    rfl
  rw [hfind]
  cases state.memo.find? fun e => e.1 = key with
  | none => rfl
  | some e =>
    by_cases hmark : e.2.1 = mark
    · simp [Offset.entry, hmark]
    · simp [Offset.entry, hmark, o.mark_inj]

theorem remember (key : MemoKey) (mark : Option Nat) (built : Built) :
    Lockstep o true (fun _ _ => True)
      (Build.remember key (mark.map o.mark) (built.renumbered o.id))
      (Build.remember key mark built) := by
  intro moved state hmoved
  refine ⟨trivial, hmoved.nextMark, hmoved.nextId, fun _ => ?_⟩
  change _ :: moved.memo = List.map o.entry (_ :: state.memo)
  rw [hmoved.memo rfl]
  rfl

/-! ### Paired sets -/

end Lockstep

/-- The same field, over sets that are related. -/
structure FieldInfo.Over (S : TypeDef → SelectionSet → SelectionSet → Prop)
    (info other : FieldInfo) : Prop where
  responseKey : info.responseKey = other.responseKey
  type : info.type = other.type
  namedType : info.namedType = other.namedType
  kind : info.kind = other.kind
  category : info.category = other.category
  set : Option.Rel (S other.namedType) info.set other.set

namespace FieldInfo.Over

variable {S : TypeDef → SelectionSet → SelectionSet → Prop} {info other : FieldInfo}

theorem isList_eq (h : info.Over S other) : info.isList = other.isList := by
  rw [isList, isList, h.type]

theorem slot_fieldOf (h : info.Over S other) : Slot.fieldOf info = Slot.fieldOf other := by
  funext content
  simp only [Slot.fieldOf, h.isList_eq, isNullable, h.responseKey, h.type]

theorem slot_ofObject (h : info.Over S other) : Slot.ofObject info = Slot.ofObject other := by
  funext child
  simp only [Slot.ofObject, h.slot_fieldOf, h.isList_eq, h.responseKey]

theorem slot_ofUnion (h : info.Over S other) : Slot.ofUnion info = Slot.ofUnion other := by
  funext members
  simp only [Slot.ofUnion, Slot.memberAlternatives, h.slot_fieldOf, h.isList_eq, h.responseKey]

end FieldInfo.Over

/-- A relation between the selection sets on a type under which a visit cannot tell them apart. -/
structure Pairing (schema : Schema) (split : Bool) (o : Offset)
    (S : TypeDef → SelectionSet → SelectionSet → Prop) : Prop where
  mark : ∀ {owner set other}, S owner set other → set.mark = other.mark.map o.mark
  marked : ∀ {owner set other} (next : Nat), S owner set other →
    S owner (set.marked (o.mark next)).1 (other.marked next).1 ∧
      (set.marked (o.mark next)).2 = o.mark (other.marked next).2
  analysed : ∀ {owner set other}, S owner set other →
    Alike
      (fun a b => List.Forall₂ (FieldInfo.Over S) a.fields b.fields ∧ a.folded = b.folded)
      (Analysis.ofSelections schema split owner set.selections).result
      (Analysis.ofSelections schema split owner other.selections).result
  expanded : ∀ {info other}, FieldInfo.Over S info other → other.category = .union →
    List.Forall₂
      (fun m n => m.member = n.member ∧ S n.member ⟨none, m.selections⟩ ⟨none, n.selections⟩)
      (MemberSelection.expand schema info).value (MemberSelection.expand schema other).value

namespace Pairing

variable {o : Offset} {S : TypeDef → SelectionSet → SelectionSet → Prop} {shaper : Shaper}

theorem lockstep_marked (h : Pairing shaper.schema shaper.split o S) {owner : TypeDef}
    {set other : SelectionSet} (hset : S owner set other) :
    Lockstep o true (S owner) (Build.marked set) (Build.marked other) := by
  intro moved state hmoved
  obtain ⟨hpaired, hnext⟩ := h.marked state.nextMark hset
  rw [← hmoved.nextMark] at hpaired hnext
  exact ⟨hpaired, hnext, hmoved.nextId, hmoved.memo⟩

theorem lockstep_markedField (h : Pairing shaper.schema shaper.split o S) {info other : FieldInfo}
    (hinfo : info.Over S other) :
    Lockstep o true (FieldInfo.Over S) (Build.markedField info) (Build.markedField other) := by
  unfold Build.markedField
  have hset := hinfo.set
  match hsome : info.set, hother : other.set with
  | none, none => exact Lockstep.pure hinfo
  | some set, some set' =>
    rw [hsome, hother] at hset
    cases hset with
    | some hpaired =>
      refine Lockstep.bind (h.lockstep_marked hpaired) ?_
      intro marked marked' hmarked
      exact Lockstep.pure { hinfo with set := .some hmarked }
  | some _, none =>
    rw [hsome, hother] at hset
    cases hset
  | none, some _ =>
    rw [hsome, hother] at hset
    cases hset

theorem lockstep_markedFields (h : Pairing shaper.schema shaper.split o S)
    {infos others : List FieldInfo} (hinfos : List.Forall₂ (FieldInfo.Over S) infos others) :
    Lockstep o true (List.Forall₂ (FieldInfo.Over S)) (infos.mapM Build.markedField)
      (others.mapM Build.markedField) := by
  induction hinfos with
  | nil => exact Lockstep.pure .nil
  | cons hinfo _ ih =>
    rw [List.mapM_cons, List.mapM_cons]
    refine Lockstep.bind (h.lockstep_markedField hinfo) fun first first' hfirst => ?_
    exact Lockstep.bind ih fun rest rest' hrest => Lockstep.pure (.cons hfirst hrest)

/-- How the shape at a place is built does not depend on which of two paired sets stands there. -/
def Blind (o : Offset) (S : TypeDef → SelectionSet → SelectionSet → Prop)
    (visit : Shaper.Visit) : Prop :=
  ∀ (site : Site) (set : SelectionSet), S site.owner set site.set →
    Lockstep o true (fun b c => b = c.renumbered o.id) (visit { site with set := set }) (visit site)

theorem lockstep_visitMembers (h : Pairing shaper.schema shaper.split o S) {visit : Shaper.Visit}
    (hvisit : Blind o S visit) (site : Site) (set : SelectionSet) {info other : FieldInfo}
    (hinfo : info.Over S other) {members others : List MemberSelection}
    (hmembers : List.Forall₂
      (fun m n => m.member = n.member ∧ S n.member ⟨none, m.selections⟩ ⟨none, n.selections⟩)
      members others) :
    Lockstep o true (fun bs cs => bs = cs.map fun c => (c.1, c.2.renumbered o.id))
      (Shaper.visitMembers visit { site with set := set } info members)
      (Shaper.visitMembers visit site other others) := by
  induction hmembers with
  | nil => exact Lockstep.pure rfl
  | @cons m n _ _ hmember _ ih =>
    obtain ⟨hsame, hpaired⟩ := hmember
    refine Lockstep.bind (h.lockstep_marked hpaired) fun marked marked' hmarked => ?_
    have hsite : Site.ofMember { site with set := set } info m.member marked =
        { site.ofMember other n.member marked' with set := marked } := by
      simp only [Site.ofMember, Site.relativeTo, Site.fullTo, hsame, hinfo.responseKey]
    rw [hsite]
    refine Lockstep.bind (hvisit _ marked hmarked) fun built built' hbuilt => ?_
    refine Lockstep.bind ih fun rest rest' hrest => Lockstep.pure ?_
    rw [hbuilt, hrest, hsame, List.map_cons]

theorem minimalSlot_eq {info other : FieldInfo} (hinfo : info.Over S other) :
    shaper.minimalSlot info = (shaper.minimalSlot other).renumbered o.id := by
  simp only [Shaper.minimalSlot, Slot.ofMinimal, hinfo.slot_fieldOf, hinfo.isList_eq,
    hinfo.namedType]
  rfl

theorem lockstep_unionSlot (h : Pairing shaper.schema shaper.split o S) {visit : Shaper.Visit}
    (hvisit : Blind o S visit) (site : Site) (set : SelectionSet) {info other : FieldInfo}
    (hinfo : info.Over S other) (hunion : other.category = .union) :
    Lockstep o true (fun s t => s = t.renumbered o.id)
      (shaper.unionSlot visit { site with set := set } info)
      (shaper.unionSlot visit site other) := by
  unfold Shaper.unionSlot
  refine Lockstep.logged ?_
  have hmembers := h.expanded hinfo hunion
  generalize (MemberSelection.expand shaper.schema info).value = members at hmembers ⊢
  generalize (MemberSelection.expand shaper.schema other).value = others at hmembers ⊢
  have hempty : members.isEmpty = others.isEmpty := by cases hmembers <;> rfl
  rw [hempty]
  split
  · exact Lockstep.bind (Lockstep.note _ _) fun _ _ _ => Lockstep.pure (minimalSlot_eq hinfo)
  · refine Lockstep.bind (h.lockstep_visitMembers hvisit site set hinfo hmembers) ?_
    intro built built' hbuilt
    refine Lockstep.pure ?_
    rw [hbuilt, hinfo.slot_ofUnion, Slot.ofUnion_renumbered]

theorem lockstep_leafSlot (site : Site) (set : SelectionSet) {info other : FieldInfo}
    (hinfo : info.Over S other) :
    Lockstep o true (fun s t => s = t.renumbered o.id)
      (shaper.leafSlot { site with set := set } info) (shaper.leafSlot site other) := by
  unfold Shaper.leafSlot
  simp only [Slot.ofEnum, Slot.ofScalar, hinfo.kind, hinfo.namedType, hinfo.responseKey,
    hinfo.slot_fieldOf, hinfo.isList_eq]
  split
  · exact Lockstep.pure rfl
  · refine Lockstep.bind (Lockstep.ofSample _) ?_
    rintro value _ rfl
    exact Lockstep.pure rfl

/-- The slot of a field is the same for both, whatever can be built below. -/
theorem lockstep_slotOf (h : Pairing shaper.schema shaper.split o S) {below : Option Shaper.Visit}
    (hbelow : ∀ visit ∈ below, Blind o S visit) (site : Site) (set : SelectionSet)
    {info other : FieldInfo} (hinfo : info.Over S other) :
    Lockstep o true (fun s t => s = t.renumbered o.id)
      (shaper.slotOf below { site with set := set } info) (shaper.slotOf below site other) := by
  unfold Shaper.slotOf
  rw [hinfo.category]
  match hcategory : other.category, below with
  | .leaf, _ => exact lockstep_leafSlot site set hinfo
  | .minimal, _ => exact Lockstep.pure (minimalSlot_eq hinfo)
  | .union, none => exact Lockstep.pure (minimalSlot_eq hinfo)
  | .object, none => exact Lockstep.pure (minimalSlot_eq hinfo)
  | .union, some visit => exact h.lockstep_unionSlot (hbelow visit rfl) site set hinfo hcategory
  | .object, some visit =>
    have hset := hinfo.set
    generalize info.set = own at hset ⊢
    generalize other.set = own' at hset ⊢
    cases hset with
    | none => exact Lockstep.pure (minimalSlot_eq hinfo)
    | @some inner inner' hpaired =>
      have hsite : Site.ofField { site with set := set } info inner =
          { site.ofField other inner' with set := inner } := by
        simp only [Site.ofField, Site.relativeTo, Site.fullTo, hinfo.namedType, hinfo.responseKey]
      dsimp only
      rw [hsite]
      refine Lockstep.bind (hbelow visit rfl _ inner hpaired) fun built built' hbuilt => ?_
      refine Lockstep.pure ?_
      rw [hbuilt, hinfo.slot_ofObject, Slot.ofObject_renumbered]

theorem lockstep_slotsOf (h : Pairing shaper.schema shaper.split o S) {below : Option Shaper.Visit}
    (hbelow : ∀ visit ∈ below, Blind o S visit) (site : Site) (set : SelectionSet)
    {infos others : List FieldInfo} (hinfos : List.Forall₂ (FieldInfo.Over S) infos others) :
    Lockstep o true (fun ss ts => ss = ts.map (Slot.renumbered o.id))
      (shaper.slotsOf below { site with set := set } infos)
      (shaper.slotsOf below site others) := by
  induction hinfos with
  | nil => exact Lockstep.pure rfl
  | cons hinfo _ ih =>
    refine Lockstep.bind (h.lockstep_slotOf hbelow site set hinfo) fun slot slot' hslot => ?_
    refine Lockstep.bind ih fun rest rest' hrest => Lockstep.pure ?_
    rw [hslot, hrest, List.map_cons]

theorem lockstep_variantsOf (site : Site) (set : SelectionSet) (typeName : String)
    (slots : List Slot) (onePath : Bool) (placed : List (Nat × Variant)) :
    Lockstep o true (fun vs ws => vs = ws.map (Variant.renumbered o.id))
      (Shaper.variantsOf { site with set := set } typeName (slots.map (Slot.renumbered o.id))
        onePath (placed.map (Slot.placedRenumbered o.id)))
      (Shaper.variantsOf site typeName slots onePath placed) := by
  induction placed with
  | nil => exact Lockstep.pure rfl
  | cons p rest ih =>
    obtain ⟨position, v⟩ := p
    rw [List.map_cons, Slot.placedRenumbered, Shaper.variantsOf, Shaper.variantsOf,
      Slot.fixedAt_renumbered]
    refine Lockstep.bind (Lockstep.assemble site set _ typeName _) fun shape shape' hshape => ?_
    refine Lockstep.bind ih fun others others' hothers => Lockstep.pure ?_
    rw [hshape, hothers]
    rfl

/-- The last part of building a shape, when its slots are there. -/
theorem lockstep_assembled (site : Site) (set : SelectionSet) (typeName : String)
    (slots : List Slot) :
    let assembled (site : Site) (slots : List Slot) : Build Built := do
      let shape ← Shaper.assemble site site.name typeName slots
      let alternatives := Slot.placedAlternatives slots
      let variants ← Shaper.variantsOf site typeName slots (Shaper.haveOnePath alternatives)
        alternatives
      return ⟨shape, variants⟩
    Lockstep o true (fun b c => b = c.renumbered o.id)
      (assembled { site with set := set } (slots.map (Slot.renumbered o.id)))
      (assembled site slots) := by
  dsimp only
  rw [Slot.placedAlternatives_renumbered, haveOnePath_renumbered]
  refine Lockstep.bind (Lockstep.assemble site set _ typeName _) fun shape shape' hshape => ?_
  refine Lockstep.bind (lockstep_variantsOf site set typeName _ _ _) ?_
  intro variants variants' hvariants
  refine Lockstep.pure ?_
  rw [hshape, hvariants]
  rfl

theorem lockstep_construct (h : Pairing shaper.schema shaper.split o S)
    {below : Option Shaper.Visit} (hbelow : ∀ visit ∈ below, Blind o S visit) :
    Blind o S (shaper.construct below) := by
  intro site set hset
  unfold Shaper.construct
  refine Lockstep.bind (Lockstep.note _ _) fun _ _ _ => ?_
  refine Lockstep.bind (Lockstep.ofWalk (h.analysed hset)) ?_
  rintro analysis analysis' ⟨hfields, hfolded⟩
  refine Lockstep.bind (h.lockstep_markedFields hfields) fun infos infos' hinfos => ?_
  dsimp only
  rw [hfolded]
  refine Lockstep.bind (h.lockstep_slotsOf hbelow site set hinfos) fun others others' hothers => ?_
  have hslots : ∀ first : Slot, first.renumbered o.id = first →
      first :: others = (first :: others').map (Slot.renumbered o.id) := by
    intro first hfirst
    rw [hothers, List.map_cons, hfirst]
  -- the discriminant refers to no shape
  rw [hslots _ rfl]
  exact lockstep_assembled site set _ _

/-- The marks of paired sets agree, so what is remembered for one is remembered for the other. -/
theorem lockstep_recallOr (h : Pairing shaper.schema shaper.split o S) {build : Shaper.Visit}
    (hbuild : Blind o S build) : Blind o S fun site => shaper.recallOr site (build site) := by
  intro site set hset
  have hmark : set.mark = site.set.mark.map o.mark := h.mark hset
  have hbuilt : Lockstep o true (fun b c => b = c.renumbered o.id)
      (do
        let built ← build { site with set := set }
        Build.remember site.key set.mark built
        return built)
      (do
        let built ← build site
        Build.remember site.key site.set.mark built
        return built) := by
    refine Lockstep.bind (hbuild site set hset) ?_
    rintro _ built rfl
    rw [hmark]
    exact Lockstep.bind (Lockstep.remember _ _ _) fun _ _ _ => Lockstep.pure rfl
  unfold Shaper.recallOr
  cases shaper.recalls with
  | false =>
    simp only [Bool.false_eq_true, if_false, pure_bind]
    exact hbuilt
  | true =>
    refine Lockstep.bind (Q := fun x y => x = y.map (Built.renumbered o.id)) ?_ ?_
    · simp only [hmark]
      exact Lockstep.known? site.key site.set.mark
    · rintro _ known rfl
      cases known with
      | none => exact hbuilt
      | some built => exact Lockstep.pure rfl

theorem lockstep_visit (h : Pairing shaper.schema shaper.split o S) (remaining : Nat) :
    Blind o S (shaper.visit remaining) := by
  induction remaining with
  | zero => exact h.lockstep_recallOr (h.lockstep_construct (by simp))
  | succ remaining ih =>
    refine h.lockstep_recallOr (h.lockstep_construct ?_)
    rintro _ ⟨⟩
    exact ih

/-- Roots with paired selections are built alike, whatever was built before. -/
theorem lockstep_visitRoot (h : Pairing shaper.schema shaper.split o S) {owner : TypeDef}
    {selections others : List Selection} (hroot : S owner ⟨none, selections⟩ ⟨none, others⟩)
    (name : ShapeName) (base : String) :
    Lockstep o false (fun b c => b = c.renumbered o.id)
      (shaper.visitRoot owner selections name base) (shaper.visitRoot owner others name base) := by
  have hrun : Lockstep o true (fun b c => b = c.renumbered o.id)
      (do
        let set ← Build.marked ⟨none, selections⟩
        shaper.visit shaper.maxDepth ⟨owner, set, name, base, "", "", 0⟩)
      (do
        let set ← Build.marked ⟨none, others⟩
        shaper.visit shaper.maxDepth ⟨owner, set, name, base, "", "", 0⟩) := by
    refine Lockstep.bind (h.lockstep_marked hroot) fun set set' hset => ?_
    exact h.lockstep_visit shaper.maxDepth ⟨owner, set', name, base, "", "", 0⟩ set hset
  intro moved state hmoved
  exact (hrun { moved with memo := [] } { state with memo := [] }
    ⟨hmoved.nextMark, hmoved.nextId, fun _ => rfl⟩).leave

end Pairing

end OperationSamples
