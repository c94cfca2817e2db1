import Mathlib.Order.Basic
import OperationSamples.Proofs.Agreement

/-!
What a variant fixes.

A variant is the plain shape with one field fixed to one of its alternatives, and nothing else
changed (`Variant.FixesOneField`). What the alternatives of a field are is told by what was built
for it: the variants of the object that it selects, or the members of its union and their variants.
So a variant is accounted for by other things that the state remembers.

`Build.Extends` is a small logic for computations that only add to what is remembered and keep every
variant accounted for. A postcondition there speaks about what is remembered at the end. The main
statement is about everything that is built for a root, on all levels (`variants_fix_one_field`).
-/

namespace OperationSamples

/-- Whether a state remembers something that was built. -/
def BuildState.Knows (state : BuildState) (built : Built) : Prop :=
  ∃ entry ∈ state.memo, entry.2.2 = built

namespace Field

/-- Whether a shape is an alternative of a field: a variant of the object that the field selects, or
a member of its union, or a variant of one. -/
def Offers (known : Built → Prop) (f : Field Shape) (target : Shape) : Prop :=
  match f.content with
  | .shape plain => ∃ built, known built ∧ built.shape = plain ∧
      target ∈ built.variants.map Variant.shape
  | .union members => ∃ built, known built ∧ built.shape ∈ members ∧ target ∈ built.shapes
  | _ => False

/-- The field of the same name and wrapping that refers to one shape. -/
def fixedTo (f : Field Shape) (target : Shape) : Field Shape := { f with content := .shape target }

theorem Offers.mono {known known' : Built → Prop} (hle : known ≤ known') {f : Field Shape}
    {target : Shape} (h : f.Offers known target) : f.Offers known' target := by
  unfold Offers at h ⊢
  split at h
  · obtain ⟨built, hbuilt, hrest⟩ := h
    exact ⟨built, hle built hbuilt, hrest⟩
  · obtain ⟨built, hbuilt, hrest⟩ := h
    exact ⟨built, hle built hbuilt, hrest⟩
  · exact h

end Field

/-- Whether a variant differs from the plain shape, apart from its name, in one field only, which is
fixed to one of the alternatives of that field. -/
structure Variant.FixesOneField (known : Built → Prop) (plain : Shape) (v : Variant) : Prop where
  typeName : v.shape.typeName = plain.typeName
  path : v.shape.path = plain.path
  depth : v.shape.depth = plain.depth
  renamed : v.shape.name.qualified ≠ plain.name.qualified
  keys : Members.keys v.shape.value = Members.keys plain.value
  fixed : ∃ before f after target,
    plain.fields = before ++ f :: after ∧ v.shape.fields = before ++ f.fixedTo target :: after ∧
    f.fixedTo target ≠ f ∧ f.Offers known target ∧
    Members.get? v.shape.value f.name =
      some (.listIf f.isList (.factory target.name.factory)) ∧
    ∀ key, key ≠ f.name → Members.get? v.shape.value key = Members.get? plain.value key

/-- Whether all variants are accounted for by what is known. -/
def Built.Accounted (known : Built → Prop) (built : Built) : Prop :=
  ∀ v ∈ built.variants, v.FixesOneField known built.shape

/-- Whether a state remembers whatever accounts for the variants that it remembers. -/
def BuildState.Accounted (state : BuildState) : Prop :=
  ∀ built, state.Knows built → built.Accounted state.Knows

/-- Whether the alternatives of a slot are alternatives of its field, and other than what the field
refers to by itself. -/
def Slot.Accounted (known : Built → Prop) (slot : Slot) : Prop :=
  ∀ v ∈ slot.alternatives, slot.field.Offers known v.shape ∧ slot.field.fixedTo v.shape ≠ slot.field

section Accounted

variable {known known' : Built → Prop}

theorem Built.Accounted.mono (hle : known ≤ known') {built : Built} (h : built.Accounted known) :
    built.Accounted known' := by
  intro v hv
  obtain ⟨before, f, after, target, hplain, hfields, hne, hoffers, hvalue⟩ := (h v hv).fixed
  exact { h v hv with
    fixed := ⟨before, f, after, target, hplain, hfields, hne, hoffers.mono hle, hvalue⟩ }

theorem Slot.Accounted.mono (hle : known ≤ known') {slot : Slot} (h : slot.Accounted known) :
    slot.Accounted known' := fun v hv => ⟨(h v hv).1.mono hle, (h v hv).2⟩

namespace Slot

theorem accounted_of_alternatives {slot : Slot} (h : slot.alternatives = []) :
    slot.Accounted known := by
  rw [Accounted, h]
  exact List.forall_mem_nil _

theorem accounted_ofObject (info : FieldInfo) {child : Built} (hknown : known child)
    (h : child.Accounted known) : (ofObject info child).Accounted known := by
  refine List.forall_mem_map.2 fun v hv => ⟨⟨child, hknown, rfl, List.mem_map.2 ⟨v, hv, rfl⟩⟩, ?_⟩
  intro heq
  -- a variant has another name than its plain shape, so it is another shape
  have hshape : v.shape = child.shape := Content.shape.inj (congrArg Field.content heq)
  exact (h v hv).renamed (congrArg (fun s : Shape => s.name.qualified) hshape)

theorem accounted_ofUnion (info : FieldInfo) {members : List (String × Built)}
    (h : ∀ m ∈ members, known m.2) : (ofUnion info members).Accounted known := by
  intro v hv
  obtain ⟨m, hm, hv⟩ := List.mem_flatMap.1 hv
  have hshape : v.shape ∈ m.2.shapes := by
    rcases List.mem_cons.1 hv with rfl | hv
    · exact List.mem_cons_self
    · obtain ⟨w, hw, rfl⟩ := List.mem_map.1 hv
      exact List.mem_cons_of_mem _ (List.mem_map.2 ⟨w, hw, rfl⟩)
  have hmember : m.2.shape ∈ members.map fun m => m.2.shape := List.mem_map_of_mem hm
  exact ⟨⟨m.2, h m hm, hmember, hshape⟩, fun heq => nomatch congrArg Field.content heq⟩

end Slot

end Accounted

/-! ### Fixing a slot -/

section FixedSlot

variable {known : Built → Prop} {plain s : Shape} {before after : List Slot} {slot : Slot}
  {v : Variant}

theorem Shape.keys_value_fixed (hplain : plain.HasSlots (before ++ slot :: after))
    (hfixed : s.HasSlots (before ++ slot.fixed v :: after)) :
    Members.keys s.value = Members.keys plain.value := by
  simp only [hplain.value, hfixed.value, Members.keys_ofList, List.map_append, List.map_cons]
  rfl

theorem Shape.get?_value_fixed (hplain : plain.HasSlots (before ++ slot :: after))
    (hfixed : s.HasSlots (before ++ slot.fixed v :: after)) {key : String}
    (h : key ≠ slot.field.name) : Members.get? s.value key = Members.get? plain.value key := by
  rw [hplain.value, hfixed.value, List.map_append, List.map_append, List.map_cons, List.map_cons]
  exact Members.get?_ofList_congr _ _ h

/-- A slot after the discriminant, with what stands before and after it. No later slot has its
name. -/
theorem Slot.exists_fixedAt (discriminant : Slot) {others : List Slot} {position : Nat}
    (hdistinct : (others.map fun slot => slot.field.name).Nodup)
    (hslot : others[position]? = some slot) (v : Variant) :
    ∃ before after, discriminant :: others = before ++ slot :: after ∧
      fixedAt (discriminant :: others) (position + 1) v = before ++ slot.fixed v :: after ∧
      ∀ other ∈ after, other.field.name ≠ slot.field.name := by
  obtain ⟨hlt, -⟩ := List.getElem?_eq_some_iff.1 hslot
  obtain ⟨before, own, after, hothers, hlength, hfixed⟩ :=
    List.exists_of_modify (fun slot => slot.fixed v) hlt
  obtain rfl : own = slot := by
    rw [hothers, ← hlength, List.getElem?_append_right le_rfl, Nat.sub_self] at hslot
    exact Option.some.inj hslot
  refine ⟨discriminant :: before, after, ?_, ?_, fun other hother heq => ?_⟩
  · rw [hothers, List.cons_append]
  · rw [fixedAt, List.modify_succ_cons, List.cons_append]
    exact congrArg _ hfixed
  · rw [hothers, List.map_append, List.map_cons, List.nodup_append] at hdistinct
    exact (List.nodup_cons.1 hdistinct.2.1).1 (List.mem_map.2 ⟨other, hother, heq⟩)

/-- A variant tells its member in its name. -/
theorem Shaper.variantName_ne (site : Site) (onePath : Bool) (v : Variant) :
    (variantName site onePath v).qualified ≠ site.name.qualified := by
  intro h
  have hlength := congrArg String.length h
  have has : "As".length = 2 := rfl
  unfold variantName at hlength
  split at hlength <;>
    simp only [ShapeName.variant, ShapeName.variantAt, ShapeName.of, String.length_append]
      at hlength <;> omega

/-- A shape in which a slot is fixed to one of its alternatives fixes the field of that slot. -/
theorem Variant.FixesOneField.of_placed {discriminant : Slot} {others : List Slot}
    (hfirst : discriminant.alternatives = []) (hothers : ∀ slot ∈ others, slot.Accounted known)
    (hdistinct : (others.map fun slot => slot.field.name).Nodup) {placed : Nat × Variant}
    (hplaced : placed ∈ Slot.placedAlternatives (discriminant :: others)) (site : Site)
    (typeName : String) (onePath : Bool) (id id' : Nat) :
    FixesOneField known
      (.ofSlots id site.name typeName site.full site.depth (discriminant :: others))
      { placed.2 with
        shape := .ofSlots id' (Shaper.variantName site onePath placed.2) typeName site.full
          site.depth (Slot.fixedAt (discriminant :: others) placed.1 placed.2) } := by
  obtain ⟨position, v⟩ := placed
  obtain ⟨slot, hslot, hv⟩ := Slot.mem_placedAlternatives.1 hplaced
  cases position with
  | zero =>
    -- the discriminant has no alternatives
    cases hslot
    rw [hfirst] at hv
    cases hv
  | succ position =>
    have hslot : others[position]? = some slot := hslot
    obtain ⟨before, after, hsplit, hsplit', hlater⟩ :=
      Slot.exists_fixedAt discriminant hdistinct hslot v
    obtain ⟨hoffers, hne⟩ := hothers slot (List.mem_of_getElem? hslot) v hv
    have hplain : (Shape.ofSlots id site.name typeName site.full site.depth
        (discriminant :: others)).HasSlots (before ++ slot :: after) := hsplit ▸ rfl
    have hfixed : (Shape.ofSlots id' (Shaper.variantName site onePath v) typeName site.full
        site.depth (Slot.fixedAt (discriminant :: others) (position + 1) v)).HasSlots
          (before ++ slot.fixed v :: after) := hsplit' ▸ rfl
    refine ⟨rfl, rfl, rfl, Shaper.variantName_ne site onePath v,
      Shape.keys_value_fixed hplain hfixed, before.map Slot.field, slot.field,
      after.map Slot.field, v.shape, hplain.fields.trans List.map_append,
      hfixed.fields.trans List.map_append, hne, hoffers, ?_,
      fun key hkey => Shape.get?_value_fixed hplain hfixed hkey⟩
    rw [hfixed.value, List.map_append, List.map_cons]
    exact Members.get?_ofList_append _ (List.forall_mem_map.2 hlater)

end FixedSlot

/-! ### Computations that add to what is remembered -/

/-- Whether a computation that needs certain things to be known forgets nothing, keeps the variants
accounted for, and has a result that satisfies the postcondition if it succeeds. The postcondition
may refer to what is known in the end. -/
def Build.Extends {α : Type} (known : Built → Prop) (x : Build α)
    (post : (Built → Prop) → α → Prop) : Prop :=
  ∀ state : BuildState, state.Accounted → known ≤ state.Knows →
    (x.run.run state).2.Accounted ∧ state.Knows ≤ (x.run.run state).2.Knows ∧
      ∀ a, (x.run.run state).1 = .ok a → post (x.run.run state).2.Knows a

namespace Build.Extends

variable {α β : Type} {known : Built → Prop}

protected theorem pure {post : (Built → Prop) → α → Prop} {a : α}
    (h : ∀ known', known ≤ known' → post known' a) : Extends known (pure a) post :=
  fun _ hstate hle => ⟨hstate, le_rfl, fun _ heq => Except.ok.inj heq ▸ h _ hle⟩

protected theorem bind {post : (Built → Prop) → α → Prop} {post' : (Built → Prop) → β → Prop}
    {x : Build α} {f : α → Build β} (hx : Extends known x post)
    (hf : ∀ known' a, known ≤ known' → post known' a → Extends known' (f a) post') :
    Extends known (x >>= f) post' := by
  intro state hstate hle
  obtain ⟨hafter, hmore, hpost⟩ := hx state hstate hle
  rw [Follows.run_bind]
  generalize x.run.run state = outcome at hafter hmore hpost
  match outcome with
  | (.ok a, between) =>
    obtain ⟨hend, hrest, hresult⟩ :=
      hf between.Knows a (hle.trans hmore) (hpost a rfl) between hafter le_rfl
    exact ⟨hend, hmore.trans hrest, hresult⟩
  | (.error fault, between) => exact ⟨hafter, hmore, fun _ heq => nomatch heq⟩

/-- A step that leaves alone what is remembered. -/
theorem of_memo_eq {x : Build α} {post : α → Prop}
    (hmemo : ∀ state, (x.run.run state).2.memo = state.memo)
    (hpost : ∀ state a, (x.run.run state).1 = .ok a → post a) :
    Extends known x fun _ a => post a := by
  intro state hstate _
  have hknows : (x.run.run state).2.Knows = state.Knows := by
    unfold BuildState.Knows
    rw [hmemo]
  refine ⟨?_, hknows.ge, hpost state⟩
  unfold BuildState.Accounted
  rw [hknows]
  exact hstate

/-! Single steps. -/

protected theorem throw {post : (Built → Prop) → α → Prop} (fault : BuildFault) :
    Extends known (throw fault : Build α) post :=
  fun _ hstate _ => ⟨hstate, le_rfl, fun _ heq => nomatch heq⟩

theorem note (notices : List Notice) : Extends known (Build.note notices) fun _ _ => True :=
  of_memo_eq (fun _ => rfl) fun _ _ _ => trivial

theorem ofLogged (x : Logged α) : Extends known (Build.ofLogged x) fun _ a => a = x.value :=
  (note x.notices).bind fun _ _ _ _ => Extends.pure fun _ _ => rfl

theorem ofWalk (walk : Analysis.Walk α) :
    Extends known (Build.ofWalk walk) fun _ a => walk.result = .ok a := by
  refine (ofLogged walk.run).bind ?_
  rintro known' result - rfl
  unfold Analysis.Walk.result
  cases walk.run.value with
  | ok a => exact Extends.pure fun _ _ => rfl
  | error fault => exact Extends.throw _

theorem ofSample (x : Except SampleFault α) : Extends known (Build.ofSample x) fun _ _ => True := by
  cases x with
  | ok a => exact Extends.pure fun _ _ => trivial
  | error fault => exact Extends.throw _

theorem marked (set : SelectionSet) : Extends known (Build.marked set) fun _ _ => True :=
  of_memo_eq (fun _ => rfl) fun _ _ _ => trivial

theorem assemble (site : Site) (name : ShapeName) (typeName : String) (slots : List Slot) :
    Extends known (Shaper.assemble site name typeName slots) fun _ s =>
      ∃ id, s = .ofSlots id name typeName site.full site.depth slots := by
  refine of_memo_eq (fun _ => rfl) fun state s hs => ⟨state.nextId, ?_⟩
  exact (Except.ok.inj hs).symm

theorem known? (key : MemoKey) (mark : Option Nat) :
    Extends known (Build.known? key mark) fun known' found =>
      ∀ built, found = some built → known' built ∧ built.Accounted known' := by
  intro state hstate _
  rw [Follows.run_known?]
  refine ⟨hstate, le_rfl, fun found hfound built hbuilt => ?_⟩
  obtain rfl := Except.ok.inj hfound
  obtain ⟨entry, hentry, hsame⟩ := Option.bind_eq_some_iff.1 hbuilt
  split at hsame
  · have hknown : state.Knows built :=
      ⟨entry, List.mem_of_find?_eq_some hentry, Option.some.inj hsame⟩
    exact ⟨hknown, hstate built hknown⟩
  · cases hsame

theorem remember {built : Built} (key : MemoKey) (mark : Option Nat)
    (h : built.Accounted known) :
    Extends known (Build.remember key mark built) fun known' _ => known' built := by
  intro state hstate hle
  have hmore : state.Knows ≤ ((Build.remember key mark built).run.run state).2.Knows :=
    fun _ ⟨entry, hentry, heq⟩ => ⟨entry, List.mem_cons_of_mem _ hentry, heq⟩
  refine ⟨?_, hmore, fun _ _ => ⟨_, List.mem_cons_self, rfl⟩⟩
  rintro old ⟨entry, hentry, rfl⟩
  rcases List.mem_cons.1 hentry with rfl | hentry
  · exact h.mono (hle.trans hmore)
  · exact (hstate _ ⟨entry, hentry, rfl⟩).mono hmore

end Build.Extends

/-! ### Building accounts for all variants -/

/-- Whether visiting remembers what it builds and accounts for the variants of it. -/
def Shaper.Visit.Accounts (visit : Shaper.Visit) : Prop :=
  ∀ (known : Built → Prop) (site : Site), Build.Extends known (visit site)
    fun known' built => known' built ∧ built.Accounted known'

namespace Build.Extends

variable {known : Built → Prop} {shaper : Shaper}

theorem markedFields (infos : List FieldInfo) :
    Extends known (infos.mapM Build.markedField) fun _ ready =>
      ready.map FieldInfo.responseKey = infos.map FieldInfo.responseKey := by
  induction infos generalizing known with
  | nil => exact Extends.pure fun _ _ => rfl
  | cons info rest ih =>
    have hfirst : Extends known (Build.markedField info) fun _ info' =>
        info'.responseKey = info.responseKey := by
      unfold Build.markedField
      cases info.set with
      | none => exact Extends.pure fun _ _ => rfl
      | some set => exact (marked set).bind fun _ _ _ _ => Extends.pure fun _ _ => rfl
    rw [List.mapM_cons]
    refine hfirst.bind fun _ info' _ hinfo => ih.bind fun _ others _ hothers => ?_
    exact Extends.pure fun _ _ => by rw [List.map_cons, List.map_cons, hinfo, hothers]

theorem leafSlot (site : Site) (info : FieldInfo) :
    Extends known (shaper.leafSlot site info) fun known' slot =>
      slot.field.name = info.responseKey ∧ slot.Accounted known' := by
  unfold Shaper.leafSlot
  split
  · exact Extends.pure fun _ _ => ⟨rfl, Slot.accounted_of_alternatives rfl⟩
  · exact (ofSample _).bind fun _ _ _ _ =>
      Extends.pure fun _ _ => ⟨rfl, Slot.accounted_of_alternatives rfl⟩

theorem visitMembers {visit : Shaper.Visit} (hvisit : visit.Accounts) (site : Site)
    (info : FieldInfo) (members : List MemberSelection) :
    Extends known (Shaper.visitMembers visit site info members) fun known' built =>
      ∀ m ∈ built, known' m.2 := by
  induction members generalizing known with
  | nil => exact Extends.pure fun _ _ => List.forall_mem_nil _
  | cons m rest ih =>
    refine (marked _).bind fun _ set _ _ => (hvisit _ _).bind fun _ built _ hbuilt => ?_
    refine ih.bind fun _ others hle hothers => Extends.pure fun _ hle' => ?_
    exact List.forall_mem_cons.2 ⟨hle' _ (hle _ hbuilt.1), fun m hm => hle' _ (hothers m hm)⟩

theorem unionSlot {visit : Shaper.Visit} (hvisit : visit.Accounts) (site : Site)
    (info : FieldInfo) :
    Extends known (shaper.unionSlot visit site info) fun known' slot =>
      slot.field.name = info.responseKey ∧ slot.Accounted known' := by
  refine (ofLogged _).bind fun _ members _ _ => ?_
  split
  · exact (note _).bind fun _ _ _ _ =>
      Extends.pure fun _ _ => ⟨rfl, Slot.accounted_of_alternatives rfl⟩
  · refine (visitMembers hvisit site info members).bind fun _ built _ hbuilt => ?_
    exact Extends.pure fun _ hle =>
      ⟨rfl, Slot.accounted_ofUnion info fun m hm => hle _ (hbuilt m hm)⟩

theorem slotOf {below : Option Shaper.Visit} (hbelow : ∀ visit, below = some visit → visit.Accounts)
    (site : Site) (info : FieldInfo) :
    Extends known (shaper.slotOf below site info) fun known' slot =>
      slot.field.name = info.responseKey ∧ slot.Accounted known' := by
  unfold Shaper.slotOf
  split
  · exact leafSlot site info
  · exact unionSlot (hbelow _ rfl) site info
  · refine (hbelow _ rfl _ _).bind fun _ child _ hchild => Extends.pure fun _ hle => ⟨rfl, ?_⟩
    exact Slot.accounted_ofObject info (hle _ hchild.1) (hchild.2.mono hle)
  · exact Extends.pure fun _ _ => ⟨rfl, Slot.accounted_of_alternatives rfl⟩

theorem slotsOf {below : Option Shaper.Visit}
    (hbelow : ∀ visit, below = some visit → visit.Accounts) (site : Site)
    (infos : List FieldInfo) :
    Extends known (shaper.slotsOf below site infos) fun known' slots =>
      slots.map (fun slot => slot.field.name) = infos.map FieldInfo.responseKey ∧
        ∀ slot ∈ slots, slot.Accounted known' := by
  induction infos generalizing known with
  | nil => exact Extends.pure fun _ _ => ⟨rfl, List.forall_mem_nil _⟩
  | cons info rest ih =>
    refine (slotOf hbelow site info).bind fun _ slot _ hslot => ?_
    refine ih.bind fun _ others hle hothers => Extends.pure fun _ hle' => ⟨?_, ?_⟩
    · rw [List.map_cons, List.map_cons, hslot.1, hothers.1]
    · exact List.forall_mem_cons.2
        ⟨hslot.2.mono (hle.trans hle'), fun slot hmem => (hothers.2 slot hmem).mono hle'⟩

theorem variantsOf (site : Site) (typeName : String) (slots : List Slot) (onePath : Bool)
    (placed : List (Nat × Variant)) :
    Extends known (Shaper.variantsOf site typeName slots onePath placed) fun _ variants =>
      ∀ v ∈ variants, ∃ p ∈ placed, ∃ id, v = { p.2 with
        shape := .ofSlots id (Shaper.variantName site onePath p.2) typeName site.full site.depth
          (Slot.fixedAt slots p.1 p.2) } := by
  induction placed generalizing known with
  | nil => exact Extends.pure fun _ _ => List.forall_mem_nil _
  | cons p rest ih =>
    obtain ⟨position, v⟩ := p
    refine (assemble _ _ _ _).bind ?_
    rintro _ _ - ⟨id, rfl⟩
    refine ih.bind fun _ others _ hothers => Extends.pure fun _ _ => ?_
    refine List.forall_mem_cons.2 ⟨⟨_, List.mem_cons_self, id, rfl⟩, fun w hw => ?_⟩
    obtain ⟨p, hp, hid⟩ := hothers w hw
    exact ⟨p, List.mem_cons_of_mem _ hp, hid⟩

theorem construct {below : Option Shaper.Visit}
    (hbelow : ∀ visit, below = some visit → visit.Accounts) (site : Site) :
    Extends known (shaper.construct below site) fun known' built => built.Accounted known' := by
  refine (note _).bind fun _ _ _ _ => (ofWalk _).bind fun _ analysis _ hanalysis => ?_
  refine (markedFields analysis.fields).bind fun _ infos _ hinfos => ?_
  refine (slotsOf hbelow site infos).bind fun _ others _ hothers => ?_
  have hdistinct : (others.map fun slot => slot.field.name).Nodup := by
    rw [hothers.1, hinfos]
    exact Analysis.nodup_keys hanalysis
  refine (assemble _ _ _ _).bind ?_
  rintro _ _ hle ⟨id, rfl⟩
  refine (variantsOf site _ _ _ _).bind fun _ variants hle' hvariants => ?_
  refine Extends.pure fun _ hle'' v hv => ?_
  obtain ⟨p, hp, id', rfl⟩ := hvariants v hv
  have hslots : ∀ slot ∈ others, slot.Accounted _ := fun slot hslot =>
    (hothers.2 slot hslot).mono (hle.trans (hle'.trans hle''))
  exact .of_placed rfl hslots hdistinct hp site _ _ id id'

theorem recallOr {build : Build Built} (site : Site)
    (h : ∀ known, Extends known build fun known' built => built.Accounted known') :
    Extends known (shaper.recallOr site build) fun known' built =>
      known' built ∧ built.Accounted known' := by
  have hfresh : ∀ known, Extends known (do
      let built ← build
      Build.remember site.key site.set.mark built
      return built) fun known' built => known' built ∧ built.Accounted known' := by
    refine fun known => (h known).bind fun _ built _ hbuilt => ?_
    refine (remember _ _ hbuilt).bind fun _ _ hle hknown => Extends.pure fun _ hle' => ?_
    exact ⟨hle' _ hknown, hbuilt.mono (hle.trans hle')⟩
  unfold Shaper.recallOr
  dsimp only
  split
  · refine (known? _ _).bind fun _ found _ hfound => ?_
    cases found with
    | none => exact hfresh _
    | some built =>
      obtain ⟨hknown, hbuilt⟩ := hfound built rfl
      exact Extends.pure fun _ hle => ⟨hle _ hknown, hbuilt.mono hle⟩
  · rw [pure_bind]
    exact hfresh _

/-- Whatever the depth, visiting accounts for all variants. -/
theorem visit (remaining : Nat) : Shaper.Visit.Accounts (shaper.visit remaining) := by
  induction remaining with
  | zero => exact fun _ site => recallOr site fun _ => construct (by simp) site
  | succ remaining ih =>
    refine fun _ site => recallOr site fun _ => construct ?_ site
    rintro _ ⟨⟩
    exact ih

end Build.Extends

/-- **Variants.** Whatever is built for a root and below it, in a visit that succeeds or fails, each
variant of it has the type, the path, the depth and, in order, the keys of the plain shape, and also
its fields and samples but for one field. That one has the same name and wrapping, and refers to one
of the alternatives. -/
theorem variants_fix_one_field (shaper : Shaper) (owner : TypeDef) (selections : List Selection)
    (name : ShapeName) (base : String) (state : BuildState) :
    let outcome := (shaper.visitRoot owner selections name base).run.run state
    (∀ built, outcome.1 = .ok built → outcome.2.Knows built) ∧
      ∀ built, outcome.2.Knows built →
        ∀ v ∈ built.variants, v.FixesOneField outcome.2.Knows built.shape := by
  have hvisit : Build.Extends (fun _ => False) (do
      let set ← Build.marked ⟨none, selections⟩
      shaper.visit shaper.maxDepth ⟨owner, set, name, base, "", "", 0⟩)
      fun known built => known built ∧ built.Accounted known :=
    (Build.Extends.marked _).bind fun _ _ _ _ => Build.Extends.visit _ _ _
  -- nothing is remembered when the visit starts
  have hempty : ({ state with memo := [] } : BuildState).Accounted := by
    rintro built ⟨_, ⟨⟩, -⟩
  obtain ⟨hafter, -, hresult⟩ := hvisit { state with memo := [] } hempty fun _ h => h.elim
  exact ⟨fun built hbuilt => (hresult built hbuilt).1, hafter⟩

/-- The pet of an owner is a cat or a dog, so the variants of the query fix the owner. -/
theorem variants_fix_one_field_owner :
    let shaper : Shaper := ⟨Pets.schema, ⟨Pets.providers, []⟩, false, 5, true⟩
    let query : TypeDef := ⟨"Query", [], .object [] [Pets.field "owner" "Person"]⟩
    let selections := [Pets.branch "owner" [Pets.branch "pet" [.inline (some "Cat") []
      [Pets.leaf "mood"], .inline (some "Dog") [] [Pets.branch "owner" [Pets.leaf "mood"]]]]]
    let outcome := (shaper.visitRoot query selections (.of "HomeQuery") "Home").run.run .start
    ∃ built, outcome.1 = .ok built ∧ outcome.2.Knows built ∧
      built.variants.map (fun v => v.shape.name.qualified) = ["HomeQueryAsCat", "HomeQueryAsDog"] ∧
      ∀ v ∈ built.variants, v.FixesOneField outcome.2.Knows built.shape := by
  intro shaper query selections outcome
  have hnames : outcome.1.toOption.map (fun built =>
      built.variants.map fun v => v.shape.name.qualified) =
        some ["HomeQueryAsCat", "HomeQueryAsDog"] := by decide +kernel
  have hfixed := variants_fix_one_field shaper query selections (.of "HomeQuery") "Home" .start
  cases hbuilt : outcome.1 with
  | error fault =>
    rw [hbuilt] at hnames
    cases hnames
  | ok built =>
    rw [hbuilt] at hnames
    have hknown := hfixed.1 built hbuilt
    exact ⟨built, rfl, hknown, Option.some.inj hnames, hfixed.2 built hknown⟩

end OperationSamples
