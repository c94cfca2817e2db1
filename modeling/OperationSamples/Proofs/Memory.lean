import OperationSamples.Proofs.Heads
import OperationSamples.Proofs.World

/-!
What a state remembers.

`Build.Keeps` is a small logic for what is remembered: from a state where all of it is good, a
computation ends in such a state, whether it fails or not, and its result satisfies a postcondition.
There is a rule for sequencing, one for every single step, and one for taking again what was built
before (`Build.Keeps.recallOr`). The result of a step that takes a shape again, or builds and
remembers it, is remembered afterwards (`mem_memo_of_recallOr`).
-/

namespace OperationSamples

/-- Whether everything that a state remembers is good. -/
def BuildState.Remembers (good : Built → Prop) (state : BuildState) : Prop :=
  ∀ entry ∈ state.memo, good entry.2.2

/-- Whether a computation keeps what is remembered good, and has a result that satisfies the
postcondition if it succeeds. -/
def Build.Keeps {α : Type} (good : Built → Prop) (x : Build α) (post : α → Prop) : Prop :=
  ∀ state : BuildState, state.Remembers good →
    (x.run.run state).2.Remembers good ∧ ∀ a, (x.run.run state).1 = .ok a → post a

/-- Whether visiting the places of some sort keeps what is remembered good, and has good results. -/
def Shaper.Visit.Keeps (place : Site → Prop) (good : Built → Prop) (visit : Shaper.Visit) : Prop :=
  ∀ site, place site → Build.Keeps good (visit site) good

namespace Build.Keeps

variable {α β : Type} {good : Built → Prop}

protected theorem pure {post : α → Prop} {a : α} (h : post a) : Keeps good (pure a) post :=
  fun _ hmemo => ⟨hmemo, fun _ heq => Except.ok.inj heq ▸ h⟩

protected theorem throw {post : α → Prop} (fault : BuildFault) :
    Keeps good (throw fault : Build α) post := fun _ hmemo => ⟨hmemo, fun _ heq => nomatch heq⟩

protected theorem bind {post : α → Prop} {post' : β → Prop} {x : Build α} {f : α → Build β}
    (hx : Keeps good x post) (hf : ∀ a, post a → Keeps good (f a) post') :
    Keeps good (x >>= f) post' := by
  intro state hmemo
  obtain ⟨hafter, hpost⟩ := hx state hmemo
  rw [Follows.run_bind]
  generalize x.run.run state = outcome at hafter hpost
  match outcome with
  | (.ok a, after) => exact hf a (hpost a rfl) after hafter
  | (.error fault, after) => exact ⟨hafter, fun _ heq => nomatch heq⟩

protected theorem mono {post post' : α → Prop} {x : Build α} (hx : Keeps good x post)
    (h : ∀ a, post a → post' a) : Keeps good x post' :=
  fun state hmemo => ⟨(hx state hmemo).1, fun a ha => h a ((hx state hmemo).2 a ha)⟩

/-! Single steps. -/

theorem note (notices : List Notice) : Keeps good (Build.note notices) fun _ => True :=
  fun _ hmemo => ⟨hmemo, fun _ _ => trivial⟩

theorem ofLogged (x : Logged α) : Keeps good (Build.ofLogged x) fun a => a = x.value :=
  (note x.notices).bind fun _ _ => Keeps.pure rfl

theorem ofWalk (walk : Analysis.Walk α) :
    Keeps good (Build.ofWalk walk) fun a => walk.result = .ok a := by
  refine (ofLogged walk.run).bind ?_
  rintro result rfl
  unfold Analysis.Walk.result
  cases walk.run.value with
  | ok a => exact Keeps.pure rfl
  | error fault => exact Keeps.throw _

theorem ofSample (x : Except SampleFault α) : Keeps good (Build.ofSample x) fun a => x = .ok a := by
  cases x with
  | ok a => exact Keeps.pure rfl
  | error fault => exact Keeps.throw _

theorem marked (set : SelectionSet) : Keeps good (Build.marked set) fun set' =>
    Selection.allHeads set'.selections = Selection.allHeads set.selections := by
  intro state hmemo
  refine ⟨hmemo, fun set' hset' => ?_⟩
  obtain rfl : (set.marked state.nextMark).1 = set' := Except.ok.inj hset'
  exact set.allHeads_marked state.nextMark

/-- Marking fields keeps what holds of a field with any other set that has the same heads. -/
theorem markedFields {holds : FieldInfo → Prop}
    (hmarked : ∀ (info : FieldInfo) (set set' : SelectionSet), holds info → info.set = some set →
      Selection.allHeads set'.selections = Selection.allHeads set.selections →
      holds { info with set := some set' })
    (infos : List FieldInfo) (h : ∀ info ∈ infos, holds info) :
    Keeps good (infos.mapM Build.markedField) fun ready =>
      ready.map FieldInfo.responseKey = infos.map FieldInfo.responseKey ∧
        ∀ info ∈ ready, holds info := by
  have hfield : ∀ info : FieldInfo, holds info → Keeps good (Build.markedField info) fun info' =>
      info'.responseKey = info.responseKey ∧ holds info' := by
    intro info hinfo
    unfold Build.markedField
    cases hset : info.set with
    | none => exact Keeps.pure ⟨rfl, hinfo⟩
    | some set =>
      exact (marked set).bind fun set' hheads =>
        Keeps.pure ⟨rfl, hmarked info set set' hinfo hset hheads⟩
  induction infos with
  | nil => exact Keeps.pure ⟨rfl, List.forall_mem_nil _⟩
  | cons info rest ih =>
    obtain ⟨hfirst, hrest⟩ := List.forall_mem_cons.1 h
    rw [List.mapM_cons]
    refine (hfield info hfirst).bind fun info' hinfo => ?_
    refine (ih hrest).bind fun others hothers => Keeps.pure ?_
    exact ⟨by simp [hinfo.1, hothers.1], List.forall_mem_cons.2 ⟨hinfo.2, hothers.2⟩⟩

theorem assemble (site : Site) (name : ShapeName) (typeName : String) (slots : List Slot) :
    Keeps good (Shaper.assemble site name typeName slots) fun s =>
      ∃ id, s = .ofSlots id name typeName site.full site.depth slots := by
  intro state hmemo
  refine ⟨hmemo, fun s hs => ?_⟩
  cases hs
  exact ⟨_, rfl⟩

theorem known? (key : MemoKey) (mark : Option Nat) :
    Keeps good (Build.known? key mark) fun known => ∀ built, known = some built → good built := by
  intro state hmemo
  rw [Follows.run_known?]
  refine ⟨hmemo, fun known hknown built hbuilt => ?_⟩
  obtain rfl := Except.ok.inj hknown
  obtain ⟨entry, hentry, hsame⟩ := Option.bind_eq_some_iff.1 hbuilt
  split at hsame
  · cases hsame
    exact hmemo entry (List.mem_of_find?_eq_some hentry)
  · cases hsame

theorem remember {key : MemoKey} {mark : Option Nat} {built : Built} (h : good built) :
    Keeps good (Build.remember key mark built) fun _ => True :=
  fun _ hmemo => ⟨fun _ hentry => (List.mem_cons.1 hentry).elim (fun heq => heq ▸ h)
    fun hold => hmemo _ hold, fun _ _ => trivial⟩

/-- What is taken again was good when it was remembered. -/
theorem recallOr {shaper : Shaper} {build : Build Built} (site : Site)
    (h : Keeps good build good) : Keeps good (shaper.recallOr site build) good := by
  have hfresh : Keeps good
      (do
        let built ← build
        Build.remember site.key site.set.mark built
        return built) good :=
    h.bind fun built hbuilt => (remember hbuilt).bind fun _ _ => Keeps.pure hbuilt
  unfold Shaper.recallOr
  dsimp only
  split
  · refine (known? _ _).bind fun known hgood => ?_
    cases known with
    | none => exact hfresh
    | some built => exact Keeps.pure (hgood built rfl)
  · rw [pure_bind]
    exact hfresh

theorem forget : Keeps good Build.forget fun _ => True :=
  fun _ _ => ⟨List.forall_mem_nil _, fun _ _ => trivial⟩

/-! Repeated steps. -/

/-- The members of a union are built one after the other. -/
theorem eachMember {place : Site → Prop} {visit : Shaper.Visit} (hvisit : visit.Keeps place good)
    (site : Site) (info : FieldInfo) (members : List MemberSelection)
    (h : ∀ m ∈ members, ∀ set : SelectionSet,
      Selection.allHeads set.selections = Selection.allHeads m.selections →
      place (site.ofMember info m.member set)) :
    Keeps good (Shaper.visitMembers visit site info members) fun built =>
      built.map Prod.fst = members.map (fun m => m.member.name) ∧ ∀ b ∈ built, good b.2 := by
  induction members with
  | nil => exact Keeps.pure ⟨rfl, List.forall_mem_nil _⟩
  | cons m rest ih =>
    obtain ⟨hfirst, hrest⟩ := List.forall_mem_cons.1 h
    refine (marked _).bind fun set hset => ?_
    refine (hvisit _ (hfirst set hset)).bind fun built hbuilt => ?_
    refine (ih hrest).bind fun others hothers => Keeps.pure ?_
    exact ⟨by simp [hothers.1], List.forall_mem_cons.2 ⟨hbuilt, hothers.2⟩⟩

/-- What one level keeps good, given the levels below it, all levels keep good. -/
theorem everyDepth {shaper : Shaper} {place : Site → Prop}
    (h : ∀ below : Option Shaper.Visit, (∀ visit, below = some visit → visit.Keeps place good) →
      ∀ site, place site → Keeps good (shaper.construct below site) good) (remaining : Nat) :
    (shaper.visit remaining).Keeps place good := by
  induction remaining with
  | zero =>
    intro site hsite
    exact recallOr site (h none (by simp) site hsite)
  | succ remaining ih =>
    intro site hsite
    refine recallOr site (h _ ?_ site hsite)
    rintro _ ⟨⟩
    exact ih

end Build.Keeps

/-! ### Successful runs -/

namespace Build

theorem exists_of_run_bind {α β : Type} {x : Build α} {f : α → Build β} {state after : BuildState}
    {b : β} (h : (x >>= f).run.run state = (.ok b, after)) :
    ∃ a between, x.run.run state = (.ok a, between) ∧ (f a).run.run between = (.ok b, after) := by
  rw [Follows.run_bind] at h
  generalize x.run.run state = outcome at h
  match outcome with
  | (.ok a, between) => exact ⟨a, between, rfl, h⟩
  | (.error fault, between) => cases h

theorem mem_memo_of_recallOr {shaper : Shaper} {site : Site} {build : Build Built}
    {state after : BuildState} {built : Built}
    (h : (shaper.recallOr site build).run.run state = (.ok built, after)) :
    ∃ entry ∈ after.memo, entry.2.2 = built := by
  have hfresh : ∀ before : BuildState, (do
      let built ← build
      Build.remember site.key site.set.mark built
      return built : Build Built).run.run before = (.ok built, after) →
        ∃ entry ∈ after.memo, entry.2.2 = built := by
    intro before hrun
    obtain ⟨fresh, between, -, hrun⟩ := exists_of_run_bind hrun
    cases hrun
    exact ⟨_, List.mem_cons_self, rfl⟩
  unfold Shaper.recallOr at h
  dsimp only at h
  split at h
  · obtain ⟨known, between, hknown, h⟩ := exists_of_run_bind h
    rw [Follows.run_known?] at hknown
    cases known with
    | none => exact hfresh between h
    | some old =>
      cases h
      obtain ⟨hfound, rfl⟩ := Prod.mk.inj hknown
      obtain ⟨entry, hentry, hsame⟩ := Option.bind_eq_some_iff.1 (Except.ok.inj hfound)
      split at hsame
      · exact ⟨entry, List.mem_of_find?_eq_some hentry, Option.some.inj hsame⟩
      · cases hsame
  · rw [pure_bind] at h
    exact hfresh state h

end Build

end OperationSamples
