import OperationSamples.Proofs.Emission
import OperationSamples.Proofs.Filing
import OperationSamples.Proofs.VisitTree

/-!
What has been built so far.

A `World` records what the numbers in a `BuildState` stand for: the sets that marks were given to,
and the shapes that identities were given to, each with the place or the shape it was built for. It
only grows. A tree is `Grown` in a world when its shapes are on record for the places where they
stand in the tree.

A computation `Follows` a pure result when it succeeds and fails as the result does, and ends in a
larger world with a value that is related to the result. The rules for sequencing let a visit be
compared with its draft line by line.
-/

namespace OperationSamples

/-- What a shape was built for. -/
inductive Origin where
  /-- The plain shape that some response keys lead to below a root; the shape of a member of a union
  has a position among the members. -/
  | plain (root : Nat) (keys : List String) (member : Option Nat)
  /-- One of the variants of the plain shape with the given identity. -/
  | variant (plain : Nat) (position : Nat)

structure World where
  files : Files
  shapes : Nat → Option (Shape × Origin)
  closed : ∀ id s o, shapes id = some (s, o) → ∀ t ∈ s.dependencies, ∃ o, shapes t.id = some (t, o)

namespace World

/-- The shape is on record, with what it was built for. -/
def Has (w : World) (s : Shape) (o : Origin) : Prop := w.shapes s.id = some (s, o)

/-- The newer world has everything that the older one has. -/
structure Within (older newer : World) : Prop where
  files : older.files.Within newer.files
  shapes : ∀ s o, older.Has s o → newer.Has s o

theorem Within.refl (w : World) : w.Within w := ⟨.refl _, fun _ _ h => h⟩

theorem Within.trans {first second third : World} (h : first.Within second)
    (h' : second.Within third) : first.Within third :=
  ⟨h.files.trans h'.files, fun s o hs => h'.shapes s o (h.shapes s o hs)⟩

def empty : World := ⟨fun _ => none, fun _ => none, by simp⟩

/-- The world with a new record of marks. -/
def refile (w : World) (files : Files) : World := { w with files := files }

theorem within_refile {w : World} {files : Files} (h : w.files.Within files) :
    w.Within (w.refile files) := ⟨h, fun _ _ hs => hs⟩

/-- The world with one more shape. -/
def add (w : World) (s : Shape) (o : Origin) (hfree : w.shapes s.id = none)
    (hdeps : ∀ t ∈ s.dependencies, ∃ o, w.Has t o) : World where
  files := w.files
  shapes := fun id => if id = s.id then some (s, o) else w.shapes id
  closed := by
    -- dependencies are older, so they have other identities
    have hkeep : ∀ t o', w.shapes t.id = some (t, o') →
        (if t.id = s.id then some (s, o) else w.shapes t.id) = some (t, o') := by
      intro t o' h
      have hne : t.id ≠ s.id := by
        intro hid
        rw [hid, hfree] at h
        cases h
      rw [if_neg hne, h]
    intro id t o' h x hx
    split at h
    · cases h
      obtain ⟨ox, hox⟩ := hdeps x hx
      exact ⟨ox, hkeep x ox hox⟩
    · obtain ⟨ox, hox⟩ := w.closed id t o' h x hx
      exact ⟨ox, hkeep x ox hox⟩

section Add

variable {w : World} {s : Shape} {o : Origin} {hfree : w.shapes s.id = none}
  {hdeps : ∀ t ∈ s.dependencies, ∃ o, w.Has t o}

theorem has_add : (w.add s o hfree hdeps).Has s o := by simp [Has, add]

theorem within_add : w.Within (w.add s o hfree hdeps) := by
  refine ⟨.refl _, ?_⟩
  intro t o' h
  have hne : t.id ≠ s.id := by
    intro hid
    rw [Has, hid, hfree] at h
    cases h
  simpa only [Has, add, if_neg hne] using h

end Add

/-- The shapes on record are told apart by their identities. -/
theorem distinguished (w : World) : Distinguished fun s => ∃ o, w.Has s o := by
  refine ⟨?_, ?_⟩
  · rintro s t ⟨o, hs⟩ ht
    exact w.closed _ s o hs t ht
  · rintro s t ⟨o, hs⟩ ⟨o', ht⟩ hid
    rw [Has, hid, ht] at hs
    cases hs
    rfl

end World

/-- Whether the shapes of a tree are on record: those of its root stand at the address, and are
built for the member of a union at the given position if there is one. -/
inductive Grown (root : Nat) (w : World) : Address → Option Nat → VisitTree → Prop
  | node {address : Address} {member : Option Nat} {typeName : String} {number : Nat → Nat}
      {built : Built} {branches : List (Branch VisitTree)}
      (shaped : built = (address.frame typeName).built number (branches.map Branch.slot))
      (plain : w.Has built.shape (.plain root address.keys member))
      (variants : ∀ i v, built.variants[i]? = some v →
        w.Has v.shape (.variant built.shape.id i))
      (distinct : branches.Pairwise Branch.Apart)
      (named : ∀ b ∈ branches, ∀ position name child,
        b.child? position = some (some name, child) → child.built.shape.typeName = name)
      (below : ∀ b ∈ branches, ∀ position name child, b.child? position = some (name, child) →
        Grown root w (address.led b.key name) position child) :
      Grown root w address member (.node built branches)

theorem Grown.mono {root : Nat} {older newer : World} {address : Address} {member : Option Nat}
    {t : VisitTree} (h : Grown root older address member t) (hle : older.Within newer) :
    Grown root newer address member t := by
  induction h with
  | node shaped plain variants distinct named _ ih =>
    exact .node shaped (hle.shapes _ _ plain) (fun i v hv => hle.shapes _ _ (variants i v hv))
      distinct named ih

/-! ### States -/

/-- What is remembered about a shape below a root was built for the set with its mark, as drafted.
-/
def Recalls (shaper : Shaper) (root : Nat) (w : World) : MemoKey × Option Nat × Built → Prop
  | (key, mark, built) => ∃ m filing, mark = some m ∧ w.files m = some filing ∧
    (filing.keys ≠ [] →
      let address : Address := ⟨.of key.name, key.name, filing.keys⟩
      ∃ t : VisitTree, t.built = built ∧ Grown root w address filing.member t ∧
        ∀ owner, shaper.schema.type? key.owner = some owner →
          shaper.draft (shaper.maxDepth - filing.keys.length)
            ⟨address, owner, filing.selections.map Selection.unmarked⟩ = .ok t.unnumbered)

theorem Recalls.mono {shaper : Shaper} {root : Nat} {older newer : World}
    {entry : MemoKey × Option Nat × Built} (h : Recalls shaper root older entry)
    (hle : older.Within newer) : Recalls shaper root newer entry := by
  obtain ⟨m, filing, hm, hfile, h⟩ := h
  refine ⟨m, filing, hm, hle.files m filing hfile, fun hkeys => ?_⟩
  obtain ⟨t, hbuilt, hgrown, hdraft⟩ := h hkeys
  exact ⟨t, hbuilt, hgrown.mono hle, hdraft⟩

/-- Whether a world says what the numbers in a state stand for. While a root is visited, what is
remembered was built for that root. -/
structure Fits (shaper : Shaper) (root : Option Nat) (w : World) (state : BuildState) : Prop where
  marks : w.files.Bounded state.nextMark
  ids : ∀ id, state.nextId ≤ id → w.shapes id = none
  memo : ∀ r, root = some r → ∀ entry ∈ state.memo, Recalls shaper r w entry

/-- With nothing on record, every state is fit to start from. -/
theorem fits_empty (shaper : Shaper) (state : BuildState) : Fits shaper none .empty state where
  marks := fun _ _ h => nomatch h
  ids := fun _ _ => rfl
  memo := by simp

/-! ### Following -/

/-- A result that was reached in a state from a world matches a pure result. -/
def Matches {α β : Type} (shaper : Shaper) (root : Option Nat) (w : World)
    (Q : World → α → β → Prop) :
    Except BuildFault α × BuildState → Except BuildFault β → Prop
  | (.ok a, after), .ok b => ∃ w', w.Within w' ∧ Fits shaper root w' after ∧ Q w' a b
  | (.error fault, _), .error fault' => fault = fault'
  | _, _ => False

theorem Matches.of_within {α β : Type} {shaper : Shaper} {root : Option Nat} {w w' : World}
    {Q : World → α → β → Prop} {outcome : Except BuildFault α × BuildState}
    {p : Except BuildFault β} (h : Matches shaper root w' Q outcome p) (hle : w.Within w') :
    Matches shaper root w Q outcome p := by
  match outcome, p with
  | (.ok _, _), .ok _ =>
    obtain ⟨w'', hw, hfits, hQ⟩ := h
    exact ⟨w'', hle.trans hw, hfits, hQ⟩
  | (.error _, _), .error _ => exact h
  | (.ok _, _), .error _ => exact h
  | (.error _, _), .ok _ => exact h

/-- After a root was visited, nothing needs to be said about what is remembered. -/
theorem Matches.leave {α β : Type} {shaper : Shaper} {root : Option Nat} {w : World}
    {Q : World → α → β → Prop} {outcome : Except BuildFault α × BuildState}
    {p : Except BuildFault β} (h : Matches shaper root w Q outcome p) :
    Matches shaper none w Q outcome p := by
  match outcome, p with
  | (.ok _, _), .ok _ =>
    obtain ⟨w', hw, hfits, hQ⟩ := h
    exact ⟨w', hw, ⟨hfits.marks, hfits.ids, by simp⟩, hQ⟩
  | (.error _, _), .error _ => exact h
  | (.ok _, _), .error _ => exact h
  | (.error _, _), .ok _ => exact h

/-- Started in a state that fits the world, the computation does what the pure result says. -/
def Follows {α β : Type} (shaper : Shaper) (root : Option Nat) (w : World) (x : Build α)
    (p : Except BuildFault β) (Q : World → α → β → Prop) : Prop :=
  ∀ state, Fits shaper root w state → Matches shaper root w Q (x.run.run state) p

namespace Follows

variable {α β γ δ : Type} {shaper : Shaper} {root : Option Nat} {w : World}

protected theorem pure {Q : World → α → β → Prop} {a : α} {b : β} (h : Q w a b) :
    Follows shaper root w (pure a) (.ok b) Q := fun _ hfits => ⟨w, .refl w, hfits, h⟩

protected theorem throw {Q : World → α → β → Prop} (fault : BuildFault) :
    Follows shaper root w (throw fault : Build α) (.error fault) Q := fun _ _ => rfl

protected theorem mono {Q R : World → α → β → Prop} {x : Build α} {p : Except BuildFault β}
    (h : Follows shaper root w x p Q) (hle : ∀ w' a b, w.Within w' → Q w' a b → R w' a b) :
    Follows shaper root w x p R := by
  intro state hfits
  have hx := h state hfits
  generalize x.run.run state = outcome at hx
  match outcome, p with
  | (.ok a, after), .ok b =>
    obtain ⟨w', hw, hfits', hQ⟩ := hx
    exact ⟨w', hw, hfits', hle w' a b hw hQ⟩
  | (.error fault, _), .error fault' => exact hx
  | (.ok _, _), .error _ => exact hx
  | (.error _, _), .ok _ => exact hx

theorem run_bind (x : Build α) (f : α → Build γ) (state : BuildState) :
    (x >>= f).run.run state = match x.run.run state with
      | (.ok a, after) => (f a).run.run after
      | (.error fault, after) => (.error fault, after) := by
  rw [ExceptT.run_bind, StateT.run_bind]
  generalize x.run.run state = outcome
  obtain ⟨result, after⟩ := outcome
  cases result <;> rfl

protected theorem bind {Q : World → α → β → Prop} {R : World → γ → δ → Prop} {x : Build α}
    {p : Except BuildFault β} {f : α → Build γ} {g : β → Except BuildFault δ}
    (hx : Follows shaper root w x p Q)
    (hf : ∀ w' a b, w.Within w' → p = .ok b → Q w' a b → Follows shaper root w' (f a) (g b) R) :
    Follows shaper root w (x >>= f) (p >>= g) R := by
  intro state hfits
  have hout := hx state hfits
  rw [run_bind]
  generalize x.run.run state = outcome at hout
  match outcome, p with
  | (.ok a, after), .ok b =>
    obtain ⟨w', hw, hfits', hQ⟩ := hout
    exact (hf w' a b hw rfl hQ after hfits').of_within hw
  | (.error _, _), .error _ => exact hout
  | (.ok _, _), .error _ => exact hout.elim
  | (.error _, _), .ok _ => exact hout.elim

/-- A step that has no counterpart in the pure result. -/
protected theorem step {Q : World → α → Unit → Prop} {R : World → γ → δ → Prop} {x : Build α}
    {f : α → Build γ} {p : Except BuildFault δ} (hx : Follows shaper root w x (.ok ()) Q)
    (hf : ∀ w' a, w.Within w' → Q w' a () → Follows shaper root w' (f a) p R) :
    Follows shaper root w (x >>= f) p R :=
  Follows.bind (g := fun _ => p) hx fun w' a _ hw _ hQ => hf w' a hw hQ

/-- A result that is changed afterwards. -/
protected theorem map {Q : World → α → β → Prop} {x : Build α} {p : Except BuildFault β}
    (g : β → δ) (h : Follows shaper root w x p Q) :
    Follows shaper root w x (p.map g) fun w' a c => ∃ b, p = .ok b ∧ c = g b ∧ Q w' a b := by
  intro state hfits
  have hx := h state hfits
  generalize x.run.run state = outcome at hx
  match outcome, p with
  | (.ok a, after), .ok b =>
    obtain ⟨w', hw, hfits', hQ⟩ := hx
    exact ⟨w', hw, hfits', b, rfl, rfl, hQ⟩
  | (.error _, _), .error _ => exact hx
  | (.ok _, _), .error _ => exact hx
  | (.error _, _), .ok _ => exact hx

/-! Single steps. -/

theorem note (notices : List Notice) :
    Follows shaper root w (Build.note notices) (.ok ()) fun w' _ _ => w' = w :=
  fun _ hfits => ⟨w, .refl w, ⟨hfits.marks, hfits.ids, hfits.memo⟩, rfl⟩

theorem logged {x : Logged α} {f : α → Build γ} {p : Except BuildFault δ}
    {R : World → γ → δ → Prop} (h : Follows shaper root w (f x.value) p R) :
    Follows shaper root w (Build.ofLogged x >>= f) p R := by
  rw [Build.ofLogged, bind_assoc]
  refine Follows.step (note x.notices) ?_
  rintro _ _ - rfl
  rwa [pure_bind]

theorem ofWalk (walk : Analysis.Walk α) :
    Follows shaper root w (Build.ofWalk walk) (walk.result.mapError .analysis) fun w' a b =>
      w' = w ∧ a = b := by
  refine logged ?_
  unfold Analysis.Walk.result
  cases walk.run.value with
  | ok a => exact Follows.pure ⟨rfl, rfl⟩
  | error fault => exact Follows.throw _

theorem ofSample (x : Except SampleFault α) :
    Follows shaper root w (Build.ofSample x) (x.mapError .sample) fun w' a b =>
      w' = w ∧ a = b := by
  cases x with
  | ok a => exact Follows.pure ⟨rfl, rfl⟩
  | error fault => exact Follows.throw _

/-- Marking a filed set puts it on file. -/
theorem marked {set : SelectionSet} {keys : List String} {member : Option Nat}
    (h : set.Filed w.files keys member) :
    Follows shaper root w (Build.marked set) (.ok ()) fun w' set' _ =>
      set'.OnFile w'.files keys member ∧ set'.unmarked = set.unmarked := by
  intro state hfits
  obtain ⟨files, hgrows, honFile, hsame⟩ := SelectionSet.exists_onFile_marked hfits.marks h
  have hwithin : w.Within (w.refile files) := World.within_refile (hgrows.within hfits.marks)
  refine ⟨w.refile files, hwithin, ⟨hgrows.bounded, hfits.ids, ?_⟩, honFile, hsame⟩
  intro r hr entry hentry
  exact (hfits.memo r hr entry hentry).mono hwithin

/-- A new shape is on record with its name and slots, and with whatever it is built for. -/
theorem assemble {site : Site} {name : ShapeName} {typeName : String} {slots : List Slot}
    (o : Origin) (hdeps : ∀ slot ∈ slots, ∀ t ∈ slot.dependencies, ∃ o, w.Has t o) :
    Follows shaper root w (Shaper.assemble site name typeName slots) (.ok ()) fun w' s _ =>
      w'.Has s o ∧ ∃ id, s = .ofSlots id name typeName site.full site.depth slots := by
  intro state hfits
  let s : Shape := .ofSlots state.nextId name typeName site.full site.depth slots
  have hfree : w.shapes s.id = none := hfits.ids _ (Nat.le_refl _)
  have hbelow : ∀ t ∈ s.dependencies, ∃ o, w.Has t o := by
    intro t ht
    obtain ⟨slot, hslot, ht⟩ := List.mem_flatMap.1 ht
    exact hdeps slot hslot t ht
  have hwithin : w.Within (w.add s o hfree hbelow) := World.within_add
  refine ⟨w.add s o hfree hbelow, hwithin, ⟨hfits.marks, ?_, ?_⟩, World.has_add, _, rfl⟩
  · intro id hid
    have hid' : state.nextId + 1 ≤ id := hid
    have hne : id ≠ s.id := by
      have : s.id = state.nextId := rfl
      omega
    simp only [World.add, if_neg hne]
    exact hfits.ids id (by omega)
  · intro r hr entry hentry
    exact (hfits.memo r hr entry hentry).mono hwithin

theorem run_known? (key : MemoKey) (mark : Option Nat) (state : BuildState) :
    (Build.known? key mark).run.run state =
      (.ok ((state.memo.find? fun entry => entry.1 = key).bind fun entry =>
        if entry.2.1 = mark then some entry.2.2 else none), state) := by
  have hget : (get : Build BuildState).run.run state = (.ok state, state) := rfl
  rw [Build.known?, run_bind, hget]
  dsimp only
  cases state.memo.find? fun entry => entry.1 = key <;> rfl

/-- What is known for a mark was remembered for that mark. -/
theorem known? {r : Nat} (key : MemoKey) (mark : Option Nat) :
    Follows shaper (some r) w (Build.known? key mark) (.ok ()) fun w' known _ =>
      w' = w ∧ ∀ built, known = some built → Recalls shaper r w (key, mark, built) := by
  intro state hfits
  rw [run_known?]
  refine ⟨w, .refl w, hfits, rfl, ?_⟩
  intro built hbuilt
  obtain ⟨⟨key', mark', built'⟩, hfind, hentry⟩ := Option.bind_eq_some_iff.1 hbuilt
  have hkey : key' = key := by simpa using List.find?_some hfind
  split at hentry
  · next hmark =>
    cases hentry
    cases hkey
    cases hmark
    exact hfits.memo r rfl _ (List.mem_of_find?_eq_some hfind)
  · cases hentry

theorem remember {r : Nat} {key : MemoKey} {mark : Option Nat} {built : Built}
    (h : Recalls shaper r w (key, mark, built)) :
    Follows shaper (some r) w (Build.remember key mark built) (.ok ()) fun w' _ _ => w' = w := by
  intro state hfits
  refine ⟨w, .refl w, ⟨hfits.marks, hfits.ids, ?_⟩, rfl⟩
  rintro _ ⟨⟩ entry hentry
  rcases List.mem_cons.1 hentry with rfl | hentry
  · exact h
  · exact hfits.memo r rfl entry hentry

end Follows

end OperationSamples
