import OperationSamples.Proofs.Order

/-!
Taking shapes again changes nothing.

A visit remembers what it built by the type, the name and the depth of a place, and by the mark of
the selection set that it was built from. A place where all four are met again gets the shape that
was built first. The result is the same as if every shape were built anew, apart from identities:
both ways follow the draft of the visit, and a draft takes nothing again.
-/

namespace OperationSamples

namespace Shaper

variable (shaper : Shaper) (recalls : Bool)

/-- The same shaper, with the choice of whether shapes built before are taken again. -/
def recalling : Shaper := { shaper with recalls := recalls }

theorem draftBranches_recalling (below : Option Draft) (spot : Spot) (infos : List FieldInfo) :
    (shaper.recalling recalls).draftBranches below spot infos =
      shaper.draftBranches below spot infos := by
  induction infos with
  | nil => rfl
  | cons info rest ih =>
    have hfirst : (shaper.recalling recalls).draftBranch below spot info =
        shaper.draftBranch below spot info := rfl
    rw [draftBranches, draftBranches, hfirst, ih]

/-- A draft takes nothing again. -/
theorem draft_recalling (remaining : Nat) :
    (shaper.recalling recalls).draft remaining = shaper.draft remaining := by
  have hnode : ∀ below, (shaper.recalling recalls).draftNode below = shaper.draftNode below := by
    intro below
    funext spot
    unfold draftNode
    simp only [draftBranches_recalling]
    rfl
  induction remaining with
  | zero => exact hnode none
  | succ remaining ih => rw [draft, draft, hnode, ih]

end Shaper

/-- Shapes that are the same apart from identities have the same sample value. -/
theorem Shape.value_eq_of_unnumbered_eq {s t : Shape} (h : s.unnumbered = t.unnumbered) :
    s.value = t.value := by
  rw [← value_renumbered (f := fun _ => 0) s, ← value_renumbered (f := fun _ => 0) t,
    renumbered_zero, renumbered_zero, h]

/-- The shapes of a place are those of another, apart from identities: the same names, types, paths,
depths, fields and variants, and the same sample values. -/
structure Built.SameAs (first second : Built) : Prop where
  unnumbered : first.unnumbered = second.unnumbered
  value : first.shape.value = second.shape.value
  values : first.variants.map (fun v => v.shape.value) =
    second.variants.map fun v => v.shape.value

theorem Built.SameAs.of_unnumbered_eq {first second : Built}
    (h : first.unnumbered = second.unnumbered) : first.SameAs second := by
  obtain ⟨shape, variants⟩ := first
  obtain ⟨shape', variants'⟩ := second
  obtain ⟨hshape, hvariants⟩ := Built.mk.inj h
  refine ⟨h, Shape.value_eq_of_unnumbered_eq hshape, ?_⟩
  have hvalues : ∀ vs : List Variant, vs.map (fun v => v.shape.value) =
      (vs.map Variant.unnumbered).map fun v => v.shape.value := by
    intro vs
    rw [List.map_map]
    refine List.map_congr_left fun v _ => ?_
    rw [← Shape.value_renumbered (f := fun _ => 0) v.shape, Shape.renumbered_zero]
    rfl
  rw [hvalues, hvalues variants', hvariants]

/-- A tree all of whose shapes were built for the places where they stand: named, and led to by
response keys, as the address of their node says. -/
inductive VisitTree.InPlace : Address → VisitTree → Prop
  | node {address : Address} {typeName : String} {number : Nat → Nat}
      {branches : List (Branch VisitTree)}
      (below : ∀ b ∈ branches, ∀ position name child, b.child? position = some (name, child) →
        InPlace (address.led b.key name) child) :
      InPlace address
        (.node ((address.frame typeName).built number (branches.map Branch.slot)) branches)

theorem Grown.inPlace {root : Nat} {w : World} {address : Address} {member : Option Nat}
    {t : VisitTree} (h : Grown root w address member t) : t.InPlace address := by
  induction h with
  | node shaped _ _ _ _ _ ih =>
    subst shaped
    exact .node ih

/-- **A visit is the same with and without taking shapes again**, in whatever states the two start:
it fails with the same fault, or gives the same shapes apart from identities. In particular what is
taken again was built for the place where it is taken: the visit writes out a tree of shapes that
are all in place. -/
theorem visitRoot_same_without_recalling (shaper : Shaper) (owner : TypeDef)
    (table : FragmentTable) (limit : Nat) (selections : List Selection) (name : ShapeName)
    (base : String) (state state' : BuildState) :
    let resolved := (Selection.resolve table limit selections).value
    match ((shaper.recalling true).visitRoot owner resolved name base).run.run state,
      ((shaper.recalling false).visitRoot owner resolved name base).run.run state' with
    | (.ok recalled, _), (.ok built, _) => recalled.SameAs built ∧
      ∃ t : VisitTree, t.built = recalled ∧ t.InPlace ⟨name, base, []⟩
    | (.error fault, _), (.error fault', _) => fault = fault'
    | _, _ => False := by
  intro resolved
  have hresolved : Selection.Unmarked resolved := Selection.unmarked_resolve table limit selections
  let spot : Spot := .ofRoot owner resolved name base
  have hfollows : ∀ recalls start, Matches (shaper.recalling recalls) none .empty
      (Visited 0 spot none)
      (((shaper.recalling recalls).visitRoot owner resolved name base).run.run start)
      (shaper.draft shaper.maxDepth spot) := by
    intro recalls start
    rw [← Shaper.draft_recalling shaper recalls]
    exact Follows.visitRoot 0 hresolved start (fits_empty _ start)
  have hrecalled := hfollows true state
  have hbuilt := hfollows false state'
  generalize ((shaper.recalling true).visitRoot owner resolved name base).run.run state = outcome
    at hrecalled ⊢
  generalize ((shaper.recalling false).visitRoot owner resolved name base).run.run state' = outcome'
    at hbuilt ⊢
  generalize shaper.draft shaper.maxDepth spot = draft at hrecalled hbuilt
  match outcome, outcome', draft with
  | (.ok _, _), (.ok _, _), .ok _ =>
    obtain ⟨w, -, -, ⟨t, rfl, rfl, hgrown⟩, -⟩ := hrecalled
    obtain ⟨-, -, -, ⟨t', rfl, hsame, -⟩, -⟩ := hbuilt
    refine ⟨.of_unnumbered_eq ?_, t, rfl, hgrown.inPlace⟩
    rw [← VisitTree.built_unnumbered, ← VisitTree.built_unnumbered, hsame]
  | (.error _, _), (.error _, _), .error _ => exact hrecalled.trans hbuilt.symm
  | (.ok _, _), (.error _, _), .ok _ => exact hbuilt.elim
  | (.error _, _), (.ok _, _), .ok _ => exact hrecalled.elim
  | (.ok _, _), _, .error _ => exact hrecalled.elim
  | (.error _, _), (.ok _, _), .error _ => exact hbuilt.elim

-- Two conditions on one member share the field beside them. It is visited twice; the second time
-- its shape is taken again, and one shape less is built.
example :
    let person : TypeDef := ⟨"Person", [], .object [] [Pets.field "pet" "Pet"]⟩
    let selections := [Pets.branch "pet"
      [Pets.branch "owner" [Pets.leaf "mood"], .inline (some "Dog") [] [Pets.leaf "__typename"],
        .inline (some "Dog") [] [Pets.leaf "mood"]]]
    let shaper : Shaper := ⟨Pets.schema, ⟨Pets.providers, []⟩, false, 5, true⟩
    let shapes recalls := (((shaper.recalling recalls).visitRoot person selections (.of "Home")
      "Home").run.run .start).2.nextId
    shapes true = 6 ∧ shapes false = 7 := by decide +kernel

end OperationSamples
