import OperationSamples.Proofs.Merging
import OperationSamples.Proofs.Walking

/-!
A fragment in the place of its selections.

Selections on an object type can be written out, or stand in a fragment on the very type. Merging
sees the difference: written out, a leaf that repeats an earlier one is dropped, and in the fragment
it is kept (`spliced_merge`). An analysis on the type does not. It goes through the fragment without
leaving the type, and filing a leaf under a key where such a leaf was filed before changes nothing
(`result_ofSelections_of_spliced`).
-/

namespace OperationSamples

/-- Whether two fields are the same, apart from what they pass along. -/
def FieldHead.Same (a b : FieldHead) : Prop := a.responseKey = b.responseKey ∧ a.name = b.name

namespace Selection

/-- The head of a field that selects nothing below it. -/
def leafHead? : Selection → Option FieldHead
  | .leaf head => some head
  | _ => none

def leafHeads (selections : List Selection) : List FieldHead := selections.filterMap leafHead?

/-- Whether the second list is the first without some leaves that repeat one met before; `seen` are
the leaves met before the lists. -/
inductive Thinned : List FieldHead → List Selection → List Selection → Prop
  | nil {seen : List FieldHead} : Thinned seen [] []
  | keep {seen : List FieldHead} {s : Selection} {xs ys : List Selection}
      (h : Thinned (s.leafHead?.toList ++ seen) xs ys) : Thinned seen (s :: xs) (s :: ys)
  | drop {seen : List FieldHead} {head : FieldHead} {xs ys : List Selection}
      (hseen : ∃ old ∈ seen, old.Same head) (h : Thinned (head :: seen) xs ys) :
      Thinned seen (.leaf head :: xs) ys

theorem Thinned.mono {seen more : List FieldHead} {xs ys : List Selection}
    (h : Thinned seen xs ys) (hle : seen ⊆ more) : Thinned more xs ys := by
  induction h generalizing more with
  | nil => exact .nil
  | keep _ ih => exact .keep (ih (List.append_subset.2
      ⟨List.subset_append_left _ _, List.subset_append_of_subset_right _ hle⟩))
  | drop hseen _ ih =>
    obtain ⟨old, hold, hsame⟩ := hseen
    exact .drop ⟨old, hle hold, hsame⟩ (ih (List.cons_subset_cons _ hle))

/-- Leaving out leaves that were met before the list. -/
theorem Thinned.filter_append {p : Selection → Bool} {seen : List FieldHead}
    {xs more less : List Selection}
    (hdropped : ∀ s ∈ xs, p s = false → ∃ head, s = .leaf head ∧ ∃ old ∈ seen, old.Same head)
    (h : Thinned (leafHeads xs ++ seen) more less) :
    Thinned seen (xs ++ more) (xs.filter p ++ less) := by
  induction xs generalizing seen with
  | nil => exact h
  | cons s rest ih =>
    have hrest : Thinned (s.leafHead?.toList ++ seen) (rest ++ more) (rest.filter p ++ less) := by
      refine ih (fun t ht hp => ?_) (h.mono ?_)
      · obtain ⟨head, rfl, old, hold, hsame⟩ := hdropped t (List.mem_cons_of_mem s ht) hp
        exact ⟨head, rfl, old, List.mem_append_right _ hold, hsame⟩
      · intro head hhead
        cases hs : s.leafHead? with
        | none => simpa [leafHeads, hs] using hhead
        | some own =>
          simp only [leafHeads, List.filterMap_cons, hs, List.cons_append, List.mem_cons,
            List.mem_append, Option.toList_some] at hhead ⊢
          tauto
    cases hp : p s with
    | true =>
      rw [List.filter_cons_of_pos hp]
      exact .keep hrest
    | false =>
      obtain ⟨head, rfl, hold⟩ := hdropped s List.mem_cons_self hp
      rw [List.filter_cons_of_neg (by simp [hp])]
      exact .drop hold hrest

/-! ### Merging -/

/-- Whether two lists of merged selections share a key only between leaves of one name. -/
def Compatible (xs ys : List Selection) : Prop :=
  ∀ f ∈ xs, ∀ g ∈ ys, ∀ key, f.responseKey? = some key → g.responseKey? = some key →
    f.isBranch = false ∧ g.isBranch = false ∧
      f.head?.map FieldHead.name = g.head?.map FieldHead.name

theorem isBranch_of_mem_merge {xs : List Selection} {f s : Selection} {key : String}
    (hf : f ∈ merge xs) (hkey : f.responseKey? = some key) (hs : s ∈ xs)
    (hskey : s.responseKey? = some key) (hbranch : s.isBranch = true) : f.isBranch = true := by
  induction xs using merge.induct with
  | case1 => cases hs
  | case2 x rest hx ih =>
    rw [merge_cons_fragment hx] at hf
    rcases List.mem_cons.1 hf with rfl | hf
    · simp [responseKey?, hx] at hkey
    · rcases List.mem_cons.1 hs with rfl | hs
      · simp [responseKey?, hx] at hskey
      · exact ih hf hs
  | case3 x rest head hx _ ih =>
    have hxkey := responseKey?_eq_some hx
    rw [merge_cons_field hx] at hf
    rcases List.mem_cons.1 hf with rfl | hf
    · have hsame := (mergedFrom_joined hx rest).key x List.mem_cons_self
      rw [hkey, hxkey] at hsame
      have hown : s ∈ x :: withKey head.responseKey rest := by
        rcases List.mem_cons.1 hs with rfl | hs
        · exact List.mem_cons_self
        · exact List.mem_cons_of_mem x (mem_withKey.2 ⟨hs, hskey.trans hsame.symm⟩)
      unfold joined
      split
      · next halone =>
        rcases Bool.or_eq_true _ _ |>.mp halone with hempty | hleaves
        · rw [List.isEmpty_iff.1 hempty, List.mem_singleton] at hown
          exact hown ▸ hbranch
        · rw [Bool.not_eq_true', List.any_eq_false] at hleaves
          exact absurd hbranch (hleaves s hown)
      · rfl
    · have hother := ne_key_of_mem_merge (fun t ht => (mem_withoutKey.1 ht).2) f hf
      rw [hkey] at hother
      refine ih hf (mem_withoutKey.2 ⟨?_, by rwa [hskey]⟩)
      rcases List.mem_cons.1 hs with rfl | hs
      · exact absurd (hskey.symm.trans hxkey) hother
      · exact hs

theorem apart_of_compatible {xs ys : List Selection} (h : Compatible (merge xs) (merge ys)) :
    Apart xs ys := by
  intro s hs t ht key hskey htkey
  obtain ⟨f, hf, hfkey⟩ := exists_mem_merge hs hskey
  obtain ⟨g, hg, hgkey⟩ := exists_mem_merge ht htkey
  obtain ⟨hfleaf, hgleaf, -⟩ := h f hf g hg key hfkey hgkey
  constructor
  · refine Bool.eq_false_iff.2 fun hbranch => ?_
    rw [isBranch_of_mem_merge hf hfkey hs hskey hbranch] at hfleaf
    cases hfleaf
  · refine Bool.eq_false_iff.2 fun hbranch => ?_
    rw [isBranch_of_mem_merge hg hgkey ht htkey hbranch] at hgleaf
    cases hgleaf

theorem eq_leaf_of_key {s : Selection} {key : String} (hkey : s.responseKey? = some key)
    (hleaf : s.isBranch = false) : ∃ head, s = .leaf head ∧ head.responseKey = key := by
  cases s with
  | leaf head => exact ⟨head, rfl, Option.some.inj hkey⟩
  | branch => cases hleaf
  | inline => cases hkey
  | spread => cases hkey

/-- Whether the first list is the second with some of its selections in a fragment on a type, and
with leaves that it repeats. -/
structure Spliced (type : String) (xs ys : List Selection) : Prop where
  exists_inside : ∃ before directives inside after,
    xs = before ++ .inline (some type) directives inside :: after ∧
      Thinned [] (before ++ inside ++ after) ys
  selects : hasSelections (some ⟨none, ys⟩) = true

/-- **Merging, with a part of the selections in a fragment.** -/
theorem spliced_merge {xs part ys : List Selection} (type : String) (directives : List Directive)
    (h : Compatible (merge part) (merge (xs ++ ys)))
    (hselects : hasSelections (some ⟨none, merge (xs ++ part ++ ys)⟩) = true) :
    Spliced type (merge (xs ++ .inline (some type) directives (merge part) :: ys))
      (merge (xs ++ part ++ ys)) := by
  obtain ⟨before, after, hmerged, haround, hkeys, hbetween⟩ :=
    exists_merge_between xs part ys (apart_of_compatible h)
  refine ⟨⟨before, directives, merge part, after, haround _ rfl, ?_⟩, hselects⟩
  have hafter : Thinned (leafHeads (merge part) ++ (leafHeads before ++ []))
      (after ++ []) ((after.filter fun s => !repeats part s) ++ []) := by
    refine Thinned.filter_append (fun s hs hp => ?_) .nil
    obtain ⟨key, hskey, t, ht, htkey⟩ := repeats_iff.1 (by simpa using hp)
    obtain ⟨f, hf, hfkey⟩ := exists_mem_merge ht htkey
    obtain ⟨hfleaf, hsleaf, hname⟩ :=
      h f hf s (hmerged ▸ List.mem_append_right before hs) key hfkey hskey
    obtain ⟨own, rfl, hown⟩ := eq_leaf_of_key hskey hsleaf
    obtain ⟨old, rfl, hold⟩ := eq_leaf_of_key hfkey hfleaf
    refine ⟨own, rfl, old, List.mem_append_left _ ?_, hold.trans hown.symm, Option.some.inj hname⟩
    exact List.mem_filterMap.2 ⟨_, hf, rfl⟩
  have hpart : Thinned (leafHeads before ++ [])
      (merge part ++ (after ++ []))
      (((merge part).filter fun s => !repeats xs s) ++
        ((after.filter fun s => !repeats part s) ++ [])) := by
    refine Thinned.filter_append (fun s hs hp => ?_) hafter
    obtain ⟨key, hskey, t, ht, htkey⟩ := repeats_iff.1 (by simpa using hp)
    obtain ⟨g, hg, hgkey⟩ := hkeys t ht key htkey
    obtain ⟨hsleaf, hgleaf, hname⟩ :=
      h s hs g (hmerged ▸ List.mem_append_left after hg) key hskey hgkey
    obtain ⟨own, rfl, hown⟩ := eq_leaf_of_key hskey hsleaf
    obtain ⟨old, rfl, hold⟩ := eq_leaf_of_key hgkey hgleaf
    refine ⟨own, rfl, old, List.mem_append_left _ ?_, hold.trans hown.symm,
      (Option.some.inj hname).symm⟩
    exact List.mem_filterMap.2 ⟨_, hg, rfl⟩
  have hwhole : Thinned [] (before ++ _) (before.filter (fun _ => true) ++ _) :=
    Thinned.filter_append (fun _ _ hp => by cases hp) hpart
  rw [hbetween]
  simpa only [List.filter_true, List.append_nil, List.append_assoc] using hwhole

/-! ### Marking -/

theorem markAll_append (next : Nat) (xs ys : List Selection) :
    markAll next (xs ++ ys) =
      ((markAll next xs).1 ++ (markAll (markAll next xs).2 ys).1,
        (markAll (markAll next xs).2 ys).2) := by
  induction xs generalizing next with
  | nil => rfl
  | cons s rest ih => simp only [List.cons_append, markAll, ih]

@[simp] theorem head?_mark (next : Nat) (s : Selection) : (mark next s).1.head? = s.head? := by
  cases s with
  | branch head own selections => cases own <;> rfl
  | _ => rfl

@[simp] theorem leafHead?_mark (next : Nat) (s : Selection) :
    (mark next s).1.leafHead? = s.leafHead? := by
  cases s with
  | branch head own selections => cases own <;> rfl
  | _ => rfl

theorem map_head?_markAll (next : Nat) (xs : List Selection) :
    (markAll next xs).1.map head? = xs.map head? := by
  induction xs generalizing next with
  | nil => rfl
  | cons s rest ih => simp only [markAll, List.map_cons, head?_mark, ih]

/-- What a set selects beyond its type name can be read off the heads of its fields. -/
theorem hasSelections_congr {mark mark' : Option Nat} {xs ys : List Selection}
    (h : xs.map head? = ys.map head?) :
    hasSelections (some ⟨mark, xs⟩) = hasSelections (some ⟨mark', ys⟩) := by
  have hany : ∀ zs : List Selection, hasSelections (some ⟨mark, zs⟩) =
      (zs.map head?).any fun own => (own.map fun head => head.name != typenameField).getD true := by
    intro zs
    rw [hasSelections, List.any_map]
    refine congrArg zs.any (funext fun s => ?_)
    cases hs : s.head? <;> simp [hs]
  exact (hany xs).trans (h ▸ (hany ys).symm)

theorem Thinned.markAll {seen : List FieldHead} {xs ys : List Selection} (h : Thinned seen xs ys)
    (next : Nat) :
    Thinned seen (markAll next xs).1 (markAll next ys).1 ∧
      (Selection.markAll next xs).2 = (Selection.markAll next ys).2 := by
  induction h generalizing next with
  | nil => exact ⟨.nil, rfl⟩
  | @keep seen s xs ys _ ih =>
    obtain ⟨hthinned, hnext⟩ := ih (mark next s).2
    rw [← leafHead?_mark next s] at hthinned
    exact ⟨.keep hthinned, hnext⟩
  | drop hseen _ ih =>
    obtain ⟨hthinned, hnext⟩ := ih next
    exact ⟨.drop hseen hthinned, hnext⟩

theorem Spliced.markAll {type : String} {xs ys : List Selection} (h : Spliced type xs ys)
    (next : Nat) :
    Spliced type (markAll next xs).1 (markAll next ys).1 ∧
      (Selection.markAll next xs).2 = (Selection.markAll next ys).2 := by
  obtain ⟨⟨before, directives, inside, after, rfl, hthinned⟩, hselects⟩ := h
  obtain ⟨hmarked, hnext⟩ := hthinned.markAll next
  rw [List.append_assoc] at hmarked hnext
  simp only [markAll_append] at hmarked hnext
  simp only [markAll_append, Selection.markAll, mark]
  refine ⟨⟨⟨_, directives, _, _, rfl, ?_⟩, ?_⟩, hnext⟩
  · rwa [List.append_assoc]
  · rwa [hasSelections_congr (map_head?_markAll next ys)]

end Selection

/-! ### Analysing -/

namespace Analysis

open Selection

variable {schema : Schema} {owner : TypeDef}

/-- Whether filing another leaf under a key changes nothing. -/
def Absorbs (entries : List Entry) (key : String) : Prop :=
  ∀ type head, fileField entries key type (.leaf head) = entries

theorem absorbs_fileField_leaf (entries : List Entry) (key : String) (type : TypeRef)
    (head : FieldHead) : Absorbs (fileField entries key type (.leaf head)) key := by
  intro other own
  induction entries with
  | nil =>
    rw [fileField, fileField, if_pos (beq_self_eq_true key)]
    rfl
  | cons e rest ih =>
    by_cases hkey : (e.key == key) = true
    · rw [fileField, if_pos hkey, fileField, if_pos hkey, mergePair_mergePair_leaf]
    · rw [fileField, if_neg hkey, fileField, if_neg hkey, ih]

theorem Absorbs.fileField {entries : List Entry} {key : String} (h : Absorbs entries key)
    (other : String) (type : TypeRef) (field : Selection) :
    Absorbs (fileField entries other type field) key := by
  intro kind head
  have hown := h kind head
  clear h
  induction entries with
  | nil => simp [Analysis.fileField] at hown
  | cons e rest ih =>
    by_cases hkey : (e.key == key) = true
    · rw [Analysis.fileField, if_pos hkey] at hown
      have hfield : e.field.mergePair (.leaf head) = e.field :=
        congrArg Entry.field (List.cons.inj hown).1
      by_cases hother : (e.key == other) = true
      · rw [Analysis.fileField, if_pos hother, Analysis.fileField, if_pos hkey,
          mergePair_mergePair_leaf]
      · rw [Analysis.fileField, if_neg hother, Analysis.fileField, if_pos hkey, hfield]
    · rw [Analysis.fileField, if_neg hkey] at hown
      have hrest := (List.cons.inj hown).2
      by_cases hother : (e.key == other) = true
      · rw [Analysis.fileField, if_pos hother, Analysis.fileField, if_neg hkey, hrest]
      · rw [Analysis.fileField, if_neg hother, Analysis.fileField, if_neg hkey, ih hrest]

/-- Whether a leaf changes nothing in what was gathered on a type: it is never filed, or another
leaf was filed under its key. -/
def Settled (owner : TypeDef) (state : Collected) (head : FieldHead) : Prop :=
  head.name = typenameField ∨ owner.fieldType? head.name = none ∨
    Absorbs state.entries head.responseKey

theorem Settled.of_same {state : Collected} {old head : FieldHead} (h : Settled owner state old)
    (hsame : old.Same head) : Settled owner state head := by
  rw [Settled, hsame.1, hsame.2] at h
  exact h

theorem stable_settled (owner : TypeDef) (head : FieldHead) :
    Stable (fun _ => True) fun state => Settled owner state head where
  fold _ _ h := h
  file := by
    rintro state key type field - - (hname | hmissing | habsorbs)
    · exact .inl hname
    · exact .inr (.inl hmissing)
    · exact .inr (.inr (habsorbs.fileField key type field))

theorem collect_of_settled (hobject : owner.isObject) {state : Collected} {head : FieldHead}
    (h : Settled owner state head) :
    (collect schema owner state (.leaf head)).result = .ok state := by
  obtain ⟨fields, hfields⟩ : ∃ fields, owner.fields? = some fields := by
    cases hbody : owner.body <;> simp_all [TypeDef.isObject, TypeDef.kind?, TypeDef.fields?]
  rw [collect, collectField]
  split
  · rfl
  · next hname =>
    simp only [hfields]
    cases htype : owner.fieldType? head.name with
    | none => rfl
    | some type =>
      rcases h with hown | hmissing | habsorbs
      · exact absurd (beq_iff_eq.2 hown) hname
      · rw [hmissing] at htype
        cases htype
      · simp only [habsorbs type head]
        rfl

theorem settled_of_collect {state next : Collected} {head : FieldHead}
    (h : (collect schema owner state (.leaf head)).result = .ok next) :
    Settled owner next head := by
  rw [collect, collectField] at h
  split at h
  · next hname => exact .inl (beq_iff_eq.1 hname)
  · split at h
    · cases h
    · split at h
      · next hmissing => exact .inr (.inl hmissing)
      · next type _ =>
        cases h
        exact .inr (.inr (absorbs_fileField_leaf state.entries head.responseKey type head))

/-- Leaves that repeat others are not seen by the walk on an object type. -/
theorem result_collectList_of_thinned (hobject : owner.isObject) {seen : List FieldHead}
    {xs ys : List Selection} (h : Thinned seen xs ys) {state : Collected}
    (hseen : ∀ head ∈ seen, Settled owner state head) :
    (collectList schema owner state xs).result = (collectList schema owner state ys).result := by
  induction h generalizing state with
  | nil => rfl
  | @keep seen s xs ys _ ih =>
    simp only [collectList, Walk.result_bind]
    cases hnext : (collect schema owner state s).result with
    | error fault => rfl
    | ok next =>
      refine ih (List.forall_mem_append.2 ⟨fun head hhead => ?_, fun head hhead => ?_⟩)
      · obtain rfl : s = .leaf head := by
          cases s <;> simp_all [leafHead?]
        exact settled_of_collect hnext
      · exact (stable_settled owner head).collect_of_all (hseen head hhead) hnext
  | @drop seen head xs ys hold _ ih =>
    obtain ⟨old, hmem, hsame⟩ := hold
    have hsettled := (hseen old hmem).of_same hsame
    simp only [collectList, Walk.result_bind, collect_of_settled hobject hsettled]
    exact ih (List.forall_mem_cons.2 ⟨hsettled, hseen⟩)

theorem collectList_of_own_condition (schema : Schema) (state : Collected)
    (before inside after : List Selection) (directives : List Directive) :
    collectList schema owner state
        (before ++ .inline (some owner.name) directives inside :: after) =
      collectList schema owner state (before ++ inside ++ after) := by
  have htarget : conditionTarget schema owner (some owner.name) = pure (some owner) := by
    rw [conditionTarget, if_pos (beq_self_eq_true owner.name)]
  have hfold : ∀ folded, foldType owner owner folded = folded := by
    intro folded
    simp [foldType]
  rw [List.append_assoc, collectList_append, collectList_append]
  refine bind_congr fun next => ?_
  have hinside : collect schema owner next (.inline (some owner.name) directives inside) =
      collectList schema owner { next with folded := foldType owner owner next.folded } inside := by
    rw [collect, htarget]
    rfl
  rw [collectList_append, collectList, hinside, hfold]

/-- **An analysis does not see whether selections on an object type stand in a fragment on it.** -/
theorem result_ofSelections_of_spliced (hobject : owner.isObject) {xs ys : List Selection}
    (h : Spliced owner.name xs ys) (split : Bool) :
    (ofSelections schema split owner xs).result = (ofSelections schema split owner ys).result := by
  obtain ⟨before, directives, inside, after, rfl, hthinned⟩ := h.exists_inside
  simp only [ofSelections, Walk.result_bind, collectList_of_own_condition]
  rw [result_collectList_of_thinned hobject hthinned (by simp)]

end Analysis

end OperationSamples
