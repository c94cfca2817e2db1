import OperationSamples.Proofs.Collection

/-!
Merging lists that are put together from others.

A selection that shares its key with no other stays where it is, whatever stands below it
(`exists_merge_around`). When two lists share keys only between leaves, merging them does not mix
what stands below their fields: the leaves that come later are dropped, and the rest is as it was in
the lists merged on their own (`exists_merge_between`).
-/

namespace OperationSamples.Selection

/-! ### Keys that are used once -/

theorem withKey_append (key : String) (xs ys : List Selection) :
    withKey key (xs ++ ys) = withKey key xs ++ withKey key ys :=
  List.filter_append ..

theorem withoutKey_append (key : String) (xs ys : List Selection) :
    withoutKey key (xs ++ ys) = withoutKey key xs ++ withoutKey key ys :=
  List.filter_append ..

theorem withKey_eq_nil {key : String} {xs : List Selection}
    (h : ∀ s ∈ xs, s.responseKey? ≠ some key) : withKey key xs = [] :=
  List.filter_eq_nil_iff.2 fun s hs => mt hasKey_iff.1 (h s hs)

theorem withoutKey_eq_self {key : String} {xs : List Selection}
    (h : ∀ s ∈ xs, s.responseKey? ≠ some key) : withoutKey key xs = xs :=
  List.filter_eq_self.2 fun s hs => by simpa [hasKey] using h s hs

theorem mem_withoutKey {key : String} {s : Selection} {xs : List Selection} :
    s ∈ withoutKey key xs ↔ s ∈ xs ∧ s.responseKey? ≠ some key := by
  simp [withoutKey, hasKey]

theorem withoutKey_cons_of_ne {key : String} {s : Selection} (rest : List Selection)
    (h : s.responseKey? ≠ some key) : withoutKey key (s :: rest) = s :: withoutKey key rest :=
  List.filter_cons_of_pos (by simpa [hasKey] using h)

theorem ne_key_of_mem_merge {key : String} {xs : List Selection}
    (h : ∀ s ∈ xs, s.responseKey? ≠ some key) : ∀ f ∈ merge xs, f.responseKey? ≠ some key := by
  intro f hf hkey
  obtain ⟨g, hg, -⟩ := (mergedFrom_of_mem_merge hf hkey).head
  rw [withKey_eq_nil h] at hg
  cases hg

theorem merge_cons_alone {s : Selection} {rest : List Selection}
    (h : ∀ key, s.responseKey? = some key → ∀ t ∈ rest, t.responseKey? ≠ some key) :
    merge (s :: rest) = s :: merge rest := by
  cases hhead : s.head? with
  | none => exact merge_cons_fragment hhead
  | some head =>
    have hrest := h _ (responseKey?_eq_some hhead)
    rw [merge_cons_field hhead, withKey_eq_nil hrest, withoutKey_eq_self hrest]
    rfl

/-- Merged selections have nothing left to merge. -/
theorem merge_merge (xs : List Selection) : merge (merge xs) = merge xs := by
  induction xs using merge.induct with
  | case1 => simp
  | case2 s rest hhead ih =>
    rw [merge_cons_fragment hhead, merge_cons_fragment hhead, ih]
  | case3 s rest head hhead _ ihRest =>
    rw [merge_cons_field hhead, merge_cons_alone, ihRest]
    intro key hkey
    have hsame := (mergedFrom_joined hhead rest).key s List.mem_cons_self
    rw [hkey, responseKey?_eq_some hhead] at hsame
    obtain rfl := Option.some.inj hsame
    exact ne_key_of_mem_merge fun t ht => (mem_withoutKey.1 ht).2

/-- Merging a leaf into a field that was merged before changes nothing. -/
theorem mergePair_mergePair_leaf (first second : Selection) (head : FieldHead) :
    mergePair (mergePair first second) (.leaf head) = mergePair first second := by
  cases hhead : first.head? with
  | none =>
    have hpair : mergePair first second = first := by simp only [mergePair, hhead]
    rw [hpair]
    simp only [mergePair, hhead]
  | some own =>
    by_cases hbranch : (first.isBranch || second.isBranch) = true
    · have hpair : mergePair first second =
          .branch own none (merge (first.children ++ second.children)) := by
        simp only [mergePair, hhead, hbranch, if_true]
      rw [hpair]
      simp only [mergePair, head?, isBranch, children, Bool.true_or, if_true, List.append_nil,
        merge_merge]
    · have hpair : mergePair first second = first := by
        simp only [mergePair, hhead, hbranch, Bool.false_eq_true, if_false]
      have hleaf : first.isBranch = false := by
        simp only [Bool.or_eq_true, not_or, Bool.not_eq_true] at hbranch
        exact hbranch.1
      have hnone : (first.isBranch || (Selection.leaf head).isBranch) = false := by
        rw [hleaf]
        rfl
      rw [hpair]
      simp only [mergePair, hhead, hnone, Bool.false_eq_true, if_false]

/-- **A selection whose key stands nowhere else.** Merging the others puts them before it and after
it, independently of what it is. -/
theorem exists_merge_around (own? : Option FieldHead) (xs ys : List Selection)
    (h : ∀ head, own? = some head → ∀ t ∈ xs ++ ys, t.responseKey? ≠ some head.responseKey) :
    ∃ before after, merge (xs ++ ys) = before ++ after ∧
      ∀ s : Selection, s.head? = own? → merge (xs ++ s :: ys) = before ++ s :: after := by
  induction xs using merge.induct generalizing ys with
  | case1 =>
    refine ⟨[], merge ys, rfl, fun s hs => merge_cons_alone fun key hkey => ?_⟩
    rw [responseKey?, hs] at hkey
    obtain ⟨head, hhead, rfl⟩ := Option.map_eq_some_iff.1 hkey
    exact h head hhead
  | case2 x rest hx ih =>
    obtain ⟨before, after, hmerged, haround⟩ :=
      ih ys fun head hhead t ht => h head hhead t (List.mem_cons_of_mem x ht)
    refine ⟨x :: before, after, ?_, fun s hs => ?_⟩
    · rw [List.cons_append, merge_cons_fragment hx, hmerged, List.cons_append]
    · rw [List.cons_append, merge_cons_fragment hx, haround s hs, List.cons_append]
  | case3 x rest head hx _ ih =>
    obtain ⟨before, after, hmerged, haround⟩ :=
      ih (withoutKey head.responseKey ys) fun own hown t ht => by
        rw [← withoutKey_append] at ht
        exact h own hown t (List.mem_cons_of_mem x (mem_withoutKey.1 ht).1)
    refine ⟨joined x head (withKey head.responseKey (rest ++ ys)) :: before, after, ?_,
      fun s hs => ?_⟩
    · rw [List.cons_append, merge_cons_field hx, withoutKey_append, hmerged, List.cons_append]
    · have hother : s.responseKey? ≠ some head.responseKey := by
        intro hkey
        rw [responseKey?, hs] at hkey
        obtain ⟨own, hown, hsame⟩ := Option.map_eq_some_iff.1 hkey
        refine h own hown x (by simp) ?_
        rw [responseKey?_eq_some hx, hsame]
      rw [List.cons_append, merge_cons_field hx, withKey_append, withoutKey_append,
        withKey_cons_of_ne _ hother, withoutKey_cons_of_ne _ hother, ← withKey_append, haround s hs,
        List.cons_append]

/-! ### Leaves that are repeated -/

/-- Whether a selection is a field whose key is used in an earlier list. -/
def repeats (earlier : List Selection) (s : Selection) : Bool :=
  s.head?.isSome && earlier.any fun t => s.responseKey? == t.responseKey?

theorem repeats_iff {earlier : List Selection} {s : Selection} :
    repeats earlier s = true ↔
      ∃ key, s.responseKey? = some key ∧ ∃ t ∈ earlier, t.responseKey? = some key := by
  cases hhead : s.head? with
  | none => simp [repeats, responseKey?, hhead]
  | some head =>
    have hkey := responseKey?_eq_some hhead
    simp only [repeats, hhead, hkey, Option.isSome_some, Bool.true_and, List.any_eq_true,
      beq_iff_eq, Option.some.injEq, exists_eq_left']
    exact exists_congr fun t => and_congr_right fun _ => eq_comm

theorem repeats_cons_fragment {x s : Selection} {rest : List Selection} (hx : x.head? = none) :
    repeats (x :: rest) s = repeats rest s := by
  have hnone : x.responseKey? = none := by simp [responseKey?, hx]
  rw [Bool.eq_iff_iff, repeats_iff, repeats_iff]
  simp [hnone]

/-- A key is used by the first field of a list, or by a later one with another key. -/
theorem repeats_cons_field {x s : Selection} {rest : List Selection} {head : FieldHead}
    (hx : x.head? = some head) :
    repeats (x :: rest) s =
      (hasKey head.responseKey s || repeats (withoutKey head.responseKey rest) s) := by
  rw [Bool.eq_iff_iff, Bool.or_eq_true, repeats_iff, repeats_iff, hasKey_iff]
  constructor
  · rintro ⟨key, hs, t, ht, htkey⟩
    by_cases hsame : key = head.responseKey
    · exact .inl (hsame ▸ hs)
    · refine .inr ⟨key, hs, t, mem_withoutKey.2 ⟨?_, ?_⟩, htkey⟩
      · rcases List.mem_cons.1 ht with rfl | ht
        · rw [responseKey?_eq_some hx] at htkey
          exact absurd (Option.some.inj htkey).symm hsame
        · exact ht
      · rw [htkey]
        exact fun heq => hsame (Option.some.inj heq)
  · rintro (hs | ⟨key, hs, t, ht, htkey⟩)
    · exact ⟨_, hs, x, List.mem_cons_self, responseKey?_eq_some hx⟩
    · exact ⟨key, hs, t, List.mem_cons_of_mem x (mem_withoutKey.1 ht).1, htkey⟩

theorem repeats_withoutKey {s : Selection} {key : String} (earlier : List Selection)
    (h : s.responseKey? ≠ some key) :
    repeats (withoutKey key earlier) s = repeats earlier s := by
  rw [Bool.eq_iff_iff, repeats_iff, repeats_iff]
  refine exists_congr fun own => and_congr_right fun hs => exists_congr fun t => ?_
  rw [mem_withoutKey, and_assoc]
  refine and_congr_right fun _ => and_iff_right_of_imp fun ht => ?_
  rwa [ht, ← hs]

/-- Leaving out whole keys and merging can be done in any order. -/
theorem merge_filter {p : Selection → Bool}
    (hp : ∀ s t : Selection, s.responseKey? = t.responseKey? → p s = p t) (xs : List Selection) :
    merge (xs.filter p) = (merge xs).filter p := by
  induction xs using merge.induct with
  | case1 => simp
  | case2 x rest hx ih =>
    rw [merge_cons_fragment hx]
    by_cases hkept : p x = true
    · rw [List.filter_cons_of_pos hkept, List.filter_cons_of_pos hkept, merge_cons_fragment hx, ih]
    · rw [List.filter_cons_of_neg hkept, List.filter_cons_of_neg hkept, ih]
  | case3 x rest head hx _ ih =>
    have hxkey := responseKey?_eq_some hx
    have hjoined : p (joined x head (withKey head.responseKey rest)) = p x :=
      hp _ _ ((mergedFrom_joined hx rest).key x List.mem_cons_self).symm
    have hothers : withoutKey head.responseKey (rest.filter p) =
        (withoutKey head.responseKey rest).filter p := by
      rw [withoutKey, withoutKey, List.filter_comm]
    rw [merge_cons_field hx]
    by_cases hkept : p x = true
    · have hsame : withKey head.responseKey (rest.filter p) = withKey head.responseKey rest := by
        rw [withKey, withKey, List.filter_filter]
        refine List.filter_congr fun t _ => ?_
        by_cases ht : t.responseKey? = some head.responseKey
        · rw [hp t x (ht.trans hxkey.symm), hkept, Bool.and_true]
        · simp [hasKey, ht]
      rw [List.filter_cons_of_pos hkept, List.filter_cons_of_pos (hjoined.trans hkept),
        merge_cons_field hx, hsame, hothers, ih]
    · have hnone : ∀ t ∈ rest.filter p, t.responseKey? ≠ some head.responseKey := by
        intro t ht heq
        refine hkept ?_
        rw [← hp t x (heq.trans hxkey.symm)]
        exact (List.mem_filter.1 ht).2
      rw [List.filter_cons_of_neg hkept, List.filter_cons_of_neg (by rwa [hjoined]), ← ih,
        ← hothers, withoutKey_eq_self hnone]

theorem merge_withoutKey (key : String) (xs : List Selection) :
    merge (withoutKey key xs) = withoutKey key (merge xs) :=
  merge_filter (fun s t h => by simp only [hasKey, h]) xs

theorem filter_merge_withoutKey {x : Selection} {head : FieldHead} (hx : x.head? = some head)
    (rest ys : List Selection) :
    ((merge (withoutKey head.responseKey ys)).filter fun s =>
        !repeats (withoutKey head.responseKey rest) s) =
      (merge ys).filter fun s => !repeats (x :: rest) s := by
  rw [merge_withoutKey, withoutKey.eq_def _ (merge ys), List.filter_filter]
  refine List.filter_congr fun s _ => ?_
  rw [repeats_cons_field hx, Bool.not_or, Bool.and_comm]

/-- Whether two lists share a key only between leaves. -/
def Apart (xs ys : List Selection) : Prop :=
  ∀ s ∈ xs, ∀ t ∈ ys, ∀ key, s.responseKey? = some key → t.responseKey? = some key →
    s.isBranch = false ∧ t.isBranch = false

theorem Apart.withoutKey {xs ys : List Selection} (h : Apart xs ys) (key : String) :
    Apart (withoutKey key xs) (withoutKey key ys) := by
  intro s hs t ht
  exact h s (mem_withoutKey.1 hs).1 t (mem_withoutKey.1 ht).1

theorem Apart.symm {xs ys : List Selection} (h : Apart xs ys) : Apart ys xs :=
  fun s hs t ht key hskey htkey => (h t ht s hs key htkey hskey).symm

/-- A leaf that joins leaves stays as it is. -/
theorem joined_of_leaves {x : Selection} {head : FieldHead} {same : List Selection}
    (h : ∀ s ∈ x :: same, s.isBranch = false) : joined x head same = x := by
  have hall : (x :: same).any isBranch = false := List.any_eq_false.2 fun s hs => by simp [h s hs]
  rw [joined, hall]
  simp

/-- Fields of a part that is apart from those around it add nothing to a field before it. -/
theorem joined_of_apart {x : Selection} {head : FieldHead} (hx : x.head? = some head)
    {rest part ys : List Selection} (h : Apart part (x :: (rest ++ ys))) :
    joined x head (withKey head.responseKey (rest ++ part ++ ys)) =
      joined x head (withKey head.responseKey (rest ++ ys)) := by
  have hxkey := responseKey?_eq_some hx
  cases hshared : withKey head.responseKey part with
  | nil => simp only [withKey_append, hshared, List.append_nil]
  | cons s more =>
    -- a field of the part has the key, so all that have it are leaves
    obtain ⟨hs, hskey⟩ := mem_withKey.1 (hshared ▸ List.mem_cons_self : s ∈ withKey _ part)
    have hfirst : x.isBranch = false := (h s hs x List.mem_cons_self _ hskey hxkey).2
    have hleaf : ∀ t ∈ rest ++ part ++ ys, t.responseKey? = some head.responseKey →
        t.isBranch = false := by
      intro t ht htkey
      by_cases hpart : t ∈ part
      · exact (h t hpart x List.mem_cons_self _ htkey hxkey).1
      · refine (h s hs t (List.mem_cons_of_mem x ?_) _ hskey htkey).2
        simpa [hpart] using ht
    rw [joined_of_leaves, joined_of_leaves]
    · refine List.forall_mem_cons.2 ⟨hfirst, fun t ht => ?_⟩
      obtain ⟨ht, htkey⟩ := mem_withKey.1 ht
      refine hleaf t ?_ htkey
      simp only [List.mem_append] at ht ⊢
      tauto
    · refine List.forall_mem_cons.2 ⟨hfirst, fun t ht => ?_⟩
      obtain ⟨ht, htkey⟩ := mem_withKey.1 ht
      exact hleaf t ht htkey

theorem merge_append_of_apart {xs ys : List Selection} (h : Apart xs ys) :
    merge (xs ++ ys) = merge xs ++ (merge ys).filter fun s => !repeats xs s := by
  induction xs using merge.induct generalizing ys with
  | case1 => simp [repeats]
  | case2 x rest hx ih =>
    have hrest : Apart rest ys := fun s hs => h s (List.mem_cons_of_mem x hs)
    simp only [List.cons_append, merge_cons_fragment hx, ih hrest, repeats_cons_fragment hx]
  | case3 x rest head hx _ ih =>
    have hrest : Apart rest ys := fun s hs => h s (List.mem_cons_of_mem x hs)
    have hjoined : joined x head (withKey head.responseKey (rest ++ ys)) =
        joined x head (withKey head.responseKey rest) := by
      have hbetween : Apart ys (x :: (rest ++ [])) := by
        rw [List.append_nil]
        exact h.symm
      simpa only [List.append_nil] using joined_of_apart hx hbetween
    rw [List.cons_append, merge_cons_field hx, merge_cons_field hx, hjoined, withoutKey_append,
      ih (hrest.withoutKey _), filter_merge_withoutKey hx, List.cons_append]

/-- **A part that shares keys with its surroundings only between leaves.** Merging keeps what comes
before it, drops the fields of the part that repeat one before it, and then those that repeat one of
the part. A fragment in the place of the part has the same surroundings, with nothing dropped. -/
theorem exists_merge_between (xs part ys : List Selection) (h : Apart part (xs ++ ys)) :
    ∃ before after, merge (xs ++ ys) = before ++ after ∧
      (∀ s : Selection, s.head? = none → merge (xs ++ s :: ys) = before ++ s :: after) ∧
      (∀ t ∈ xs, ∀ key, t.responseKey? = some key →
        ∃ f ∈ before, f.responseKey? = some key) ∧
      merge (xs ++ part ++ ys) =
        before ++ ((merge part).filter fun s => !repeats xs s) ++
          after.filter fun s => !repeats part s := by
  induction xs using merge.induct generalizing part ys with
  | case1 =>
    refine ⟨[], merge ys, rfl, fun s hs => merge_cons_fragment hs, by simp, ?_⟩
    rw [List.nil_append] at h
    rw [List.nil_append, merge_append_of_apart h]
    simp [repeats]
  | case2 x rest hx ih =>
    obtain ⟨before, after, hmerged, haround, hkeys, hbetween⟩ :=
      ih part ys fun s hs t ht => h s hs t (List.mem_cons_of_mem x ht)
    refine ⟨x :: before, after, ?_, fun s hs => ?_, ?_, ?_⟩
    · rw [List.cons_append, merge_cons_fragment hx, hmerged, List.cons_append]
    · rw [List.cons_append, merge_cons_fragment hx, haround s hs, List.cons_append]
    · intro t ht key hkey
      rcases List.mem_cons.1 ht with rfl | ht
      · simp [responseKey?, hx] at hkey
      · obtain ⟨f, hf, hfkey⟩ := hkeys t ht key hkey
        exact ⟨f, List.mem_cons_of_mem x hf, hfkey⟩
    · simp only [List.cons_append, merge_cons_fragment hx, hbetween, repeats_cons_fragment hx]
  | case3 x rest head hx _ ih =>
    have hxkey := responseKey?_eq_some hx
    have hrest : Apart part (rest ++ ys) := fun s hs t ht => h s hs t (List.mem_cons_of_mem x ht)
    obtain ⟨before, after, hmerged, haround, hkeys, hbetween⟩ :=
      ih (withoutKey head.responseKey part) (withoutKey head.responseKey ys) (by
        rw [← withoutKey_append]
        exact hrest.withoutKey _)
    refine ⟨joined x head (withKey head.responseKey (rest ++ ys)) :: before, after, ?_,
      fun s hs => ?_, ?_, ?_⟩
    · rw [List.cons_append, merge_cons_field hx, withoutKey_append, hmerged, List.cons_append]
    · have hother : s.responseKey? ≠ some head.responseKey := by simp [responseKey?, hs]
      rw [List.cons_append, merge_cons_field hx, withKey_append, withoutKey_append,
        withKey_cons_of_ne _ hother, withoutKey_cons_of_ne _ hother, ← withKey_append, haround s hs,
        List.cons_append]
    · intro t ht key hkey
      by_cases hsame : key = head.responseKey
      · refine ⟨_, List.mem_cons_self, ?_⟩
        rw [← (mergedFrom_joined hx (rest ++ ys)).key x List.mem_cons_self, hxkey, hsame]
      · have hleft : t ∈ withoutKey head.responseKey rest := by
          rcases List.mem_cons.1 ht with rfl | ht
          · rw [hxkey] at hkey
            exact absurd (Option.some.inj hkey).symm hsame
          · refine mem_withoutKey.2 ⟨ht, ?_⟩
            rw [hkey]
            exact fun heq => hsame (Option.some.inj heq)
        obtain ⟨f, hf, hfkey⟩ := hkeys t hleft key hkey
        exact ⟨f, List.mem_cons_of_mem _ hf, hfkey⟩
    · have hafter : after.filter (fun s => !repeats (withoutKey head.responseKey part) s) =
          after.filter fun s => !repeats part s := by
        refine List.filter_congr fun s hs => ?_
        have hmem : s ∈ merge (withoutKey head.responseKey rest ++
            withoutKey head.responseKey ys) := by
          rw [hmerged]
          exact List.mem_append_right before hs
        rw [← withoutKey_append] at hmem
        have hother := ne_key_of_mem_merge (fun t ht => (mem_withoutKey.1 ht).2) s hmem
        rw [repeats_withoutKey part hother]
      rw [List.cons_append, List.cons_append, merge_cons_field hx, joined_of_apart hx h,
        withoutKey_append, withoutKey_append, hbetween, filter_merge_withoutKey hx, hafter]
      simp only [List.cons_append]

end OperationSamples.Selection
