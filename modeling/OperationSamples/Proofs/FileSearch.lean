import Mathlib.Data.List.Induction
import Mathlib.Data.List.Lex
import Mathlib.Data.String.Basic
import OperationSamples.Files.Search

/-!
What a list of paths stands for.

The result of a search is fixed by its members, because it is sorted and has no duplicates. Its
members are the files among the paths, and all entries with a suffix below the directories among
them. That includes directories: a second search would open those, and so it finds the same only if
there are none.
-/

namespace OperationSamples

namespace Path

/-! ### Paths -/

/-- Whether a path is as it is read from a text: the root is one, and no component is. -/
def proper (p : Path) : Bool :=
  (p.root.isEmpty || FileTree.isRoot p.root) && p.components.all fun c => !FileTree.isRoot c

theorem splitSlashes_ne_nil (text : List Char) : splitSlashes text ≠ [] := by
  cases text with
  | nil => simp [splitSlashes]
  | cons c rest =>
    rw [splitSlashes]
    split
    · simp
    · split <;> simp

theorem not_mem_of_mem_splitSlashes {text part : List Char} (h : part ∈ splitSlashes text) :
    '/' ∉ part := by
  induction text generalizing part with
  | nil =>
    rw [splitSlashes, List.mem_singleton] at h
    simp [h]
  | cons c rest ih =>
    rw [splitSlashes] at h
    split at h
    · rcases List.mem_cons.1 h with rfl | h
      · simp
      · exact ih h
    · next hslash =>
      cases hsplit : splitSlashes rest with
      | nil => exact absurd hsplit (splitSlashes_ne_nil rest)
      | cons first others =>
        rw [hsplit] at h ih
        rcases List.mem_cons.1 h with rfl | h
        · have hfirst := ih List.mem_cons_self
          have hne : c ≠ '/' := by simpa using hslash
          rw [List.mem_cons, not_or]
          exact ⟨Ne.symm hne, hfirst⟩
        · exact ih (List.mem_cons_of_mem first h)

theorem proper_ofText (text : String) : (ofText text).proper := by
  have hroot : ∀ chars : List Char, (rootOf chars).isEmpty || FileTree.isRoot (rootOf chars) := by
    intro chars
    unfold rootOf
    split <;> decide
  rw [proper, Bool.and_eq_true]
  refine ⟨hroot text.toList, List.all_eq_true.2 fun c hc => ?_⟩
  obtain ⟨part, hpart, rfl⟩ := List.mem_map.1 (List.mem_filter.1 hc).1
  have hslash := not_mem_of_mem_splitSlashes hpart
  rw [Bool.not_eq_true', ← Bool.not_eq_true]
  intro hisRoot
  rw [FileTree.isRoot, Bool.or_eq_true, beq_iff_eq, beq_iff_eq] at hisRoot
  rcases hisRoot with h | h
  · have hchars : part = ['/'] := by rw [← String.toList_ofList (l := part), h]; rfl
    simp [hchars] at hslash
  · have hchars : part = ['/', '/'] := by rw [← String.toList_ofList (l := part), h]; rfl
    simp [hchars] at hslash

theorem proper_iff {p : Path} : p.proper ↔
    (p.root = "" ∨ FileTree.isRoot p.root) ∧ ∀ c ∈ p.components, FileTree.isRoot c = false := by
  simp [proper]

/-- A proper path is known by its parts: the root is the only one that can be a root. -/
theorem eq_of_parts {p q : Path} (hp : p.proper) (hq : q.proper) (h : p.parts = q.parts) :
    p = q := by
  obtain ⟨root, components⟩ := p
  obtain ⟨root', components'⟩ := q
  obtain ⟨hroot, hcomponents⟩ := proper_iff.1 hp
  obtain ⟨hroot', hcomponents'⟩ := proper_iff.1 hq
  dsimp only at hroot hcomponents hroot' hcomponents'
  by_cases hempty : root = ""
  · by_cases hempty' : root' = ""
    · subst hempty hempty'
      simpa [parts] using h
    · have hcons : components = root' :: components' := by simpa [parts, hempty, hempty'] using h
      have hnot := hcomponents root' (by simp [hcons])
      rw [hroot'.resolve_left hempty'] at hnot
      cases hnot
  · by_cases hempty' : root' = ""
    · have hcons : root :: components = components' := by simpa [parts, hempty, hempty'] using h
      have hnot := hcomponents' root (by simp [← hcons])
      rw [hroot.resolve_left hempty] at hnot
      cases hnot
    · simpa [parts, hempty, hempty'] using h

/-! ### Order -/

theorem le_iff {p q : Path} : p.le q ↔ p.parts ≤ q.parts := by
  rw [le, Bool.not_eq_true', ← Bool.not_eq_true, List.lex_eq_true_iff_lt, not_lt]

theorem le_or_le (p q : Path) : p.le q || q.le p := by
  rw [Bool.or_eq_true, le_iff, le_iff]
  exact le_total p.parts q.parts

theorem le_of_le_of_le (p q r : Path) (hpq : p.le q) (hqr : q.le r) : p.le r := by
  rw [le_iff] at hpq hqr ⊢
  exact hpq.trans hqr

theorem eq_of_le_of_le {p q : Path} (hp : p.proper) (hq : q.proper) (hpq : p.le q)
    (hqp : q.le p) : p = q :=
  eq_of_parts hp hq (le_antisymm (le_iff.1 hpq) (le_iff.1 hqp))

/-! ### Ways down -/

/-- The path that goes on along a way. -/
def along (p : Path) (way : List String) : Path := { p with components := p.components ++ way }

theorem foldl_child (p : Path) (way : List String) : way.foldl child p = p.along way := by
  induction way generalizing p with
  | nil => simp [along]
  | cons c rest ih => simp [ih, along, child]

theorem parts_along (p : Path) (way : List String) : (p.along way).parts = p.parts ++ way := by
  unfold parts along
  split <;> simp

theorem name_along (p : Path) {way : List String} (h : way ≠ []) :
    (p.along way).name = way.getLastD "" := by
  rw [name, along, List.getLastD_eq_getLast?, List.getLastD_eq_getLast?,
    List.getLast?_append_of_ne_nil _ h]

theorem proper_along {p : Path} {way : List String} (hp : p.proper)
    (hway : way.all FileTree.leadsDown) : (p.along way).proper := by
  rw [proper_iff] at hp ⊢
  refine ⟨hp.1, List.forall_mem_append.2 ⟨hp.2, fun c hc => ?_⟩⟩
  have hdown := List.all_eq_true.1 hway c hc
  rw [FileTree.leadsDown, Bool.and_eq_true, Bool.not_eq_true'] at hdown
  exact hdown.2

/-- Whether one path leads further down than another, by the names of entries. -/
def Above (p q : Path) : Prop := ∃ way, way ≠ [] ∧ way.all FileTree.leadsDown ∧ q = p.along way

theorem Above.proper {p q : Path} (h : p.Above q) (hp : p.proper) : q.proper := by
  obtain ⟨way, -, hway, rfl⟩ := h
  exact proper_along hp hway

theorem Above.length_lt {p q : Path} (h : p.Above q) :
    p.components.length < q.components.length := by
  obtain ⟨way, hne, -, rfl⟩ := h
  have hpos := List.length_pos_iff.2 hne
  rw [along, List.length_append]
  omega

end Path

namespace FileTree

/-! ### Walking -/

theorem walk_append (tree : FileTree) (place : Place) (first second : List String) :
    tree.walk place (first ++ second) = tree.walk place first >>= fun p => tree.walk p second := by
  induction first generalizing place with
  | nil => rfl
  | cons c rest ih =>
    rw [List.cons_append, walk, walk]
    split
    · exact ih _
    · rfl
    · rfl

theorem step_of_leadsDown {place : Place} {c : String} (h : leadsDown c) :
    step place c = place ++ [c] := by
  rw [leadsDown, Bool.and_eq_true, bne_iff_ne] at h
  rw [step, if_neg (by simpa using h.1)]

/-- A walk down leads where its components say. -/
theorem walk_down {tree : FileTree} {place target : Place} {way : List String}
    (hway : way.all leadsDown) (h : tree.walk place way = .ok target) : target = place ++ way := by
  induction way generalizing place with
  | nil =>
    rw [walk, Except.ok.injEq] at h
    rw [h, List.append_nil]
  | cons c rest ih =>
    rw [List.all_cons, Bool.and_eq_true] at hway
    rw [walk] at h
    split at h
    · rw [step_of_leadsDown hway.1] at h
      rw [ih hway.2 h, List.append_assoc, List.singleton_append]
    · cases h
    · cases h

/-- Where all that is walked through is a directory, the walk comes to its end. -/
theorem walk_of_directories {tree : FileTree} {place : Place} {way : List String}
    (hway : way.all leadsDown)
    (h : ∀ n, n < way.length → tree.isDirectoryAt (place ++ way.take n)) :
    tree.walk place way = .ok (place ++ way) := by
  induction way generalizing place with
  | nil => rw [walk, List.append_nil]
  | cons c rest ih =>
    rw [List.all_cons, Bool.and_eq_true] at hway
    have hplace : tree.get? place = some .directory := by
      have hfirst := h 0 (by simp)
      rw [List.take_zero, List.append_nil] at hfirst
      simpa [isDirectoryAt] using hfirst
    have hnext : ∀ n, n < rest.length → tree.isDirectoryAt (place ++ [c] ++ rest.take n) := by
      intro n hn
      have hdirectory := h (n + 1) (by simpa using hn)
      rwa [List.take_succ_cons, ← List.singleton_append, ← List.append_assoc] at hdirectory
    have hthrough : (if isRoot c then some FileEntry.directory else tree.get? place) =
        some .directory := by
      rw [hplace, ite_self]
    rw [walk, hthrough]
    dsimp only
    rw [step_of_leadsDown hway.1, ih hway.2 hnext, List.append_assoc, List.singleton_append]

theorem locate?_eq_some {tree : FileTree} {p : Path} {place : Place} :
    tree.locate? p = some place ↔ tree.walk [] p.parts = .ok place ∧ (tree.get? place).isSome := by
  unfold locate?
  cases hwalk : tree.walk [] p.parts with
  | error obstacle => simp [Except.toOption]
  | ok target =>
    simp only [Except.toOption, Option.filter_eq_some_iff, Option.some.injEq, Except.ok.injEq]

/-! ### Entries -/

/-- Whether everything on the way to an entry is a directory. -/
def wellFormed (tree : FileTree) : Bool :=
  tree.entries.all fun entry => (List.range entry.1.length).all fun n =>
    tree.isDirectoryAt (entry.1.take n)

theorem isDirectoryAt_of_wellFormed {tree : FileTree} (htree : tree.wellFormed) {place : Place}
    {e : FileEntry} (h : (place, e) ∈ tree.entries) {n : Nat} (hn : n < place.length) :
    tree.isDirectoryAt (place.take n) :=
  List.all_eq_true.1 (List.all_eq_true.1 htree _ h) n (List.mem_range.2 hn)

/-- Below a place there is only what is listed. -/
theorem isSome_get?_iff {tree : FileTree} {place : Place} {way : List String} (hne : way ≠ [])
    (hway : way.all leadsDown) :
    (tree.get? (place ++ way)).isSome ↔ ∃ e, (place ++ way, e) ∈ tree.entries := by
  have hdown : ((place ++ way).all fun c => c == "..") = false := by
    obtain ⟨c, rest, rfl⟩ := List.exists_cons_of_ne_nil hne
    rw [List.all_cons, Bool.and_eq_true] at hway
    have hc : c ≠ ".." := by
      rw [leadsDown, Bool.and_eq_true, bne_iff_ne] at hway
      exact hway.1.1
    simp [hc]
  rw [get?, hdown]
  simp

theorem mem_below {tree : FileTree} {place : Place} {way : List String} : way ∈ tree.below place ↔
    way ≠ [] ∧ way.all leadsDown ∧ ∃ e, (place ++ way, e) ∈ tree.entries := by
  rw [below, List.mem_filterMap]
  constructor
  · rintro ⟨⟨target, e⟩, hmem, hway⟩
    dsimp only at hway
    split at hway
    · next hbelow =>
      rw [Bool.and_eq_true, Bool.and_eq_true, List.isPrefixOf_iff_prefix] at hbelow
      obtain ⟨⟨⟨way', rfl⟩, hne⟩, hdown⟩ := hbelow
      rw [List.drop_left] at hne hdown hway
      cases hway
      exact ⟨by simpa using hne, hdown, e, hmem⟩
    · cases hway
  · rintro ⟨hne, hway, e, hmem⟩
    refine ⟨(place ++ way, e), hmem, ?_⟩
    simp [hne, hway]

/-- A path that goes down from a directory leads to an entry below it. -/
theorem locate?_along {tree : FileTree} (htree : tree.wellFormed) {p : Path} {place : Place}
    (hp : tree.locate? p = some place) {way : List String} (hne : way ≠ [])
    (hway : way.all leadsDown) :
    (tree.locate? (p.along way)).isSome ↔ ∃ e, (place ++ way, e) ∈ tree.entries := by
  have hwalk : tree.walk [] (p.along way).parts = tree.walk place way := by
    rw [Path.parts_along, walk_append, (locate?_eq_some.1 hp).1]
    rfl
  rw [← isSome_get?_iff hne hway]
  constructor
  · intro h
    obtain ⟨target, htarget⟩ := Option.isSome_iff_exists.1 h
    obtain ⟨hends, hexists⟩ := locate?_eq_some.1 htarget
    rw [hwalk] at hends
    rwa [walk_down hway hends] at hexists
  · intro h
    obtain ⟨e, hmem⟩ := (isSome_get?_iff hne hway).1 h
    have hends : tree.walk place way = .ok (place ++ way) := by
      refine walk_of_directories hway fun n hn => ?_
      have hdirectory := isDirectoryAt_of_wellFormed htree hmem (n := place.length + n)
        (by rw [List.length_append]; omega)
      rwa [List.take_length_add_append] at hdirectory
    exact Option.isSome_iff_exists.2 ⟨_, locate?_eq_some.2 ⟨hwalk.trans hends, h⟩⟩

/-! ### Searching -/

theorem isDirectoryAt_eq_not {tree : FileTree} {place : Place} (h : (tree.get? place).isSome) :
    tree.isDirectoryAt place = !tree.isFileAt place := by
  obtain ⟨e, he⟩ := Option.isSome_iff_exists.1 h
  cases e with
  | file bytes => simp [isDirectoryAt, isFileAt, he]
  | directory => simp [isDirectoryAt, isFileAt, he]

/-- What a path leads to is a file or a directory, and not both. -/
theorem isDirectory_eq_not {tree : FileTree} {p : Path} (h : (tree.locate? p).isSome) :
    tree.isDirectory p = !tree.isFile p := by
  obtain ⟨place, hplace⟩ := Option.isSome_iff_exists.1 h
  rw [isDirectory, isFile, hplace]
  exact isDirectoryAt_eq_not (locate?_eq_some.1 hplace).2

theorem isSome_locate?_iff {tree : FileTree} {p : Path} :
    (tree.locate? p).isSome ↔ tree.isFile p ∨ tree.isDirectory p := by
  constructor
  · intro h
    rw [isDirectory_eq_not h, Bool.not_eq_true', ← Bool.not_eq_true]
    exact Classical.em _
  · cases hlocate : tree.locate? p with
    | none => simp [isFile, isDirectory, hlocate]
    | some place => simp

theorem not_isDirectory_of_isFile {tree : FileTree} {p : Path} (h : tree.isFile p) :
    ¬tree.isDirectory p := by
  rw [isDirectory_eq_not (isSome_locate?_iff.2 (.inl h)), h]
  simp

theorem mem_search {tree : FileTree} (htree : tree.wellFormed) {p q : Path} {place : Place}
    (hp : tree.locate? p = some place) : q ∈ tree.search p place ↔
      p.Above q ∧ hasSuffix graphqlSuffixes q.name ∧ (tree.locate? q).isSome := by
  rw [search, List.mem_map]
  constructor
  · rintro ⟨way, hmem, rfl⟩
    obtain ⟨hbelow, hsuffix⟩ := List.mem_filter.1 hmem
    obtain ⟨hne, hway, hentry⟩ := mem_below.1 hbelow
    rw [Path.foldl_child]
    exact ⟨⟨way, hne, hway, rfl⟩, by rwa [Path.name_along p hne],
      (locate?_along htree hp hne hway).2 hentry⟩
  · rintro ⟨⟨way, hne, hway, rfl⟩, hsuffix, hexists⟩
    rw [Path.name_along p hne] at hsuffix
    have hbelow := mem_below.2 ⟨hne, hway, (locate?_along htree hp hne hway).1 hexists⟩
    exact ⟨way, List.mem_filter.2 ⟨hbelow, hsuffix⟩, Path.foldl_child p way⟩

theorem mem_expand {tree : FileTree} (htree : tree.wellFormed) {p q : Path} :
    q ∈ tree.expand p ↔ (q = p ∧ tree.isFile p) ∨
      tree.isDirectory p ∧ p.Above q ∧ hasSuffix graphqlSuffixes q.name ∧
        (tree.locate? q).isSome := by
  unfold expand
  split
  · next hnone => simp [isFile, isDirectory, hnone]
  · next place hp =>
    have hkind := isDirectory_eq_not (Option.isSome_iff_exists.2 ⟨place, hp⟩)
    have hfile : tree.isFile p = tree.isFileAt place := by rw [isFile, hp]; rfl
    rw [hkind, hfile]
    split
    · next h => simp [h]
    · next h => simp [h, mem_search htree hp]

/-! ### Results -/

theorem dropRepeated_snoc (paths : List Path) (p : Path) :
    dropRepeated (paths ++ [p]) =
      if p ∈ dropRepeated paths then dropRepeated paths else dropRepeated paths ++ [p] := by
  simp [dropRepeated]

theorem mem_dropRepeated {paths : List Path} {p : Path} : p ∈ dropRepeated paths ↔ p ∈ paths := by
  induction paths using List.reverseRecOn with
  | nil => rfl
  | append_singleton paths last ih =>
    rw [dropRepeated_snoc, List.mem_append, List.mem_singleton, ← ih]
    split
    · next hmem =>
      constructor
      · exact .inl
      · rintro (h | rfl)
        · exact h
        · exact hmem
    · rw [List.mem_append, List.mem_singleton]

theorem nodup_dropRepeated (paths : List Path) : (dropRepeated paths).Nodup := by
  induction paths using List.reverseRecOn with
  | nil => exact List.nodup_nil
  | append_singleton paths last ih =>
    rw [dropRepeated_snoc]
    split
    · exact ih
    · next hnew =>
      refine List.nodup_append.2 ⟨ih, by simp, fun p hp q hq => ?_⟩
      rw [List.mem_singleton.1 hq]
      rintro rfl
      exact hnew hp

section

variable {tree : FileTree} {paths : List Path}

theorem pairwise_graphqlFiles (tree : FileTree) (paths : List Path) :
    (tree.graphqlFiles paths).Pairwise fun p q => p.le q :=
  List.pairwise_mergeSort Path.le_of_le_of_le Path.le_or_le _

theorem nodup_graphqlFiles (tree : FileTree) (paths : List Path) :
    (tree.graphqlFiles paths).Nodup :=
  (List.mergeSort_perm _ _).nodup_iff.2 (nodup_dropRepeated _)

theorem mem_graphqlFiles {q : Path} :
    q ∈ tree.graphqlFiles paths ↔ ∃ p ∈ paths, q ∈ tree.expand p := by
  rw [graphqlFiles, (List.mergeSort_perm _ _).mem_iff, mem_dropRepeated, List.mem_flatMap]

/-- Whether a path leads down from a directory among the paths to something whose name has a
suffix. -/
def Named (tree : FileTree) (paths : List Path) (q : Path) : Prop :=
  ∃ p ∈ paths, tree.isDirectory p ∧ p.Above q ∧ hasSuffix graphqlSuffixes q.name

/-- The files among the paths are found, and whatever has a suffix below the directories. -/
theorem mem_graphqlFiles_iff (htree : tree.wellFormed) {q : Path} :
    q ∈ tree.graphqlFiles paths ↔ (q ∈ paths ∧ tree.isFile q) ∨
      tree.Named paths q ∧ (tree.isFile q ∨ tree.isDirectory q) := by
  rw [mem_graphqlFiles, ← isSome_locate?_iff]
  constructor
  · rintro ⟨p, hp, hq⟩
    rcases (mem_expand htree).1 hq with ⟨rfl, hfile⟩ | ⟨hdirectory, habove, hsuffix, hexists⟩
    · exact .inl ⟨hp, hfile⟩
    · exact .inr ⟨⟨p, hp, hdirectory, habove, hsuffix⟩, hexists⟩
  · rintro (⟨hq, hfile⟩ | ⟨⟨p, hp, hdirectory, habove, hsuffix⟩, hexists⟩)
    · exact ⟨q, hq, (mem_expand htree).2 (.inl ⟨rfl, hfile⟩)⟩
    · exact ⟨p, hp, (mem_expand htree).2 (.inr ⟨hdirectory, habove, hsuffix, hexists⟩)⟩

theorem proper_of_mem_graphqlFiles (htree : tree.wellFormed) (hpaths : ∀ p ∈ paths, p.proper) :
    ∀ q ∈ tree.graphqlFiles paths, q.proper := by
  intro q hq
  rcases (mem_graphqlFiles_iff htree).1 hq with ⟨hq, -⟩ | ⟨⟨p, hp, -, habove, -⟩, -⟩
  · exact hpaths q hq
  · exact habove.proper (hpaths p hp)

/-- A result is known by its members. -/
theorem graphqlFiles_eq_of_mem_iff {others : List Path} (htree : tree.wellFormed)
    (hpaths : ∀ p ∈ paths, p.proper)
    (hmem : ∀ q, q ∈ tree.graphqlFiles others ↔ q ∈ tree.graphqlFiles paths) :
    tree.graphqlFiles others = tree.graphqlFiles paths := by
  have hproper := proper_of_mem_graphqlFiles htree hpaths
  have hperm : (tree.graphqlFiles others).Perm (tree.graphqlFiles paths) :=
    (List.perm_ext_iff_of_nodup (nodup_graphqlFiles tree others)
      (nodup_graphqlFiles tree paths)).2 hmem
  exact List.Perm.eq_of_pairwise
    (fun p q hp hq hpq hqp => Path.eq_of_le_of_le (hproper p ((hmem p).1 hp)) (hproper q hq) hpq hqp)
    (pairwise_graphqlFiles tree others) (pairwise_graphqlFiles tree paths) hperm

/-- Where only files have a suffix, a result consists of files, and a search among them finds the
same. -/
theorem graphqlFiles_graphqlFiles (htree : tree.wellFormed) (hpaths : ∀ p ∈ paths, p.proper)
    (hfiles : ∀ q, tree.Named paths q → ¬tree.isDirectory q) :
    tree.graphqlFiles (tree.graphqlFiles paths) = tree.graphqlFiles paths := by
  have hfound : ∀ q ∈ tree.graphqlFiles paths, tree.isFile q := by
    intro q hq
    rcases (mem_graphqlFiles_iff htree).1 hq with ⟨-, hfile⟩ | ⟨hnamed, hfile | hdirectory⟩
    · exact hfile
    · exact hfile
    · exact absurd hdirectory (hfiles q hnamed)
  refine graphqlFiles_eq_of_mem_iff htree hpaths fun q => ?_
  rw [mem_graphqlFiles_iff htree]
  constructor
  · rintro (⟨hq, -⟩ | ⟨⟨p, hp, hdirectory, -⟩, -⟩)
    · exact hq
    · exact absurd hdirectory (not_isDirectory_of_isFile (hfound p hp))
  · exact fun hq => .inl ⟨hq, hfound q hq⟩

/-- A directory that was found is opened by a second search, and the first of them on a way down is
lost. -/
theorem not_isDirectory_of_graphqlFiles_eq (htree : tree.wellFormed)
    (hsame : tree.graphqlFiles (tree.graphqlFiles paths) = tree.graphqlFiles paths) (q : Path)
    (hq : q ∈ tree.graphqlFiles paths) : ¬tree.isDirectory q := by
  -- by induction on the length: what is found again lies below a shorter directory
  induction hlength : q.components.length using Nat.strongRecOn generalizing q with
  | ind n ih =>
    intro hdirectory
    rw [← hsame] at hq
    rcases (mem_graphqlFiles_iff htree).1 hq with ⟨-, hfile⟩ | ⟨⟨p, hp, hopened, habove, -⟩, -⟩
    · exact not_isDirectory_of_isFile hfile hdirectory
    · exact ih p.components.length (hlength ▸ habove.length_lt) p hp rfl hopened

end

/-- **The search is exact but for directories with a suffix.** Its result is sorted, has no
duplicates, and does not depend on the order and repetition of the paths. It holds the files among
the paths and everything with a suffix below the directories among them. These are files alone, and
a search among them finds the same, exactly if no directory below those has such a name. -/
theorem graphqlFiles_exact_iff (tree : FileTree) (htree : tree.wellFormed) (paths : List Path)
    (hpaths : ∀ p ∈ paths, p.proper) :
    ((tree.graphqlFiles paths).Pairwise fun p q => p.le q) ∧
    (tree.graphqlFiles paths).Nodup ∧
    (∀ others, (∀ p, p ∈ others ↔ p ∈ paths) →
      tree.graphqlFiles others = tree.graphqlFiles paths) ∧
    (∀ q, q ∈ tree.graphqlFiles paths ↔ (q ∈ paths ∧ tree.isFile q) ∨
      tree.Named paths q ∧ (tree.isFile q ∨ tree.isDirectory q)) ∧
    ((∀ q, q ∈ tree.graphqlFiles paths ↔ (q ∈ paths ∧ tree.isFile q) ∨
      tree.Named paths q ∧ tree.isFile q) ↔ ∀ q, tree.Named paths q → ¬tree.isDirectory q) ∧
    (tree.graphqlFiles (tree.graphqlFiles paths) = tree.graphqlFiles paths ↔
      ∀ q, tree.Named paths q → ¬tree.isDirectory q) := by
  have hfound : ∀ {q}, tree.Named paths q → tree.isDirectory q → q ∈ tree.graphqlFiles paths :=
    fun hnamed hdirectory => (mem_graphqlFiles_iff htree).2 (.inr ⟨hnamed, .inr hdirectory⟩)
  refine ⟨pairwise_graphqlFiles tree paths, nodup_graphqlFiles tree paths, ?_,
    fun q => mem_graphqlFiles_iff htree, ⟨?_, ?_⟩, ?_, graphqlFiles_graphqlFiles htree hpaths⟩
  · intro others hsame
    refine graphqlFiles_eq_of_mem_iff htree hpaths fun q => ?_
    simp only [mem_graphqlFiles, hsame]
  · intro hexact q hnamed hdirectory
    rcases (hexact q).1 (hfound hnamed hdirectory) with ⟨-, hfile⟩ | ⟨-, hfile⟩
    · exact not_isDirectory_of_isFile hfile hdirectory
    · exact not_isDirectory_of_isFile hfile hdirectory
  · intro hfiles q
    rw [mem_graphqlFiles_iff htree]
    constructor
    · rintro (h | ⟨hnamed, hfile | hdirectory⟩)
      · exact .inl h
      · exact .inr ⟨hnamed, hfile⟩
      · exact absurd hdirectory (hfiles q hnamed)
    · rintro (h | ⟨hnamed, hfile⟩)
      · exact .inl h
      · exact .inr ⟨hnamed, .inl hfile⟩
  · intro hsame q hnamed hdirectory
    exact not_isDirectory_of_graphqlFiles_eq htree hsame q (hfound hnamed hdirectory) hdirectory

/-- What is found in order needs no sorting. -/
theorem graphqlFiles_of_pairwise {tree : FileTree} {paths : List Path}
    (h : (dropRepeated (paths.flatMap tree.expand)).Pairwise fun p q => p.le q) :
    tree.graphqlFiles paths = dropRepeated (paths.flatMap tree.expand) :=
  List.mergeSort_of_pairwise h

/-- A directory with files at two levels, beside another file. -/
def petFiles : FileTree := ⟨[(["pets"], .directory), (["pets", "cat.graphql"], .file []),
  (["pets", "notes.txt"], .file []), (["pets", "old"], .directory),
  (["pets", "old", "dog.gql"], .file []), (["readme.txt"], .file [])]⟩

theorem graphqlFiles_exact_iff_pets :
    let paths := ["pets", "./pets/cat.graphql", "readme.txt", "pets"].map Path.ofText
    petFiles.wellFormed ∧ (∀ p ∈ paths, p.proper) ∧
      petFiles.graphqlFiles paths =
        ["pets/cat.graphql", "pets/old/dog.gql", "readme.txt"].map Path.ofText ∧
      petFiles.graphqlFiles paths.reverse = petFiles.graphqlFiles paths ∧
      ∀ q, q ∈ petFiles.graphqlFiles paths ↔ (q ∈ paths ∧ petFiles.isFile q) ∨
        petFiles.Named paths q ∧ petFiles.isFile q := by
  intro paths
  have htree : petFiles.wellFormed := by decide +kernel
  have hpaths : ∀ p ∈ paths, p.proper :=
    List.forall_mem_map.2 fun text _ => Path.proper_ofText text
  have hfound : petFiles.graphqlFiles paths =
      ["pets/cat.graphql", "pets/old/dog.gql", "readme.txt"].map Path.ofText :=
    (graphqlFiles_of_pairwise (by decide +kernel)).trans (by decide +kernel)
  have hagain : petFiles.graphqlFiles (petFiles.graphqlFiles paths) =
      petFiles.graphqlFiles paths := by
    rw [hfound]
    exact (graphqlFiles_of_pairwise (by decide +kernel)).trans (by decide +kernel)
  obtain ⟨-, -, hsame, -, hexact, hfiles⟩ := graphqlFiles_exact_iff petFiles htree paths hpaths
  exact ⟨htree, hpaths, hfound, hsame _ fun p => List.mem_reverse, hexact.2 (hfiles.1 hagain)⟩

/-- A directory below the working directory whose name has a suffix. -/
def namedDirectory : FileTree := ⟨[(["pets"], .directory), (["pets", "cat.graphql"], .directory),
  (["pets", "cat.graphql", "dog.gql"], .file [])]⟩

/-- A directory is found like a file if its name has a suffix, and a second search loses it. -/
theorem named_directory_found :
    namedDirectory.wellFormed ∧
      namedDirectory.graphqlFiles [Path.ofText "pets"] =
        ["pets/cat.graphql", "pets/cat.graphql/dog.gql"].map Path.ofText ∧
      namedDirectory.isFile (Path.ofText "pets/cat.graphql") = false ∧
      namedDirectory.graphqlFiles (namedDirectory.graphqlFiles [Path.ofText "pets"]) =
        [Path.ofText "pets/cat.graphql/dog.gql"] := by
  have hfound : namedDirectory.graphqlFiles [Path.ofText "pets"] =
      ["pets/cat.graphql", "pets/cat.graphql/dog.gql"].map Path.ofText :=
    (graphqlFiles_of_pairwise (by decide +kernel)).trans (by decide +kernel)
  refine ⟨by decide +kernel, hfound, by decide +kernel, ?_⟩
  rw [hfound]
  exact (graphqlFiles_of_pairwise (by decide +kernel)).trans (by decide +kernel)

end FileTree

end OperationSamples
