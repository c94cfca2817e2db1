import Mathlib.Data.Set.Basic
import OperationSamples.Proofs.Unmarked

/-!
The fields that selections lead to.

A selection leads to a field across a chain of fragments: inline fragments, and spreads of fragments
that a table knows. A spread is read as an inline fragment with the condition and the selections of
its definition. `Leads` says so step by step, without entering any field; `Reaches` gathers it for a
list of selections and keeps the conditions that were crossed. A path (`HasPath`) goes on below the
field that was reached, and so on.

Merging puts fields together without moving them across a fragment, so it keeps all paths
(`hasPath_merge`). Resolving writes out what the spreads stand for. Where it reports nothing it left
nothing out, and the paths stay the same (`fieldPaths_resolve`).
-/

namespace OperationSamples

namespace Selection

/-! ### Chains of fragments -/

/-- A fragment on the way to a field. -/
inductive Crossing where
  | inline (condition : Option String)
  | spread (fragment condition : String)
deriving DecidableEq, Repr

def Crossing.condition? : Crossing → Option String
  | .inline condition => condition
  | .spread _ condition => some condition

/-- The conditions of a chain, from the outside in. -/
def crossedConditions (chain : List Crossing) : List String := chain.filterMap Crossing.condition?

/-- Whether a selection leads to a field across a chain of fragments. -/
inductive Leads (table : FragmentTable) : Selection → List Crossing → Selection → Prop
  | field {f : Selection} (hfield : f.head?.isSome) : Leads table f [] f
  | inline {condition : Option String} {directives : List Directive} {inside : List Selection}
      {s f : Selection} {chain : List Crossing} (hs : s ∈ inside) (hleads : Leads table s chain f) :
      Leads table (.inline condition directives inside) (.inline condition :: chain) f
  | spread {name : String} {directives : List Directive} {fragment : Fragment} {s f : Selection}
      {chain : List Crossing} (hfragment : table.get? name = some fragment)
      (hs : s ∈ fragment.selections) (hleads : Leads table s chain f) :
      Leads table (.spread name directives) (.spread name fragment.condition :: chain) f

/-- Whether one of some selections leads to a field with a property, across the given conditions. -/
def Reaches (table : FragmentTable) (selections : List Selection) (conditions : List String)
    (property : Selection → Prop) : Prop :=
  ∃ s ∈ selections, ∃ chain f,
    Leads table s chain f ∧ crossedConditions chain = conditions ∧ property f

section Reaches

variable {table : FragmentTable} {selections : List Selection} {conditions : List String}
  {property : Selection → Prop}

theorem Reaches.mono {larger : List Selection} {weaker : Selection → Prop}
    (h : Reaches table selections conditions property) (hle : ∀ s ∈ selections, s ∈ larger)
    (hweaker : ∀ f, property f → weaker f) : Reaches table larger conditions weaker := by
  obtain ⟨s, hs, chain, f, hleads, hconditions, hproperty⟩ := h
  exact ⟨s, hle s hs, chain, f, hleads, hconditions, hweaker f hproperty⟩

theorem reaches_iff_exists_mem : Reaches table selections conditions property ↔
    ∃ s ∈ selections, Reaches table [s] conditions property := by
  simp [Reaches]

theorem reaches_append {others : List Selection} :
    Reaches table (selections ++ others) conditions property ↔
      Reaches table selections conditions property ∨ Reaches table others conditions property := by
  simp only [Reaches, List.mem_append, or_and_right, exists_or]

theorem not_reaches_nil : ¬ Reaches table [] conditions property := by
  rintro ⟨s, hs, -⟩
  cases hs

theorem reaches_field {f : Selection} (hfield : f.head?.isSome) :
    Reaches table [f] conditions property ↔ conditions = [] ∧ property f := by
  constructor
  · rintro ⟨s, hs, chain, g, hleads, rfl, hproperty⟩
    obtain rfl := List.mem_singleton.1 hs
    cases hleads with
    | field => exact ⟨rfl, hproperty⟩
    | inline => cases hfield
    | spread => cases hfield
  · rintro ⟨rfl, hproperty⟩
    exact ⟨f, by simp, [], f, .field hfield, rfl, hproperty⟩

theorem reaches_bare {directives : List Directive} :
    Reaches table [.inline none directives selections] conditions property ↔
      Reaches table selections conditions property := by
  constructor
  · rintro ⟨s, hs, chain, f, hleads, rfl, hproperty⟩
    obtain rfl := List.mem_singleton.1 hs
    cases hleads with
    | field hfield => cases hfield
    | inline hinside hleads => exact ⟨_, hinside, _, f, hleads, rfl, hproperty⟩
  · rintro ⟨s, hs, chain, f, hleads, rfl, hproperty⟩
    exact ⟨_, List.mem_singleton_self _, _, f, .inline hs hleads, rfl, hproperty⟩

theorem reaches_inline {condition : String} {directives : List Directive} :
    Reaches table [.inline (some condition) directives selections] conditions property ↔
      ∃ inner, conditions = condition :: inner ∧ Reaches table selections inner property := by
  constructor
  · rintro ⟨s, hs, chain, f, hleads, rfl, hproperty⟩
    obtain rfl := List.mem_singleton.1 hs
    cases hleads with
    | field hfield => cases hfield
    | inline hinside hleads => exact ⟨_, rfl, _, hinside, _, f, hleads, rfl, hproperty⟩
  · rintro ⟨_, rfl, s, hs, chain, f, hleads, rfl, hproperty⟩
    exact ⟨_, List.mem_singleton_self _, _, f, .inline hs hleads, rfl, hproperty⟩

/-- A spread stands for an inline fragment with what its definition says. -/
theorem reaches_spread {name : String} {directives : List Directive} {fragment : Fragment}
    (hfragment : table.get? name = some fragment) :
    Reaches table [.spread name directives] conditions property ↔
      Reaches table [.inline (some fragment.condition) directives fragment.selections] conditions
        property := by
  rw [reaches_inline]
  constructor
  · rintro ⟨s, hs, chain, f, hleads, rfl, hproperty⟩
    obtain rfl := List.mem_singleton.1 hs
    cases hleads with
    | field hfield => cases hfield
    | spread hknown hinside hleads =>
      obtain rfl := Option.some.inj (hfragment.symm.trans hknown)
      exact ⟨_, rfl, _, hinside, _, f, hleads, rfl, hproperty⟩
  · rintro ⟨_, rfl, s, hs, chain, f, hleads, rfl, hproperty⟩
    exact ⟨_, List.mem_singleton_self _, _, f, .spread hfragment hs hleads, rfl, hproperty⟩

end Reaches

/-! ### Merging -/

/-- Whether a field can come from merging some fields: one of them gives its head, they all have its
key, and what stands below them stands below it. -/
structure MergedFrom (fields : List Selection) (f : Selection) : Prop where
  head : ∃ g ∈ fields, g.head? = f.head?
  key : ∀ g ∈ fields, g.responseKey? = f.responseKey?
  children : f.children = childrenOf fields ∨ f.children = merge (childrenOf fields)

theorem hasKey_iff {key : String} {s : Selection} :
    hasKey key s = true ↔ s.responseKey? = some key := by
  simp [hasKey]

theorem mem_withKey {key : String} {s : Selection} {selections : List Selection} :
    s ∈ withKey key selections ↔ s ∈ selections ∧ s.responseKey? = some key := by
  rw [withKey, List.mem_filter, hasKey_iff]

theorem withKey_cons_of_ne {key : String} {s : Selection} (rest : List Selection)
    (h : s.responseKey? ≠ some key) : withKey key (s :: rest) = withKey key rest :=
  List.filter_cons_of_neg (mt hasKey_iff.1 h)

theorem withKey_withoutKey {key other : String} (selections : List Selection) (h : key ≠ other) :
    withKey key (withoutKey other selections) = withKey key selections := by
  rw [withKey, withoutKey, List.filter_filter]
  refine List.filter_congr fun s _ => ?_
  by_cases hs : s.responseKey? = some key
  · simp [hasKey, hs, h]
  · simp [hasKey, hs]

theorem children_eq_nil {s : Selection} (h : s.isBranch = false) : s.children = [] := by
  cases s with
  | branch => cases h
  | _ => rfl

theorem responseKey?_eq_some {s : Selection} {head : FieldHead} (h : s.head? = some head) :
    s.responseKey? = some head.responseKey := by
  simp [responseKey?, h]

theorem isSome_head?_of_key {s : Selection} {key : String} (h : s.responseKey? = some key) :
    s.head?.isSome := by
  cases hhead : s.head? with
  | none => simp [responseKey?, hhead] at h
  | some => rfl

theorem mergedFrom_joined {s : Selection} {head : FieldHead} (hhead : s.head? = some head)
    (rest : List Selection) :
    MergedFrom (s :: withKey head.responseKey rest)
      (joined s head (withKey head.responseKey rest)) := by
  have hsame : ∀ g ∈ s :: withKey head.responseKey rest,
      g.responseKey? = some head.responseKey := by
    intro g hg
    rcases List.mem_cons.1 hg with rfl | hg
    · exact responseKey?_eq_some hhead
    · exact (mem_withKey.1 hg).2
  unfold joined
  split
  · next halone =>
    refine ⟨⟨s, by simp, rfl⟩, fun g hg => ?_, .inl ?_⟩
    · rw [hsame g hg, responseKey?_eq_some hhead]
    · rcases Bool.or_eq_true _ _ |>.mp halone with hempty | hleaves
      · rw [List.isEmpty_iff.1 hempty]
        simp [childrenOf]
      · -- nothing stands below any of them
        have hnone : ∀ g ∈ s :: withKey head.responseKey rest, g.children = [] := by
          intro g hg
          refine children_eq_nil ?_
          rw [Bool.not_eq_true', List.any_eq_false] at hleaves
          simpa using hleaves g hg
        rw [hnone s (by simp), childrenOf, List.flatMap_eq_nil_iff.2 hnone]
  · refine ⟨⟨s, by simp, hhead⟩, fun g hg => ?_, .inr rfl⟩
    rw [hsame g hg]
    rfl

/-- A field of merged selections is merged from those with its key. -/
theorem mergedFrom_of_mem_merge {selections : List Selection} {f : Selection} {key : String}
    (hf : f ∈ merge selections) (hkey : f.responseKey? = some key) :
    MergedFrom (withKey key selections) f := by
  induction selections using merge.induct with
  | case1 => simp at hf
  | case2 s rest hhead ih =>
    have hnone : s.responseKey? = none := by simp [responseKey?, hhead]
    rw [merge_cons_fragment hhead] at hf
    rw [withKey_cons_of_ne rest (by simp [hnone])]
    rcases List.mem_cons.1 hf with rfl | hf
    · simp [hnone] at hkey
    · exact ih hf
  | case3 s rest head hhead _ ihRest =>
    rw [merge_cons_field hhead] at hf
    rcases List.mem_cons.1 hf with rfl | hf
    · have hmerged := mergedFrom_joined hhead rest
      have hown : s.responseKey? = some key := by rw [hmerged.key s (by simp), hkey]
      obtain rfl : head.responseKey = key := by
        rw [responseKey?_eq_some hhead] at hown
        exact Option.some.inj hown
      rw [withKey, List.filter_cons_of_pos (hasKey_iff.2 hown)]
      exact hmerged
    · have hmerged := ihRest hf
      -- the fields that are left have other keys
      have hne : key ≠ head.responseKey := by
        rintro rfl
        obtain ⟨g, hg, -⟩ := hmerged.head
        obtain ⟨hleft, hgkey⟩ := mem_withKey.1 hg
        simp [withoutKey, hasKey, hgkey] at hleft
      have hother : s.responseKey? ≠ some key := by
        rw [responseKey?_eq_some hhead]
        exact fun heq => hne (Option.some.inj heq).symm
      rw [withKey_cons_of_ne rest hother, ← withKey_withoutKey rest hne]
      exact hmerged

theorem exists_mem_merge {selections : List Selection} {s : Selection} {key : String}
    (hs : s ∈ selections) (hkey : s.responseKey? = some key) :
    ∃ f ∈ merge selections, f.responseKey? = some key := by
  induction selections using merge.induct with
  | case1 => cases hs
  | case2 first rest hhead ih =>
    rw [merge_cons_fragment hhead]
    rcases List.mem_cons.1 hs with rfl | hs
    · simp [responseKey?, hhead] at hkey
    · obtain ⟨f, hf, hfkey⟩ := ih hs
      exact ⟨f, by simp [hf], hfkey⟩
  | case3 first rest head hhead _ ihRest =>
    rw [merge_cons_field hhead]
    by_cases heq : key = head.responseKey
    · refine ⟨_, List.mem_cons_self, ?_⟩
      rw [← (mergedFrom_joined hhead rest).key first (by simp), responseKey?_eq_some hhead, heq]
    · have hleft : s ∈ withoutKey head.responseKey rest := by
        rcases List.mem_cons.1 hs with rfl | hs
        · rw [responseKey?_eq_some hhead] at hkey
          exact absurd (Option.some.inj hkey).symm heq
        · simp [withoutKey, hasKey, hs, hkey, heq]
      obtain ⟨f, hf, hfkey⟩ := ihRest hleft
      exact ⟨f, by simp [hf], hfkey⟩

theorem mem_merge_fragment {selections : List Selection} {s : Selection} (h : s.head? = none) :
    s ∈ merge selections ↔ s ∈ selections := by
  induction selections using merge.induct with
  | case1 => simp
  | case2 first rest hhead ih => rw [merge_cons_fragment hhead, List.mem_cons, List.mem_cons, ih]
  | case3 first rest head hhead _ ihRest =>
    have hkept : s ∈ withoutKey head.responseKey rest ↔ s ∈ rest := by
      simp [withoutKey, hasKey, responseKey?, h]
    have hfirst : s ≠ first := by
      rintro rfl
      simp [h] at hhead
    have hjoined : s ≠ joined first head (withKey head.responseKey rest) := by
      intro heq
      have hkey := (mergedFrom_joined hhead rest).key first (by simp)
      rw [← heq, responseKey?_eq_some hhead] at hkey
      simp [responseKey?, h] at hkey
    rw [merge_cons_field hhead, List.mem_cons, List.mem_cons, ihRest, hkept]
    simp [hfirst, hjoined]

section Merge

variable {table : FragmentTable} {selections : List Selection} {conditions : List String}
  {property : Selection → Prop}

/-- What merged selections lead to, the selections lead to, if the property of a merged field is one
of the fields it comes from. -/
theorem Reaches.of_merge
    (hproperty : ∀ fields f, MergedFrom fields f → property f → ∃ g ∈ fields, property g)
    (h : Reaches table (merge selections) conditions property) :
    Reaches table selections conditions property := by
  obtain ⟨s, hs, hreaches⟩ := reaches_iff_exists_mem.1 h
  cases hhead : s.head? with
  | none => exact reaches_iff_exists_mem.2 ⟨s, (mem_merge_fragment hhead).1 hs, hreaches⟩
  | some head =>
    have hsome : s.head?.isSome := by simp [hhead]
    obtain ⟨rfl, hs'⟩ := (reaches_field hsome).1 hreaches
    have hmerged := mergedFrom_of_mem_merge hs (responseKey?_eq_some hhead)
    obtain ⟨g, hg, hgproperty⟩ := hproperty _ s hmerged hs'
    obtain ⟨hmem, hkey⟩ := mem_withKey.1 hg
    exact reaches_iff_exists_mem.2
      ⟨g, hmem, (reaches_field (isSome_head?_of_key hkey)).2 ⟨rfl, hgproperty⟩⟩

/-- What selections lead to, the merged selections lead to, if a merged field has the property as
soon as one of the fields it comes from has it. -/
theorem Reaches.merge
    (hproperty : ∀ fields f, MergedFrom fields f → ∀ g ∈ fields, property g → property f)
    (h : Reaches table selections conditions property) :
    Reaches table (merge selections) conditions property := by
  obtain ⟨s, hs, hreaches⟩ := reaches_iff_exists_mem.1 h
  cases hhead : s.head? with
  | none => exact reaches_iff_exists_mem.2 ⟨s, (mem_merge_fragment hhead).2 hs, hreaches⟩
  | some head =>
    have hsome : s.head?.isSome := by simp [hhead]
    obtain ⟨rfl, hs'⟩ := (reaches_field hsome).1 hreaches
    have hkey := responseKey?_eq_some hhead
    obtain ⟨f, hf, hfkey⟩ := exists_mem_merge hs hkey
    have hmerged := mergedFrom_of_mem_merge hf hfkey
    have hproperty' := hproperty _ f hmerged s (mem_withKey.2 ⟨hs, hkey⟩) hs'
    exact reaches_iff_exists_mem.2
      ⟨f, hf, (reaches_field (isSome_head?_of_key hfkey)).2 ⟨rfl, hproperty'⟩⟩

end Merge

/-! ### Paths -/

/-- A step of a path: the conditions that are crossed on the way to a field, and its key. -/
structure Step where
  conditions : List String
  key : String
deriving DecidableEq, Repr

/-- Whether a path of fields can be followed from some selections. -/
def HasPath (table : FragmentTable) : List Step → List Selection → Prop
  | [], _ => True
  | step :: rest, selections => Reaches table selections step.conditions fun f =>
    f.responseKey? = some step.key ∧ HasPath table rest f.children

/-- The paths of fields that start at some selections. -/
def fieldPaths (table : FragmentTable) (selections : List Selection) : Set (List Step) :=
  { path | HasPath table path selections }

section HasPath

variable {table : FragmentTable} {selections : List Selection}

theorem hasPath_append {path : List Step} {others : List Selection} :
    HasPath table path (selections ++ others) ↔
      HasPath table path selections ∨ HasPath table path others := by
  cases path with
  | nil => simp [HasPath]
  | cons step rest => exact reaches_append

theorem hasPath_nil {path : List Step} : HasPath table path [] ↔ path = [] := by
  cases path with
  | nil => simp [HasPath]
  | cons step rest => simpa [HasPath] using not_reaches_nil

theorem hasPath_childrenOf {path : List Step} {fields : List Selection} (hfields : fields ≠ []) :
    HasPath table path (childrenOf fields) ↔ ∃ g ∈ fields, HasPath table path g.children := by
  cases path with
  | nil => simpa [HasPath] using List.exists_mem_of_ne_nil fields hfields
  | cons step rest =>
    simp only [HasPath, childrenOf]
    rw [reaches_iff_exists_mem]
    simp only [List.mem_flatMap]
    constructor
    · rintro ⟨s, ⟨g, hg, hs⟩, hreaches⟩
      exact ⟨g, hg, reaches_iff_exists_mem.2 ⟨s, hs, hreaches⟩⟩
    · rintro ⟨g, hg, hreaches⟩
      obtain ⟨s, hs, hreaches⟩ := reaches_iff_exists_mem.1 hreaches
      exact ⟨s, ⟨g, hg, hs⟩, hreaches⟩

/-- Merging keeps all paths. -/
theorem hasPath_merge {path : List Step} :
    HasPath table path (merge selections) ↔ HasPath table path selections := by
  induction path generalizing selections with
  | nil => simp [HasPath]
  | cons step rest ih =>
    have hbelow : ∀ fields f, MergedFrom fields f →
        (HasPath table rest f.children ↔ ∃ g ∈ fields, HasPath table rest g.children) := by
      intro fields f hmerged
      have hfields : fields ≠ [] := by
        obtain ⟨g, hg, -⟩ := hmerged.head
        exact List.ne_nil_of_mem hg
      rw [← hasPath_childrenOf hfields]
      rcases hmerged.children with heq | heq
      · rw [heq]
      · rw [heq, ih]
    constructor
    · refine Reaches.of_merge ?_
      rintro fields f hmerged ⟨hkey, hrest⟩
      obtain ⟨g, hg, hgrest⟩ := (hbelow fields f hmerged).1 hrest
      exact ⟨g, hg, by rw [hmerged.key g hg, hkey], hgrest⟩
    · refine Reaches.merge ?_
      rintro fields f hmerged g hg ⟨hkey, hrest⟩
      exact ⟨by rw [← hmerged.key g hg, hkey], (hbelow fields f hmerged).2 ⟨g, hg, hrest⟩⟩

theorem hasPath_bare {path : List Step} {directives : List Directive} :
    HasPath table path [.inline none directives selections] ↔ HasPath table path selections := by
  cases path with
  | nil => simp [HasPath]
  | cons step rest => exact reaches_bare

theorem hasPath_inline_congr {other : FragmentTable} {others : List Selection} {condition : String}
    {directives directives' : List Directive} (path : List Step)
    (h : ∀ path, HasPath table path selections ↔ HasPath other path others) :
    HasPath table path [.inline (some condition) directives selections] ↔
      HasPath other path [.inline (some condition) directives' others] := by
  cases path with
  | nil => simp [HasPath]
  | cons step rest =>
    simp only [HasPath, reaches_inline]
    refine exists_congr fun inner => and_congr_right fun _ => ?_
    exact h (⟨inner, step.key⟩ :: rest)

theorem hasPath_field_congr {other : FragmentTable} {f g : Selection} {head : FieldHead}
    (path : List Step) (hf : f.head? = some head) (hg : g.head? = some head)
    (h : ∀ path, HasPath table path f.children ↔ HasPath other path g.children) :
    HasPath table path [f] ↔ HasPath other path [g] := by
  cases path with
  | nil => simp [HasPath]
  | cons step rest =>
    simp only [HasPath]
    rw [reaches_field (by simp [hf]), reaches_field (by simp [hg]), responseKey?_eq_some hf,
      responseKey?_eq_some hg, h rest]

end HasPath

/-! ### Resolving -/

theorem any_entered_iff {entered : List Entered} {name : String} {level : Nat} :
    (entered.any fun e => e.fragment == name && e.level == level) = true ↔
      ⟨name, level⟩ ∈ entered := by
  simp only [List.any_eq_true, Bool.and_eq_true, beq_iff_eq]
  constructor
  · rintro ⟨e, he, rfl, rfl⟩
    exact he
  · intro h
    exact ⟨_, h, rfl, rfl⟩

/-- What a spread is replaced by when its fragment is known, is not being expanded at this level,
and may still be entered. -/
theorem expandWithin_of_fresh {table : FragmentTable} {fragment : Fragment} {name : String}
    {entered : List Entered} {level : Nat} (limit remaining : Nat) (directives : List Directive)
    (hfresh : ⟨name, level⟩ ∉ entered) (hfragment : table.get? name = some fragment) :
    let inside := expandList (expandWithin table limit remaining) (entered ++ [⟨name, level⟩]) level
      fragment.selections
    expandWithin table limit (remaining + 1) entered level name directives =
      ⟨[.inline (some fragment.condition) directives (merge inside.value)], inside.notices⟩ := by
  intro inside
  rw [expandWithin, if_neg (mt any_entered_iff.1 hfresh)]
  simp only [hfragment]
  exact congrArg (Logged.mk _) (List.append_nil _)

/-- **Induction on the fragments that may still be entered.** A spread is left out with a warning, or
it is replaced by what stands in its fragment, expanded by a rule for which the statement holds. -/
theorem expandWithin_induction {table : FragmentTable}
    {motive : List Entered → Nat → String → List Directive → Logged (List Selection) → Prop}
    (left : ∀ entered level name directives (n : Notice), n.level = .warning →
      motive entered level name directives ⟨[], [n]⟩)
    (replaced : ∀ (rule : SpreadRule) entered level name directives fragment,
      (∀ entered level name directives,
        motive entered level name directives (rule entered level name directives)) →
      table.get? name = some fragment →
      let inside := expandList rule (entered ++ [⟨name, level⟩]) level fragment.selections
      motive entered level name directives
        ⟨[.inline (some fragment.condition) directives (merge inside.value)], inside.notices⟩)
    (limit remaining : Nat) (entered : List Entered) (level : Nat) (name : String)
    (directives : List Directive) :
    motive entered level name directives
      (expandWithin table limit remaining entered level name directives) := by
  induction remaining generalizing entered level name directives with
  | zero =>
    unfold expandWithin
    split
    · exact left _ _ _ _ (.fragmentCycle (entered.map Entered.fragment) name) rfl
    · exact left _ _ _ _ (.fragmentTooDeep name limit) rfl
  | succ remaining ih =>
    by_cases hfresh : ⟨name, level⟩ ∈ entered
    · rw [expandWithin, if_pos (any_entered_iff.2 hfresh)]
      exact left _ _ _ _ (.fragmentCycle (entered.map Entered.fragment) name) rfl
    · cases hfragment : table.get? name with
      | none =>
        rw [expandWithin, if_neg (mt any_entered_iff.1 hfresh)]
        simp only [hfragment]
        exact left _ _ _ _ (.unknownFragment name) rfl
      | some fragment =>
        rw [expandWithin_of_fresh limit remaining directives hfresh hfragment]
        exact replaced _ _ _ _ _ fragment ih hfragment

/-- Whether what a rule puts in the place of a spread has the paths of the spread, unless the rule
reports something. -/
def Faithful (table : FragmentTable) (rule : SpreadRule) : Prop :=
  ∀ entered level name directives, (rule entered level name directives).notices = [] → ∀ path,
    HasPath [] path (rule entered level name directives).value ↔
      HasPath table path [.spread name directives]

mutual

theorem hasPath_expand {table : FragmentTable} {rule : SpreadRule} (hrule : Faithful table rule)
    (entered : List Entered) (level : Nat) :
    ∀ s : Selection, (expand rule entered level s).notices = [] → ∀ path,
      HasPath [] path (expand rule entered level s).value ↔ HasPath table path [s]
  | .leaf head => fun _ path => by
    refine hasPath_field_congr path rfl rfl fun path => ?_
    exact hasPath_nil.trans hasPath_nil.symm
  | .branch head mark selections => fun hquiet path => by
    simp only [expand, Logged.notices_bind, Logged.notices_pure, List.append_nil] at hquiet
    have hbelow := hasPath_expandList hrule entered (level + 1) selections hquiet
    exact hasPath_field_congr path rfl rfl fun path => hasPath_merge.trans (hbelow path)
  | .inline none directives selections => fun hquiet path => by
    rw [hasPath_bare]
    exact hasPath_expandList hrule entered level selections hquiet path
  | .inline (some condition) directives selections => fun hquiet path => by
    simp only [expand, Logged.notices_bind, Logged.notices_pure, List.append_nil] at hquiet
    have hinside := hasPath_expandList hrule entered level selections hquiet
    exact hasPath_inline_congr path fun path => hasPath_merge.trans (hinside path)
  | .spread name directives => fun hquiet path => hrule entered level name directives hquiet path

theorem hasPath_expandList {table : FragmentTable} {rule : SpreadRule}
    (hrule : Faithful table rule) (entered : List Entered) (level : Nat) :
    ∀ selections : List Selection, (expandList rule entered level selections).notices = [] →
      ∀ path, HasPath [] path (expandList rule entered level selections).value ↔
        HasPath table path selections
  | [] => fun _ path => by simp [expandList, hasPath_nil]
  | s :: rest => fun hquiet path => by
    simp only [expandList, Logged.notices_bind, Logged.notices_pure, List.append_nil,
      List.append_eq_nil_iff] at hquiet
    have hfirst := hasPath_expand hrule entered level s hquiet.1 path
    have hothers := hasPath_expandList hrule entered level rest hquiet.2 path
    simp only [expandList, Logged.value_bind, Logged.value_pure]
    rw [hasPath_append, hfirst, hothers, ← hasPath_append, List.singleton_append]

end

theorem faithful_expandWithin (table : FragmentTable) (limit remaining : Nat) :
    Faithful table (expandWithin table limit remaining) := by
  refine expandWithin_induction (motive := fun _ _ name directives result => result.notices = [] →
    ∀ path, HasPath [] path result.value ↔ HasPath table path [.spread name directives])
    ?_ ?_ limit remaining
  · intro entered level name directives n _ hquiet
    cases hquiet
  · intro rule entered level name directives fragment hrule hfragment inside hquiet path
    have hinside := hasPath_expandList hrule (entered ++ [⟨name, level⟩]) level fragment.selections
      hquiet
    have hspread : HasPath table path [.spread name directives] ↔ HasPath table path
        [.inline (some fragment.condition) directives fragment.selections] := by
      cases path with
      | nil => simp [HasPath]
      | cons step rest => exact reaches_spread hfragment
    rw [hspread]
    exact hasPath_inline_congr path fun path => hasPath_merge.trans (hinside path)

/-! ### Reports -/

mutual

theorem warning_of_mem_expand {rule : SpreadRule}
    (hrule : ∀ entered level name directives,
      ∀ n ∈ (rule entered level name directives).notices, n.level = .warning)
    (entered : List Entered) (level : Nat) :
    ∀ s : Selection, ∀ n ∈ (expand rule entered level s).notices, n.level = .warning
  | .leaf head => fun n hn => by cases hn
  | .branch head mark selections => fun n hn => by
    simp only [expand, Logged.notices_bind, Logged.notices_pure, List.append_nil] at hn
    exact warning_of_mem_expandList hrule entered (level + 1) selections n hn
  | .inline none directives selections => fun n hn =>
    warning_of_mem_expandList hrule entered level selections n hn
  | .inline (some condition) directives selections => fun n hn => by
    simp only [expand, Logged.notices_bind, Logged.notices_pure, List.append_nil] at hn
    exact warning_of_mem_expandList hrule entered level selections n hn
  | .spread name directives => fun n hn => hrule entered level name directives n hn

theorem warning_of_mem_expandList {rule : SpreadRule}
    (hrule : ∀ entered level name directives,
      ∀ n ∈ (rule entered level name directives).notices, n.level = .warning)
    (entered : List Entered) (level : Nat) :
    ∀ selections : List Selection,
      ∀ n ∈ (expandList rule entered level selections).notices, n.level = .warning
  | [] => fun n hn => by cases hn
  | s :: rest => fun n hn => by
    simp only [expandList, Logged.notices_bind, Logged.notices_pure, List.append_nil,
      List.mem_append] at hn
    rcases hn with hn | hn
    · exact warning_of_mem_expand hrule entered level s n hn
    · exact warning_of_mem_expandList hrule entered level rest n hn

end

theorem warning_of_mem_expandWithin (table : FragmentTable) (limit remaining : Nat)
    (entered : List Entered) (level : Nat) (name : String) (directives : List Directive) :
    ∀ n ∈ (expandWithin table limit remaining entered level name directives).notices,
      n.level = .warning := by
  refine expandWithin_induction
    (motive := fun _ _ _ _ result => ∀ n ∈ result.notices, n.level = .warning)
    ?_ ?_ limit remaining entered level name directives
  · intro entered level name directives n hn m hm
    rwa [List.mem_singleton.1 hm]
  · intro rule entered level name directives fragment hrule _
    exact warning_of_mem_expandList hrule (entered ++ [⟨name, level⟩]) level fragment.selections

/-- All that resolving reports are warnings. -/
theorem warning_of_mem_resolve {table : FragmentTable} {limit : Nat} {selections : List Selection}
    {n : Notice} (hn : n ∈ (resolve table limit selections).notices) : n.level = .warning := by
  simp only [resolve, Logged.notices_bind, Logged.notices_pure, List.append_nil] at hn
  exact warning_of_mem_expandList (warning_of_mem_expandWithin table limit limit) [] 0 selections n
    hn

/-- Selections that are resolved without a warning have the same paths of fields as before, with
nothing left to look up. -/
theorem fieldPaths_resolve (table : FragmentTable) (limit : Nat) (selections : List Selection)
    (hquiet : ∀ n ∈ (resolve table limit selections).notices, n.level ≠ .warning) :
    fieldPaths [] (resolve table limit selections).value = fieldPaths table selections := by
  have hnotices : (resolve table limit selections).notices = [] :=
    List.eq_nil_iff_forall_not_mem.2 fun n hn => hquiet n hn (warning_of_mem_resolve hn)
  simp only [resolve, Logged.notices_bind, Logged.notices_pure, List.append_nil] at hnotices
  have hexpanded := hasPath_expandList (faithful_expandWithin table limit limit) [] 0 selections
    hnotices
  refine Set.ext fun path => ?_
  exact hasPath_merge.trans (hexpanded path)

namespace Portrait

def head (name : String) : FieldHead := ⟨none, name, [], []⟩

/-- A fragment that spreads another one below a field. -/
def fragments : FragmentTable :=
  [⟨"Portrait", "Person", [],
      [.leaf (head "mood"), .branch (head "friend") none [.spread "Mood" []]]⟩,
    ⟨"Mood", "Person", [], [.leaf (head "mood")]⟩]

/-- An owner whose friend is asked for in three places, two of them on the same level. -/
def selections : List Selection :=
  [.branch (head "owner") none
    [.inline none [] [.branch (head "friend") none [.leaf (head "pet")]],
      .spread "Portrait" [],
      .branch (head "friend") none [.spread "Mood" []]]]

end Portrait

theorem fieldPaths_resolve_portrait :
    (∀ n ∈ (resolve Portrait.fragments 2 Portrait.selections).notices, n.level ≠ .warning) ∧
    fieldPaths [] (resolve Portrait.fragments 2 Portrait.selections).value =
      fieldPaths Portrait.fragments Portrait.selections := by
  have hquiet : ∀ n ∈ (resolve Portrait.fragments 2 Portrait.selections).notices,
      n.level ≠ .warning := by decide +kernel
  exact ⟨hquiet, fieldPaths_resolve _ _ _ hquiet⟩

end Selection

end OperationSamples
