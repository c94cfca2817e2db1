import OperationSamples.Proofs.Spreads

/-!
How deep resolved selections are.

Resolving puts whole fragments in the places of spreads, and those may hold the same spreads again.
`Expands` lists what can happen to a selection, one rule for each case, with the number of
fragments that are entered inside each other. Its rules look at the chain of entered fragments and
its length alone: nothing in them counts down. Still every list of selections has exactly one
expansion, which is the one that resolving finds, and it enters no more fragments inside each other
than the limit allows.

Every fragment that is entered adds as many fields inside each other as it has by itself, and no
more. Merging adds none. The fields along a path of resolved selections are therefore bounded by
those of the selections and, for each fragment in a row, those of the deepest one
(`resolve_nests_within`).
-/

namespace OperationSamples

namespace Selection

/-! ### Fields inside each other -/

mutual

/-- How many fields stand inside each other, at most. A spread counts nothing. -/
def fieldDepth : Selection → Nat
  | .leaf _ => 1
  | .branch _ _ selections => fieldDepths selections + 1
  | .inline _ _ selections => fieldDepths selections
  | .spread _ _ => 0

def fieldDepths : List Selection → Nat
  | [] => 0
  | s :: rest => max (fieldDepth s) (fieldDepths rest)

end

theorem fieldDepths_le_iff {selections : List Selection} {n : Nat} :
    fieldDepths selections ≤ n ↔ ∀ s ∈ selections, s.fieldDepth ≤ n := by
  induction selections with
  | nil => simp [fieldDepths]
  | cons s rest ih => simp [fieldDepths, ih]

theorem fieldDepth_le_of_mem {selections : List Selection} {s : Selection} (h : s ∈ selections) :
    s.fieldDepth ≤ fieldDepths selections :=
  fieldDepths_le_iff.1 (Nat.le_refl _) s h

theorem fieldDepths_append (xs ys : List Selection) :
    fieldDepths (xs ++ ys) = max (fieldDepths xs) (fieldDepths ys) := by
  induction xs with
  | nil => simp [fieldDepths]
  | cons x rest ih => simp [fieldDepths, ih, Nat.max_assoc]

/-- A field is one level deeper than what stands below it. -/
theorem fieldDepth_of_head? {f : Selection} (h : f.head?.isSome) :
    f.fieldDepth = fieldDepths f.children + 1 := by
  cases f with
  | leaf head => simp [fieldDepth, fieldDepths, children]
  | branch head mark selections => simp [fieldDepth, children]
  | _ => simp [head?] at h

theorem fieldDepths_childrenOf_lt {fields : List Selection} (hne : fields ≠ [])
    (h : ∀ f ∈ fields, f.head?.isSome) : fieldDepths (childrenOf fields) < fieldDepths fields := by
  have hfield : ∀ f ∈ fields, fieldDepths f.children + 1 ≤ fieldDepths fields := by
    intro f hf
    rw [← fieldDepth_of_head? (h f hf)]
    exact fieldDepth_le_of_mem hf
  obtain ⟨f, hf⟩ := List.exists_mem_of_ne_nil fields hne
  have hpos := hfield f hf
  have hchildren : fieldDepths (childrenOf fields) ≤ fieldDepths fields - 1 := by
    rw [fieldDepths_le_iff]
    intro s hs
    obtain ⟨g, hg, hchild⟩ := List.mem_flatMap.1 hs
    have hdeep := fieldDepth_le_of_mem hchild
    have hbelow := hfield g hg
    omega
  omega

/-- Fields that become one are together as deep as the deepest of them. -/
theorem fieldDepths_merge_le (selections : List Selection) :
    fieldDepths (merge selections) ≤ fieldDepths selections := by
  induction selections using merge.induct with
  | case1 => simp
  | case2 s rest hhead ih =>
    rw [merge_cons_fragment hhead]
    simp only [fieldDepths]
    omega
  | case3 s rest head hhead ihBelow ihRest =>
    have hsame : fieldDepths (s :: withKey head.responseKey rest) ≤ fieldDepths (s :: rest) := by
      rw [fieldDepths_le_iff]
      intro t ht
      rcases List.mem_cons.1 ht with rfl | ht
      · exact fieldDepth_le_of_mem List.mem_cons_self
      · exact fieldDepth_le_of_mem (List.mem_cons_of_mem _ (mem_withKey.1 ht).1)
    have hfields : ∀ t ∈ s :: withKey head.responseKey rest, t.head?.isSome := by
      intro t ht
      rcases List.mem_cons.1 ht with rfl | ht
      · simp [hhead]
      · exact isSome_head?_of_key (mem_withKey.1 ht).2
    have hjoined : (joined s head (withKey head.responseKey rest)).fieldDepth ≤
        fieldDepths (s :: rest) := by
      unfold joined
      split
      · exact fieldDepth_le_of_mem List.mem_cons_self
      · have hlt := fieldDepths_childrenOf_lt (List.cons_ne_nil _ _) hfields
        simp only [fieldDepth]
        omega
    have hothers : fieldDepths (withoutKey head.responseKey rest) ≤ fieldDepths rest := by
      rw [fieldDepths_le_iff]
      intro t ht
      exact fieldDepth_le_of_mem (List.mem_of_mem_filter ht)
    rw [merge_cons_field hhead]
    simp only [fieldDepths] at hjoined ⊢
    omega

/-! ### Fields along a path -/

/-- Fragments on the way to a field make it no deeper. -/
theorem Leads.fieldDepth_le {s f : Selection} {chain : List Crossing} (h : Leads [] s chain f) :
    f.fieldDepth ≤ s.fieldDepth := by
  induction h with
  | field => exact Nat.le_refl _
  | inline hs _ ih => exact ih.trans (fieldDepth_le_of_mem hs)
  | spread hfragment => cases hfragment

/-- No path has more fields than stand inside each other. -/
theorem length_le_of_hasPath {path : List Step} {selections : List Selection}
    (h : HasPath [] path selections) : path.length ≤ fieldDepths selections := by
  induction path generalizing selections with
  | nil => exact Nat.zero_le _
  | cons step rest ih =>
    obtain ⟨s, hs, chain, f, hleads, -, hkey, hrest⟩ := h
    have hfield := fieldDepth_of_head? (isSome_head?_of_key hkey)
    have hbelow := ih hrest
    have hway := hleads.fieldDepth_le
    have hdeep := fieldDepth_le_of_mem hs
    rw [List.length_cons]
    omega

theorem exists_hasPath_inline {condition : String} {directives : List Directive}
    {selections : List Selection} {path : List Step} (h : HasPath [] path selections) :
    ∃ path', HasPath [] path' [.inline (some condition) directives selections] ∧
      path'.length = path.length := by
  cases path with
  | nil => exact ⟨[], trivial, rfl⟩
  | cons step rest =>
    refine ⟨⟨condition :: step.conditions, step.key⟩ :: rest, ?_, rfl⟩
    exact reaches_inline.2 ⟨_, rfl, h⟩

theorem hasPath_field_cons {table : FragmentTable} {f : Selection} {key : String}
    (hkey : f.responseKey? = some key) {path : List Step} (h : HasPath table path f.children) :
    HasPath table (⟨[], key⟩ :: path) [f] :=
  (reaches_field (isSome_head?_of_key hkey)).2 ⟨rfl, hkey, h⟩

mutual

/-- Some path has as many fields as stand inside each other. -/
theorem exists_hasPath_of_fieldDepth :
    ∀ s : Selection, ∃ path, HasPath [] path [s] ∧ path.length = s.fieldDepth
  | .leaf head => ⟨[⟨[], head.responseKey⟩], hasPath_field_cons rfl trivial, rfl⟩
  | .branch head mark selections => by
    obtain ⟨path, hpath, hlength⟩ := exists_hasPath_of_fieldDepths selections
    exact ⟨⟨[], head.responseKey⟩ :: path, hasPath_field_cons rfl hpath, by
      simp [fieldDepth, hlength]⟩
  | .inline none directives selections => by
    obtain ⟨path, hpath, hlength⟩ := exists_hasPath_of_fieldDepths selections
    exact ⟨path, hasPath_bare.2 hpath, by simp [fieldDepth, hlength]⟩
  | .inline (some condition) directives selections => by
    obtain ⟨path, hpath, hlength⟩ := exists_hasPath_of_fieldDepths selections
    obtain ⟨path', hpath', hlength'⟩ := exists_hasPath_inline hpath
    exact ⟨path', hpath', by simp [fieldDepth, hlength', hlength]⟩
  | .spread name directives => ⟨[], trivial, rfl⟩

theorem exists_hasPath_of_fieldDepths : ∀ selections : List Selection,
    ∃ path, HasPath [] path selections ∧ path.length = fieldDepths selections
  | [] => ⟨[], trivial, rfl⟩
  | s :: rest => by
    obtain ⟨path, hpath, hlength⟩ := exists_hasPath_of_fieldDepth s
    obtain ⟨path', hpath', hlength'⟩ := exists_hasPath_of_fieldDepths rest
    rw [← List.singleton_append]
    rcases Nat.le_total s.fieldDepth (fieldDepths rest) with hle | hle
    · exact ⟨path', hasPath_append.2 (.inr hpath'), by simp [fieldDepths, hlength', hle]⟩
    · exact ⟨path, hasPath_append.2 (.inl hpath), by simp [fieldDepths, hlength, hle]⟩

end

end Selection

/-- How many fields stand inside each other in a fragment of a table, at most. -/
def FragmentTable.fieldDepth (table : FragmentTable) : Nat :=
  table.foldr (fun f depth => max (Selection.fieldDepths f.selections) depth) 0

theorem FragmentTable.fieldDepths_le_of_get? {table : FragmentTable} {name : String}
    {f : Fragment} (h : table.get? name = some f) :
    Selection.fieldDepths f.selections ≤ table.fieldDepth := by
  have hmem : f ∈ table := List.mem_of_find?_eq_some h
  clear h
  induction table with
  | nil => cases hmem
  | cons first rest ih =>
    rw [fieldDepth, List.foldr_cons]
    rcases List.mem_cons.1 hmem with rfl | hmem
    · exact Nat.le_max_left _ _
    · exact (ih hmem).trans (Nat.le_max_right _ _)

namespace Selection

/-! ### Expanding, rule by rule -/

/-- What selections expand to, given the chain of entered fragments and the level, and how many more
fragments are entered inside each other on the way. A spread is left out if its fragment was entered
at this level, if the chain has reached the limit, or if the fragment is not known. -/
inductive Expands (table : FragmentTable) (limit : Nat) :
    Nat → List Entered → Nat → List Selection → Logged (List Selection) → Prop
  | nil {chain : List Entered} {level : Nat} : Expands table limit 0 chain level [] ⟨[], []⟩
  | leaf {n level : Nat} {chain : List Entered} {rest : List Selection}
      {others : Logged (List Selection)} (head : FieldHead)
      (hrest : Expands table limit n chain level rest others) :
      Expands table limit n chain level (.leaf head :: rest)
        ⟨.leaf head :: others.value, others.notices⟩
  | branch {m n level : Nat} {chain : List Entered} {selections rest : List Selection}
      {below others : Logged (List Selection)} (head : FieldHead) (mark : Option Nat)
      (hbelow : Expands table limit m chain (level + 1) selections below)
      (hrest : Expands table limit n chain level rest others) :
      Expands table limit (max m n) chain level (.branch head mark selections :: rest)
        ⟨.branch head none (merge below.value) :: others.value, below.notices ++ others.notices⟩
  | bare {m n level : Nat} {chain : List Entered} {selections rest : List Selection}
      {inside others : Logged (List Selection)} (directives : List Directive)
      (hinside : Expands table limit m chain level selections inside)
      (hrest : Expands table limit n chain level rest others) :
      Expands table limit (max m n) chain level (.inline none directives selections :: rest)
        ⟨inside.value ++ others.value, inside.notices ++ others.notices⟩
  | inline {m n level : Nat} {chain : List Entered} {selections rest : List Selection}
      {inside others : Logged (List Selection)} (condition : String) (directives : List Directive)
      (hinside : Expands table limit m chain level selections inside)
      (hrest : Expands table limit n chain level rest others) :
      Expands table limit (max m n) chain level
        (.inline (some condition) directives selections :: rest)
        ⟨.inline (some condition) directives (merge inside.value) :: others.value,
          inside.notices ++ others.notices⟩
  | repeated {n level : Nat} {chain : List Entered} {name : String} {rest : List Selection}
      {others : Logged (List Selection)} (directives : List Directive)
      (hentered : ⟨name, level⟩ ∈ chain)
      (hrest : Expands table limit n chain level rest others) :
      Expands table limit n chain level (.spread name directives :: rest)
        ⟨others.value, .fragmentCycle (chain.map Entered.fragment) name :: others.notices⟩
  | tooDeep {n level : Nat} {chain : List Entered} {name : String} {rest : List Selection}
      {others : Logged (List Selection)} (directives : List Directive)
      (hfresh : ⟨name, level⟩ ∉ chain) (hlimit : limit ≤ chain.length)
      (hrest : Expands table limit n chain level rest others) :
      Expands table limit n chain level (.spread name directives :: rest)
        ⟨others.value, .fragmentTooDeep name limit :: others.notices⟩
  | unknown {n level : Nat} {chain : List Entered} {name : String} {rest : List Selection}
      {others : Logged (List Selection)} (directives : List Directive)
      (hfresh : ⟨name, level⟩ ∉ chain) (hlimit : chain.length < limit)
      (hunknown : table.get? name = none)
      (hrest : Expands table limit n chain level rest others) :
      Expands table limit n chain level (.spread name directives :: rest)
        ⟨others.value, .unknownFragment name :: others.notices⟩
  | entered {m n level : Nat} {chain : List Entered} {name : String} {fragment : Fragment}
      {rest : List Selection} {inside others : Logged (List Selection)}
      (directives : List Directive) (hfresh : ⟨name, level⟩ ∉ chain)
      (hlimit : chain.length < limit) (hfragment : table.get? name = some fragment)
      (hinside : Expands table limit m (chain ++ [⟨name, level⟩]) level fragment.selections inside)
      (hrest : Expands table limit n chain level rest others) :
      Expands table limit (max (m + 1) n) chain level (.spread name directives :: rest)
        ⟨.inline (some fragment.condition) directives (merge inside.value) :: others.value,
          inside.notices ++ others.notices⟩

section Expands

variable {table : FragmentTable} {limit n level : Nat} {chain : List Entered}
  {selections : List Selection} {result : Logged (List Selection)}

/-- The fragments entered before and the fragments entered inside each other stay within the
limit together. -/
theorem Expands.nesting_le (h : Expands table limit n chain level selections result)
    (hchain : chain.length ≤ limit) : chain.length + n ≤ limit := by
  induction h with
  | nil => exact hchain
  | leaf _ _ ih => exact ih hchain
  | branch _ _ _ _ ihBelow ihRest =>
    have := ihBelow hchain
    have := ihRest hchain
    omega
  | bare _ _ _ ihInside ihRest =>
    have := ihInside hchain
    have := ihRest hchain
    omega
  | inline _ _ _ _ ihInside ihRest =>
    have := ihInside hchain
    have := ihRest hchain
    omega
  | repeated _ _ _ ih => exact ih hchain
  | tooDeep _ _ _ _ ih => exact ih hchain
  | unknown _ _ _ _ _ ih => exact ih hchain
  | entered _ _ hlimit _ _ _ ihInside ihRest =>
    rw [List.length_append, List.length_singleton] at ihInside
    have := ihInside hlimit
    have := ihRest hchain
    omega

/-- Each fragment in a row adds no more fields inside each other than the deepest one has. -/
theorem Expands.fieldDepths_le (h : Expands table limit n chain level selections result) {k : Nat}
    (hk : n ≤ k) : fieldDepths result.value ≤ fieldDepths selections + k * table.fieldDepth := by
  induction h generalizing k with
  | nil => exact Nat.zero_le _
  | leaf _ _ ih =>
    have hrest := ih hk
    simp only [fieldDepths]
    omega
  | branch _ _ _ _ ihBelow ihRest =>
    obtain ⟨hm, hn⟩ := Nat.max_le.1 hk
    have hbelow := (fieldDepths_merge_le _).trans (ihBelow hm)
    have hrest := ihRest hn
    simp only [fieldDepths, fieldDepth]
    omega
  | bare _ _ _ ihInside ihRest =>
    obtain ⟨hm, hn⟩ := Nat.max_le.1 hk
    have hinside := ihInside hm
    have hrest := ihRest hn
    simp only [fieldDepths, fieldDepth, fieldDepths_append]
    omega
  | inline _ _ _ _ ihInside ihRest =>
    obtain ⟨hm, hn⟩ := Nat.max_le.1 hk
    have hinside := (fieldDepths_merge_le _).trans (ihInside hm)
    have hrest := ihRest hn
    simp only [fieldDepths, fieldDepth]
    omega
  | repeated _ _ _ ih => exact (ih hk).trans (Nat.add_le_add_right (Nat.le_max_right _ _) _)
  | tooDeep _ _ _ _ ih => exact (ih hk).trans (Nat.add_le_add_right (Nat.le_max_right _ _) _)
  | unknown _ _ _ _ _ ih => exact (ih hk).trans (Nat.add_le_add_right (Nat.le_max_right _ _) _)
  | entered _ _ _ hfragment _ _ ihInside ihRest =>
    -- the spread itself counted nothing, and its fragment is no deeper than the deepest
    obtain ⟨hm, hn⟩ := Nat.max_le.1 hk
    obtain ⟨k, rfl⟩ := Nat.exists_eq_add_one_of_ne_zero (Nat.ne_zero_of_lt hm)
    have hdeepest := FragmentTable.fieldDepths_le_of_get? hfragment
    have hinside := (fieldDepths_merge_le _).trans (ihInside (Nat.le_of_succ_le_succ hm))
    have hrest := ihRest hn
    rw [Nat.add_one_mul] at hrest ⊢
    simp only [fieldDepths, fieldDepth]
    omega

/-- Selections have one expansion only. -/
theorem Expands.unique (h : Expands table limit n chain level selections result) {n' : Nat}
    {result' : Logged (List Selection)}
    (h' : Expands table limit n' chain level selections result') :
    n' = n ∧ result' = result := by
  induction h generalizing n' result' with
  | nil =>
    cases h' with
    | nil => exact ⟨rfl, rfl⟩
  | leaf _ _ ih =>
    cases h' with
    | leaf _ hrest =>
      obtain ⟨rfl, rfl⟩ := ih hrest
      exact ⟨rfl, rfl⟩
  | branch _ _ _ _ ihBelow ihRest =>
    cases h' with
    | branch _ _ hbelow hrest =>
      obtain ⟨rfl, rfl⟩ := ihBelow hbelow
      obtain ⟨rfl, rfl⟩ := ihRest hrest
      exact ⟨rfl, rfl⟩
  | bare _ _ _ ihInside ihRest =>
    cases h' with
    | bare _ hinside hrest =>
      obtain ⟨rfl, rfl⟩ := ihInside hinside
      obtain ⟨rfl, rfl⟩ := ihRest hrest
      exact ⟨rfl, rfl⟩
  | inline _ _ _ _ ihInside ihRest =>
    cases h' with
    | inline _ _ hinside hrest =>
      obtain ⟨rfl, rfl⟩ := ihInside hinside
      obtain ⟨rfl, rfl⟩ := ihRest hrest
      exact ⟨rfl, rfl⟩
  -- the conditions of the four rules for spreads exclude each other
  | repeated _ hentered _ ih =>
    cases h' with
    | repeated _ _ hrest =>
      obtain ⟨rfl, rfl⟩ := ih hrest
      exact ⟨rfl, rfl⟩
    | tooDeep _ hfresh => exact absurd hentered hfresh
    | unknown _ hfresh => exact absurd hentered hfresh
    | entered _ hfresh => exact absurd hentered hfresh
  | tooDeep _ hfresh hlimit _ ih =>
    cases h' with
    | repeated _ hentered => exact absurd hentered hfresh
    | tooDeep _ _ _ hrest =>
      obtain ⟨rfl, rfl⟩ := ih hrest
      exact ⟨rfl, rfl⟩
    | unknown _ _ hbelow => exact absurd hbelow (Nat.not_lt.2 hlimit)
    | entered _ _ hbelow => exact absurd hbelow (Nat.not_lt.2 hlimit)
  | unknown _ hfresh hlimit hunknown _ ih =>
    cases h' with
    | repeated _ hentered => exact absurd hentered hfresh
    | tooDeep _ _ hreached => exact absurd hlimit (Nat.not_lt.2 hreached)
    | unknown _ _ _ _ hrest =>
      obtain ⟨rfl, rfl⟩ := ih hrest
      exact ⟨rfl, rfl⟩
    | entered _ _ _ hfragment => simp [hunknown] at hfragment
  | entered _ hfresh hlimit hfragment _ _ ihInside ihRest =>
    cases h' with
    | repeated _ hentered => exact absurd hentered hfresh
    | tooDeep _ _ hreached => exact absurd hlimit (Nat.not_lt.2 hreached)
    | unknown _ _ _ hunknown => simp [hunknown] at hfragment
    | entered _ _ _ hknown hinside hrest =>
      obtain rfl := Option.some.inj (hfragment.symm.trans hknown)
      obtain ⟨rfl, rfl⟩ := ihInside hinside
      obtain ⟨rfl, rfl⟩ := ihRest hrest
      exact ⟨rfl, rfl⟩

end Expands

/-! ### Resolving follows the rules -/

/-- Whether what a rule puts in the place of a spread is its expansion, in front of any other
selections, when the given fragments were entered. -/
def Obeys (table : FragmentTable) (limit : Nat) (rule : SpreadRule) (chain : List Entered) :
    Prop :=
  ∀ (level : Nat) (name : String) (directives : List Directive) (n : Nat) (rest : List Selection)
    (others : Logged (List Selection)), Expands table limit n chain level rest others →
    ∃ m, Expands table limit m chain level (.spread name directives :: rest)
      ⟨(rule chain level name directives).value ++ others.value,
        (rule chain level name directives).notices ++ others.notices⟩

theorem expandList_cons (rule : SpreadRule) (chain : List Entered) (level : Nat) (s : Selection)
    (rest : List Selection) :
    expandList rule chain level (s :: rest) =
      ⟨(expand rule chain level s).value ++ (expandList rule chain level rest).value,
        (expand rule chain level s).notices ++ (expandList rule chain level rest).notices⟩ := by
  rw [expandList]
  exact congrArg (Logged.mk _) (congrArg _ (List.append_nil _))

section Obeys

variable {table : FragmentTable} {limit : Nat} {rule : SpreadRule} {chain : List Entered}

mutual

theorem exists_expands_cons (hrule : Obeys table limit rule chain) :
    ∀ (s : Selection) {n level : Nat} {rest : List Selection} {others : Logged (List Selection)},
      Expands table limit n chain level rest others →
      ∃ m, Expands table limit m chain level (s :: rest)
        ⟨(expand rule chain level s).value ++ others.value,
          (expand rule chain level s).notices ++ others.notices⟩
  | .leaf head, _, _, _, _, hrest => ⟨_, .leaf head hrest⟩
  | .branch head mark selections, _, level, _, _, hrest => by
    obtain ⟨m, hbelow⟩ := exists_expands hrule (level + 1) selections
    simp only [expand, Logged.value_bind, Logged.value_pure, Logged.notices_bind,
      Logged.notices_pure, List.append_nil]
    exact ⟨_, .branch head mark hbelow hrest⟩
  | .inline none directives selections, _, level, _, _, hrest => by
    obtain ⟨m, hinside⟩ := exists_expands hrule level selections
    exact ⟨_, .bare directives hinside hrest⟩
  | .inline (some condition) directives selections, _, level, _, _, hrest => by
    obtain ⟨m, hinside⟩ := exists_expands hrule level selections
    simp only [expand, Logged.value_bind, Logged.value_pure, Logged.notices_bind,
      Logged.notices_pure, List.append_nil]
    exact ⟨_, .inline condition directives hinside hrest⟩
  | .spread name directives, n, level, rest, others, hrest =>
    hrule level name directives n rest others hrest

theorem exists_expands (hrule : Obeys table limit rule chain) :
    ∀ (level : Nat) (selections : List Selection),
      ∃ m, Expands table limit m chain level selections (expandList rule chain level selections)
  | _, [] => ⟨0, .nil⟩
  | level, s :: rest => by
    obtain ⟨n, hrest⟩ := exists_expands hrule level rest
    obtain ⟨m, hfirst⟩ := exists_expands_cons hrule s hrest
    rw [expandList_cons]
    exact ⟨m, hfirst⟩

end

end Obeys

/-- Counting down the fragments that may be entered agrees with the length of the chain. -/
theorem obeys_expandWithin (table : FragmentTable) {limit remaining : Nat} {chain : List Entered}
    (h : chain.length + remaining = limit) :
    Obeys table limit (expandWithin table limit remaining) chain := by
  induction remaining generalizing chain with
  | zero =>
    intro level name directives n rest others hrest
    by_cases hentered : ⟨name, level⟩ ∈ chain
    · rw [expandWithin_of_entered table limit 0 directives hentered]
      exact ⟨n, .repeated directives hentered hrest⟩
    · rw [expandWithin_zero table limit directives hentered]
      exact ⟨n, .tooDeep directives hentered (by omega) hrest⟩
  | succ remaining ih =>
    intro level name directives n rest others hrest
    by_cases hentered : ⟨name, level⟩ ∈ chain
    · rw [expandWithin_of_entered table limit (remaining + 1) directives hentered]
      exact ⟨n, .repeated directives hentered hrest⟩
    · cases hfragment : table.get? name with
      | none =>
        rw [expandWithin_of_unknown limit remaining directives hentered hfragment]
        exact ⟨n, .unknown directives hentered (by omega) hfragment hrest⟩
      | some fragment =>
        have hlonger : (chain ++ [(⟨name, level⟩ : Entered)]).length + remaining = limit := by
          rw [List.length_append, List.length_singleton]
          omega
        obtain ⟨m, hinside⟩ := exists_expands (ih hlonger) level fragment.selections
        rw [expandWithin_of_fresh limit remaining directives hentered hfragment]
        exact ⟨_, .entered directives hentered (by omega) hfragment hinside hrest⟩

/-- What selections are resolved to by the rules, and how many fragments are entered inside each
other on the way. -/
def Resolves (table : FragmentTable) (limit nesting : Nat) (selections : List Selection)
    (result : Logged (List Selection)) : Prop :=
  ∃ expanded, Expands table limit nesting [] 0 selections expanded ∧
    result = ⟨merge expanded.value, expanded.notices⟩

theorem exists_resolves (table : FragmentTable) (limit : Nat) (selections : List Selection) :
    ∃ nesting, Resolves table limit nesting selections (resolve table limit selections) := by
  have hobeys : Obeys table limit (expandWithin table limit limit) [] :=
    obeys_expandWithin table (Nat.zero_add limit)
  obtain ⟨nesting, hexpands⟩ := exists_expands hobeys 0 selections
  refine ⟨nesting, _, hexpands, ?_⟩
  rw [resolve]
  exact congrArg (Logged.mk _) (List.append_nil _)

/-- **Resolving ends, and stays flat.** For all fragments, limits and selections, whatever fragments
spread each other: the rules lead to exactly one result, which is the one of `resolve`, and no more
fragments are entered inside each other than the limit says. No path of the result has more fields
than stand inside each other in the selections and, once for each fragment in a row, in the deepest
fragment. -/
theorem resolve_nests_within (table : FragmentTable) (limit : Nat) (selections : List Selection) :
    (∃ nesting, Resolves table limit nesting selections (resolve table limit selections)) ∧
    (∀ nesting result, Resolves table limit nesting selections result →
      nesting ≤ limit ∧ result = resolve table limit selections) ∧
    ∀ path ∈ fieldPaths [] (resolve table limit selections).value,
      path.length ≤ fieldDepths selections + limit * table.fieldDepth := by
  obtain ⟨nesting, hresolves⟩ := exists_resolves table limit selections
  obtain ⟨expanded, hexpands, hresult⟩ := hresolves
  have hnesting : nesting ≤ limit := by
    have := hexpands.nesting_le (Nat.zero_le limit)
    simpa using this
  refine ⟨⟨nesting, expanded, hexpands, hresult⟩, ?_, ?_⟩
  · rintro nesting' result ⟨expanded', hexpands', rfl⟩
    obtain ⟨rfl, rfl⟩ := hexpands.unique hexpands'
    exact ⟨hnesting, hresult.symm⟩
  · intro path hpath
    have hdepths := hexpands.fieldDepths_le hnesting
    rw [hresult] at hpath
    calc path.length
      _ ≤ fieldDepths (merge expanded.value) := length_le_of_hasPath hpath
      _ ≤ fieldDepths expanded.value := fieldDepths_merge_le _
      _ ≤ fieldDepths selections + limit * table.fieldDepth := hdepths

namespace Echo

/-- Two fragments that spread each other below a field. -/
def fragments : FragmentTable :=
  [⟨"Near", "Person", [], [.branch (Portrait.head "friend") none [.spread "Far" []]]⟩,
    ⟨"Far", "Person", [],
      [.leaf (Portrait.head "mood"), .branch (Portrait.head "friend") none [.spread "Near" []]]⟩]

def selections : List Selection := [.branch (Portrait.head "owner") none [.spread "Near" []]]

end Echo

/-- The bound is reached by fragments that come back below every field. -/
theorem resolve_nests_within_echo :
    (∃ nesting, nesting ≤ 3 ∧
      Resolves Echo.fragments 3 nesting Echo.selections (resolve Echo.fragments 3 Echo.selections)) ∧
    ∃ path ∈ fieldPaths [] (resolve Echo.fragments 3 Echo.selections).value,
      path.length = fieldDepths Echo.selections + 3 * Echo.fragments.fieldDepth := by
  obtain ⟨⟨nesting, hresolves⟩, honly, -⟩ := resolve_nests_within Echo.fragments 3 Echo.selections
  refine ⟨⟨nesting, (honly nesting _ hresolves).1, hresolves⟩, ?_⟩
  obtain ⟨path, hpath, hlength⟩ :=
    exists_hasPath_of_fieldDepths (resolve Echo.fragments 3 Echo.selections).value
  have hdepth : fieldDepths (resolve Echo.fragments 3 Echo.selections).value =
      fieldDepths Echo.selections + 3 * Echo.fragments.fieldDepth := by decide +kernel
  exact ⟨path, hpath, hlength.trans hdepth⟩

end Selection

end OperationSamples
