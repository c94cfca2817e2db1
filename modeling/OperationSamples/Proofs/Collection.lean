import Mathlib.Data.List.Perm.Subperm
import OperationSamples.Proofs.Analysing
import OperationSamples.Proofs.FieldPaths

/-!
The fields that an object gets.

An object gets a field from some selections (`Supplies`) when a chain of fragments that apply to it
leads to the field. Fragments may spread each other in circles, so a chain can be arbitrarily long,
while resolving leaves out a spread that comes back at its own level. Nothing is lost: what stands
between two entries of the same fragment can be cut out of a chain, and the conditions that are left
still apply (`Leads.exists_simple`). A chain that enters no fragment twice is no longer than the
table, and is followed to its end (`Leads.reaches_expand`).

So the analysis of resolved selections on an object type has exactly the response keys that the
selections supply (`keys_of_resolved`).
-/

namespace OperationSamples

namespace Selection

variable {table : FragmentTable} {s f : Selection} {chain : List Crossing}

/-! ### Chains without repetition -/

def Crossing.fragment? : Crossing → Option String
  | .inline _ => none
  | .spread fragment _ => some fragment

/-- The fragments that a chain enters by their names. -/
def enteredFragments (chain : List Crossing) : List String := chain.filterMap Crossing.fragment?

/-- From every fragment that a chain enters, the rest of the chain leads to the same field. -/
theorem Leads.from_fragment (h : Leads table s chain f) {name : String}
    (hname : name ∈ enteredFragments chain) :
    ∃ fragment t rest, table.get? name = some fragment ∧ t ∈ fragment.selections ∧
      Leads table t rest f ∧ .spread name fragment.condition :: rest <:+ chain := by
  induction h with
  | field => cases hname
  | inline _ _ ih =>
    obtain ⟨fragment, t, rest, hfragment, ht, hleads, hsuffix⟩ := ih hname
    exact ⟨fragment, t, rest, hfragment, ht, hleads, hsuffix.trans (List.suffix_cons _ _)⟩
  | @spread entered _ fragment t _ rest hfragment ht hleads ih =>
    by_cases hsame : name = entered
    · subst hsame
      exact ⟨fragment, t, rest, hfragment, ht, hleads, List.suffix_rfl⟩
    · have hlater : name ∈ enteredFragments rest := by
        simpa [enteredFragments, Crossing.fragment?, hsame] using hname
      obtain ⟨fragment, t, rest, hfragment, ht, hleads, hsuffix⟩ := ih hlater
      exact ⟨fragment, t, rest, hfragment, ht, hleads, hsuffix.trans (List.suffix_cons _ _)⟩

/-- Where a chain leads, one leads that enters no fragment twice and crosses no other conditions. -/
theorem Leads.exists_simple (h : Leads table s chain f) :
    ∃ simple, Leads table s simple f ∧ (enteredFragments simple).Nodup ∧
      crossedConditions simple ⊆ crossedConditions chain := by
  induction h with
  | field hfield => exact ⟨[], .field hfield, List.nodup_nil, List.Subset.refl _⟩
  | @inline condition _ _ _ _ _ hs _ ih =>
    obtain ⟨simple, hleads, hnodup, hsubset⟩ := ih
    refine ⟨.inline condition :: simple, .inline hs hleads, hnodup, ?_⟩
    cases condition with
    | none => exact hsubset
    | some condition => exact List.cons_subset_cons condition hsubset
  | @spread name _ fragment _ _ _ hfragment hs _ ih =>
    obtain ⟨simple, hleads, hnodup, hsubset⟩ := ih
    by_cases hagain : name ∈ enteredFragments simple
    · -- the chain comes back to the fragment: go on from there, and cut out the round
      obtain ⟨other, t, rest, hother, ht, hrest, hsuffix⟩ := hleads.from_fragment hagain
      obtain rfl := Option.some.inj (hfragment.symm.trans hother)
      refine ⟨_, .spread hfragment ht hrest, ?_, ?_⟩
      · exact (hsuffix.filterMap Crossing.fragment?).sublist.nodup hnodup
      · have hrest : crossedConditions rest ⊆ crossedConditions simple :=
          (((List.suffix_cons _ rest).trans hsuffix).filterMap Crossing.condition?).subset
        exact List.cons_subset_cons _ (List.Subset.trans hrest hsubset)
    · refine ⟨_, .spread hfragment hs hleads, ?_, List.cons_subset_cons _ hsubset⟩
      exact List.nodup_cons.2 ⟨hagain, hnodup⟩

/-- A chain that enters no fragment twice enters at most as many as the table has. -/
theorem Leads.length_enteredFragments_le (h : Leads table s chain f)
    (hnodup : (enteredFragments chain).Nodup) :
    (enteredFragments chain).length ≤ table.length := by
  have hknown : enteredFragments chain ⊆ table.map Fragment.name := by
    intro name hname
    obtain ⟨fragment, _, _, hfragment, -⟩ := h.from_fragment hname
    have hfound : fragment.name = name := by simpa using List.find?_some hfragment
    exact List.mem_map.2 ⟨fragment, List.mem_of_find?_eq_some hfragment, hfound⟩
  simpa using (hnodup.subperm hknown).length_le

/-! ### Resolving follows every chain -/

theorem value_expandList (rule : SpreadRule) (entered : List Entered) (level : Nat)
    (selections : List Selection) :
    (expandList rule entered level selections).value =
      selections.flatMap fun s => (expand rule entered level s).value := by
  induction selections with
  | nil => rfl
  | cons s rest ih =>
    simp only [expandList, Logged.value_bind, Logged.value_pure, List.flatMap_cons, ih]

theorem Reaches.expandList {rule : SpreadRule} {entered : List Entered} {level : Nat}
    {selections : List Selection} {conditions : List String} {property : Selection → Prop}
    (hs : s ∈ selections)
    (h : Reaches [] (Selection.expand rule entered level s).value conditions property) :
    Reaches [] (Selection.expandList rule entered level selections).value conditions property := by
  rw [value_expandList]
  exact h.mono (fun t ht => List.mem_flatMap.2 ⟨s, hs, ht⟩) fun _ => id

theorem MergedFrom.keyed {fields : List Selection} {key : String} (h : MergedFrom fields f) :
    ∀ g ∈ fields, g.responseKey? = some key → f.responseKey? = some key :=
  fun g hg hkey => (h.key g hg).symm.trans hkey

/-- A chain that enters no fragment twice, and none that is being expanded at its level, is followed
to its end if that many fragments may still be entered. -/
theorem Leads.reaches_expand {key : String} (h : Leads table s chain f)
    (hkey : f.responseKey? = some key) (limit level : Nat) (remaining : Nat)
    (entered : List Entered) (hnodup : (enteredFragments chain).Nodup)
    (hfresh : ∀ name ∈ enteredFragments chain, ⟨name, level⟩ ∉ entered)
    (hremaining : (enteredFragments chain).length ≤ remaining) :
    Reaches [] (expand (expandWithin table limit remaining) entered level s).value
      (crossedConditions chain) (fun g => g.responseKey? = some key) := by
  induction h generalizing remaining entered with
  | @field f hfield =>
    cases f with
    | leaf head => exact (reaches_field hfield).2 ⟨rfl, hkey⟩
    | branch head mark selections => exact (reaches_field rfl).2 ⟨rfl, hkey⟩
    | inline => cases hfield
    | spread => cases hfield
  | @inline condition directives inside s _ chain hs _ ih =>
    have hinside := (ih hkey remaining entered hnodup hfresh hremaining).expandList hs
    cases condition with
    | none => exact hinside
    | some condition =>
      exact reaches_inline.2 ⟨_, rfl, hinside.merge fun _ _ hmerged => hmerged.keyed⟩
  | @spread name directives fragment s _ chain hfragment hs _ ih =>
    obtain ⟨hagain, hnodup⟩ := List.nodup_cons.1 hnodup
    obtain ⟨less, rfl⟩ : ∃ less, remaining = less + 1 :=
      Nat.exists_eq_succ_of_ne_zero (Nat.ne_of_gt (Nat.lt_of_lt_of_le (Nat.succ_pos _) hremaining))
    have hnew : ∀ other ∈ enteredFragments chain, (⟨other, level⟩ : Entered) ∉
        entered ++ [⟨name, level⟩] := by
      intro other hother
      have hne : other ≠ name := fun heq => hagain (heq ▸ hother)
      simpa [hne] using hfresh other (List.mem_cons_of_mem name hother)
    have hinside := (ih hkey less (entered ++ [⟨name, level⟩]) hnodup hnew
      (Nat.le_of_succ_le_succ hremaining)).expandList hs
    have hown : ⟨name, level⟩ ∉ entered := hfresh name List.mem_cons_self
    rw [expand, expandWithin_of_fresh limit less directives hown hfragment]
    exact reaches_inline.2 ⟨_, rfl, hinside.merge fun _ _ hmerged => hmerged.keyed⟩

/-- Every key that selections lead to can be found after resolving, under no other conditions. -/
theorem Reaches.resolve {selections : List Selection} {conditions : List String} {key : String}
    {limit : Nat} (hlimit : table.length ≤ limit)
    (h : Reaches table selections conditions fun g => g.responseKey? = some key) :
    ∃ kept ⊆ conditions, Reaches [] (Selection.resolve table limit selections).value kept
      fun g => g.responseKey? = some key := by
  obtain ⟨s, hs, chain, f, hleads, rfl, hkey⟩ := h
  obtain ⟨simple, hsimple, hnodup, hsubset⟩ := hleads.exists_simple
  refine ⟨crossedConditions simple, hsubset, ?_⟩
  have hexpanded := hsimple.reaches_expand hkey limit 0 limit [] hnodup (by simp)
    (Nat.le_trans (hsimple.length_enteredFragments_le hnodup) hlimit)
  exact (hexpanded.expandList hs).merge fun _ _ hmerged => hmerged.keyed

/-! ### Resolving adds nothing -/

/-- Whether a rule puts nothing in the place of a spread that the spread does not lead to. -/
def Sound (table : FragmentTable) (rule : SpreadRule) : Prop :=
  ∀ entered level name directives conditions head,
    Reaches [] (rule entered level name directives).value conditions
        (fun g => g.head? = some head) →
      Reaches table [.spread name directives] conditions fun g => g.head? = some head

theorem MergedFrom.headed {fields : List Selection} {head : FieldHead} (h : MergedFrom fields f)
    (hhead : f.head? = some head) : ∃ g ∈ fields, g.head? = some head := by
  obtain ⟨g, hg, hsame⟩ := h.head
  exact ⟨g, hg, hsame.trans hhead⟩

mutual

theorem reaches_of_expand {table : FragmentTable} {rule : SpreadRule} (hrule : Sound table rule)
    (entered : List Entered) (level : Nat) (conditions : List String) (head : FieldHead) :
    ∀ s : Selection,
      Reaches [] (expand rule entered level s).value conditions (fun g => g.head? = some head) →
        Reaches table [s] conditions fun g => g.head? = some head
  | .leaf own => fun h => by
    rw [expand, Logged.value_pure, reaches_field rfl] at h
    exact (reaches_field rfl).2 h
  | .branch own mark selections => fun h => by
    rw [expand, Logged.value_bind, Logged.value_pure, reaches_field rfl] at h
    exact (reaches_field rfl).2 h
  | .inline none directives selections => fun h =>
    reaches_bare.2 (reaches_of_expandList hrule entered level conditions head selections h)
  | .inline (some condition) directives selections => fun h => by
    rw [expand, Logged.value_bind, Logged.value_pure, reaches_inline] at h
    obtain ⟨inner, rfl, hinside⟩ := h
    exact reaches_inline.2 ⟨inner, rfl, reaches_of_expandList hrule entered level inner head
      selections (hinside.of_merge fun _ _ hmerged => hmerged.headed)⟩
  | .spread name directives => fun h => hrule entered level name directives conditions head h

theorem reaches_of_expandList {table : FragmentTable} {rule : SpreadRule}
    (hrule : Sound table rule) (entered : List Entered) (level : Nat) (conditions : List String)
    (head : FieldHead) :
    ∀ selections : List Selection,
      Reaches [] (expandList rule entered level selections).value conditions
          (fun g => g.head? = some head) →
        Reaches table selections conditions fun g => g.head? = some head
  | [] => fun h => absurd h not_reaches_nil
  | s :: rest => fun h => by
    rw [← List.singleton_append, reaches_append]
    rcases reaches_append.1 h with h | h
    · exact .inl (reaches_of_expand hrule entered level conditions head s h)
    · exact .inr (reaches_of_expandList hrule entered level conditions head rest h)

end

theorem sound_expandWithin (table : FragmentTable) (limit remaining : Nat) :
    Sound table (expandWithin table limit remaining) := by
  refine expandWithin_induction (motive := fun _ _ name directives result => ∀ conditions head,
    Reaches [] result.value conditions (fun g => g.head? = some head) →
      Reaches table [.spread name directives] conditions fun g => g.head? = some head)
    ?_ ?_ limit remaining
  · intro entered level name directives n _ conditions head h
    exact absurd h not_reaches_nil
  · intro rule entered level name directives fragment hrule hfragment inside conditions head h
    obtain ⟨inner, rfl, hinside⟩ := reaches_inline.1 h
    rw [reaches_spread hfragment, reaches_inline]
    exact ⟨inner, rfl, reaches_of_expandList hrule _ level inner head fragment.selections
      (hinside.of_merge fun _ _ hmerged => hmerged.headed)⟩

theorem Reaches.of_resolve {selections : List Selection} {conditions : List String}
    {head : FieldHead} {limit : Nat}
    (h : Reaches [] (Selection.resolve table limit selections).value conditions
      fun g => g.head? = some head) :
    Reaches table selections conditions fun g => g.head? = some head :=
  reaches_of_expandList (sound_expandWithin table limit limit) [] 0 conditions head selections
    (h.of_merge fun _ _ hmerged => hmerged.headed)

end Selection

/-! ### Names of fields -/

namespace Selection

mutual

/-- The fields in a selection, on all levels. -/
def heads : Selection → List FieldHead
  | .leaf head => [head]
  | .branch head _ selections => head :: allHeads selections
  | .inline _ _ selections => allHeads selections
  | .spread _ _ => []

def allHeads : List Selection → List FieldHead
  | [] => []
  | s :: rest => heads s ++ allHeads rest

end

/-- The fields in some selections and in the fragments of a table. -/
def headsWith (table : FragmentTable) (selections : List Selection) : List FieldHead :=
  allHeads selections ++ table.flatMap fun fragment => allHeads fragment.selections

/-- Whether fields with the same response key have the same name. -/
def KeysNameFields (table : FragmentTable) (selections : List Selection) : Prop :=
  ∀ a ∈ headsWith table selections, ∀ b ∈ headsWith table selections,
    a.responseKey = b.responseKey → a.name = b.name

variable {table : FragmentTable} {selections : List Selection} {s f : Selection}
  {chain : List Crossing} {head : FieldHead}

theorem mem_allHeads (hs : s ∈ selections) (hhead : head ∈ s.heads) :
    head ∈ allHeads selections := by
  induction selections with
  | nil => cases hs
  | cons first rest ih =>
    rw [allHeads, List.mem_append]
    rcases List.mem_cons.1 hs with rfl | hs
    · exact .inl hhead
    · exact .inr (ih hs)

theorem Leads.mem_heads (h : Leads table s chain f) (hhead : f.head? = some head) :
    head ∈ s.heads ∨ head ∈ table.flatMap fun fragment => allHeads fragment.selections := by
  induction h with
  | @field f hfield =>
    cases f with
    | leaf own => simp_all [heads, head?]
    | branch own mark inside => simp_all [heads, head?]
    | inline => cases hfield
    | spread => cases hfield
  | inline hs _ ih => exact (ih hhead).imp_left (mem_allHeads hs)
  | spread hfragment hs _ ih =>
    refine .inr ((ih hhead).elim (fun hmem => ?_) id)
    exact List.mem_flatMap.2 ⟨_, List.mem_of_find?_eq_some hfragment, mem_allHeads hs hmem⟩

theorem Reaches.mem_headsWith {conditions : List String}
    (h : Reaches table selections conditions fun g => g.head? = some head) :
    head ∈ headsWith table selections := by
  obtain ⟨s, hs, chain, f, hleads, -, hhead⟩ := h
  rw [headsWith, List.mem_append]
  exact (hleads.mem_heads hhead).imp_left (mem_allHeads hs)

end Selection

/-! ### What applies to an object -/

/-- Whether a condition holds of all values of an object type: it names the type, or an interface
that the type declares. -/
def Schema.Applies (schema : Schema) (owner : TypeDef) (condition : String) : Prop :=
  condition = owner.name ∨
    ∃ interface, schema.type? condition = some interface ∧ interface.isInterface ∧
      condition ∈ owner.interfaces

namespace Analysis

open Selection

variable {schema : Schema} {owner : TypeDef}

/-- On an object type a condition that applies leads back to the type, and any other nowhere. -/
theorem conditionTarget_of_isObject (schema : Schema) (hobject : owner.isObject)
    (condition : String) :
    (schema.Applies owner condition ∧
      (conditionTarget schema owner (some condition)).value = some owner) ∨
    (¬ schema.Applies owner condition ∧
      (conditionTarget schema owner (some condition)).value = none) := by
  cases hfound : schema.type? condition with
  | none =>
    by_cases hname : condition = owner.name
    · refine .inl ⟨.inl hname, ?_⟩
      rw [conditionTarget, if_pos (by simpa using hname)]
      rfl
    · refine .inr ⟨by simp [Schema.Applies, hname, hfound], ?_⟩
      rw [conditionTarget, if_neg (by simpa using hname)]
      simp only [hfound]
      rfl
  | some target =>
    have hfinds := Schema.finds_of_type? hfound
    obtain rfl : target.name = condition := by simpa using List.find?_some hfound
    have happlies : schema.Applies owner target.name ↔
        target.name = owner.name ∨ owner.Declares target := by
      simp [Schema.Applies, TypeDef.Declares, hfound]
    rw [happlies]
    rcases conditionTarget_cases owner hfinds with
      ⟨hsame, heq⟩ | ⟨himplements, -⟩ | ⟨hname, hdeclared, -, heq⟩
    · exact .inl ⟨hsame, by rw [heq]⟩
    · -- an object type is no interface
      have hnone := TypeDef.not_isInterface_of_isObject hobject
      rw [himplements.1] at hnone
      cases hnone
    · exact .inr ⟨by simp [hname, hdeclared], by rw [heq]⟩

/-- Whether a selection is a field that a type has, under the given response key. -/
def IsFieldOf (owner : TypeDef) (key : String) (f : Selection) : Prop :=
  ∃ head, f.head? = some head ∧ head.responseKey = key ∧ head.name ≠ typenameField ∧
    (owner.fieldType? head.name).isSome

/-- Whether an object of a type gets a field under a response key from some selections: a chain of
fragments that apply to the type leads to a field that it has. -/
def Supplies (schema : Schema) (owner : TypeDef) (table : FragmentTable)
    (selections : List Selection) (key : String) : Prop :=
  ∃ conditions, (∀ condition ∈ conditions, schema.Applies owner condition) ∧
    Reaches table selections conditions (IsFieldOf owner key)

section Supplies

variable {table : FragmentTable} {selections : List Selection} {key : String}

theorem supplies_append {others : List Selection} :
    Supplies schema owner table (selections ++ others) key ↔
      Supplies schema owner table selections key ∨ Supplies schema owner table others key := by
  simp only [Supplies, reaches_append, and_or_left, exists_or]

theorem not_supplies_nil : ¬ Supplies schema owner table [] key := by
  rintro ⟨conditions, -, hreaches⟩
  exact not_reaches_nil hreaches

theorem supplies_field {f : Selection} {head : FieldHead} (hhead : f.head? = some head) :
    Supplies schema owner table [f] key ↔
      head.responseKey = key ∧ head.name ≠ typenameField ∧ (owner.fieldType? head.name).isSome := by
  have hfield : f.head?.isSome := by simp [hhead]
  simp [Supplies, reaches_field hfield, IsFieldOf, hhead]

theorem supplies_inline {condition : Option String} {directives : List Directive} :
    Supplies schema owner table [.inline condition directives selections] key ↔
      (∀ c, condition = some c → schema.Applies owner c) ∧
        Supplies schema owner table selections key := by
  cases condition with
  | none => simp [Supplies, reaches_bare]
  | some condition =>
    simp only [Supplies, reaches_inline, Option.some.injEq, forall_eq']
    constructor
    · rintro ⟨_, happlies, inner, rfl, hreaches⟩
      exact ⟨happlies condition List.mem_cons_self, inner,
        fun c hc => happlies c (List.mem_cons_of_mem condition hc), hreaches⟩
    · rintro ⟨hcondition, inner, happlies, hreaches⟩
      exact ⟨condition :: inner, List.forall_mem_cons.2 ⟨hcondition, happlies⟩, inner, rfl,
        hreaches⟩

theorem not_supplies_spread {name : String} {directives : List Directive} :
    ¬ Supplies schema owner [] [.spread name directives] key := by
  rintro ⟨conditions, -, s, hs, chain, f, hleads, -⟩
  obtain rfl := List.mem_singleton.1 hs
  cases hleads with
  | field hfield => cases hfield
  | spread hfragment => cases hfragment

/-- Resolved selections supply what the selections supplied. -/
theorem supplies_resolve {limit : Nat} (hlimit : table.length ≤ limit)
    (hnames : KeysNameFields table selections) :
    Supplies schema owner [] (resolve table limit selections).value key ↔
      Supplies schema owner table selections key := by
  constructor
  · rintro ⟨conditions, happlies, s, hs, chain, f, hleads, rfl, head, hhead, hfield⟩
    refine ⟨_, happlies, (Reaches.of_resolve ⟨s, hs, chain, f, hleads, rfl, hhead⟩).mono
      (fun _ => id) fun g hg => ⟨head, hg, hfield⟩⟩
  · rintro ⟨conditions, happlies, s, hs, chain, f, hleads, rfl, head, hhead, rfl, hname, hexists⟩
    have hown : Reaches table selections (crossedConditions chain) fun g => g.head? = some head :=
      ⟨s, hs, chain, f, hleads, rfl, hhead⟩
    obtain ⟨kept, hkept, t, ht, others, g, hfound, rfl, hkey⟩ :=
      (hown.mono (fun _ => id) fun g hg => responseKey?_eq_some hg).resolve hlimit
    obtain ⟨other, hother, hsame⟩ : ∃ other, g.head? = some other ∧
        other.responseKey = head.responseKey := by simpa [responseKey?] using hkey
    -- the field that is found after resolving may be another one, but it has the same name
    have hreached : Reaches [] (resolve table limit selections).value (crossedConditions others)
        fun g => g.head? = some other := ⟨t, ht, others, g, hfound, rfl, hother⟩
    have heq : other.name = head.name :=
      hnames other hreached.of_resolve.mem_headsWith head hown.mem_headsWith hsame
    exact ⟨_, fun c hc => happlies c (hkept hc), hreached.mono (fun _ => id)
      fun g hg => ⟨other, hg, hsame, heq ▸ hname, heq ▸ hexists⟩⟩

end Supplies

/-! ### Analysing -/

/-- What a walk over some selections adds on an object type: the response keys that they supply,
with types of fields of the object type. -/
structure Gathers (schema : Schema) (owner : TypeDef) (selections : List Selection)
    (before after : Collected) : Prop where
  keys : ∀ key, key ∈ after.entries.map Entry.key ↔
    key ∈ before.entries.map Entry.key ∨ Supplies schema owner [] selections key
  types : ∀ e ∈ after.entries,
    (∃ name, owner.fieldType? name = some e.type) ∨ ∃ old ∈ before.entries, old.type = e.type

/-- A fragment on an object type has no target but the type. -/
theorem eq_of_conditionTarget (hobject : owner.isObject) {condition : Option String}
    {target : TypeDef} (h : (conditionTarget schema owner condition).value = some target) :
    target = owner := by
  cases condition with
  | none => exact (Option.some.inj h).symm
  | some condition =>
    rcases conditionTarget_of_isObject schema hobject condition with ⟨-, htarget⟩ | ⟨-, htarget⟩
    · exact Option.some.inj (h.symm.trans htarget)
    · rw [htarget] at h
      cases h

theorem Yields.exists_fieldType? {s : Selection} {key : String} {type : TypeRef}
    (h : Yields schema owner s key type) (hobject : owner.isObject) :
    ∃ name, owner.fieldType? name = some type := by
  induction h with
  | field _ _ htype => exact ⟨_, htype⟩
  | inline htarget _ _ ih =>
    obtain rfl := eq_of_conditionTarget hobject htarget
    exact ih hobject

mutual

theorem supplies_iff_yields (hobject : owner.isObject) (key : String) :
    ∀ s : Selection, Supplies schema owner [] [s] key ↔ SomeYields schema owner [s] key
  | .leaf head => by rw [supplies_field rfl, someYields_field rfl]
  | .branch head mark selections => by rw [supplies_field rfl, someYields_field rfl]
  | .inline none directives selections => by
    rw [supplies_inline, someYields_inline rfl, supplies_iff_someYields hobject key selections]
    simp
  | .inline (some condition) directives selections => by
    rw [supplies_inline]
    rcases conditionTarget_of_isObject schema hobject condition with
      ⟨happlies, htarget⟩ | ⟨happlies, htarget⟩
    · rw [someYields_inline htarget, supplies_iff_someYields hobject key selections]
      simp [happlies]
    · simp [happlies, not_someYields_inline htarget]
  | .spread name directives => by simp [not_supplies_spread, not_someYields_spread]

theorem supplies_iff_someYields (hobject : owner.isObject) (key : String) :
    ∀ selections : List Selection,
      Supplies schema owner [] selections key ↔ SomeYields schema owner selections key
  | [] => by simp [not_supplies_nil, SomeYields]
  | s :: rest => by
    rw [← List.singleton_append, supplies_append, someYields_append,
      supplies_iff_yields hobject key s, supplies_iff_someYields hobject key rest]

end

theorem gathers_collectList (schema : Schema) (hobject : owner.isObject) (state : Collected)
    (selections : List Selection) :
    ∃ after, (collectList schema owner state selections).result = .ok after ∧
      Gathers schema owner selections state after := by
  have hcomposite : owner.isComposite := TypeDef.isComposite_iff.2 (.inl hobject)
  obtain ⟨after, hresult, hcollects⟩ :=
    collects_collectList schema owner hcomposite state selections
  refine ⟨after, hresult, fun key => ?_, fun e he => ?_⟩
  · rw [hcollects.keys, supplies_iff_someYields hobject]
  · refine (hcollects.types e he).imp_left ?_
    rintro ⟨s, -, key, hyields⟩
    exact hyields.exists_fieldType? hobject

/-- **Field collection.** Whatever circles the fragments of a table make, the analysis of resolved
selections on an object type has the response keys that the selections supply to it, provided that
as many fragments may be entered as there are in the table, and that a response key is not used for
fields with different names. There is no analysis only if the type has a field whose type is no
output type. -/
theorem keys_of_resolved (schema : Schema) (split : Bool) (owner : TypeDef) (table : FragmentTable)
    (limit : Nat) (selections : List Selection) (hlimit : table.length ≤ limit)
    (hobject : owner.isObject) (hnames : KeysNameFields table selections) :
    match (ofSet schema split owner
      (some ⟨none, (resolve table limit selections).value⟩)).result with
    | .ok analysis => ∀ key, key ∈ analysis.fields.map FieldInfo.responseKey ↔
        Supplies schema owner table selections key
    | .error _ => ∃ name type, owner.fieldType? name = some type ∧
        schema.isOutputType type = false := by
  obtain ⟨collected, hcollected, hgathers⟩ := gathers_collectList schema hobject ⟨[], []⟩
    (resolve table limit selections).value
  rcases ofSelections_cases split hcollected with
    ⟨fields, hresult, hfields⟩ | ⟨fault, hresult, e, he, hfault⟩
  · rw [ofSet, Option.map_some, Option.getD_some, hresult]
    intro key
    rw [(fieldsOf_fieldInfo hfields).1, hgathers.keys]
    simpa using supplies_resolve hlimit hnames
  · rw [ofSet, Option.map_some, Option.getD_some, hresult]
    rcases hgathers.types e he with ⟨name, hname⟩ | ⟨old, hold, -⟩
    · exact ⟨name, e.type, hname, not_isOutputType_of_fieldInfo hfault⟩
    · cases hold

namespace Circle

/-- Two fragments that spread each other. -/
def fragments : FragmentTable :=
  [⟨"First", "Person", [], [.spread "Second" [], .inline (some "Being") [] [.spread "First" []]]⟩,
    ⟨"Second", "Person", [], [.inline none [] [.spread "First" []], .leaf ⟨none, "name", [], []⟩]⟩]

def selections : List Selection := [.inline none [] [.spread "First" []]]

end Circle

theorem keys_of_resolved_circle : KeysNameFields Circle.fragments Circle.selections ∧
    ∃ analysis, (ofSet Beings.schema false Beings.person
        (some ⟨none, (resolve Circle.fragments 2 Circle.selections).value⟩)).result = .ok analysis ∧
      analysis.fields.map FieldInfo.responseKey = ["name"] ∧
      Supplies Beings.schema Beings.person Circle.fragments Circle.selections "name" := by
  have hnames : KeysNameFields Circle.fragments Circle.selections := by
    unfold KeysNameFields
    decide +kernel
  have hexact := keys_of_resolved Beings.schema false Beings.person Circle.fragments 2
    Circle.selections (by decide) (by decide) hnames
  have hkeys : ((ofSet Beings.schema false Beings.person
      (some ⟨none, (resolve Circle.fragments 2 Circle.selections).value⟩)).result.toOption.map
        fun analysis => analysis.fields.map FieldInfo.responseKey) = some ["name"] := by
    decide +kernel
  refine ⟨hnames, ?_⟩
  cases hresult : (ofSet Beings.schema false Beings.person
      (some ⟨none, (resolve Circle.fragments 2 Circle.selections).value⟩)).result with
  | error fault =>
    rw [hresult] at hkeys
    cases hkeys
  | ok analysis =>
    rw [hresult] at hkeys hexact
    have hkeys : analysis.fields.map FieldInfo.responseKey = ["name"] := Option.some.inj hkeys
    exact ⟨analysis, rfl, hkeys, (hexact "name").1 (hkeys ▸ List.mem_cons_self)⟩

end Analysis

end OperationSamples
