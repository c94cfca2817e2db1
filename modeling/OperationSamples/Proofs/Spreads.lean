import OperationSamples.Proofs.Building

/-!
Selections that do not spread a fragment.

What a fragment says matters only to those who spread it. Two tables that agree but for one fragment
expand selections alike that lead nowhere to its name, provided that the chains of fragments entered
before agree on all other names, as far as they are on the same level. One of the two may have fewer
fragments left to enter, as long as it does not report that this was too deep
(`agreeBut_expandWithin`).
-/

namespace OperationSamples

namespace Selection

mutual

/-- The fragments that a selection spreads, on all levels. -/
def spreads : Selection → List String
  | .leaf _ => []
  | .branch _ _ selections => allSpreads selections
  | .inline _ _ selections => allSpreads selections
  | .spread name _ => [name]

def allSpreads : List Selection → List String
  | [] => []
  | s :: rest => spreads s ++ allSpreads rest

end

@[simp] theorem allSpreads_append (xs ys : List Selection) :
    allSpreads (xs ++ ys) = allSpreads xs ++ allSpreads ys := by
  induction xs with
  | nil => rfl
  | cons s rest ih => rw [List.cons_append, allSpreads, ih, allSpreads, List.append_assoc]

theorem value_expandList_append (rule : SpreadRule) (entered : List Entered) (level : Nat)
    (xs ys : List Selection) :
    (expandList rule entered level (xs ++ ys)).value =
      (expandList rule entered level xs).value ++ (expandList rule entered level ys).value := by
  simp only [value_expandList, List.flatMap_append]

theorem notices_expandList_append (rule : SpreadRule) (entered : List Entered) (level : Nat)
    (xs ys : List Selection) :
    (expandList rule entered level (xs ++ ys)).notices =
      (expandList rule entered level xs).notices ++ (expandList rule entered level ys).notices := by
  induction xs with
  | nil => rfl
  | cons s rest ih =>
    simp only [List.cons_append, expandList, Logged.notices_bind, Logged.notices_pure,
      List.append_nil, ih, List.append_assoc]

section Agree

variable {Q : Notice → Prop} {missing : String}

/-- Whether two rules, used from some level on, give the same for all fragments but one, as far as
the first reports nothing out of the ordinary. -/
def AgreeBut (missing : String) (Q : Notice → Prop) (first second : SpreadRule)
    (entered entered' : List Entered) (level level' : Nat) : Prop :=
  ∀ depth name directives, name ≠ missing →
    (∀ n ∈ (first entered (level + depth) name directives).notices, Q n) →
      (first entered (level + depth) name directives).value =
        (second entered' (level' + depth) name directives).value

mutual

theorem value_expand_eq {first second : SpreadRule} {entered entered' : List Entered}
    {level level' : Nat} (h : AgreeBut missing Q first second entered entered' level level')
    (depth : Nat) :
    ∀ s : Selection, missing ∉ s.spreads →
      (∀ n ∈ (expand first entered (level + depth) s).notices, Q n) →
        (expand first entered (level + depth) s).value =
          (expand second entered' (level' + depth) s).value
  | .leaf head => fun _ _ => rfl
  | .branch head mark selections => fun hfree hquiet => by
    simp only [expand, Logged.notices_bind, Logged.notices_pure, List.append_nil,
      Logged.value_bind, Logged.value_pure] at hquiet ⊢
    have hbelow := value_expandList_eq h (depth + 1) selections hfree
    rw [← Nat.add_assoc] at hbelow
    rw [hbelow hquiet]
    rfl
  | .inline none directives selections => fun hfree hquiet =>
    value_expandList_eq h depth selections hfree hquiet
  | .inline (some condition) directives selections => fun hfree hquiet => by
    simp only [expand, Logged.notices_bind, Logged.notices_pure, List.append_nil,
      Logged.value_bind, Logged.value_pure] at hquiet ⊢
    rw [value_expandList_eq h depth selections hfree hquiet]
  | .spread name directives => fun hfree hquiet =>
    h depth name directives (fun heq => hfree (by simp [spreads, heq])) hquiet

theorem value_expandList_eq {first second : SpreadRule} {entered entered' : List Entered}
    {level level' : Nat} (h : AgreeBut missing Q first second entered entered' level level')
    (depth : Nat) :
    ∀ selections : List Selection, missing ∉ allSpreads selections →
      (∀ n ∈ (expandList first entered (level + depth) selections).notices, Q n) →
        (expandList first entered (level + depth) selections).value =
          (expandList second entered' (level' + depth) selections).value
  | [] => fun _ _ => rfl
  | s :: rest => fun hfree hquiet => by
    simp only [allSpreads, List.mem_append, not_or] at hfree
    simp only [expandList, Logged.notices_bind, Logged.notices_pure, List.append_nil,
      List.forall_mem_append, Logged.value_bind, Logged.value_pure] at hquiet ⊢
    rw [value_expand_eq h depth s hfree.1 hquiet.1,
      value_expandList_eq h depth rest hfree.2 hquiet.2]

end

section Spread

variable {table : FragmentTable} {name : String} {entered : List Entered} {level : Nat}

theorem expandWithin_of_entered (table : FragmentTable) (limit remaining : Nat)
    (directives : List Directive) (h : ⟨name, level⟩ ∈ entered) :
    expandWithin table limit remaining entered level name directives =
      ⟨[], [.fragmentCycle (entered.map Entered.fragment) name]⟩ := by
  cases remaining <;> rw [expandWithin, if_pos (any_entered_iff.2 h)] <;> rfl

theorem expandWithin_zero (table : FragmentTable) (limit : Nat) (directives : List Directive)
    (h : ⟨name, level⟩ ∉ entered) :
    expandWithin table limit 0 entered level name directives =
      ⟨[], [.fragmentTooDeep name limit]⟩ := by
  rw [expandWithin, if_neg (mt any_entered_iff.1 h)]
  rfl

theorem expandWithin_of_unknown (limit remaining : Nat) (directives : List Directive)
    (h : ⟨name, level⟩ ∉ entered) (hunknown : table.get? name = none) :
    expandWithin table limit (remaining + 1) entered level name directives =
      ⟨[], [.unknownFragment name]⟩ := by
  rw [expandWithin, if_neg (mt any_entered_iff.1 h)]
  simp only [hunknown]
  rfl

end Spread

/-- Whether a table knows what another one knows, but for one fragment, which those of the other do
not spread. -/
structure DiffersIn (missing : String) (table' table : FragmentTable) : Prop where
  get? : ∀ name, name ≠ missing → table'.get? name = table.get? name
  free : ∀ f ∈ table, missing ∉ allSpreads f.selections

variable {table table' : FragmentTable}

/-- **Two tables that differ in one fragment** expand other spreads alike, if the first may enter as
many fragments as the second, or does not report that it could not. The induction is on the
fragments that the first may enter. -/
theorem agreeBut_expandWithin (h : DiffersIn missing table' table) (limit : Nat)
    {remaining' remaining : Nat} (hle : remaining' ≤ remaining)
    (hdeep : remaining' = remaining ∨ ∀ name, ¬ Q (.fragmentTooDeep name limit))
    {entered' entered : List Entered} {level' level : Nat}
    (hentered : ∀ name, name ≠ missing → ∀ depth,
      (⟨name, level' + depth⟩ ∈ entered' ↔ ⟨name, level + depth⟩ ∈ entered)) :
    AgreeBut missing Q (expandWithin table' limit remaining') (expandWithin table limit remaining)
      entered' entered level' level := by
  induction remaining' generalizing remaining entered' entered with
  | zero =>
    intro depth name directives hname hquiet
    by_cases hcycle : ⟨name, level' + depth⟩ ∈ entered'
    · have hcycle' := (hentered name hname depth).1 hcycle
      rw [expandWithin_of_entered _ _ _ _ hcycle, expandWithin_of_entered _ _ _ _ hcycle']
    · have hcycle' := mt (hentered name hname depth).2 hcycle
      rw [expandWithin_zero _ _ _ hcycle] at hquiet ⊢
      rcases hdeep with rfl | hdeep
      · rw [expandWithin_zero _ _ _ hcycle']
      · exact absurd (hquiet _ List.mem_cons_self) (hdeep name)
  | succ remaining' ih =>
    intro depth name directives hname hquiet
    obtain ⟨remaining, rfl⟩ : ∃ n, remaining = n + 1 := ⟨remaining - 1, by omega⟩
    by_cases hcycle : ⟨name, level' + depth⟩ ∈ entered'
    · have hcycle' := (hentered name hname depth).1 hcycle
      rw [expandWithin_of_entered _ _ _ _ hcycle, expandWithin_of_entered _ _ _ _ hcycle']
    · have hcycle' := mt (hentered name hname depth).2 hcycle
      have hfragment' := h.get? name hname
      cases hfragment : table.get? name with
      | none =>
        rw [hfragment] at hfragment'
        rw [expandWithin_of_unknown _ _ _ hcycle hfragment',
          expandWithin_of_unknown _ _ _ hcycle' hfragment]
      | some fragment =>
        rw [hfragment] at hfragment'
        rw [expandWithin_of_fresh limit remaining' directives hcycle hfragment'] at hquiet ⊢
        rw [expandWithin_of_fresh limit remaining directives hcycle' hfragment]
        have hinside : AgreeBut missing Q (expandWithin table' limit remaining')
            (expandWithin table limit remaining) (entered' ++ [⟨name, level' + depth⟩])
            (entered ++ [⟨name, level + depth⟩]) level' level :=
          ih (by omega) (hdeep.imp_left fun heq => by omega) fun other hother depth' => by
            simp [hentered other hother depth']
        have hvalue := value_expandList_eq hinside depth fragment.selections
          (h.free fragment (List.mem_of_find?_eq_some hfragment)) hquiet
        exact congrArg (fun inside => [Selection.inline _ directives (merge inside)]) hvalue

/-- Selections that do not spread a fragment are expanded alike with it and without, on any
level. -/
theorem value_expandList_of_differsIn (h : DiffersIn missing table' table) (limit : Nat)
    {selections : List Selection} (hfree : missing ∉ allSpreads selections) (level' level : Nat) :
    (expandList (expandWithin table' limit limit) [] level' selections).value =
      (expandList (expandWithin table limit limit) [] level selections).value := by
  have hagree : AgreeBut missing (fun _ => True) (expandWithin table' limit limit)
      (expandWithin table limit limit) [] [] level' level :=
    agreeBut_expandWithin h limit (Nat.le_refl limit) (.inl rfl) fun _ _ _ => by simp
  exact value_expandList_eq hagree 0 selections hfree fun _ _ => trivial

theorem value_resolve_of_differsIn (h : DiffersIn missing table' table) (limit : Nat)
    {selections : List Selection} (hfree : missing ∉ allSpreads selections) :
    (resolve table' limit selections).value = (resolve table limit selections).value := by
  simp only [resolve, Logged.value_bind, Logged.value_pure]
  rw [value_expandList_of_differsIn h limit hfree 0 0]

end Agree

end Selection

/-! ### Tables -/

namespace FragmentTable

/-- The first fragment with a name counts. -/
theorem get?_registerAll (table : FragmentTable) (fragments : List Fragment) (name : String) :
    (registerAll table fragments).value.get? name =
      (table ++ fragments).find? fun f => f.name == name := by
  induction fragments generalizing table with
  | nil => rw [List.append_nil]; rfl
  | cons f rest ih =>
    rw [registerAll, Logged.value_bind, ih]
    by_cases hknown : (table.get? f.name).isSome = true
    · have hregister : (register table f).value = table := by
        rw [register, if_pos hknown]
        rfl
      -- the name is taken, so the new fragment is never found
      rw [hregister, List.find?_append, List.find?_append, List.find?_cons]
      by_cases hname : f.name = name
      · obtain ⟨known, hfound⟩ := Option.isSome_iff_exists.1 hknown
        rw [hname, get?] at hfound
        rw [hfound, Option.some_or, Option.some_or]
      · rw [beq_eq_false_iff_ne.2 hname]
    · have hregister : (register table f).value = table ++ [f] := by
        rw [register, if_neg hknown]
        rfl
      rw [hregister, List.append_assoc, List.singleton_append]

theorem get?_ofDocuments (documents : List Document) (name : String) :
    (ofDocuments documents).value.get? name =
      (documents.flatMap Document.fragments).find? fun f => f.name == name := by
  have hget := get?_registerAll [] (documents.flatMap Document.fragments) name
  rw [List.nil_append] at hget
  exact hget

end FragmentTable

end OperationSamples
