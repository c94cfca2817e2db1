import OperationSamples.Proofs.Collection

/-!
Which fields are split by member.

With the option to split interfaces, a field of an interface type is treated as a union when a
fragment at the top of its selections is on a member (`NamesMember`). The members themselves are
found by another walk, which also looks inside fragments on the interface, and inside those without
condition (`HoldsMember`).

Every field that is treated as a union has members. The converse fails for a field whose members are
all named on a deeper level, and for no other (`split_iff_members_iff`). Resolving puts members
there: it turns the spread of a fragment on the interface into an inline fragment on the interface.
-/

namespace OperationSamples

/-- Whether a selection is a fragment on a member of an abstract type, with the selections that it
holds. -/
def NamesMember (schema : Schema) (abstract : TypeDef) (s : Selection) (member : TypeDef)
    (own : List Selection) : Prop :=
  ∃ condition directives, s = .inline (some condition) directives own ∧
    schema.type? condition = some member ∧ Schema.isMember abstract member = true

/-- Whether a selection is a fragment on a member, or holds one inside fragments without condition
or on the abstract type itself. -/
inductive HoldsMember (schema : Schema) (abstract : TypeDef) :
    Selection → TypeDef → List Selection → Prop
  | named {s : Selection} {member : TypeDef} {own : List Selection}
      (h : NamesMember schema abstract s member own) : HoldsMember schema abstract s member own
  | inside {condition : Option String} {directives : List Directive} {selections : List Selection}
      {s : Selection} {member : TypeDef} {own : List Selection}
      (hcondition : condition = none ∨ condition = some abstract.name) (hs : s ∈ selections)
      (h : HoldsMember schema abstract s member own) :
      HoldsMember schema abstract (.inline condition directives selections) member own

section HoldsMember

variable {schema : Schema} {abstract member : TypeDef} {own selections : List Selection}
  {directives : List Directive}

theorem holdsMember_inside {condition : Option String}
    (hcondition : condition = none ∨ condition = some abstract.name)
    (hname : ¬ NamesMember schema abstract (.inline condition directives selections) member own) :
    HoldsMember schema abstract (.inline condition directives selections) member own ↔
      ∃ s ∈ selections, HoldsMember schema abstract s member own := by
  constructor
  · intro h
    cases h with
    | named h => exact absurd h hname
    | inside _ hs h => exact ⟨_, hs, h⟩
  · rintro ⟨s, hs, h⟩
    exact .inside hcondition hs h

theorem not_namesMember_bare :
    ¬ NamesMember schema abstract (.inline none directives selections) member own := by
  rintro ⟨condition, _, hs, -⟩
  cases hs

theorem not_namesMember_self (habstract : schema.Finds abstract)
    (hkind : abstract.isObject = false) :
    ¬ NamesMember schema abstract (.inline (some abstract.name) directives selections) member
      own := by
  rintro ⟨condition, _, hs, hfound, hmember⟩
  cases hs
  obtain rfl := Option.some.inj (hfound.symm.trans habstract)
  simp [Schema.isMember, hkind] at hmember

theorem holdsMember_other {condition : String} (hother : condition ≠ abstract.name) :
    HoldsMember schema abstract (.inline (some condition) directives selections) member own ↔
      schema.type? condition = some member ∧ Schema.isMember abstract member = true ∧
        own = selections := by
  constructor
  · intro h
    cases h with
    | named h =>
      obtain ⟨_, _, hs, hfound, hmember⟩ := h
      cases hs
      exact ⟨hfound, hmember, rfl⟩
    | inside hcondition => simp [hother] at hcondition
  · rintro ⟨hfound, hmember, rfl⟩
    exact .named ⟨condition, directives, rfl, hfound, hmember⟩

theorem not_holdsMember {s : Selection} (h : ∀ condition directives selections,
    s ≠ .inline condition directives selections) : ¬ HoldsMember schema abstract s member own := by
  intro hholds
  cases hholds with
  | named hnames =>
    obtain ⟨_, _, hs, -⟩ := hnames
    exact h _ _ _ hs
  | inside => exact h _ _ _ rfl

end HoldsMember

namespace MemberSelection

mutual

/-- What splitting one selection adds to the members: those it holds. -/
theorem mem_split {schema : Schema} {abstract : TypeDef} (habstract : schema.Finds abstract)
    (hkind : abstract.isObject = false) (state : Split) (member : TypeDef)
    (own : List Selection) :
    ∀ s : Selection, (member, own) ∈ (split schema abstract state s).value.conditioned ↔
      (member, own) ∈ state.conditioned ∨ HoldsMember schema abstract s member own
  | .leaf head => by simp [split, not_holdsMember]
  | .branch head mark selections => by simp [split, not_holdsMember]
  | .spread name directives => by simp [split, not_holdsMember]
  | .inline none directives selections => by
    rw [split, mem_splitList habstract hkind state member own selections,
      holdsMember_inside (.inl rfl) not_namesMember_bare]
  | .inline (some condition) directives selections => by
    by_cases hname : condition = abstract.name
    · subst hname
      rw [split, if_pos (by simp), mem_splitList habstract hkind state member own selections,
        holdsMember_inside (.inr rfl) (not_namesMember_self habstract hkind)]
    · rw [split, if_neg (by simpa using hname), holdsMember_other hname]
      cases hfound : schema.type? condition with
      | none =>
        simp only [Logged.value_bind, Logged.value_pure, reduceCtorEq, false_and, or_false]
      | some candidate =>
        by_cases hmember : Schema.isMember abstract candidate
        · simp only [hmember, if_true, Logged.value_pure, List.mem_append, List.mem_singleton,
            Prod.mk.injEq, Option.some.injEq]
          refine or_congr_right ⟨?_, ?_⟩
          · rintro ⟨rfl, rfl⟩
            exact ⟨rfl, hmember, rfl⟩
          · rintro ⟨rfl, -, rfl⟩
            exact ⟨rfl, rfl⟩
        · simp only [hmember, Bool.false_eq_true, if_false, Logged.value_bind, Logged.value_pure,
            Option.some.injEq]
          refine ⟨.inl, fun h => h.elim id ?_⟩
          rintro ⟨rfl, hyes, -⟩
          exact absurd hyes hmember

theorem mem_splitList {schema : Schema} {abstract : TypeDef} (habstract : schema.Finds abstract)
    (hkind : abstract.isObject = false) (state : Split) (member : TypeDef)
    (own : List Selection) :
    ∀ selections : List Selection,
      (member, own) ∈ (splitList schema abstract state selections).value.conditioned ↔
        (member, own) ∈ state.conditioned ∨
          ∃ s ∈ selections, HoldsMember schema abstract s member own
  | [] => by simp [splitList]
  | s :: rest => by
    rw [splitList, Logged.value_bind, mem_splitList habstract hkind _ member own rest,
      mem_split habstract hkind state member own s, or_assoc, List.exists_mem_cons_iff]

end

/-- A field has members exactly if one of its selections holds one. -/
theorem expand_ne_nil_iff {schema : Schema} {info : FieldInfo} {set : SelectionSet}
    (hset : info.set = some set) (habstract : schema.Finds info.namedType)
    (hkind : info.namedType.isObject = false) :
    (expand schema info).value ≠ [] ↔
      ∃ s ∈ set.selections, ∃ member own, HoldsMember schema info.namedType s member own := by
  have hsplit := mem_splitList habstract hkind ⟨[], []⟩
  simp only [expand, hset, Logged.value_bind, Logged.value_pure, ne_eq, List.map_eq_nil_iff]
  constructor
  · intro hne
    obtain ⟨⟨member, own⟩, hmem⟩ := List.exists_mem_of_ne_nil _ hne
    rcases (hsplit member own set.selections).1 hmem with hnone | ⟨s, hs, hholds⟩
    · cases hnone
    · exact ⟨s, hs, member, own, hholds⟩
  · rintro ⟨s, hs, member, own, hholds⟩
    exact List.ne_nil_of_mem ((hsplit member own set.selections).2 (.inr ⟨s, hs, hholds⟩))

end MemberSelection

namespace Analysis

theorem hasMemberCondition_iff {schema : Schema} {abstract : TypeDef} {set : SelectionSet} :
    hasMemberCondition schema abstract (some set) = true ↔
      ∃ s ∈ set.selections, ∃ member own, NamesMember schema abstract s member own := by
  simp only [hasMemberCondition, Option.map_some, Option.getD_some, List.any_eq_true]
  refine exists_congr fun s => and_congr_right fun _ => ⟨fun h => ?_, ?_⟩
  · cases s with
    | inline condition directives own =>
      cases condition with
      | none => cases h
      | some condition =>
        cases hfound : schema.type? condition with
        | none => simp [hfound] at h
        | some member =>
          exact ⟨member, own, condition, directives, rfl, hfound, by simpa [hfound] using h⟩
    | _ => cases h
  · rintro ⟨member, own, condition, directives, rfl, hfound, hmember⟩
    simp [hfound, hmember]

/-- **Splitting interfaces.** With the option to split, a field of an interface type that is treated
as a union has members. That it is treated as a union exactly when it has members holds under this
proviso and no weaker one: if any of its selections holds a fragment on a member, then one of them is
such a fragment. -/
theorem split_iff_members_iff {schema : Schema} {owner : TypeDef} {selected : Option SelectionSet}
    {analysis : Analysis} {info : FieldInfo} {set : SelectionSet}
    (hanalysis : (ofSet schema true owner selected).result = .ok analysis)
    (hinfo : info ∈ analysis.fields) (hkind : info.kind = .interface) (hset : info.set = some set)
    (hselects : hasSelections info.set = true) :
    (info.category = .union → (MemberSelection.expand schema info).value ≠ []) ∧
    ((info.category = .union ↔ (MemberSelection.expand schema info).value ≠ []) ↔
      ((∃ s ∈ set.selections, ∃ member own, HoldsMember schema info.namedType s member own) →
        ∃ s ∈ set.selections, ∃ member own, NamesMember schema info.namedType s member own)) := by
  have hfield := fieldOf_of_mem_fields hanalysis hinfo
  have hobject : info.namedType.isObject = false := by
    simp [TypeDef.isObject, hfield.kind, hkind]
  have hunion : info.category = .union ↔
      ∃ s ∈ set.selections, ∃ member own, NamesMember schema info.namedType s member own := by
    rw [← hasMemberCondition_iff, ← hset, hfield.category]
    simp [categorize, hkind, hselects, TypeKind.isLeaf]
  have hholds : (∃ s ∈ set.selections, ∃ member own,
        NamesMember schema info.namedType s member own) →
      ∃ s ∈ set.selections, ∃ member own, HoldsMember schema info.namedType s member own := by
    rintro ⟨s, hs, member, own, hnames⟩
    exact ⟨s, hs, member, own, .named hnames⟩
  rw [hunion, MemberSelection.expand_ne_nil_iff hset hfield.finds hobject]
  exact ⟨hholds, fun hiff => hiff.2, fun hnamed => ⟨hholds, hnamed⟩⟩

end Analysis

namespace Animals

def query : TypeDef := ⟨"Query", [], .object [] [⟨"pet", [], .named "Animal", []⟩]⟩

/-- Dogs are the only animals. -/
def schema : Schema where
  types :=
    [query,
      ⟨"Animal", [], .interface [] [⟨"name", [], .named "String", []⟩]⟩,
      ⟨"Dog", [], .object ["Animal"]
        [⟨"name", [], .named "String", []⟩, ⟨"barks", [], .named "Boolean", []⟩]⟩,
      ⟨"String", [], .scalar⟩,
      ⟨"Boolean", [], .scalar⟩]
  directives := []
  query := some "Query"
  mutation := none
  subscription := none

/-- Whether dogs bark. -/
def barks : Selection := .inline (some "Dog") [] [.leaf ⟨none, "barks", [], []⟩]

/-- The same in a fragment on all animals. -/
def fragments : FragmentTable := [⟨"Parts", "Animal", [], [barks]⟩]

/-- A pet with something selected on it. -/
def pet (inside : Selection) : Option SelectionSet :=
  some ⟨none, (Selection.resolve fragments 3 [.branch ⟨none, "pet", [], []⟩ none [inside]]).value⟩

/-- An analysis of one field that passes a check. -/
theorem exists_info (inside : Selection) (check : FieldInfo → Bool)
    (h : (Analysis.ofSet schema true query (pet inside)).result.toOption.any
      (fun analysis => analysis.fields.any check) = true) :
    ∃ analysis info, (Analysis.ofSet schema true query (pet inside)).result = .ok analysis ∧
      info ∈ analysis.fields ∧ check info = true := by
  cases hresult : (Analysis.ofSet schema true query (pet inside)).result with
  | error fault =>
    rw [hresult] at h
    cases h
  | ok analysis =>
    rw [hresult] at h
    obtain ⟨info, hinfo, hcheck⟩ := List.any_eq_true.1 h
    exact ⟨analysis, info, rfl, hinfo, hcheck⟩

end Animals

theorem split_iff_members_dog : ∃ analysis info,
    (Analysis.ofSet Animals.schema true Animals.query (Animals.pet Animals.barks)).result =
      .ok analysis ∧ info ∈ analysis.fields ∧ info.kind = .interface ∧
    hasSelections info.set = true ∧ info.category = .union ∧
    (MemberSelection.expand Animals.schema info).value ≠ [] := by
  obtain ⟨analysis, info, hresult, hinfo, hcheck⟩ := Animals.exists_info Animals.barks
    (fun info => info.kind == .interface && hasSelections info.set && info.category == .union)
    (by decide +kernel)
  simp only [Bool.and_eq_true, beq_iff_eq] at hcheck
  obtain ⟨⟨hkind, hselects⟩, hunion⟩ := hcheck
  cases hset : info.set with
  | none => simp [hset, hasSelections] at hselects
  | some set =>
    have hmembers := (Analysis.split_iff_members_iff hresult hinfo hkind hset hselects).1 hunion
    exact ⟨analysis, info, hresult, hinfo, hkind, hset ▸ hselects, hunion, hmembers⟩

/-- A member that is named in a fragment on the interface is found, yet the field is not split. -/
theorem member_in_fragment_not_split : Animals.schema.issues = [] ∧ ∃ analysis info,
    (Analysis.ofSet Animals.schema true Animals.query (Animals.pet (.spread "Parts" []))).result =
      .ok analysis ∧ info ∈ analysis.fields ∧ info.kind = .interface ∧
    hasSelections info.set = true ∧ info.category = .object ∧
    ((MemberSelection.expand Animals.schema info).value.map fun m => m.member.name) = ["Dog"] := by
  refine ⟨List.isEmpty_iff.1 (by decide +kernel), ?_⟩
  obtain ⟨analysis, info, hresult, hinfo, hcheck⟩ := Animals.exists_info (.spread "Parts" [])
    (fun info => info.kind == .interface && hasSelections info.set && info.category == .object &&
      ((MemberSelection.expand Animals.schema info).value.map fun m => m.member.name) == ["Dog"])
    (by decide +kernel)
  simp only [Bool.and_eq_true, beq_iff_eq] at hcheck
  obtain ⟨⟨⟨hkind, hselects⟩, hobject⟩, hmembers⟩ := hcheck
  exact ⟨analysis, info, hresult, hinfo, hkind, hselects, hobject, hmembers⟩

end OperationSamples
