import OperationSamples.Proofs.MemberConditions
import OperationSamples.Proofs.ValidSchema

/-!
What is lost when an interface is split by member.

A field of an interface type can be analysed as a whole, with everything that its fragments add
folded into the interface, or split into one selection set for each fragment on a member. Splitting
looks at what stands outside of conditions (`Outside`), where fragments without condition and those
on the interface itself do not count: fields there go to every member, fragments on members give the
members, and fragments on other interfaces are dropped with a warning.

So a response key of the whole is found again in one of the members exactly when a field outside of
conditions, or one in the fragment of the member, gives it to the member; other keys come from
fragments on other interfaces alone (`split_keeps_key_iff`). This is said of keys that stand for one
field only: where a key is used for fields with different names, the first of them decides.
-/

namespace OperationSamples

/-! ### Outside of conditions -/

/-- Whether a fragment does not count as a condition on an abstract type: it has none, or is on the
type itself. -/
def Transparent (abstract : TypeDef) (s : Selection) : Prop :=
  ∃ condition directives selections, s = .inline condition directives selections ∧
    (condition = none ∨ condition = some abstract.name)

/-- Whether a selection is another, or holds it inside transparent fragments. -/
inductive Holds (abstract : TypeDef) : Selection → Selection → Prop
  | self {s : Selection} : Holds abstract s s
  | inside {condition : Option String} {directives : List Directive} {selections : List Selection}
      {s t : Selection} (hcondition : condition = none ∨ condition = some abstract.name)
      (hs : s ∈ selections) (h : Holds abstract s t) :
      Holds abstract (.inline condition directives selections) t

/-- Whether a selection stands outside of conditions in some selections on an abstract type. -/
def Outside (abstract : TypeDef) (selections : List Selection) (t : Selection) : Prop :=
  ∃ s ∈ selections, Holds abstract s t

/-- Whether a selection is a fragment on an interface other than an abstract type. -/
def NamesOther (schema : Schema) (abstract : TypeDef) (s : Selection) : Prop :=
  ∃ condition directives selections interface, s = .inline (some condition) directives selections ∧
    schema.type? condition = some interface ∧ interface.isInterface = true ∧
    condition ≠ abstract.name

section Holds

variable {schema : Schema} {abstract : TypeDef} {s t f : Selection} {selections : List Selection}

theorem holds_field (h : s.head?.isSome) : Holds abstract s t ↔ t = s := by
  constructor
  · intro hholds
    cases hholds with
    | self => rfl
    | inside => cases h
  · rintro rfl
    exact .self

theorem holds_inline {condition : Option String} {directives : List Directive}
    (hf : f.head?.isSome) (hcondition : condition = none ∨ condition = some abstract.name) :
    Holds abstract (.inline condition directives selections) f ↔ Outside abstract selections f := by
  constructor
  · intro hholds
    cases hholds with
    | self => cases hf
    | inside _ hs hholds => exact ⟨_, hs, hholds⟩
  · rintro ⟨s, hs, hholds⟩
    exact .inside hcondition hs hholds

theorem not_holds_inline {condition : String} {directives : List Directive}
    (hf : f.head?.isSome) (hcondition : condition ≠ abstract.name) :
    ¬ Holds abstract (.inline (some condition) directives selections) f := by
  intro hholds
  cases hholds with
  | self => cases hf
  | inside htransparent => simp [hcondition] at htransparent

/-- The members that a selection holds are those of the fragments that it holds. -/
theorem holdsMember_iff {member : TypeDef} {own : List Selection} :
    HoldsMember schema abstract s member own ↔
      ∃ t, Holds abstract s t ∧ NamesMember schema abstract t member own := by
  constructor
  · intro h
    induction h with
    | named h => exact ⟨_, .self, h⟩
    | inside hcondition hs _ ih =>
      obtain ⟨t, hholds, hnames⟩ := ih
      exact ⟨t, .inside hcondition hs hholds, hnames⟩
  · rintro ⟨t, hholds, hnames⟩
    induction hholds with
    | self => exact .named hnames
    | inside hcondition hs _ ih => exact .inside hcondition hs (ih hnames)

end Holds

namespace MemberSelection

mutual

/-- What splitting one selection adds to the common part: the fields outside of conditions. -/
theorem mem_common_split {schema : Schema} {abstract : TypeDef} (state : Split) (f : Selection) :
    ∀ s : Selection, f ∈ (split schema abstract state s).value.common ↔
      f ∈ state.common ∨ f.head?.isSome ∧ Holds abstract s f
  | .leaf head => by
    rw [split, Logged.value_pure, List.mem_append, List.mem_singleton, holds_field rfl]
    exact or_congr_right ⟨fun h => ⟨h ▸ rfl, h⟩, And.right⟩
  | .branch head mark selections => by
    rw [split, Logged.value_pure, List.mem_append, List.mem_singleton, holds_field rfl]
    exact or_congr_right ⟨fun h => ⟨h ▸ rfl, h⟩, And.right⟩
  | .spread name directives => by
    refine ⟨.inl, fun h => h.elim id ?_⟩
    rintro ⟨hf, hholds⟩
    cases hholds
    cases hf
  | .inline none directives selections => by
    rw [split, mem_common_splitList state f selections]
    exact or_congr_right (and_congr_right fun hf => (holds_inline hf (.inl rfl)).symm)
  | .inline (some condition) directives selections => by
    by_cases hname : condition = abstract.name
    · subst hname
      rw [split, if_pos (by simp), mem_common_splitList state f selections]
      exact or_congr_right (and_congr_right fun hf => (holds_inline hf (.inr rfl)).symm)
    · have hcommon : (split schema abstract state
          (.inline (some condition) directives selections)).value.common = state.common := by
        rw [split, if_neg (by simpa using hname)]
        split
        · rfl
        · split <;> rfl
      rw [hcommon]
      refine ⟨.inl, fun h => h.elim id fun hother => ?_⟩
      exact absurd hother.2 (not_holds_inline hother.1 hname)

theorem mem_common_splitList {schema : Schema} {abstract : TypeDef} (state : Split)
    (f : Selection) :
    ∀ selections : List Selection, f ∈ (splitList schema abstract state selections).value.common ↔
      f ∈ state.common ∨ f.head?.isSome ∧ Outside abstract selections f
  | [] => by simp [splitList, Outside]
  | s :: rest => by
    rw [splitList, Logged.value_bind, mem_common_splitList _ f rest, mem_common_split state f s,
      or_assoc, ← and_or_left, Outside, Outside, List.exists_mem_cons_iff]

end

end MemberSelection

namespace Analysis

variable {schema : Schema} {abstract : TypeDef} {selections : List Selection} {key : String}

/-! ### Merging -/

/-- Whether all fields among some selections that have a response key have the same name. -/
def KeyNamesField (key : String) (among : Selection → Prop) : Prop :=
  ∀ f g, among f → among g → ∀ a b, f.head? = some a → g.head? = some b →
    a.responseKey = key → b.responseKey = key → a.name = b.name

/-- Merging keeps what selections yield under a key that stands for one field. -/
theorem someYields_merge {current : TypeDef} (hnames : KeyNamesField key (· ∈ selections)) :
    SomeYields schema current (Selection.merge selections) key ↔
      SomeYields schema current selections key := by
  rw [someYields_iff_exists, someYields_iff_exists]
  constructor
  · rintro ⟨s, hs, hyields⟩
    cases hhead : s.head? with
    | none => exact ⟨s, (Selection.mem_merge_fragment hhead).1 hs, hyields⟩
    | some head =>
      have hmerged := Selection.mergedFrom_of_mem_merge hs (Selection.responseKey?_eq_some hhead)
      obtain ⟨g, hg, hsame⟩ := hmerged.head
      refine ⟨g, (Selection.mem_withKey.1 hg).1, ?_⟩
      rwa [someYields_field (hsame.trans hhead), ← someYields_field hhead]
  · rintro ⟨s, hs, hyields⟩
    cases hhead : s.head? with
    | none => exact ⟨s, (Selection.mem_merge_fragment hhead).2 hs, hyields⟩
    | some head =>
      obtain ⟨rfl, hname, hexists⟩ := (someYields_field hhead).1 hyields
      obtain ⟨f, hf, hkey⟩ := Selection.exists_mem_merge hs (Selection.responseKey?_eq_some hhead)
      -- the merged field has the head of a namesake, which is a field of the same name
      obtain ⟨g, hg, hsame⟩ := (Selection.mergedFrom_of_mem_merge hf hkey).head
      obtain ⟨hmem, hgkey⟩ := Selection.mem_withKey.1 hg
      obtain ⟨other, hother, hotherKey⟩ : ∃ other, g.head? = some other ∧
          other.responseKey = head.responseKey := by
        simpa [Selection.responseKey?] using hgkey
      have heq := hnames g s hmem hs other head hother hhead hotherKey rfl
      refine ⟨f, hf, (someYields_field (hsame.symm.trans hother)).2 ⟨hotherKey, ?_, ?_⟩⟩
      · rw [heq]
        exact hname
      · rw [heq]
        exact hexists

/-! ### The whole -/

theorem conditionTarget_of_transparent {condition : Option String}
    (h : condition = none ∨ condition = some abstract.name) :
    (conditionTarget schema abstract condition).value = some abstract := by
  rcases h with rfl | rfl
  · rfl
  · rw [conditionTarget, if_pos (by simp)]
    rfl

theorem SomeYields.of_holds {s t : Selection} (hholds : Holds abstract s t)
    (h : SomeYields schema abstract [t] key) : SomeYields schema abstract [s] key := by
  induction hholds with
  | self => exact h
  | inside hcondition hs _ ih =>
    rw [someYields_inline (conditionTarget_of_transparent hcondition), someYields_iff_exists]
    exact ⟨_, hs, ih h⟩

theorem Yields.exists_held {current : TypeDef} {s : Selection} {type : TypeRef}
    (h : Yields schema current s key type) :
    ∃ t, Holds current s t ∧ ¬ Transparent current t ∧ SomeYields schema current [t] key := by
  induction h with
  | @field current s head type hhead hname htype =>
    refine ⟨s, .self, ?_, s, List.mem_singleton_self s, type, .field hhead hname htype⟩
    rintro ⟨condition, directives, selections, rfl, -⟩
    cases hhead
  | @inline current target condition directives inside s key type htarget hs h ih =>
    by_cases hcondition : condition = none ∨ condition = some current.name
    · -- the fragment stays on the type
      obtain rfl : target = current :=
        Option.some.inj (htarget.symm.trans (conditionTarget_of_transparent hcondition))
      obtain ⟨t, hholds, hrest⟩ := ih
      exact ⟨t, .inside hcondition hs hholds, hrest⟩
    · refine ⟨_, .self, ?_, _, List.mem_singleton_self _, type, .inline htarget hs h⟩
      rintro ⟨_, _, _, hsame, htransparent⟩
      cases hsame
      exact hcondition htransparent

/-- What selections on an abstract type yield is yielded outside of conditions. -/
theorem someYields_iff_outside : SomeYields schema abstract selections key ↔
    ∃ t, Outside abstract selections t ∧ ¬ Transparent abstract t ∧
      SomeYields schema abstract [t] key := by
  constructor
  · rintro ⟨s, hs, type, hyields⟩
    obtain ⟨t, hholds, hrest⟩ := hyields.exists_held
    exact ⟨t, ⟨s, hs, hholds⟩, hrest⟩
  · rintro ⟨t, ⟨s, hs, hholds⟩, -, hyields⟩
    exact someYields_iff_exists.2 ⟨s, hs, hyields.of_holds hholds⟩

theorem isMember_iff {candidate : TypeDef} (hinterface : abstract.isInterface) :
    Schema.isMember abstract candidate = true ↔
      candidate.isObject = true ∧ candidate.Declares abstract := by
  rw [← Schema.isInterface_and_isSubType, Schema.isMember, TypeDef.isAbstract, hinterface]
  simp

/-- What a selection yields on an interface, unless it is a fragment that does not count: it is a
field of the interface, or a fragment on a member or on another interface. -/
theorem someYields_cases {t : Selection} (hinterface : abstract.isInterface)
    (ht : ¬ Transparent abstract t) (h : SomeYields schema abstract [t] key) :
    IsFieldOf abstract key t ∨
      (∃ member own, NamesMember schema abstract t member own ∧ SomeYields schema member own key) ∨
      NamesOther schema abstract t := by
  obtain ⟨s, hs, type, hyields⟩ := h
  obtain rfl := List.mem_singleton.1 hs
  cases hyields with
  | @field _ _ head _ hhead hname htype =>
    exact .inl ⟨head, hhead, rfl, hname, by simp [htype]⟩
  | @inline _ target condition directives inside s _ _ htarget hmem hyields =>
    refine .inr ?_
    cases condition with
    | none => exact absurd ⟨_, _, _, rfl, .inl rfl⟩ ht
    | some condition =>
      have hother : condition ≠ abstract.name := by
        rintro rfl
        exact ht ⟨_, _, _, rfl, .inr rfl⟩
      cases hfound : schema.type? condition with
      | none =>
        rw [conditionTarget, if_neg (by simpa using hother)] at htarget
        simp only [hfound] at htarget
        cases htarget
      | some candidate =>
        have hnamed : candidate.isInterface →
            NamesOther schema abstract (.inline (some condition) directives inside) :=
          fun hkind => ⟨condition, directives, inside, candidate, rfl, hfound, hkind, hother⟩
        obtain rfl : candidate.name = condition := by simpa using List.find?_some hfound
        rcases conditionTarget_cases abstract (Schema.finds_of_type? hfound) with
          ⟨hsame | hdeclared, -⟩ | ⟨himplements, heq⟩ | ⟨-, -, -, heq⟩
        · exact absurd hsame hother
        · exact .inr (hnamed hdeclared.1)
        · rw [heq] at htarget
          cases htarget
          rcases TypeDef.isComposite_iff.1
            (TypeDef.isComposite_of_mem_interfaces himplements.2) with hobject | hkind
          · have hmember := (isMember_iff hinterface).2 ⟨hobject, himplements⟩
            exact .inl ⟨_, inside, ⟨_, directives, rfl, hfound, hmember⟩, s, hmem, type, hyields⟩
          · exact .inr (hnamed hkind)
        · rw [heq] at htarget
          cases htarget

end Analysis

/-! ### The parts -/

namespace MemberSelection

open Analysis

variable {schema : Schema} {info : FieldInfo} {set : SelectionSet}

/-- A member has what stands outside of conditions and what its own fragment holds. -/
theorem exists_of_mem_expand (hset : info.set = some set) (hfinds : schema.Finds info.namedType)
    (hkind : info.namedType.isObject = false) :
    ∃ common, (∀ f, f ∈ common ↔
        f.head?.isSome ∧ Outside info.namedType set.selections f) ∧
      ∀ m, m ∈ (expand schema info).value ↔ ∃ t own,
        Outside info.namedType set.selections t ∧
        NamesMember schema info.namedType t m.member own ∧
        m.selections = Selection.merge (common ++ own) := by
  refine ⟨(splitList schema info.namedType ⟨[], []⟩ set.selections).value.common, fun f => ?_,
    fun m => ?_⟩
  · rw [mem_common_splitList]
    simp
  · simp only [expand, hset, Logged.value_bind, Logged.value_pure, List.mem_map, Prod.exists,
      mem_splitList hfinds hkind, holdsMember_iff, List.not_mem_nil, false_or]
    constructor
    · rintro ⟨member, own, ⟨s, hs, t, hholds, hnames⟩, rfl⟩
      exact ⟨t, own, ⟨s, hs, hholds⟩, hnames, rfl⟩
    · obtain ⟨member, selections⟩ := m
      rintro ⟨t, own, ⟨s, hs, hholds⟩, hnames, rfl⟩
      exact ⟨member, own, ⟨s, hs, t, hholds, hnames⟩, rfl⟩

end MemberSelection

namespace Analysis

/-- Whether a response key is given to a member of an abstract type: by a field outside of
conditions, or by the fragment on the member. -/
def GivenToMember (schema : Schema) (abstract : TypeDef) (selections : List Selection)
    (key : String) : Prop :=
  ∃ t member own, Outside abstract selections t ∧ NamesMember schema abstract t member own ∧
    ((∃ f, Outside abstract selections f ∧ IsFieldOf member key f) ∨
      SomeYields schema member own key)

/-- Whether a response key is given by a fragment on another interface. -/
def GivenByOther (schema : Schema) (abstract : TypeDef) (selections : List Selection)
    (key : String) : Prop :=
  ∃ t, Outside abstract selections t ∧ NamesOther schema abstract t ∧
    SomeYields schema abstract [t] key

section Given

variable {schema : Schema} {abstract member : TypeDef} {selections own : List Selection}
  {key : String} {t : Selection}

theorem finds_of_namesMember (h : NamesMember schema abstract t member own) :
    schema.Finds member ∧ member.isObject = true := by
  obtain ⟨condition, directives, -, hfound, hmember⟩ := h
  simp only [Schema.isMember, Bool.and_eq_true] at hmember
  exact ⟨Schema.finds_of_type? hfound, hmember.1.2⟩

/-- What the merged selections of a member yield. -/
theorem someYields_merge_iff {common : List Selection}
    (hcommon : ∀ f, f ∈ common ↔ f.head?.isSome ∧ Outside abstract selections f)
    (hnames : KeyNamesField key fun f => Outside abstract selections f ∨ f ∈ own) :
    SomeYields schema member (Selection.merge (common ++ own)) key ↔
      (∃ f, Outside abstract selections f ∧ IsFieldOf member key f) ∨
        SomeYields schema member own key := by
  have hamong : ∀ f ∈ common ++ own, Outside abstract selections f ∨ f ∈ own := fun f hf =>
    (List.mem_append.1 hf).imp_left fun hf => ((hcommon f).1 hf).2
  rw [someYields_merge fun f g hf hg => hnames f g (hamong f hf) (hamong g hg), someYields_append]
  refine or_congr_left ?_
  rw [someYields_iff_exists]
  constructor
  · rintro ⟨f, hf, hyields⟩
    obtain ⟨hfield, houtside⟩ := (hcommon f).1 hf
    obtain ⟨head, hhead⟩ := Option.isSome_iff_exists.1 hfield
    exact ⟨f, houtside, head, hhead, (someYields_field hhead).1 hyields⟩
  · rintro ⟨f, houtside, head, hhead, hfield⟩
    exact ⟨f, (hcommon f).2 ⟨by simp [hhead], houtside⟩, (someYields_field hhead).2 hfield⟩

/-- What an interface yields is given to one of its members, if there are any, or by a fragment on
another interface. -/
theorem given_of_someYields (hvalid : schema.issues = []) (hfinds : schema.Finds abstract)
    (hinterface : abstract.isInterface) (ht : Outside abstract selections t)
    (hmember : NamesMember schema abstract t member own)
    (h : SomeYields schema abstract selections key) :
    GivenToMember schema abstract selections key ∨ GivenByOther schema abstract selections key := by
  obtain ⟨s, hs, htransparent, hyields⟩ := someYields_iff_outside.1 h
  rcases someYields_cases hinterface htransparent hyields with
    hfield | ⟨other, inside, hnames, hinside⟩ | hother
  · -- every member has the fields of the interface
    obtain ⟨head, hhead, hkey, hname, hexists⟩ := hfield
    have hdeclares : member.Declares abstract := by
      obtain ⟨-, -, -, -, htest⟩ := hmember
      exact ((isMember_iff hinterface).1 htest).2
    have hown := Schema.fieldType?_isSome_of_declares hvalid (finds_of_namesMember hmember).1 hfinds
      hdeclares hexists
    exact .inl ⟨t, member, own, ht, hmember, .inl ⟨s, hs, head, hhead, hkey, hname, hown⟩⟩
  · exact .inl ⟨s, other, inside, hs, hnames, .inr hinside⟩
  · exact .inr ⟨s, hs, hother, hyields⟩

end Given

/-- **Splitting keeps keys.** Take a valid schema, and a field of an interface type whose selections
have members. The whole and every member have an analysis. A response key of the whole is given to a
member, by a field outside of conditions or by the fragment on the member, or it is given by a
fragment on another interface. If it does not stand for fields with different names, outside of
conditions and in the fragments on members, then it is found in the analysis of some member exactly
if it is given to a member. -/
theorem split_keeps_key_iff {schema : Schema} {info : FieldInfo} {set : SelectionSet}
    (hvalid : schema.issues = []) (hfinds : schema.Finds info.namedType)
    (hinterface : info.namedType.isInterface) (hset : info.set = some set)
    (hmembers : (MemberSelection.expand schema info).value ≠ []) (split : Bool) :
    ∃ whole, (ofSet schema split info.namedType info.set).result = .ok whole ∧
      (∀ m ∈ (MemberSelection.expand schema info).value, ∃ part,
        (ofSet schema split m.member (some ⟨none, m.selections⟩)).result = .ok part) ∧
      ∀ key ∈ whole.fields.map FieldInfo.responseKey,
        (GivenToMember schema info.namedType set.selections key ∨
          GivenByOther schema info.namedType set.selections key) ∧
        ((∀ t member own, Outside info.namedType set.selections t →
            NamesMember schema info.namedType t member own →
              KeyNamesField key fun f => Outside info.namedType set.selections f ∨ f ∈ own) →
          ((∃ m ∈ (MemberSelection.expand schema info).value, ∃ part,
              (ofSet schema split m.member (some ⟨none, m.selections⟩)).result = .ok part ∧
                key ∈ part.fields.map FieldInfo.responseKey) ↔
            GivenToMember schema info.namedType set.selections key)) := by
  have hkind : info.namedType.isObject = false := by
    cases hobject : info.namedType.isObject with
    | false => rfl
    | true =>
      rw [TypeDef.not_isInterface_of_isObject hobject] at hinterface
      cases hinterface
  obtain ⟨common, hcommon, hexpand⟩ := MemberSelection.exists_of_mem_expand hset hfinds hkind
  have hpart : ∀ m ∈ (MemberSelection.expand schema info).value, ∃ part,
      (ofSet schema split m.member (some ⟨none, m.selections⟩)).result = .ok part ∧
        ∀ key, key ∈ part.fields.map FieldInfo.responseKey ↔
          SomeYields schema m.member m.selections key := by
    intro m hm
    obtain ⟨t, own, -, hnames, -⟩ := (hexpand m).1 hm
    obtain ⟨hfound, hobject⟩ := finds_of_namesMember hnames
    exact exists_of_valid hvalid hfound (TypeDef.isComposite_iff.2 (.inl hobject)) split _
  obtain ⟨whole, hwhole, hkeys⟩ := exists_of_valid hvalid hfinds
    (TypeDef.isComposite_iff.2 (.inr hinterface)) split set
  obtain ⟨first, hfirst⟩ := List.exists_mem_of_ne_nil _ hmembers
  obtain ⟨t, own, ht, hmember, -⟩ := (hexpand first).1 hfirst
  refine ⟨whole, hset ▸ hwhole, fun m hm => ?_, fun key hkey => ⟨?_, fun hnames => ?_⟩⟩
  · obtain ⟨part, hresult, -⟩ := hpart m hm
    exact ⟨part, hresult⟩
  · exact given_of_someYields hvalid hfinds hinterface ht hmember ((hkeys key).1 hkey)
  · constructor
    · rintro ⟨m, hm, part, hresult, hfound⟩
      obtain ⟨other, hother, hothers⟩ := hpart m hm
      obtain rfl : part = other := Except.ok.inj (hresult.symm.trans hother)
      obtain ⟨t, own, ht, hmember, hselections⟩ := (hexpand m).1 hm
      rw [hothers, hselections,
        someYields_merge_iff hcommon (hnames t m.member own ht hmember)] at hfound
      exact ⟨t, m.member, own, ht, hmember, hfound⟩
    · rintro ⟨t, member, own, ht, hmember, hgiven⟩
      let m : MemberSelection := ⟨member, Selection.merge (common ++ own)⟩
      have hm : m ∈ (MemberSelection.expand schema info).value :=
        (hexpand m).2 ⟨t, own, ht, hmember, rfl⟩
      obtain ⟨part, hresult, hfound⟩ := hpart m hm
      refine ⟨m, hm, part, hresult, (hfound key).2 ?_⟩
      exact (someYields_merge_iff hcommon (hnames t member own ht hmember)).2 hgiven

end Analysis

namespace Nodes

/-- Animals are nodes. -/
def animal : TypeDef := ⟨"Animal", [], .interface ["Node"]
  [⟨"id", [], .named "ID", []⟩, ⟨"name", [], .named "String", []⟩]⟩

def dog : TypeDef := ⟨"Dog", [], .object ["Node", "Animal"]
  [⟨"id", [], .named "ID", []⟩, ⟨"name", [], .named "String", []⟩,
    ⟨"barks", [], .named "Boolean", []⟩]⟩

def schema : Schema where
  types :=
    [⟨"Query", [], .object [] [⟨"pet", [], .named "Animal", []⟩]⟩,
      ⟨"Node", [], .interface [] [⟨"id", [], .named "ID", []⟩]⟩,
      animal,
      dog,
      ⟨"ID", [], .scalar⟩,
      ⟨"String", [], .scalar⟩,
      ⟨"Boolean", [], .scalar⟩]
  directives := []
  query := some "Query"
  mutation := none
  subscription := none

def leaf (name : String) : Selection := .leaf ⟨none, name, [], []⟩

/-- A pet with some selections on it. -/
def pet (selections : List Selection) : FieldInfo :=
  ⟨"pet", "pet", .named "Animal", animal, .interface, .union, some ⟨none, selections⟩⟩

/-- What is selected on dogs. -/
def onDogs (selections : List Selection) : Selection := .inline (some "Dog") [] selections

/-- The name of every animal, and whether dogs bark. -/
def barking : List Selection := [leaf "name", onDogs [leaf "barks"]]

/-- Whether dogs bark, and the number of every node. -/
def numbered : List Selection :=
  (Selection.resolve [] 3 [.inline (some "Node") [] [leaf "id"], onDogs [leaf "barks"]]).value

/-- The names of dogs, and a field that does not exist under the same key. -/
def misnamed : List Selection :=
  (Selection.resolve [] 3 [.leaf ⟨some "name", "sound", [], []⟩, onDogs [leaf "name"]]).value

/-- The response keys that some selections have on a type. -/
def keys (owner : TypeDef) (selections : List Selection) : Option (List String) :=
  (Analysis.ofSet schema true owner (some ⟨none, selections⟩)).result.toOption.map fun analysis =>
    analysis.fields.map FieldInfo.responseKey

/-- The members that some selections on a pet have, with their response keys. -/
def memberKeys (selections : List Selection) : List (String × Option (List String)) :=
  (MemberSelection.expand schema (pet selections)).value.map fun m =>
    (m.member.name, keys m.member m.selections)

theorem outside_barking {t : Selection} (h : Outside animal barking t) :
    t = leaf "name" ∨ t = onDogs [leaf "barks"] := by
  obtain ⟨s, hs, hholds⟩ := h
  rcases List.mem_cons.1 hs with rfl | hs
  · exact .inl ((holds_field rfl).1 hholds)
  · obtain rfl := List.mem_singleton.1 hs
    cases hholds with
    | self => exact .inr rfl
    | inside hcondition => exact absurd hcondition (by decide)

/-- No other field has the response key of the barking. -/
theorem keyNamesField_barks {t : Selection} {member : TypeDef} {own : List Selection}
    (ht : Outside animal barking t) (h : NamesMember schema animal t member own) :
    Analysis.KeyNamesField "barks" fun f => Outside animal barking f ∨ f ∈ own := by
  have hown : own = [leaf "barks"] := by
    obtain ⟨condition, directives, rfl, -⟩ := h
    rcases outside_barking ht with heq | heq
    · cases heq
    · cases heq
      rfl
  have hname : ∀ f, Outside animal barking f ∨ f ∈ own → ∀ head, f.head? = some head →
      head.responseKey = "barks" → head.name = "barks" := by
    rintro f (houtside | hf) head hhead hkey
    · rcases outside_barking houtside with rfl | rfl
      · cases hhead
        exact absurd hkey (by decide)
      · cases hhead
    · rw [hown] at hf
      obtain rfl := List.mem_singleton.1 hf
      cases hhead
      rfl
  intro f g hf hg a b ha hb hakey hbkey
  rw [hname f hf a ha hakey, hname g hg b hb hbkey]

end Nodes

theorem split_keeps_key_barks : Nodes.schema.issues = [] ∧ Nodes.animal.isInterface ∧
    ∃ m ∈ (MemberSelection.expand Nodes.schema (Nodes.pet Nodes.barking)).value, ∃ part,
      (Analysis.ofSet Nodes.schema true m.member (some ⟨none, m.selections⟩)).result = .ok part ∧
        "barks" ∈ part.fields.map FieldInfo.responseKey := by
  have hvalid : Nodes.schema.issues = [] := List.isEmpty_iff.1 (by decide +kernel)
  have hmembers : (MemberSelection.expand Nodes.schema (Nodes.pet Nodes.barking)).value ≠ [] := by
    decide +kernel
  have hkeys : Nodes.keys Nodes.animal Nodes.barking = some ["name", "barks"] := by decide +kernel
  have hfinds : Nodes.schema.Finds (Nodes.pet Nodes.barking).namedType := rfl
  have hinterface : (Nodes.pet Nodes.barking).namedType.isInterface := by decide
  obtain ⟨whole, hwhole, -, hsplit⟩ :=
    Analysis.split_keeps_key_iff hvalid hfinds hinterface rfl hmembers true
  have hwhole : (Analysis.ofSet Nodes.schema true Nodes.animal
      (some ⟨none, Nodes.barking⟩)).result = .ok whole := hwhole
  rw [Nodes.keys, hwhole] at hkeys
  have hnames : whole.fields.map FieldInfo.responseKey = ["name", "barks"] := Option.some.inj hkeys
  have hbarks : "barks" ∈ whole.fields.map FieldInfo.responseKey := by
    rw [hnames]
    decide
  have hgiven : Analysis.GivenToMember Nodes.schema Nodes.animal Nodes.barking "barks" :=
    ⟨Nodes.onDogs [Nodes.leaf "barks"], Nodes.dog, [Nodes.leaf "barks"],
      ⟨_, List.mem_cons_of_mem _ List.mem_cons_self, .self⟩, ⟨"Dog", [], rfl, rfl, by decide⟩,
      .inr ((Analysis.someYields_field rfl).2 ⟨rfl, by decide, by decide⟩)⟩
  exact ⟨hvalid, hinterface, ((hsplit "barks" hbarks).2 fun _ _ _ => Nodes.keyNamesField_barks).2
    hgiven⟩

/-- A key that comes from a fragment on another interface is found in no member. Neither is one that
stands, outside of conditions, for a field that does not exist. -/
theorem split_loses_keys : Nodes.schema.issues = [] ∧
    Nodes.keys Nodes.animal Nodes.numbered = some ["id", "barks"] ∧
    Nodes.memberKeys Nodes.numbered = [("Dog", some ["barks"])] ∧
    Nodes.keys Nodes.animal Nodes.misnamed = some ["name"] ∧
    Nodes.memberKeys Nodes.misnamed = [("Dog", some [])] := by
  refine ⟨List.isEmpty_iff.1 (by decide +kernel), ?_⟩
  decide +kernel

end OperationSamples
