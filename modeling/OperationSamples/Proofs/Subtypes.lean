import OperationSamples.Proofs.ValidSchema

/-!
Types that stand for others.

A selection is written for one type and can be read on another one: on a member of an abstract type,
or on a type that declares the interface that a condition names. The type it is read on is always
within the one it was written for (`TypeDef.Within`). In a valid schema fields keep that relation,
since an implementation may only narrow the type of a field (`Schema.within_of_fieldType?`), and so
do conditions (`Analysis.within_of_targets`).
-/

namespace OperationSamples

variable {schema : Schema}

/-- Whether a type is another one, or declared to be one of its possible types. -/
def TypeDef.Within (t u : TypeDef) : Prop := t = u ∨ Schema.isSubType u t = true

namespace Schema

variable {t u : TypeDef}

theorem within_of_declares (h : t.Declares u) : t.Within u := by
  have hboth := isInterface_and_isSubType.2 h
  rw [Bool.and_eq_true] at hboth
  exact .inr hboth.2

theorem eq_of_within_object (h : t.Within u) (hobject : u.isObject) : t = u := by
  rcases h with heq | hsub
  · exact heq
  · cases hbody : u.body <;> simp_all [isSubType, TypeDef.isObject, TypeDef.kind?]

/-- Within a type that has fields are itself and the types that declare it. -/
theorem eq_or_declares_of_within (h : t.Within u) {name : String}
    (hfield : (u.fieldType? name).isSome) : t = u ∨ t.Declares u := by
  rcases h with heq | hsub
  · exact .inl heq
  · refine .inr (isInterface_and_isSubType.1 ?_)
    rw [hsub, Bool.and_true]
    cases hbody : u.body <;>
      simp_all [isSubType, TypeDef.isInterface, TypeDef.kind?, TypeDef.fieldType?, TypeDef.fields?]

/-- A type of a valid schema declares the interfaces of its interfaces. -/
theorem declares_trans {v : TypeDef} (hvalid : schema.issues = []) (ht : schema.Finds t)
    (hu : schema.Finds u) (htu : t.Declares u) (huv : u.Declares v) : t.Declares v := by
  have hcomposite : t.isComposite := TypeDef.isComposite_of_mem_interfaces htu.2
  have hissues := (ancestorIssues_and_implementedFieldIssues
    (fieldsIssues_and_interfaceIssues hvalid (List.mem_of_find?_eq_some ht) hcomposite).2
    htu.2 hu htu.1).1
  refine ⟨huv.1, ?_⟩
  have hancestor := List.filterMap_eq_nil_iff.1 hissues v.name huv.2
  by_contra hmissing
  rw [if_neg (by simpa using hmissing)] at hancestor
  split at hancestor <;> cases hancestor

/-- The members of a type within an interface are within the interface. -/
theorem within_of_isMember {abstract : TypeDef} (hvalid : schema.issues = [])
    (ht : schema.Finds t) (habstract : schema.Finds abstract) (hmember : isMember abstract t)
    (hwithin : abstract.Within u) {name : String} (hfield : (u.fieldType? name).isSome) :
    t.Within u := by
  simp only [isMember, Bool.and_eq_true] at hmember
  rcases eq_or_declares_of_within hwithin hfield with rfl | hdeclares
  · exact .inr hmember.2
  · -- a type that declares interfaces is no union, so the member declares it
    have hinterface : abstract.isInterface := by
      have hcomposite := TypeDef.isComposite_of_mem_interfaces hdeclares.2
      rcases Bool.or_eq_true _ _ |>.mp hmember.1.1 with hinterface | hunion
      · exact hinterface
      · rw [TypeDef.not_isComposite_of_isUnion hunion] at hcomposite
        cases hcomposite
    have hmemberOf : t.Declares abstract :=
      isInterface_and_isSubType.1 (by rw [hinterface, hmember.2]; rfl)
    exact within_of_declares (declares_trans hvalid ht habstract hmemberOf hdeclares)

/-! ### Fields -/

theorem isCovariant_namedType {sub super : TypeRef} (h : schema.isCovariant sub super = true) :
    sub.namedType = super.namedType ∨ ∃ general special,
      schema.type? super.namedType = some general ∧ schema.type? sub.namedType = some special ∧
        isSubType general special = true := by
  induction sub, super using isCovariant.induct with
  | case1 sub super ih => exact ih (by simpa only [isCovariant] using h)
  | case2 sub super hsub => simp [isCovariant] at h
  | case3 sub super hsuper ih =>
    refine ih ?_
    rwa [isCovariant] at h
    exact hsuper
  | case4 sub super ih => exact ih (by simpa only [isCovariant] using h)
  | case5 => simp [isCovariant] at h
  | case6 => simp [isCovariant] at h
  | case7 sub super =>
    simp only [isCovariant, Bool.or_eq_true, beq_iff_eq] at h
    rcases h with rfl | h
    · exact .inl rfl
    · split at h
      · next general special hgeneral hspecial =>
        simp only [Bool.and_eq_true] at h
        exact .inr ⟨general, special, hgeneral, hspecial, h.2⟩
      · cases h

/-- **Fields of types within others.** A type within another one has types of fields that are within
those of the other. -/
theorem within_of_fieldType? (hvalid : schema.issues = []) (ht : schema.Finds t)
    (hu : schema.Finds u) (hwithin : t.Within u) {name : String} {own other : TypeRef}
    (hown : t.fieldType? name = some own) (hother : u.fieldType? name = some other)
    {named general : TypeDef} (hnamed : schema.type? own.namedType = some named)
    (hgeneral : schema.type? other.namedType = some general) : named.Within general := by
  have hfield : (u.fieldType? name).isSome := by simp [hother]
  rcases eq_or_declares_of_within hwithin hfield with rfl | hdeclares
  · cases hown.symm.trans hother
    exact .inl (Option.some.inj (hnamed.symm.trans hgeneral))
  · have hcomposite : t.isComposite := TypeDef.isComposite_of_mem_interfaces hdeclares.2
    rw [fieldType?_eq_find? (TypeDef.isComposite_iff.2 (.inr hdeclares.1))] at hother
    obtain ⟨expected, hexpected, rfl⟩ := Option.map_eq_some_iff.1 hother
    have hissues := (ancestorIssues_and_implementedFieldIssues
      (fieldsIssues_and_interfaceIssues hvalid (List.mem_of_find?_eq_some ht) hcomposite).2
      hdeclares.2 hu hdeclares.1).2 expected (List.mem_of_find?_eq_some hexpected)
    obtain rfl : expected.name = name := by simpa using List.find?_some hexpected
    rw [fieldType?_eq_find? hcomposite] at hown
    obtain ⟨f, hf, rfl⟩ := Option.map_eq_some_iff.1 hown
    have hcovariant : schema.isCovariant f.type expected.type = true := by
      by_contra hnot
      simp [implementedFieldIssues, hf, hnot] at hissues
    rcases isCovariant_namedType hcovariant with hsame | ⟨_, _, hsuper, hsub, hsubtype⟩
    · rw [hsame, hgeneral] at hnamed
      exact .inl (Option.some.inj hnamed).symm
    · cases hsuper.symm.trans hgeneral
      cases hsub.symm.trans hnamed
      exact .inr hsubtype

/-! ### Conditions -/

/-- The type that a chain of conditions leads to, read from the outside in. -/
def narrowed? (schema : Schema) (t : TypeDef) : List String → Option TypeDef
  | [] => some t
  | condition :: rest => (schema.type? condition).bind fun target => narrowed? schema target rest

theorem finds_of_narrowed? {conditions : List String} (ht : schema.Finds t)
    (h : schema.narrowed? t conditions = some u) : schema.Finds u := by
  induction conditions generalizing t with
  | nil =>
    cases h
    exact ht
  | cons condition rest ih =>
    obtain ⟨target, htarget, hrest⟩ := Option.bind_eq_some_iff.1 h
    exact ih (finds_of_type? htarget) hrest

/-- What stands before a condition makes no difference to where it leads. -/
theorem narrowed?_append {condition : String} {outer inner : List String}
    (h : schema.narrowed? t (outer ++ condition :: inner) = some u) :
    ∃ target, schema.type? condition = some target ∧ schema.narrowed? target inner = some u := by
  induction outer generalizing t with
  | nil => exact Option.bind_eq_some_iff.1 h
  | cons first rest ih =>
    obtain ⟨target, -, hrest⟩ := Option.bind_eq_some_iff.1 h
    exact ih hrest

/-- Conditions on one type lead to this type, or there are none. -/
theorem narrowed?_of_all_eq {conditions : List String} {own : TypeDef} (hown : schema.Finds own)
    (hall : ∀ condition ∈ conditions, condition = own.name)
    (h : schema.narrowed? t conditions = some u) : u = t ∨ u = own := by
  induction conditions generalizing t with
  | nil => exact .inl (Option.some.inj h).symm
  | cons condition rest ih =>
    obtain ⟨target, htarget, hrest⟩ := Option.bind_eq_some_iff.1 h
    obtain ⟨rfl, hothers⟩ := List.forall_mem_cons.1 hall
    obtain rfl : own = target := Option.some.inj (hown.symm.trans htarget)
    exact .inr ((ih hothers hrest).elim id id)

end Schema

namespace Analysis

/-- Whether an analysis that goes through fragments with the given conditions gets to a type. -/
def Targets (schema : Schema) : TypeDef → List String → TypeDef → Prop
  | current, [], target => target = current
  | current, condition :: rest, target => ∃ next,
    (conditionTarget schema current (some condition)).value = some next ∧
      Targets schema next rest target

theorem within_of_conditionTarget {current target condition : TypeDef}
    (hcurrent : schema.Finds current) (hcondition : schema.Finds condition)
    (h : (conditionTarget schema current (some condition.name)).value = some target) :
    schema.Finds target ∧ target.Within condition := by
  rcases conditionTarget_cases current hcondition with
    ⟨hsame, heq⟩ | ⟨-, heq⟩ | ⟨-, -, -, heq⟩
  · rw [heq] at h
    obtain rfl := Option.some.inj h
    refine ⟨hcurrent, ?_⟩
    rcases hsame with hname | hdeclares
    · exact .inl (hcurrent.eq_of_name hcondition hname.symm)
    · exact Schema.within_of_declares hdeclares
  · rw [heq] at h
    obtain rfl := Option.some.inj h
    exact ⟨hcondition, .inl rfl⟩
  · rw [heq] at h
    cases h

/-- **Conditions of types within others.** Where an analysis gets to through fragments is within the
type that their conditions lead to. -/
theorem within_of_targets {current static target narrowed : TypeDef} {conditions : List String}
    (hcurrent : schema.Finds current) (hwithin : current.Within static)
    (htargets : Targets schema current conditions target)
    (hnarrowed : schema.narrowed? static conditions = some narrowed) :
    schema.Finds target ∧ target.Within narrowed := by
  induction conditions generalizing current static with
  | nil =>
    obtain rfl := htargets
    cases hnarrowed
    exact ⟨hcurrent, hwithin⟩
  | cons condition rest ih =>
    obtain ⟨next, hnext, htargets⟩ := htargets
    obtain ⟨general, hgeneral, hrest⟩ := Option.bind_eq_some_iff.1 hnarrowed
    have hfinds := Schema.finds_of_type? hgeneral
    obtain rfl : general.name = condition := by simpa using List.find?_some hgeneral
    obtain ⟨hfound, hbelow⟩ := within_of_conditionTarget hcurrent hfinds hnext
    exact ih hfound hbelow htargets hrest

end Analysis

end OperationSamples
