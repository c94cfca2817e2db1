import OperationSamples.Proofs.Lockstep
import OperationSamples.Proofs.Replacing

/-!
Selections that differ at the end of a way.

A way leads from a type through fragments and fields to the selections of one field. When nothing
else leads to its fields, and it ends at an object type where some of the selections stand in a
fragment on the type or are written out, a visit cannot tell the two apart (`pairing_paired`). The
types on the way are those of the schema as it is written; a visit may meet types within them.
-/

namespace OperationSamples

open Selection

/-- A leg of a way: the conditions that are crossed, and the field that is entered. -/
structure Leg where
  conditions : List String
  head : FieldHead

/-- The type that a way leads to. -/
def Schema.wayType? (schema : Schema) (t : TypeDef) : List Leg → Option TypeDef
  | [] => some t
  | leg :: rest =>
    (schema.narrowed? t leg.conditions).bind fun narrowed =>
      (narrowed.fieldType? leg.head.name).bind fun type =>
        (schema.type? type.namedType).bind fun named => wayType? schema named rest

theorem Schema.wayType?_cons {schema : Schema} {t u : TypeDef} {leg : Leg} {rest : List Leg} :
    schema.wayType? t (leg :: rest) = some u ↔ ∃ narrowed type named,
      schema.narrowed? t leg.conditions = some narrowed ∧
      narrowed.fieldType? leg.head.name = some type ∧
      schema.type? type.namedType = some named ∧ schema.wayType? named rest = some u := by
  simp only [wayType?, Option.bind_eq_some_iff]
  constructor
  · rintro ⟨narrowed, hnarrowed, type, htype, named, hnamed, hrest⟩
    exact ⟨narrowed, type, named, hnarrowed, htype, hnamed, hrest⟩
  · rintro ⟨narrowed, type, named, hnarrowed, htype, hnamed, hrest⟩
    exact ⟨narrowed, hnarrowed, type, htype, named, hnamed, hrest⟩

/-- Whether two lists of selections differ only at the end of a way, where the second has the
selections of a fragment on a type written out. -/
inductive Along (type : String) : List Leg → List Selection → List Selection → Prop
  | here {xs ys : List Selection} (h : Spliced type xs ys) : Along type [] xs ys
  | enter {c : Change} {conditions : List String} {rest : List Leg} {xs ys : List Selection}
      (hchanged : ChangedIn c conditions xs ys) (h : Along type rest c.new c.old) :
      Along type (⟨conditions, c.head⟩ :: rest) xs ys

section Along

variable {type : String} {way : List Leg} {xs ys : List Selection}

theorem Along.markAll (h : Along type way xs ys) (next : Nat) :
    Along type way (markAll next xs).1 (markAll next ys).1 ∧
      (Selection.markAll next xs).2 = (Selection.markAll next ys).2 := by
  induction h generalizing next with
  | here h =>
    obtain ⟨hspliced, hnext⟩ := h.markAll next
    exact ⟨.here hspliced, hnext⟩
  | @enter c _ _ _ _ hchanged _ ih =>
    obtain ⟨own, start, hmarked, hnext⟩ := hchanged.markAll (fun next => (ih next).2) next
    exact ⟨.enter (c := c.marked own start) hmarked (ih start).1, hnext⟩

theorem map_head?_of_changedIn {c : Change} {conditions : List String}
    (h : ChangedIn c conditions xs ys) : xs.map head? = ys.map head? := by
  cases h with
  | around _ _ h => simp only [List.map_append, List.map_cons, h.head?_eq]

theorem Along.hasSelections_eq (h : Along type way xs ys) (mark mark' : Option Nat) :
    hasSelections (some ⟨mark, xs⟩) = hasSelections (some ⟨mark', ys⟩) := by
  cases h with
  | here h =>
    obtain ⟨before, directives, inside, after, rfl, -⟩ := h.exists_inside
    have hsome : hasSelections (some ⟨mark, before ++
        .inline (some type) directives inside :: after⟩) = true := by
      simp [hasSelections, head?]
    rw [hsome, ← h.selects]
    exact hasSelections_congr rfl
  | enter hchanged => exact hasSelections_congr (map_head?_of_changedIn hchanged)

theorem hasMemberCondition_of_changedIn {c : Change} {conditions : List String}
    (h : ChangedIn c conditions xs ys) (schema : Schema) (abstract : TypeDef)
    (mark mark' : Option Nat) :
    Analysis.hasMemberCondition schema abstract (some ⟨mark, xs⟩) =
      Analysis.hasMemberCondition schema abstract (some ⟨mark', ys⟩) := by
  cases h with
  | around _ _ h =>
    simp only [Analysis.hasMemberCondition, Option.map_some, Option.getD_some, List.any_append,
      List.any_cons]
    cases h <;> rfl

end Along

/-! ### Pairing -/

/-- Whether two sets on a type are the same, or differ at the end of a way from a type that the
type is within. -/
def Paired (schema : Schema) (goal : TypeDef) (owner : TypeDef) (set other : SelectionSet) :
    Prop :=
  set.mark = other.mark ∧ (set.selections = other.selections ∨
    ∃ way static, Along goal.name way set.selections other.selections ∧
      schema.wayType? static way = some goal ∧ schema.Finds static ∧ schema.Finds owner ∧
      owner.Within static)

namespace Paired

variable {schema : Schema} {goal owner : TypeDef}

theorem refl (set : SelectionSet) : Paired schema goal owner set set := ⟨rfl, .inl rfl⟩

theorem marked {set other : SelectionSet} (h : Paired schema goal owner set other) (next : Nat) :
    Paired schema goal owner (set.marked next).1 (other.marked next).1 ∧
      (set.marked next).2 = (other.marked next).2 := by
  obtain ⟨mark, xs⟩ := set
  obtain ⟨mark', ys⟩ := other
  obtain ⟨hmark, hselections⟩ := h
  obtain rfl : mark = mark' := hmark
  have hmarked : ∀ next, (Selection.markAll next xs).2 = (Selection.markAll next ys).2 ∧
      ∀ own, Paired schema goal owner ⟨some own, (Selection.markAll next xs).1⟩
        ⟨some own, (Selection.markAll next ys).1⟩ := by
    intro next
    rcases hselections with heq | ⟨way, static, halong, hstatic⟩
    · obtain rfl : xs = ys := heq
      exact ⟨rfl, fun own => refl _⟩
    · obtain ⟨hmarked, hnext⟩ := halong.markAll next
      exact ⟨hnext, fun own => ⟨rfl, .inr ⟨way, static, hmarked, hstatic⟩⟩⟩
  cases mark with
  | none => exact ⟨(hmarked (next + 1)).2 next, (hmarked (next + 1)).1⟩
  | some m => exact ⟨(hmarked next).2 m, (hmarked next).1⟩

end Paired

theorem FieldInfo.Over.refl {S : TypeDef → SelectionSet → SelectionSet → Prop}
    (hS : ∀ owner set, S owner set set) (info : FieldInfo) : info.Over S info := by
  refine ⟨rfl, rfl, rfl, rfl, rfl, ?_⟩
  cases info.set with
  | none => exact .none
  | some set => exact .some (hS _ set)

theorem Alike.refl {ε α : Type} {Q : α → α → Prop} (hQ : ∀ a, Q a a) (x : Except ε α) :
    Alike Q x x := by
  cases x with
  | ok a => exact .ok (hQ a)
  | error fault => exact .error fault

theorem Alike.mapM {ε α β γ δ : Type} {Q : γ → δ → Prop} {f : α → Except ε γ}
    {g : β → Except ε δ} {xs : List α} {ys : List β}
    (h : List.Forall₂ (fun a b => Alike Q (f a) (g b)) xs ys) :
    Alike (List.Forall₂ Q) (xs.mapM f) (ys.mapM g) := by
  induction h with
  | nil => exact .ok .nil
  | @cons a b xs ys hfirst _ ih =>
    rw [List.mapM_cons, List.mapM_cons]
    generalize f a = x at hfirst
    generalize g b = y at hfirst
    cases hfirst with
    | error fault => exact .error fault
    | ok hfirst =>
      generalize xs.mapM f = x at ih
      generalize ys.mapM g = y at ih
      cases ih with
      | error fault => exact .error fault
      | ok hrest => exact .ok (.cons hfirst hrest)

section Pairing

variable {schema : Schema} {goal owner : TypeDef}

/-- The fields found under a key where the selections differ have the same category. -/
theorem categorize_of_along (hobject : goal.isObject) {way : List Leg} {xs ys : List Selection}
    (halong : Along goal.name way xs ys) {named static : TypeDef}
    (hstatic : schema.wayType? static way = some goal) (hwithin : named.Within static)
    {kind : TypeKind} (hkind : named.kind? = some kind) (split : Bool) (mark : Option Nat) :
    Analysis.categorize schema split named kind (some ⟨mark, xs⟩) =
      Analysis.categorize schema split named kind (some ⟨mark, ys⟩) := by
  unfold Analysis.categorize
  rw [halong.hasSelections_eq mark mark]
  cases halong with
  | enter hchanged => rw [hasMemberCondition_of_changedIn hchanged schema named mark mark]
  | here =>
    -- on an object type no conditions are looked at
    obtain rfl : static = goal := Option.some.inj hstatic
    obtain rfl := Schema.eq_of_within_object hwithin hobject
    have hkind' : kind = .object := by
      rw [TypeDef.isObject, hkind] at hobject
      simpa using hobject
    subst hkind'
    rfl

/-- The field that differs has the same description, over sets that differ further on. -/
theorem alike_fieldInfo_put (hobject : goal.isObject) {c : Change} {rest : List Leg}
    (halong : Along goal.name rest c.new c.old) {named : TypeDef}
    (hrest : schema.wayType? named rest = some goal) (hnamed : schema.Finds named)
    {e : Analysis.Entry} (hkey : e.key = c.key) (hfield : e.field = c.oldField)
    (hwithin : ∀ special, schema.type? e.type.namedType = some special → special.Within named)
    (split : Bool) :
    Alike (FieldInfo.Over (Paired schema goal)) (Analysis.fieldInfo schema split (e.put c))
      (Analysis.fieldInfo schema split e) := by
  rw [Analysis.Entry.put_of_eq hkey]
  simp only [Analysis.fieldInfo, hfield, Change.newField, Change.oldField, set?, head?]
  cases hspecial : schema.type? e.type.namedType with
  | none => exact .error _
  | some special =>
    cases hkind : special.kind? with
    | none =>
      simp only [hkind]
      exact .error _
    | some kind =>
      simp only [hkind]
      refine .ok ⟨rfl, rfl, rfl, rfl, ?_, .some ⟨rfl, .inr ⟨rest, named, halong, hrest, hnamed,
        Schema.finds_of_type? hspecial, hwithin special hspecial⟩⟩⟩
      exact categorize_of_along hobject halong hrest (hwithin special hspecial) hkind split c.mark

theorem alike_analysed (hvalid : schema.issues = []) (hobject : goal.isObject) (split : Bool)
    {set other : SelectionSet} (h : Paired schema goal owner set other) :
    Alike
      (fun a b => List.Forall₂ (FieldInfo.Over (Paired schema goal)) a.fields b.fields ∧
        a.folded = b.folded)
      (Analysis.ofSelections schema split owner set.selections).result
      (Analysis.ofSelections schema split owner other.selections).result := by
  have hrefl : ∀ a : Analysis,
      List.Forall₂ (FieldInfo.Over (Paired schema goal)) a.fields a.fields ∧ a.folded = a.folded :=
    fun a => ⟨List.forall₂_same.2 fun info _ => .refl (fun _ => Paired.refl) info, rfl⟩
  obtain ⟨-, heq | ⟨way, static, halong, hstatic, hgeneral, hfinds, hwithin⟩⟩ := h
  · rw [heq]
    exact Alike.refl hrefl _
  generalize set.selections = xs at halong ⊢
  generalize other.selections = ys at halong ⊢
  cases halong with
  | here hspliced =>
    obtain rfl : static = goal := Option.some.inj hstatic
    obtain rfl := Schema.eq_of_within_object hwithin hobject
    rw [Analysis.result_ofSelections_of_spliced hobject hspliced]
    exact Alike.refl hrefl _
  | @enter c conditions rest _ _ hchanged halong =>
    obtain ⟨narrowed, type, named, hnarrowed, htype, hnamed, hrest⟩ :=
      Schema.wayType?_cons.1 hstatic
    have hputs := @Analysis.puts_of_changedIn schema _ _ _ _ hchanged owner
    simp only [Analysis.ofSelections, Analysis.Walk.result_bind, hputs.eq]
    cases hcollected : (Analysis.collectList schema owner ⟨[], []⟩ ys).result with
    | error fault => exact .error fault
    | ok collected =>
      have hfields : Alike (List.Forall₂ (FieldInfo.Over (Paired schema goal)))
          ((collected.put c).entries.mapM (Analysis.fieldInfo schema split))
          (collected.entries.mapM (Analysis.fieldInfo schema split)) := by
        refine Alike.mapM (List.forall₂_map_left_iff.2 (List.forall₂_same.2 fun e he => ?_))
        by_cases hkey : e.key = c.key
        · obtain ⟨hfield, target, htargets, hown⟩ := hputs.under collected hcollected e he hkey
          obtain ⟨hfound, hbelow⟩ := Analysis.within_of_targets hfinds hwithin htargets hnarrowed
          refine alike_fieldInfo_put hobject halong hrest (Schema.finds_of_type? hnamed) hkey hfield
            (fun special hspecial => ?_) split
          exact Schema.within_of_fieldType? hvalid hfound
            (Schema.finds_of_narrowed? hgeneral hnarrowed) hbelow hown htype hspecial hnamed
        · rw [Analysis.Entry.put_of_ne hkey]
          exact Alike.refl (FieldInfo.Over.refl fun _ => Paired.refl) _
      change Alike _ (((collected.put c).entries.mapM (Analysis.fieldInfo schema split)) >>= _)
        ((collected.entries.mapM (Analysis.fieldInfo schema split)) >>= _)
      generalize (collected.put c).entries.mapM (Analysis.fieldInfo schema split) = x at hfields ⊢
      generalize collected.entries.mapM (Analysis.fieldInfo schema split) = y at hfields ⊢
      cases hfields with
      | error fault => exact .error fault
      | ok hfields => exact .ok ⟨hfields, rfl⟩

end Pairing

/-! ### Members -/

namespace MemberSelection

/-- The members of a split, each with what is common to all. -/
def Split.members (p : Split) : List MemberSelection :=
  p.conditioned.map fun part => ⟨part.1, merge (p.common ++ part.2)⟩

theorem value_expand {schema : Schema} {info : FieldInfo} {set : SelectionSet}
    (hset : info.set = some set) :
    (expand schema info).value = (parts schema info.namedType set.selections).members := by
  simp only [expand, hset, Logged.value_bind, Logged.value_pure]
  rfl

section Members

variable {schema : Schema} {goal abstract : TypeDef}

/-- Whether members are the same, over paired selections. -/
def SameMember (schema : Schema) (goal : TypeDef) (m n : MemberSelection) : Prop :=
  m.member = n.member ∧ Paired schema goal n.member ⟨none, m.selections⟩ ⟨none, n.selections⟩

theorem forall₂_sameMember_refl (members : List MemberSelection) :
    List.Forall₂ (SameMember schema goal) members members :=
  List.forall₂_same.2 fun _ _ => ⟨rfl, Paired.refl _⟩

/-- An object type has no members. -/
theorem members_of_isObject (hobject : abstract.isObject) (xs : List Selection) :
    (parts schema abstract xs).members = [] := by
  have hnone : (parts schema abstract xs).conditioned = [] := by
    refine List.eq_nil_iff_forall_not_mem.2 fun part hpart => ?_
    have hmember := (isMember_of_mem_parts xs part hpart).2
    have hkind : abstract.kind? = some .object := by simpa [TypeDef.isObject] using hobject
    simp [Schema.isMember, TypeDef.isAbstract, TypeDef.isInterface, TypeDef.isUnion, hkind]
      at hmember
  rw [Split.members, hnone, List.map_nil]

/-- **The members of selections that differ at the end of a way** are the same, and their selections
differ at the end of what is left of the way. -/
theorem forall₂_members (hvalid : schema.issues = []) (habstract : schema.Finds abstract)
    {c : Change} {conditions : List String} {rest : List Leg} {xs ys : List Selection}
    (hchanged : ChangedIn c conditions xs ys) (halong : Along goal.name rest c.new c.old)
    {static : TypeDef} (hstatic : schema.wayType? static (⟨conditions, c.head⟩ :: rest) = some goal)
    (hgeneral : schema.Finds static) (hwithin : abstract.Within static) :
    List.Forall₂ (SameMember schema goal) (parts schema abstract xs).members
      (parts schema abstract ys).members := by
  obtain ⟨narrowed, type, named, hnarrowed, htype, hnamed, hrest⟩ :=
    Schema.wayType?_cons.1 hstatic
  have hmembers := @isMember_of_mem_parts schema abstract ys
  have hparts := @partsChanged_of_changedIn schema abstract _ _ _ _ hchanged
  generalize parts schema abstract xs = p at hparts
  generalize parts schema abstract ys = q at hparts hmembers
  cases hparts with
  | same => exact forall₂_sameMember_refl _
  | common hcommon hconditioned hown =>
    refine List.forall₂_map_left_iff.2 (List.forall₂_map_right_iff.2
      (List.forall₂_same.2 fun part hpart => ⟨rfl, rfl, .inr ?_⟩))
    obtain ⟨hfound, hmember⟩ := hmembers part hpart
    have hfield : (narrowed.fieldType? c.head.name).isSome := by simp [htype]
    have hin : part.1.Within narrowed := by
      rcases Schema.narrowed?_of_all_eq habstract hown hnarrowed with rfl | rfl
      · exact Schema.within_of_isMember hvalid hfound habstract hmember hwithin hfield
      · simp only [Schema.isMember, Bool.and_eq_true] at hmember
        exact .inr hmember.2
    refine ⟨⟨[], c.head⟩ :: rest, narrowed,
      .enter (hcommon.append_right (hconditioned part hpart)).merge halong, ?_,
      Schema.finds_of_narrowed? hgeneral hnarrowed, hfound, hin⟩
    exact Schema.wayType?_cons.2 ⟨narrowed, type, named, rfl, htype, hnamed, hrest⟩
  | @member common before after member new old outer inner hcommon hmember hconditions =>
    obtain ⟨hfound, -⟩ := hmembers (member, old) (by simp)
    rw [hconditions] at hnarrowed
    obtain ⟨target, htarget, hinner⟩ := Schema.narrowed?_append hnarrowed
    obtain rfl : member = target := Option.some.inj (hfound.symm.trans htarget)
    simp only [Split.members, List.map_append, List.map_cons]
    refine List.rel_append (forall₂_sameMember_refl _) (.cons ⟨rfl, rfl, .inr ?_⟩
      (forall₂_sameMember_refl _))
    refine ⟨⟨inner, c.head⟩ :: rest, member, .enter (hmember.append_left hcommon).merge halong, ?_,
      hfound, hfound, .inl rfl⟩
    exact Schema.wayType?_cons.2 ⟨narrowed, type, named, hinner, htype, hnamed, hrest⟩

end Members

end MemberSelection

theorem MemberSelection.forall₂_members_of_paired {schema : Schema} {goal abstract : TypeDef}
    (hvalid : schema.issues = []) (hobject : goal.isObject) {set other : SelectionSet}
    (h : Paired schema goal abstract set other) :
    List.Forall₂ (SameMember schema goal) (parts schema abstract set.selections).members
      (parts schema abstract other.selections).members := by
  obtain ⟨-, heq | ⟨way, static, halong, hstatic, hgeneral, hfinds, hwithin⟩⟩ := h
  · rw [heq]
    exact forall₂_sameMember_refl _
  generalize set.selections = xs at halong ⊢
  generalize other.selections = ys at halong ⊢
  cases halong with
  | here hspliced =>
    obtain rfl : static = goal := Option.some.inj hstatic
    have howner := Schema.eq_of_within_object hwithin hobject
    rw [howner, members_of_isObject hobject, members_of_isObject hobject]
    exact .nil
  | enter hchanged halong =>
    exact forall₂_members hvalid hfinds hchanged halong hstatic hgeneral hwithin

/-- **A visit cannot tell selections apart that differ at the end of a way**, if the way ends at an
object type. -/
theorem pairing_paired {schema : Schema} {goal : TypeDef} (hvalid : schema.issues = [])
    (hobject : goal.isObject) (split : Bool) :
    Pairing schema split ⟨0, 0⟩ (Paired schema goal) where
  mark := by
    rintro owner set other ⟨hmark, -⟩
    rw [hmark]
    cases other.mark <;> rfl
  marked next h := h.marked next
  analysed h := alike_analysed hvalid hobject split h
  expanded := by
    intro info other hinfo _
    have hsets := hinfo.set
    generalize hset : info.set = set at hsets
    generalize hother : other.set = set' at hsets
    cases hsets with
    | none =>
      rw [MemberSelection.expand, MemberSelection.expand, hset, hother]
      exact .nil
    | some hpaired =>
      rw [MemberSelection.value_expand hset, MemberSelection.value_expand hother, hinfo.namedType]
      exact MemberSelection.forall₂_members_of_paired hvalid hobject hpaired

end OperationSamples
