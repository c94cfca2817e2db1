import OperationSamples.Proofs.Building
import OperationSamples.Proofs.Splitting
import OperationSamples.Proofs.Walking

/-!
When a run succeeds.

A run asks for samples of the scalars that it comes to. `Run.places` lists where, without building
anything: it follows the selections as a draft does. If the fields of a schema have types that can
be selected, and its root types have fields, nothing else can go wrong. A run that fails then has
the fault of the first place without a sample (`Run.fault?_result`), so a run succeeds exactly if
the generators exist and every place has a sample, whatever the documents say (`run_succeeds_iff`).
-/

namespace OperationSamples

/-- Whether there is a result. -/
def Succeeds {ε α : Type} (x : Except ε α) : Prop := ∃ a, x = .ok a

namespace Succeeds

variable {ε δ α β : Type}

@[simp] theorem ok (a : α) : Succeeds (.ok a : Except ε α) := ⟨a, rfl⟩

@[simp] theorem not_error (fault : ε) : ¬ Succeeds (.error fault : Except ε α) := by
  rintro ⟨a, ha⟩
  cases ha

@[simp] theorem mapError_iff {x : Except ε α} {f : ε → δ} :
    Succeeds (x.mapError f) ↔ Succeeds x := by
  cases x with
  | ok a => exact iff_of_true (ok a) (ok a)
  | error fault => exact iff_of_false (not_error _) (not_error _)

/-- When the second part succeeds on the same condition after every result of the first. -/
theorem bind_iff {x : Except ε α} {f : α → Except ε β} {p : Prop}
    (h : ∀ a, x = .ok a → (Succeeds (f a) ↔ p)) : Succeeds (x >>= f) ↔ Succeeds x ∧ p := by
  cases x with
  | ok a =>
    change Succeeds (f a) ↔ _
    rw [h a rfl]
    simp
  | error fault =>
    change Succeeds (.error fault) ↔ _
    simp

theorem return_iff {x : Except ε α} {g : α → β} :
    Succeeds (x >>= fun a => pure (g a)) ↔ Succeeds x := by
  cases x with
  | ok a => exact iff_of_true (ok (g a)) (ok a)
  | error fault => exact iff_of_false (not_error fault) (not_error fault)

end Succeeds

/-- Why there is no result. -/
def fault? {ε α : Type} : Except ε α → Option ε
  | .ok _ => none
  | .error fault => some fault

section Fault

variable {ε δ α β : Type}

theorem fault?_eq_some_iff {x : Except ε α} {fault : ε} :
    fault? x = some fault ↔ x = .error fault := by
  cases x <;> simp [fault?]

theorem succeeds_iff_fault? {x : Except ε α} : Succeeds x ↔ fault? x = none := by
  cases x <;> simp [fault?]

theorem fault?_mapError (x : Except ε α) (f : ε → δ) :
    fault? (x.mapError f) = (fault? x).map f := by
  cases x <;> rfl

/-- When the second part has the same fault, or none, after every result of the first. -/
theorem fault?_bind {x : Except ε α} {f : α → Except ε β} {fault : Option ε}
    (h : ∀ a, x = .ok a → fault? (f a) = fault) : fault? (x >>= f) = (fault? x).or fault := by
  cases x with
  | ok a => exact h a rfl
  | error own => rfl

theorem fault?_return (x : Except ε α) (g : α → β) :
    fault? (x >>= fun a => pure (g a)) = fault? x := by
  cases x <;> rfl

end Fault

/-- The first fault that is met when scalars are sampled at some places. -/
def Oracle.firstFault? (oracle : Oracle) (places : List ScalarPlace) : Option SampleFault :=
  places.findSome? fun place => fault? (oracle.sample place)

theorem Oracle.firstFault?_append (oracle : Oracle) (first second : List ScalarPlace) :
    oracle.firstFault? (first ++ second) =
      (oracle.firstFault? first).or (oracle.firstFault? second) := List.findSome?_append

/-- The members that a field is split by are object types of the schema. -/
theorem MemberSelection.finds_of_mem_expand {schema : Schema} {info : FieldInfo}
    (hfinds : schema.Finds info.namedType) (hkind : info.namedType.isObject = false)
    {m : MemberSelection} (hm : m ∈ (expand schema info).value) :
    schema.Finds m.member ∧ m.member.isObject = true := by
  cases hset : info.set with
  | none =>
    rw [expand, hset] at hm
    cases hm
  | some set =>
    obtain ⟨common, -, hexpand⟩ := exists_of_mem_expand hset hfinds hkind
    obtain ⟨t, own, -, hnames, -⟩ := (hexpand m).1 hm
    exact Analysis.finds_of_namesMember hnames

namespace Shaper

/-! ### The places of scalars -/

/-- Where scalars are met at or below a field, given where they are met further below. -/
def branchPlaces (shaper : Shaper) (below : Option (Spot → List ScalarPlace)) (spot : Spot)
    (info : FieldInfo) : List ScalarPlace :=
  match info.category, below, info.set with
  | .leaf, _, _ =>
    if info.kind = .enum then []
    else [⟨info.namedType.name, spot.owner.name, spot.name.qualified ++ "." ++ info.responseKey⟩]
  | .union, some below, _ =>
    (MemberSelection.expand shaper.schema info).value.flatMap fun m =>
      below (spot.led info.responseKey (some m.member.name) m.member m.selections)
  | .object, some below, some set =>
    below (spot.led info.responseKey none info.namedType set.selections)
  | _, _, _ => []

def nodePlaces (shaper : Shaper) (below : Option (Spot → List ScalarPlace)) (spot : Spot) :
    List ScalarPlace :=
  match (Analysis.ofSelections shaper.schema shaper.split spot.owner spot.selections).result with
  | .ok analysis => analysis.fields.flatMap (shaper.branchPlaces below spot)
  | .error _ => []

/-- Where scalars are met at or below a spot, with `remaining` levels below it. -/
def places (shaper : Shaper) : Nat → Spot → List ScalarPlace
  | 0 => shaper.nodePlaces none
  | remaining + 1 => shaper.nodePlaces (some (shaper.places remaining))

/-- Whether scalars have samples at some places. -/
def Sampled (shaper : Shaper) (places : List ScalarPlace) : Prop :=
  ∀ place ∈ places, Succeeds (shaper.oracle.sample place)

theorem sampled_iff_firstFault? {shaper : Shaper} {places : List ScalarPlace} :
    shaper.Sampled places ↔ shaper.oracle.firstFault? places = none := by
  rw [Oracle.firstFault?, List.findSome?_eq_none_iff]
  exact forall₂_congr fun place _ => succeeds_iff_fault?

/-- Drafting on the types of the schema stops at the first scalar below that has no sample. -/
def Covers (shaper : Shaper) (draft : Draft) (places : Spot → List ScalarPlace) : Prop :=
  ∀ spot : Spot, shaper.schema.Finds spot.owner → spot.owner.isComposite = true →
    fault? (draft spot) = (shaper.oracle.firstFault? (places spot)).map .sample

section Covers

variable {shaper : Shaper} {draft : Draft} {draftBelow : Option Draft}
  {placesBelow : Option (Spot → List ScalarPlace)} {spot : Spot} {info : FieldInfo}

theorem isComposite_of_object (h : Analysis.FieldOf shaper.schema shaper.split info)
    (hcategory : info.category = .object) : info.namedType.isComposite = true := by
  have hcategorize := h.category
  rw [hcategory] at hcategorize
  have hkind : info.kind = .object ∨ info.kind = .interface := by
    cases hkind : info.kind <;> simp [hkind, Analysis.categorize, TypeKind.isLeaf] at hcategorize ⊢
    split at hcategorize <;> cases hcategorize
  rw [TypeDef.isComposite_iff]
  refine hkind.imp ?_ ?_ <;> intro hkind <;>
    simp [TypeDef.isObject, TypeDef.isInterface, h.kind, hkind]

theorem not_isObject_of_union (h : Analysis.FieldOf shaper.schema shaper.split info)
    (hcategory : info.category = .union) : info.namedType.isObject = false := by
  have hcategorize := h.category
  rw [hcategory] at hcategorize
  have hkind : info.kind ≠ .object := by
    intro hkind
    simp [hkind, Analysis.categorize, TypeKind.isLeaf] at hcategorize
    split at hcategorize <;> cases hcategorize
  simpa [TypeDef.isObject, h.kind] using hkind

theorem finds_of_mem_expand (h : Analysis.FieldOf shaper.schema shaper.split info)
    (hcategory : info.category = .union) {m : MemberSelection}
    (hm : m ∈ (MemberSelection.expand shaper.schema info).value) :
    shaper.schema.Finds m.member ∧ m.member.isComposite = true := by
  obtain ⟨hfinds, hobject⟩ :=
    MemberSelection.finds_of_mem_expand h.finds (not_isObject_of_union h hcategory) hm
  exact ⟨hfinds, TypeDef.isComposite_iff.2 (.inl hobject)⟩

theorem fault?_draftMembers {places : Spot → List ScalarPlace}
    (hbelow : shaper.Covers draft places) (spot : Spot) (info : FieldInfo)
    (members : List MemberSelection)
    (hmembers : ∀ m ∈ members, shaper.schema.Finds m.member ∧ m.member.isComposite = true) :
    fault? (draftMembers draft spot info members) =
      (shaper.oracle.firstFault? (members.flatMap fun m =>
        places (spot.led info.responseKey (some m.member.name) m.member m.selections))).map
          .sample := by
  induction members with
  | nil => rfl
  | cons m rest ih =>
    obtain ⟨hm, hrest⟩ := List.forall_mem_cons.1 hmembers
    have hfirst := hbelow (spot.led info.responseKey (some m.member.name) m.member m.selections)
      hm.1 hm.2
    rw [draftMembers, List.flatMap_cons, Oracle.firstFault?_append, Option.map_or, ← hfirst,
      ← ih hrest]
    exact fault?_bind fun tree _ => fault?_return _ _

theorem fault?_draftLeaf (shaper : Shaper) (spot : Spot) (info : FieldInfo) :
    fault? (shaper.draftLeaf spot info) = (shaper.oracle.firstFault?
      (if info.kind = .enum then [] else [⟨info.namedType.name, spot.owner.name,
        spot.name.qualified ++ "." ++ info.responseKey⟩])).map .sample := by
  unfold draftLeaf
  split
  · rfl
  · rw [fault?_return, fault?_mapError, Oracle.firstFault?, List.findSome?_singleton]

theorem fault?_draftBranch (hinfo : Analysis.FieldOf shaper.schema shaper.split info)
    (hbelow : Option.Rel shaper.Covers draftBelow placesBelow) :
    fault? (shaper.draftBranch draftBelow spot info) =
      (shaper.oracle.firstFault? (shaper.branchPlaces placesBelow spot info)).map
        .sample := by
  unfold draftBranch branchPlaces
  cases hcategory : info.category with
  | leaf => exact fault?_draftLeaf shaper spot info
  | minimal => rfl
  | union =>
    cases hbelow with
    | none => rfl
    | @some draft places hcovers =>
      unfold draftUnion
      dsimp only
      split
      · next hempty =>
        rw [List.isEmpty_iff.1 hempty]
        rfl
      · rw [fault?_return]
        exact fault?_draftMembers hcovers spot info _ fun m hm =>
          finds_of_mem_expand hinfo hcategory hm
  | object =>
    cases hbelow with
    | none => rfl
    | some hcovers =>
      cases info.set with
      | none => rfl
      | some set =>
        dsimp only
        rw [fault?_return]
        exact hcovers (spot.led info.responseKey none info.namedType set.selections) hinfo.finds
          (isComposite_of_object hinfo hcategory)

theorem fault?_draftBranches (hbelow : Option.Rel shaper.Covers draftBelow placesBelow)
    (infos : List FieldInfo)
    (hinfos : ∀ info ∈ infos, Analysis.FieldOf shaper.schema shaper.split info) :
    fault? (shaper.draftBranches draftBelow spot infos) =
      (shaper.oracle.firstFault?
        (infos.flatMap (shaper.branchPlaces placesBelow spot))).map .sample := by
  induction infos with
  | nil => rfl
  | cons info rest ih =>
    obtain ⟨hinfo, hrest⟩ := List.forall_mem_cons.1 hinfos
    rw [draftBranches, List.flatMap_cons, Oracle.firstFault?_append, Option.map_or,
      ← fault?_draftBranch hinfo hbelow, ← ih hrest]
    exact fault?_bind fun branch _ => fault?_return _ _

/-- With types that can be selected there is an analysis, so only samples can be missing. -/
theorem covers_draftNode (houtput : shaper.schema.HasOutputFields)
    (hbelow : Option.Rel shaper.Covers draftBelow placesBelow) :
    shaper.Covers (shaper.draftNode draftBelow) (shaper.nodePlaces placesBelow) := by
  intro spot hfinds hcomposite
  obtain ⟨analysis, hanalysis, -⟩ := Analysis.exists_of_hasOutputFields houtput hfinds hcomposite
    shaper.split ⟨none, spot.selections⟩
  have hfields : ∀ info ∈ analysis.fields, Analysis.FieldOf shaper.schema shaper.split info :=
    fun info hinfo => Analysis.fieldOf_of_mem_fields hanalysis hinfo
  have hresult : (Analysis.ofSelections shaper.schema shaper.split spot.owner
      spot.selections).result = .ok analysis := hanalysis
  rw [nodePlaces, hresult, ← fault?_draftBranches hbelow _ hfields, draftNode, hresult]
  exact fault?_return _ _

theorem covers_draft (houtput : shaper.schema.HasOutputFields) (remaining : Nat) :
    shaper.Covers (shaper.draft remaining) (shaper.places remaining) := by
  induction remaining with
  | zero => exact covers_draftNode houtput .none
  | succ remaining ih => exact covers_draftNode houtput (.some ih)

end Covers

end Shaper

namespace Run

/-- Where scalars are met for a definition. -/
def subjectPlaces (context : Context) (subject : Subject) : List ScalarPlace :=
  match (subject.target? context.schema).value with
  | none => []
  | some target =>
    let selections := (Selection.resolve context.table context.config.maxFragmentDepth
      target.selections).value
    match ShapeName.root? context.config.addOperationSuffix target.name target.kind with
    | none => []
    | some name => context.shaper.places context.shaper.maxDepth
        (.ofRoot target.owner selections name (ShapeName.operationName target.name))

/-- Where scalars are met in a run. -/
def places (providers : Providers) (schema : Schema) (config : Config)
    (sources : List SourceDocument) :
    List ScalarPlace :=
  (tasks sources).flatMap fun task =>
    subjectPlaces (contextOf providers schema config sources) task.2

/-! ### Plans -/

/-- Everything that artifacts are generated for has a type with fields, and a name. -/
theorem usable_of_target? {schema : Schema} {subject : Subject} {target : Target}
    (hroots : ∀ kind t, schema.rootType? kind = some t → t.isComposite = true)
    (h : (subject.target? schema).value = some target) :
    schema.Finds target.owner ∧ target.owner.isComposite = true ∧
      ∀ addSuffix, ∃ name, ShapeName.root? addSuffix target.name target.kind = some name := by
  have hroot : ∀ (kind : ArtifactKind) (name : String), kind.suffix?.isSome = true →
      ∀ addSuffix, ∃ root, ShapeName.root? addSuffix name kind = some root := by
    intro kind name hsuffix addSuffix
    obtain ⟨suffix, hsuffix⟩ := Option.isSome_iff_exists.1 hsuffix
    cases addSuffix <;> simp [ShapeName.root?, hsuffix]
  rcases Subject.exists_of_target? h with ⟨f, owner, -, hfound, hcomposite, rfl⟩ |
    ⟨o, name, owner, -, howner, rfl⟩
  · exact ⟨Schema.finds_of_type? hfound, hcomposite, hroot _ _ rfl⟩
  · obtain ⟨root, -, hfound⟩ := Option.bind_eq_some_iff.1 howner
    refine ⟨Schema.finds_of_type? hfound, hroots _ _ howner, hroot _ _ ?_⟩
    cases o.kind <;> rfl

section Plans

variable {context : Context}

theorem fault?_planSubject (houtput : context.schema.HasOutputFields)
    (hroots : ∀ kind t, context.schema.rootType? kind = some t → t.isComposite = true)
    (subject : Subject) :
    fault? (planSubject context subject) =
      (context.oracle.firstFault? (subjectPlaces context subject)).map .sample := by
  unfold planSubject subjectPlaces
  cases htarget : (subject.target? context.schema).value with
  | none => rfl
  | some target =>
    obtain ⟨hfinds, hcomposite, hname⟩ := usable_of_target? hroots htarget
    obtain ⟨name, hname⟩ := hname context.config.addOperationSuffix
    dsimp only
    rw [hname]
    refine (fault?_return _ _).trans ?_
    exact Shaper.covers_draft houtput context.shaper.maxDepth (.ofRoot target.owner _ name _)
      hfinds hcomposite

theorem fault?_planSubjects (houtput : context.schema.HasOutputFields)
    (hroots : ∀ kind t, context.schema.rootType? kind = some t → t.isComposite = true)
    (tasks : List (Option String × Subject)) :
    fault? (planSubjects context tasks) = (context.oracle.firstFault?
      (tasks.flatMap fun task => subjectPlaces context task.2)).map .sample := by
  induction tasks with
  | nil => rfl
  | cons task rest ih =>
    rw [planSubjects, List.flatMap_cons, Oracle.firstFault?_append, Option.map_or,
      ← fault?_planSubject houtput hroots, ← ih]
    exact fault?_bind fun _ _ => fault?_return _ _

theorem planSubjects_succeeds_iff (tasks : List (Option String × Subject)) :
    Succeeds (planSubjects context tasks) ↔
      ∀ task ∈ tasks, Succeeds (planSubject context task.2) := by
  induction tasks with
  | nil => simp [planSubjects]
  | cons task rest ih =>
    rw [planSubjects, List.forall_mem_cons, ← ih]
    exact Succeeds.bind_iff fun _ _ => Succeeds.return_iff

theorem planSubjects_succeeds_iff_sampled (houtput : context.schema.HasOutputFields)
    (hroots : ∀ kind t, context.schema.rootType? kind = some t → t.isComposite = true)
    (tasks : List (Option String × Subject)) :
    Succeeds (planSubjects context tasks) ↔
      context.shaper.Sampled (tasks.flatMap fun task => subjectPlaces context task.2) := by
  rw [succeeds_iff_fault?, fault?_planSubjects houtput hroots, Option.map_eq_none_iff,
    Shaper.sampled_iff_firstFault?]
  rfl

end Plans

/-- A run fails like its plans. -/
theorem fault?_result_eq_plans (providers : Providers) (schema : Schema) (config : Config)
    (sources : List SourceDocument) :
    fault? (generateSamples providers schema config sources).result =
      fault? (plans providers schema config sources) := by
  have hfollows := follows_generated providers schema config sources .start (fits_empty _ _)
  have hrun : (generateSamples providers schema config sources).result =
      ((artifacts providers schema config sources).run.run .start).1 := rfl
  rw [hrun, artifacts_eq, Follows.run_bind]
  generalize (generated providers schema config sources).run.run .start = outcome at hfollows ⊢
  generalize plans providers schema config sources = ps at hfollows ⊢
  match outcome, ps with
  | (.ok gs, after), .ok _ => rfl
  | (.error fault, after), .error _ => exact congrArg some hfollows
  | (.ok gs, after), .error _ => exact hfollows.elim
  | (.error fault, after), .ok _ => exact hfollows.elim

/-- A run succeeds where its plans do. -/
theorem succeeds_iff_plans (providers : Providers) (schema : Schema) (config : Config)
    (sources : List SourceDocument) :
    Succeeds (generateSamples providers schema config sources).result ↔
      Succeeds (plans providers schema config sources) := by
  rw [succeeds_iff_fault?, succeeds_iff_fault?, fault?_result_eq_plans]

/-- A run has the fault of its generators, or else that of the first place without a sample. -/
theorem fault?_result {schema : Schema} (houtput : schema.HasOutputFields)
    (hroots : ∀ kind t, schema.rootType? kind = some t → t.isComposite = true) (config : Config)
    (sources : List SourceDocument) :
    fault? (generateSamples providers schema config sources).result =
      ((fault? ((config.oracle providers).checkGenerators)).or
        ((config.oracle providers).firstFault? (places providers schema config sources))).map
          .sample := by
  rw [fault?_result_eq_plans, Option.map_or, ← fault?_mapError]
  exact fault?_bind fun _ _ => fault?_planSubjects houtput hroots (tasks sources)

end Run

/-! ### What is taken from lists -/

/-- Whether content of a shape for a type names a first one where its sample needs one: the type is
one of those that the shape can have, an object has a type, and a union has a member. -/
def Content.InRange {α : Type} (typeName : String) : Content α → Prop
  | .typename literals => typeName ∈ literals
  | .minimal literals => literals ≠ []
  | .union members => members ≠ []
  | _ => True

theorem Shape.Arranged.inRange {shaper : Shaper} {source : List FieldHead} {s : Shape}
    (h : s.Arranged shaper source) : ∀ f ∈ s.fields, f.content.InRange s.typeName := by
  obtain ⟨literals, others, harranged⟩ := h
  rw [harranged.slots.fields]
  refine List.forall_mem_cons.2 ⟨harranged.own, List.forall_mem_map.2 fun slot hslot => ?_⟩
  obtain ⟨item, -, hmade⟩ := (harranged.made slot hslot).value
  cases hcontent : slot.field.content with
  | typename literals =>
    rw [hcontent] at hmade
    exact hmade.elim
  | union members =>
    rw [hcontent] at hmade
    obtain ⟨first, rest, rfl, -⟩ := hmade
    exact List.cons_ne_nil first rest
  | minimal literals =>
    rw [hcontent] at hmade
    obtain ⟨first, rest, rfl, -⟩ := hmade
    exact List.cons_ne_nil first rest
  | _ => trivial

/-- Two fields with the same response key are merged into one. -/
theorem Selection.merge_pair {first second : Selection} {key : String}
    (hfirst : first.responseKey? = some key) (hsecond : second.responseKey? = some key) :
    merge [first, second] = [first.mergePair second] := by
  obtain ⟨head, hhead, rfl⟩ := Option.map_eq_some_iff.1 hfirst
  have hkey : hasKey head.responseKey second = true := hasKey_iff.2 hsecond
  have hsame : withKey head.responseKey [second] = [second] := by simp [withKey, hkey]
  have hother : withoutKey head.responseKey [second] = [] := by simp [withoutKey, hkey]
  rw [merge_cons_field hhead, hsame, hother, merge_nil, mergePair, hhead]
  cases hown : first.isBranch <;> cases hnext : second.isBranch <;>
    simp [joined, childrenOf, hown, hnext]

namespace Analysis

theorem stable_keyed : Stable (fun _ => True) fun state =>
    ∀ e ∈ state.entries, e.field.responseKey? = some e.key where
  fold _ _ h := h
  file := by
    rintro ⟨entries, folded⟩ key type field - hfield h
    dsimp only at h ⊢
    induction entries with
    | nil => exact List.forall_mem_singleton.2 hfield
    | cons first rest ih =>
      obtain ⟨hfirst, hrest⟩ := List.forall_mem_cons.1 h
      rw [fileField]
      split
      · refine List.forall_mem_cons.2 ⟨?_, hrest⟩
        rw [Selection.responseKey?, Selection.head?_mergePair]
        exact hfirst
      · exact List.forall_mem_cons.2 ⟨hfirst, ih hrest⟩

/-- What is filed under a response key is a field with this key. -/
theorem responseKey?_of_mem_entries {schema : Schema} {owner : TypeDef}
    {selections : List Selection} {collected : Collected}
    (h : (collectList schema owner ⟨[], []⟩ selections).result = .ok collected) :
    ∀ e ∈ collected.entries, e.field.responseKey? = some e.key := by
  exact stable_keyed.collectList_of_all (by simp) h

end Analysis

/-- As many members are built as there are. -/
theorem Shaper.map_fst_visitMembers {visit : Visit} {site : Site} {info : FieldInfo}
    {members : List MemberSelection} {state after : BuildState} {built : List (String × Built)}
    (h : (visitMembers visit site info members).run.run state = (.ok built, after)) :
    built.map Prod.fst = members.map fun m => m.member.name := by
  induction members generalizing state built with
  | nil =>
    cases h
    rfl
  | cons m rest ih =>
    obtain ⟨set, _, -, h⟩ := Build.exists_of_run_bind h
    obtain ⟨own, _, -, h⟩ := Build.exists_of_run_bind h
    obtain ⟨others, _, hothers, h⟩ := Build.exists_of_run_bind h
    cases h
    rw [List.map_cons, List.map_cons, ih hothers]

/-- If all fields of a schema have types that can be selected, and its root types are object or
interface types, then a run succeeds exactly if the generators exist and every scalar that it comes
to has a sample. Whatever the documents say, it does not look for a first one where there is none: a
shape names a type that it can have, a union has members, and of two fields under one response key
one is left; and it builds as many members as it gives alternatives for. -/
theorem run_succeeds_iff {schema : Schema} (houtput : schema.HasOutputFields)
    (hroots : ∀ kind t, schema.rootType? kind = some t → t.isComposite = true) (config : Config)
    (sources : List SourceDocument) :
    ((∃ artifacts, (generateSamples providers schema config sources).result = .ok artifacts) ↔
      (config.oracle providers).checkGenerators = .ok () ∧
        ∀ place ∈ Run.places providers schema config sources,
          ∃ value, (config.oracle providers).sample place = .ok value) ∧
    (∀ s, Run.Builds providers schema config sources s →
      ∀ f ∈ s.fields, f.content.InRange s.typeName) ∧
    (∀ owner selections collected,
      (Analysis.collectList schema owner ⟨[], []⟩ selections).result = .ok collected →
      ∀ e ∈ collected.entries, ∀ field : Selection, field.responseKey? = some e.key →
        Selection.merge [e.field, field] = [e.field.mergePair field]) ∧
    ∀ visit site info members state built after,
      (Shaper.visitMembers visit site info members).run.run state = (.ok built, after) →
        built.map Prod.fst = members.map fun m => m.member.name := by
  refine ⟨?_, fun s hs => hs.arranged.inRange, ?_, ?_⟩
  · refine (Run.succeeds_iff_plans providers schema config sources).trans ?_
    let context := Run.contextOf providers schema config sources
    have hplans : Succeeds (Run.planSubjects context (Run.tasks sources)) ↔
        context.shaper.Sampled (Run.places providers schema config sources) :=
      Run.planSubjects_succeeds_iff_sampled houtput hroots (Run.tasks sources)
    refine (Succeeds.bind_iff fun _ _ => hplans).trans ?_
    rw [Succeeds.mapError_iff]
    refine and_congr ⟨?_, fun hok => ⟨(), hok⟩⟩ Iff.rfl
    rintro ⟨⟨⟩, hok⟩
    exact hok
  · intro owner selections collected hcollected e he field hfield
    exact Selection.merge_pair (Analysis.responseKey?_of_mem_entries hcollected e he) hfield
  · intro visit site info members state built after hbuilt
    exact Shaper.map_fst_visitMembers hbuilt

namespace Pets

/-- Pets, with a scalar that has no generator. -/
def dated : Schema :=
  { schema with
    types := [⟨"Query", [], .object [] [field "owner" "Person", field "now" "Moment"]⟩,
      ⟨"Moment", [], .scalar⟩] ++ schema.types.tail }

/-- A query that fits the schema nowhere but in two fields. -/
def mismatched : List SourceDocument :=
  query [branch "now" [leaf "hour"], leaf "nothing", .spread "Missing" [],
    .inline (some "Nobody") [] [leaf "nothing"], branch "owner" [branch "mood" [leaf "nothing"]],
    .inline (some "Pet") [] [leaf "mood"]]

end Pets

theorem run_succeeds_iff_mismatched :
    Pets.dated.HasOutputFields ∧
    (∀ kind t, Pets.dated.rootType? kind = some t → t.isComposite = true) ∧
    Run.places Pets.providers Pets.dated .defaults Pets.mismatched =
      [⟨"Moment", "Query", "HomeQuery.now"⟩] ∧
    ∃ artifacts,
      (generateSamples Pets.providers Pets.dated .defaults Pets.mismatched).result =
        .ok artifacts := by
  have houtput : Pets.dated.HasOutputFields := by
    unfold Schema.HasOutputFields
    decide
  have hroots : ∀ kind t, Pets.dated.rootType? kind = some t → t.isComposite = true := by
    intro kind t ht
    cases kind <;> cases ht
    rfl
  have hplaces : Run.places Pets.providers Pets.dated .defaults Pets.mismatched =
      [⟨"Moment", "Query", "HomeQuery.now"⟩] := by decide +kernel
  refine ⟨houtput, hroots, hplaces, (run_succeeds_iff houtput hroots _ _).1.2 ⟨rfl, ?_⟩⟩
  rw [hplaces]
  exact List.forall_mem_singleton.2 ⟨_, rfl⟩

/-- Where the root type is a union, a run can fail although all fields have types that can be
selected and it comes to no scalar. -/
theorem run_fails_on_union :
    let schema : Schema := { Pets.schema with query := some "Pet" }
    let sources := Pets.query [Pets.leaf "mood"]
    schema.HasOutputFields ∧ (Config.defaults.oracle Pets.providers).checkGenerators = .ok () ∧
    Run.places Pets.providers schema .defaults sources = [] ∧
    ∀ artifacts,
      (generateSamples Pets.providers schema .defaults sources).result ≠ .ok artifacts := by
  refine ⟨?_, rfl, by decide +kernel, fun artifacts hresult => ?_⟩
  · unfold Schema.HasOutputFields
    decide
  · have hnone : (generateSamples Pets.providers { Pets.schema with query := some "Pet" } .defaults
        (Pets.query [Pets.leaf "mood"])).result.toOption.isNone = true := by decide +kernel
    rw [hresult] at hnone
    cases hnone

end OperationSamples
