import OperationSamples.Proofs.Memory
import OperationSamples.Proofs.Order

/-!
What holds of everything that is built.

A run remembers what it builds for a definition until it comes to the next one. A shape is built in
a run (`Run.Builds`) when it is remembered at the end of some definition, or a remembered shape
leads to it. This covers roots and what is below them, members of unions and variants on all levels,
in runs that succeed and in runs that fail. The shapes of artifacts are among them
(`Run.builds_of_mem_artifacts`).

Every shape that is built is arranged in one way (`Run.Builds.arranged`). It is put together from
slots. A discriminant that names the shape's own type comes first, and the other slots have distinct
response keys of the documents, content that fits their definitions, a sample of that content, and
the shapes it refers to as their dependencies. This is what every way of making a slot gives, and
what fixing a slot to an alternative keeps.
-/

namespace OperationSamples

/-- The shapes that are built for a place: the plain one and its variants. -/
def Built.shapes (built : Built) : List Shape := built.shape :: built.variants.map Variant.shape

/-- The shapes that a state remembers. -/
def BuildState.shapes (state : BuildState) : List Shape :=
  state.memo.flatMap fun entry => entry.2.2.shapes

namespace Run

/-- Builds what some definitions of a run stand for. -/
def visited (providers : Providers) (schema : Schema) (config : Config)
    (sources : List SourceDocument)
    (done : List (Option String × Subject)) : Build (List Generated) := do
  Build.report (.runStarted sources.length)
  Build.ofSample ((config.oracle providers).checkGenerators)
  Build.report (.generatorsChecked config.scalars.length)
  let table ← Build.ofLogged (FragmentTable.ofDocuments (sources.map SourceDocument.document))
  visitSubjects ⟨providers, schema, config, table⟩ done

/-- Whether a shape is built in a run: after some of the definitions it is remembered, or can be
reached from a shape that is. -/
def Builds (providers : Providers) (schema : Schema) (config : Config)
    (sources : List SourceDocument) (s : Shape) : Prop :=
  ∃ done, done <+: tasks sources ∧
    ∃ t ∈ ((visited providers schema config sources done).run.run .start).2.shapes, t.Reaches s

/-- The fields that are written in a definition. -/
def Subject.heads : Subject → List FieldHead
  | .fragment f => Selection.allHeads f.selections
  | .operation o => Selection.allHeads o.selections

/-- The fields that are written in some documents. -/
def heads (sources : List SourceDocument) : List FieldHead :=
  sources.flatMap fun source => (subjects source.document).flatMap Subject.heads

/-- What the definitions of a run share. -/
def contextOf (providers : Providers) (schema : Schema) (config : Config)
    (sources : List SourceDocument) : Context :=
  ⟨providers, schema, config,
    (FragmentTable.ofDocuments (sources.map SourceDocument.document)).value⟩

end Run

/-! ### How shapes are arranged -/

/-- Whether content is such as a field gets when a shape is built, and the value a sample of it: an
enum and a union are sampled by what comes first in them. -/
def Content.Made (shaper : Shaper) (item : Sample) : Content Shape → Prop
  | .typename _ => False
  | .scalar type => ∃ (place : ScalarPlace) (value : Json), type = some (scalarType place.scalar) ∧
      shaper.oracle.sample place = .ok value ∧ item = .ofJson value
  | .enum literals =>
    (∃ t, shaper.schema.Finds t ∧ t.kind? = some .enum ∧ literals = t.enumValues) ∧
      item = (literals.head?.map Sample.str).getD .null
  | .shape target => item = .factory target.name.factory
  | .union members => ∃ first rest, members = first :: rest ∧ item = .factory first.name.factory
  | .minimal literals =>
    ∃ first rest, literals = first :: rest ∧ item = .obj [(typenameField, .str first)]

/-- Whether a slot has the content that a field gets, a sample of it, and the shapes that it refers
to as its dependencies. -/
structure Slot.Made (shaper : Shaper) (slot : Slot) : Prop where
  value : ∃ item, slot.value = .listIf slot.field.isList item ∧
    slot.field.content.Made shaper item
  dependencies : slot.dependencies = slot.field.content.targets

theorem Slot.made_fixed (shaper : Shaper) (slot : Slot) (alternative : Variant) :
    (slot.fixed alternative).Made shaper := ⟨⟨_, rfl, rfl⟩, rfl⟩

/-- Whether a name is the response key of a field in a source, other than the discriminant. -/
def KeyIn (source : List FieldHead) (name : String) : Prop :=
  ∃ head ∈ source, head.responseKey = name ∧ head.name ≠ typenameField

/-- Whether a shape is put together from a discriminant, which names the type of the shape, and
other slots, which have distinct keys of the source. -/
structure Shape.ArrangedAs (shaper : Shaper) (source : List FieldHead) (s : Shape)
    (literals : List String) (others : List Slot) : Prop where
  own : s.typeName ∈ literals
  slots : s.HasSlots (.discriminant literals s.typeName :: others)
  distinct : (others.map fun slot => slot.field.name).Nodup
  keys : ∀ slot ∈ others, KeyIn source slot.field.name
  made : ∀ slot ∈ others, slot.Made shaper

def Shape.Arranged (shaper : Shaper) (source : List FieldHead) (s : Shape) : Prop :=
  ∃ literals others, s.ArrangedAs shaper source literals others

/-- Whether a shape, and every shape that it leads to, is arranged. -/
def Shape.WellMade (shaper : Shaper) (source : List FieldHead) (s : Shape) : Prop :=
  ∀ t, s.Reaches t → t.Arranged shaper source

def Built.WellMade (shaper : Shaper) (source : List FieldHead) (built : Built) : Prop :=
  ∀ s ∈ built.shapes, s.WellMade shaper source

/-- Whether a slot holds a field with a key of the source and leads to well-made shapes only. -/
structure Slot.WellMade (shaper : Shaper) (source : List FieldHead) (slot : Slot) : Prop where
  key : KeyIn source slot.field.name
  made : slot.Made shaper
  below : ∀ t ∈ slot.dependencies, t.WellMade shaper source
  alternatives : ∀ v ∈ slot.alternatives, v.shape.WellMade shaper source

section WellMade

variable {shaper : Shaper} {source : List FieldHead}

theorem Built.wellMade_iff {built : Built} : built.WellMade shaper source ↔
    built.shape.WellMade shaper source ∧ ∀ v ∈ built.variants, v.shape.WellMade shaper source := by
  rw [WellMade, shapes, List.forall_mem_cons, List.forall_mem_map]

theorem Slot.names_fixedAt (slots : List Slot) (position : Nat) (v : Variant) :
    (fixedAt slots position v).map (fun slot => slot.field.name) =
      slots.map fun slot => slot.field.name := by
  refine List.ext_getElem? fun i => ?_
  rw [fixedAt, List.getElem?_map, List.getElem?_modify, List.getElem?_map]
  cases slots[i]? with
  | none => rfl
  | some slot =>
    simp only [Option.map_some]
    split <;> rfl

/-- Fixing a well-made slot to a well-made shape keeps it well made. -/
theorem Slot.WellMade.fixed {slot : Slot} {v : Variant} (h : slot.WellMade shaper source)
    (hv : v.shape.WellMade shaper source) : (slot.fixed v).WellMade shaper source :=
  ⟨h.key, slot.made_fixed shaper v, List.forall_mem_singleton.2 hv, List.forall_mem_nil _⟩

/-- The discriminant and well-made slots make a well-made shape. -/
theorem Shape.WellMade.of_slots {literals : List String} {typeName : String} {others : List Slot}
    (htype : typeName ∈ literals) (hothers : ∀ slot ∈ others, slot.WellMade shaper source)
    (hdistinct : (others.map fun slot => slot.field.name).Nodup) (id : Nat) (name : ShapeName)
    (path : String) (depth : Nat) :
    (ofSlots id name typeName path depth
      (.discriminant literals typeName :: others)).WellMade shaper source := by
  refine Shape.forall_reaches ⟨literals, others, htype, rfl, hdistinct,
    fun slot hslot => (hothers slot hslot).key, fun slot hslot => (hothers slot hslot).made⟩
    fun t ht => ?_
  obtain ⟨slot, hslot, ht⟩ := List.mem_flatMap.1 ht
  rcases List.mem_cons.1 hslot with rfl | hslot
  · cases ht
  · exact (hothers slot hslot).below t ht

end WellMade

/-! ### Building keeps shapes well made -/

/-- What is known about a field that a slot is made of. -/
structure FieldInfo.Fit (schema : Schema) (source : List FieldHead) (info : FieldInfo) : Prop where
  finds : schema.Finds info.namedType
  kind : info.namedType.kind? = some info.kind
  taken : info.TakenFrom source

namespace Shaper

theorem typenames_ne_nil (shaper : Shaper) (t : TypeDef) : shaper.typenames t ≠ [] := by
  unfold typenames
  split
  · next h =>
    intro hnil
    simp [hnil] at h
  · simp

theorem represented_mem {names : List String} (h : names ≠ []) (folded : List String) :
    represented names folded ∈ names := by
  unfold represented
  cases hfind : folded.find? fun t => names.contains t with
  | none =>
    cases names with
    | nil => exact absurd rfl h
    | cons first rest => exact List.mem_cons_self
  | some t => simpa using List.find?_some hfind

end Shaper

theorem FieldInfo.Fit.marked {schema : Schema} {source : List FieldHead} {info : FieldInfo}
    {set set' : SelectionSet} (h : info.Fit schema source) (hset : info.set = some set)
    (hheads : Selection.allHeads set'.selections = Selection.allHeads set.selections) :
    FieldInfo.Fit schema source { info with set := some set' } := by
  refine ⟨h.finds, h.kind, h.taken.key, ?_⟩
  rintro _ ⟨⟩
  rw [hheads]
  exact h.taken.below set hset

/-- Whether visiting keeps shapes well made, at places with selections from the source. -/
def Shaper.Visit.WellMade (shaper : Shaper) (source : List FieldHead) (visit : Shaper.Visit) :
    Prop :=
  ∀ site : Site, Selection.allHeads site.set.selections ⊆ source →
    Build.Keeps (Built.WellMade shaper source) (visit site) (Built.WellMade shaper source)

namespace Build.Keeps

variable {shaper : Shaper} {source : List FieldHead} {info : FieldInfo}

theorem leafSlot (site : Site) (h : info.Fit shaper.schema source) :
    Keeps (Built.WellMade shaper source) (shaper.leafSlot site info) fun slot =>
      slot.field.name = info.responseKey ∧ slot.WellMade shaper source := by
  unfold Shaper.leafSlot
  split
  · next henum =>
    have hmade : (Slot.ofEnum info info.namedType.enumValues).Made shaper :=
      ⟨⟨_, rfl, ⟨info.namedType, h.finds, henum ▸ h.kind, rfl⟩, rfl⟩, rfl⟩
    exact Keeps.pure ⟨rfl, h.taken.key, hmade, List.forall_mem_nil _, List.forall_mem_nil _⟩
  · refine (ofSample _).bind fun value hvalue => Keeps.pure ?_
    have hmade : (Slot.ofScalar info (scalarType info.namedType.name) value).Made shaper :=
      ⟨⟨_, rfl, _, value, rfl, hvalue, rfl⟩, rfl⟩
    exact ⟨rfl, h.taken.key, hmade, List.forall_mem_nil _, List.forall_mem_nil _⟩

theorem wellMade_minimalSlot (shaper : Shaper) (h : info.TakenFrom source) :
    (shaper.minimalSlot info).WellMade shaper source := by
  obtain ⟨first, rest, hnames⟩ :=
    List.exists_cons_of_ne_nil (shaper.typenames_ne_nil info.namedType)
  have hmade : (shaper.minimalSlot info).Made shaper := by
    rw [Shaper.minimalSlot, hnames]
    exact ⟨⟨_, rfl, first, rest, rfl, rfl⟩, rfl⟩
  exact ⟨h.key, hmade, List.forall_mem_nil _, List.forall_mem_nil _⟩

theorem visitMembers {visit : Shaper.Visit} (hvisit : visit.WellMade shaper source) (site : Site)
    (info : FieldInfo) (members : List MemberSelection)
    (h : ∀ m ∈ members, Selection.allHeads m.selections ⊆ source) :
    Keeps (Built.WellMade shaper source) (Shaper.visitMembers visit site info members)
      fun built => built.length = members.length ∧ ∀ b ∈ built, b.2.WellMade shaper source := by
  have hplace : ∀ m ∈ members, ∀ set : SelectionSet,
      Selection.allHeads set.selections = Selection.allHeads m.selections →
      Selection.allHeads (site.ofMember info m.member set).set.selections ⊆ source := by
    intro m hm set hset
    rw [Site.ofMember, hset]
    exact h m hm
  refine (eachMember hvisit site info members hplace).mono fun built hbuilt => ⟨?_, hbuilt.2⟩
  simpa using congrArg List.length hbuilt.1

theorem unionSlot {visit : Shaper.Visit} (hvisit : visit.WellMade shaper source) (site : Site)
    (h : info.Fit shaper.schema source) :
    Keeps (Built.WellMade shaper source) (shaper.unionSlot visit site info) fun slot =>
      slot.field.name = info.responseKey ∧ slot.WellMade shaper source := by
  refine (ofLogged _).bind ?_
  rintro members rfl
  split
  · exact (note _).bind fun _ _ => Keeps.pure ⟨rfl, wellMade_minimalSlot shaper h.taken⟩
  · next hmembers =>
    refine (visitMembers hvisit site info _ (MemberSelection.takenFrom_expand h.taken)).bind
      fun built hbuilt => Keeps.pure ⟨rfl, h.taken.key, ?_, ?_, ?_⟩
    · cases built with
      | nil =>
        -- as many members are built as there are
        exact absurd (List.isEmpty_iff.2 (List.length_eq_zero_iff.1 hbuilt.1.symm)) hmembers
      | cons first rest => exact ⟨⟨_, rfl, _, _, rfl, rfl⟩, rfl⟩
    · refine List.forall_mem_map.2 fun m hm => ?_
      exact (Built.wellMade_iff.1 (hbuilt.2 m hm)).1
    · intro v hv
      obtain ⟨m, hm, hv⟩ := List.mem_flatMap.1 hv
      obtain ⟨hplain, hvariants⟩ := Built.wellMade_iff.1 (hbuilt.2 m hm)
      rcases List.mem_cons.1 hv with rfl | hv
      · exact hplain
      · obtain ⟨v, hmem, rfl⟩ := List.mem_map.1 hv
        exact hvariants v hmem

theorem slotOf {below : Option Shaper.Visit}
    (hbelow : ∀ visit, below = some visit → visit.WellMade shaper source) (site : Site)
    (h : info.Fit shaper.schema source) :
    Keeps (Built.WellMade shaper source) (shaper.slotOf below site info) fun slot =>
      slot.field.name = info.responseKey ∧ slot.WellMade shaper source := by
  unfold Shaper.slotOf
  split
  · exact leafSlot site h
  · exact unionSlot (hbelow _ rfl) site h
  · next hset =>
    refine (hbelow _ rfl _ (h.taken.below _ hset)).bind fun child hchild => Keeps.pure ?_
    obtain ⟨hplain, hvariants⟩ := Built.wellMade_iff.1 hchild
    refine ⟨rfl, h.taken.key, ⟨⟨_, rfl, rfl⟩, rfl⟩, List.forall_mem_singleton.2 hplain, ?_⟩
    exact List.forall_mem_map.2 hvariants
  · exact Keeps.pure ⟨rfl, wellMade_minimalSlot shaper h.taken⟩

theorem slotsOf {below : Option Shaper.Visit}
    (hbelow : ∀ visit, below = some visit → visit.WellMade shaper source) (site : Site)
    (infos : List FieldInfo) (h : ∀ info ∈ infos, info.Fit shaper.schema source) :
    Keeps (Built.WellMade shaper source) (shaper.slotsOf below site infos) fun slots =>
      slots.map (fun slot => slot.field.name) = infos.map FieldInfo.responseKey ∧
        ∀ slot ∈ slots, slot.WellMade shaper source := by
  induction infos with
  | nil => exact Keeps.pure ⟨rfl, by simp⟩
  | cons info rest ih =>
    obtain ⟨hfirst, hrest⟩ := List.forall_mem_cons.1 h
    refine (slotOf hbelow site hfirst).bind fun slot hslot => ?_
    refine (ih hrest).bind fun others hothers => Keeps.pure ?_
    exact ⟨by simp [hslot.1, hothers.1], List.forall_mem_cons.2 ⟨hslot.2, hothers.2⟩⟩

theorem variantsOf {literals : List String} {typeName : String} {others : List Slot}
    (site : Site) (onePath : Bool) (htype : typeName ∈ literals)
    (hothers : ∀ slot ∈ others, slot.WellMade shaper source)
    (hdistinct : (others.map fun slot => slot.field.name).Nodup)
    (placed : List (Nat × Variant))
    (hplaced : ∀ p ∈ placed, p.1 ≠ 0 ∧ p.2.shape.WellMade shaper source) :
    Keeps (Built.WellMade shaper source)
      (Shaper.variantsOf site typeName (.discriminant literals typeName :: others) onePath placed)
      fun variants => ∀ v ∈ variants, v.shape.WellMade shaper source := by
  induction placed with
  | nil => exact Keeps.pure (List.forall_mem_nil _)
  | cons p rest ih =>
    obtain ⟨position, v⟩ := p
    obtain ⟨⟨hposition, hshape⟩, hrest⟩ := List.forall_mem_cons.1 hplaced
    obtain ⟨before, rfl⟩ := Nat.exists_eq_succ_of_ne_zero hposition
    refine (assemble _ _ _ _).bind ?_
    rintro s ⟨id, rfl⟩
    refine (ih hrest).bind fun variants hvariants => Keeps.pure ?_
    refine List.forall_mem_cons.2 ⟨?_, hvariants⟩
    -- fixing a slot changes its content but no name
    have hnames := Slot.names_fixedAt others before v
    refine .of_slots htype (fun slot hslot => ?_) (hnames ▸ hdistinct) _ _ _ _
    rcases Slot.mem_fixedAt hslot with hold | ⟨other, hother, rfl⟩
    · exact hothers slot hold
    · exact (hothers other hother).fixed hshape

theorem construct {below : Option Shaper.Visit}
    (hbelow : ∀ visit, below = some visit → visit.WellMade shaper source) (site : Site)
    (hsite : Selection.allHeads site.set.selections ⊆ source) :
    Keeps (Built.WellMade shaper source) (shaper.construct below site)
      (Built.WellMade shaper source) := by
  refine (note _).bind fun _ _ => (ofWalk _).bind fun analysis hanalysis => ?_
  have hfit : ∀ info ∈ analysis.fields, info.Fit shaper.schema source := fun info hinfo =>
    ⟨(Analysis.fieldOf_of_mem_fields hanalysis hinfo).finds,
      (Analysis.fieldOf_of_mem_fields hanalysis hinfo).kind,
      Analysis.takenFrom_of_mem_fields hsite hanalysis hinfo⟩
  refine (markedFields (fun _ _ _ h => h.marked) analysis.fields hfit).bind fun infos hinfos => ?_
  refine (slotsOf hbelow site infos hinfos.2).bind fun others hothers => ?_
  have hdistinct : (others.map fun slot => slot.field.name).Nodup := by
    rw [hothers.1, hinfos.1]
    exact Analysis.nodup_keys hanalysis
  have htype := Shaper.represented_mem (shaper.typenames_ne_nil site.owner) analysis.folded
  refine (assemble _ _ _ _).bind ?_
  rintro s ⟨id, rfl⟩
  refine (variantsOf site _ htype hothers.2 hdistinct _ ?_).bind fun variants hvariants =>
    Keeps.pure (Built.wellMade_iff.2 ⟨.of_slots htype hothers.2 hdistinct _ _ _ _, hvariants⟩)
  · rintro ⟨position, v⟩ hp
    obtain ⟨slot, hslot, hv⟩ := Slot.mem_placedAlternatives.1 hp
    cases position with
    | zero =>
      -- the discriminant has no alternatives
      cases hslot
      cases hv
    | succ before =>
      have hmem : slot ∈ others := List.mem_of_getElem? hslot
      exact ⟨Nat.succ_ne_zero before, (hothers.2 slot hmem).alternatives v hv⟩

/-- Whatever the depth, visiting keeps shapes well made. -/
theorem visit (remaining : Nat) : Shaper.Visit.WellMade shaper source (shaper.visit remaining) :=
  everyDepth (fun _ hbelow site hsite => construct hbelow site hsite) remaining

theorem visitRoot {owner : TypeDef} {selections : List Selection} {name : ShapeName} {base : String}
    (h : Selection.allHeads selections ⊆ source) :
    Keeps (Built.WellMade shaper source) (shaper.visitRoot owner selections name base)
      (Built.WellMade shaper source) := by
  refine forget.bind fun _ _ => (marked _).bind fun set hset => ?_
  exact visit _ _ (by rw [hset]; exact h)

end Build.Keeps

/-! ### Runs -/

namespace FragmentTable

theorem mem_registerAll {table : FragmentTable} {fragments : List Fragment} {f : Fragment}
    (h : f ∈ (registerAll table fragments).value) : f ∈ table ∨ f ∈ fragments := by
  induction fragments generalizing table with
  | nil => exact .inl h
  | cons first rest ih =>
    rw [registerAll, Logged.value_bind] at h
    rcases ih h with hold | hrest
    · unfold register at hold
      split at hold
      · exact .inl hold
      · rcases List.mem_append.1 hold with hold | hnew
        · exact .inl hold
        · exact .inr (List.mem_singleton.1 hnew ▸ List.mem_cons_self)
    · exact .inr (List.mem_cons_of_mem first hrest)

/-- A table has no fragments but those of the documents. -/
theorem mem_ofDocuments {documents : List Document} {f : Fragment}
    (h : f ∈ (ofDocuments documents).value) : ∃ d ∈ documents, f ∈ d.fragments := by
  rcases mem_registerAll h with hnone | hmem
  · cases hnone
  · exact List.mem_flatMap.1 hmem

end FragmentTable

namespace Run

/-- What artifacts are generated for: a fragment on a type with fields, or an operation with a name
and a root type. -/
theorem Subject.exists_of_target? {subject : Subject} {schema : Schema} {target : Target}
    (h : (subject.target? schema).value = some target) :
    (∃ f owner, subject = .fragment f ∧ schema.type? f.condition = some owner ∧
      owner.isComposite = true ∧ target = ⟨owner, .fragment, f.name, f.selections⟩) ∨
    ∃ o name owner, subject = .operation o ∧ schema.rootType? o.kind = some owner ∧
      target = ⟨owner, o.kind.artifactKind, name, o.selections⟩ := by
  cases subject with
  | fragment f =>
    rw [target?, Target.ofFragment?] at h
    cases htype : (schema.type? f.condition).filter TypeDef.isComposite with
    | none =>
      rw [htype] at h
      cases h
    | some owner =>
      rw [htype] at h
      obtain ⟨hfound, hcomposite⟩ := Option.filter_eq_some_iff.1 htype
      exact .inl ⟨f, owner, rfl, hfound, hcomposite, (Option.some.inj h).symm⟩
  | operation o =>
    rw [target?, Target.ofOperation?] at h
    cases hname : o.name with
    | none =>
      rw [hname] at h
      cases h
    | some name =>
      cases howner : schema.rootType? o.kind with
      | none =>
        rw [hname, howner] at h
        cases h
      | some owner =>
        rw [hname, howner] at h
        exact .inr ⟨o, name, owner, rfl, howner, (Option.some.inj h).symm⟩

theorem Subject.heads_of_target? {subject : Subject} {schema : Schema} {target : Target}
    (h : (subject.target? schema).value = some target) :
    Selection.allHeads target.selections = subject.heads := by
  rcases exists_of_target? h with ⟨f, owner, rfl, -, -, rfl⟩ | ⟨o, name, owner, rfl, -, rfl⟩
  · rfl
  · rfl

theorem heads_subset_of_mem_tasks {sources : List SourceDocument}
    {task : Option String × Subject} (h : task ∈ tasks sources) :
    task.2.heads ⊆ heads sources := by
  obtain ⟨source, hsource, hmem⟩ := List.mem_flatMap.1 h
  obtain ⟨subject, hsubject, rfl⟩ := List.mem_map.1 hmem
  intro head hhead
  exact List.mem_flatMap.2 ⟨source, hsource, List.mem_flatMap.2 ⟨subject, hsubject, hhead⟩⟩

theorem allHeads_subset_of_mem_table {providers : Providers} {schema : Schema} {config : Config}
    {sources : List SourceDocument} {f : Fragment}
    (h : f ∈ (contextOf providers schema config sources).table) :
    Selection.allHeads f.selections ⊆ heads sources := by
  obtain ⟨document, hdocument, hf⟩ := FragmentTable.mem_ofDocuments h
  obtain ⟨source, hsource, rfl⟩ := List.mem_map.1 hdocument
  have hsubject : .fragment f ∈ subjects source.document :=
    List.mem_append_left _ (List.mem_map_of_mem hf)
  intro head hhead
  exact List.mem_flatMap.2 ⟨source, hsource, List.mem_flatMap.2 ⟨_, hsubject, hhead⟩⟩

section Keeps

variable {context : Context} {source : List FieldHead}

theorem keeps_visitSubject
    (htable : ∀ f ∈ context.table, Selection.allHeads f.selections ⊆ source)
    (location : Option String) {subject : Subject} (h : subject.heads ⊆ source) :
    Build.Keeps (Built.WellMade context.shaper source) (visitSubject context location subject)
      fun _ => True := by
  refine (Build.Keeps.ofLogged _).bind ?_
  rintro target? rfl
  cases htarget : (subject.target? context.schema).value with
  | none => exact Build.Keeps.pure trivial
  | some target =>
    refine (Build.Keeps.ofLogged _).bind ?_
    rintro selections rfl
    unfold rootName
    cases ShapeName.root? context.config.addOperationSuffix target.name target.kind with
    | none => exact Build.Keeps.throw _
    | some name =>
      rw [pure_bind]
      have hselections := Selection.allHeads_resolve_subset context.config.maxFragmentDepth htable
        (Subject.heads_of_target? htarget ▸ h)
      refine (Build.Keeps.visitRoot hselections).bind fun built _ => ?_
      exact (Build.Keeps.ofLogged _).bind fun _ _ => Build.Keeps.pure trivial

theorem keeps_visitSubjects
    (htable : ∀ f ∈ context.table, Selection.allHeads f.selections ⊆ source)
    (tasks : List (Option String × Subject)) (h : ∀ task ∈ tasks, task.2.heads ⊆ source) :
    Build.Keeps (Built.WellMade context.shaper source) (visitSubjects context tasks)
      fun _ => True := by
  induction tasks with
  | nil => exact Build.Keeps.pure trivial
  | cons task rest ih =>
    obtain ⟨location, subject⟩ := task
    obtain ⟨hfirst, hrest⟩ := List.forall_mem_cons.1 h
    refine (keeps_visitSubject htable location hfirst).bind fun _ _ => ?_
    exact (ih hrest).bind fun _ _ => Build.Keeps.pure trivial

end Keeps

/-- Every shape that is built in a run is arranged, with response keys of the documents. -/
theorem Builds.arranged {providers : Providers} {schema : Schema} {config : Config}
    {sources : List SourceDocument} {s : Shape} (h : Builds providers schema config sources s) :
    s.Arranged (contextOf providers schema config sources).shaper (heads sources) := by
  obtain ⟨done, hdone, t, ht, hreach⟩ := h
  have hkeeps : Build.Keeps
      (Built.WellMade (contextOf providers schema config sources).shaper (heads sources))
      (visited providers schema config sources done) fun _ => True := by
    refine (Build.Keeps.note _).bind fun _ _ => (Build.Keeps.ofSample _).bind fun _ _ => ?_
    refine (Build.Keeps.note _).bind fun _ _ => (Build.Keeps.ofLogged _).bind ?_
    rintro table rfl
    have htable : ∀ f ∈ (contextOf providers schema config sources).table,
        Selection.allHeads f.selections ⊆ heads sources := fun _ => allHeads_subset_of_mem_table
    exact keeps_visitSubjects htable done
      fun task htask => heads_subset_of_mem_tasks (hdone.subset htask)
  obtain ⟨entry, hentry, hshape⟩ := List.mem_flatMap.1 ht
  exact (hkeeps .start (List.forall_mem_nil _)).1 entry hentry t hshape s hreach

/-! ### Artifacts are built -/

open Build (exists_of_run_bind mem_memo_of_recallOr)

/-- What is built for a definition is remembered until the next one. -/
theorem mem_memo_of_visitSubject {context : Context} {location : Option String}
    {subject : Subject} {state after : BuildState} {g : Generated}
    (h : (visitSubject context location subject).run.run state = (.ok (some g), after)) :
    ∃ entry ∈ after.memo, entry.2.2 = g.built := by
  obtain ⟨target?, _, -, h⟩ := exists_of_run_bind h
  cases target? with
  | none => cases h
  | some target =>
    obtain ⟨selections, _, -, h⟩ := exists_of_run_bind h
    obtain ⟨name, _, -, h⟩ := exists_of_run_bind h
    obtain ⟨built, between, hbuilt, h⟩ := exists_of_run_bind h
    obtain ⟨_, _, hlogged, h⟩ := exists_of_run_bind h
    cases h
    cases hlogged
    change ∃ entry ∈ between.memo, entry.2.2 = built
    obtain ⟨_, _, -, hvisit⟩ := exists_of_run_bind hbuilt
    obtain ⟨set, _, -, hvisit⟩ := exists_of_run_bind hvisit
    cases hdepth : context.shaper.maxDepth with
    | zero =>
      rw [hdepth, Shaper.visit] at hvisit
      exact mem_memo_of_recallOr hvisit
    | succ remaining =>
      rw [hdepth, Shaper.visit] at hvisit
      exact mem_memo_of_recallOr hvisit

theorem memo_visitSubjects_cons {context : Context} {location : Option String}
    {subject : Subject} {state between : BuildState} {first : Option Generated}
    (h : (visitSubject context location subject).run.run state = (.ok first, between))
    (done : List (Option String × Subject)) :
    ((visitSubjects context ((location, subject) :: done)).run.run state).2.memo =
      ((visitSubjects context done).run.run between).2.memo := by
  rw [visitSubjects, Follows.run_bind, h]
  dsimp only
  rw [Follows.run_bind]
  generalize (visitSubjects context done).run.run between = outcome
  obtain ⟨fault | others, after⟩ := outcome
  · rfl
  · rfl

theorem exists_remembered {context : Context} {tasks : List (Option String × Subject)}
    {state after : BuildState} {gs : List Generated} {g : Generated}
    (h : (visitSubjects context tasks).run.run state = (.ok gs, after)) (hg : g ∈ gs) :
    ∃ done, done <+: tasks ∧
      ∃ entry ∈ ((visitSubjects context done).run.run state).2.memo, entry.2.2 = g.built := by
  induction tasks generalizing state gs with
  | nil =>
    cases h
    cases hg
  | cons task rest ih =>
    obtain ⟨location, subject⟩ := task
    obtain ⟨first, between, hfirst, hothers⟩ := exists_of_run_bind h
    obtain ⟨others, _, hrest, hpure⟩ := exists_of_run_bind hothers
    cases hpure
    rcases List.mem_append.1 hg with hown | hlater
    · -- the next definition makes the run forget, so the run is stopped after this one
      refine ⟨[(location, subject)], List.prefix_append _ rest, ?_⟩
      rw [memo_visitSubjects_cons hfirst]
      obtain rfl : first = some g := by simpa using hown
      exact mem_memo_of_visitSubject hfirst
    · obtain ⟨done, hdone, hremembered⟩ := ih hrest hlater
      refine ⟨(location, subject) :: done, List.cons_prefix_cons.2 ⟨rfl, hdone⟩, ?_⟩
      rw [memo_visitSubjects_cons hfirst]
      exact hremembered

theorem Generated.roots_subset (g : Generated) : g.roots.map Prod.fst ⊆ g.built.shapes := by
  unfold roots Run.roots
  split
  · exact List.cons_subset_cons _ (List.nil_subset _)
  · intro s hs
    obtain ⟨r, hr, rfl⟩ := List.mem_map.1 hs
    have hvariant : r ∈ g.built.variants.map fun v => (v.shape, ArtifactKind.variant) := hr
    obtain ⟨v, hv, rfl⟩ := List.mem_map.1 hvariant
    exact List.mem_cons_of_mem _ (List.mem_map_of_mem hv)

/-- After its checks a run goes through the definitions. -/
theorem exists_run_visited {providers : Providers} {schema : Schema} {config : Config}
    {sources : List SourceDocument}
    {done : List (Option String × Subject)} {gs : List Generated} {after : BuildState}
    (h : (visited providers schema config sources done).run.run .start = (.ok gs, after)) :
    ∃ checked, ∀ done, (visited providers schema config sources done).run.run .start =
      (visitSubjects (contextOf providers schema config sources) done).run.run checked := by
  obtain ⟨_, _, hstarted, h⟩ := exists_of_run_bind h
  obtain ⟨_, _, hgenerators, h⟩ := exists_of_run_bind h
  obtain ⟨_, _, hchecked, h⟩ := exists_of_run_bind h
  obtain ⟨_, checked, htable, -⟩ := exists_of_run_bind h
  refine ⟨checked, fun done => ?_⟩
  rw [visited, Follows.run_bind, hstarted]
  dsimp only
  rw [Follows.run_bind, hgenerators]
  dsimp only
  rw [Follows.run_bind, hchecked]
  dsimp only
  rw [Follows.run_bind, htable]
  cases htable
  rfl

/-- What the shapes of a definition lead to is built in the run. -/
theorem builds_of_generated {providers : Providers} {schema : Schema} {config : Config}
    {sources : List SourceDocument} {gs : List Generated} {after : BuildState}
    (h : (generated providers schema config sources).run.run .start = (.ok gs, after))
    {g : Generated}
    (hg : g ∈ gs) {r s : Shape} (hr : r ∈ g.built.shapes) (hreach : r.Reaches s) :
    Builds providers schema config sources s := by
  have hvisited : (visited providers schema config sources (tasks sources)).run.run .start =
      (.ok gs, after) := h
  obtain ⟨checked, hrun⟩ := exists_run_visited hvisited
  rw [hrun] at hvisited
  obtain ⟨done, hdone, entry, hentry, hbuilt⟩ := exists_remembered hvisited hg
  refine ⟨done, hdone, r, List.mem_flatMap.2 ⟨entry, ?_, ?_⟩, hreach⟩
  · rw [hrun]
    exact hentry
  · rw [hbuilt]
    exact hr

/-- The shape of every artifact is built in the run. -/
theorem builds_of_mem_artifacts {providers : Providers} {schema : Schema} {config : Config}
    {sources : List SourceDocument} {artifacts : List Artifact} {a : Artifact}
    (h : (generateSamples providers schema config sources).result = .ok artifacts)
    (ha : a ∈ artifacts) :
    Builds providers schema config sources a.shape := by
  obtain ⟨gs, w, trees, hemitted⟩ := exists_emitted h
  obtain ⟨after, hgenerated⟩ := hemitted.generated
  obtain ⟨r, hr, hreach⟩ := (hemitted.mem_shapes a.shape).1 (List.mem_map_of_mem ha)
  obtain ⟨g, hg, hroot⟩ := List.mem_flatMap.1 hr
  exact builds_of_generated hgenerated hg (g.roots_subset hroot) hreach

end Run

end OperationSamples
