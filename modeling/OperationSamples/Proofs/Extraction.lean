import OperationSamples.Proofs.Completion
import OperationSamples.Proofs.Independence
import OperationSamples.Proofs.Spreads
import OperationSamples.Proofs.Ways

/-!
Extracting selections into a fragment.

Some of the selections of a field with an object type are moved into a new fragment on the type, and
a spread of the fragment takes their place. The operation gives the same artifacts as before, and
the run only adds those of the fragment (`artifacts_of_extraction`), as long as nothing needs to be
merged across the spread: what the spread stands for is merged on its own, so a field that is
selected inside and outside of it is put together only when the fields are gathered, in another
order. Leaves that are selected twice do no harm. A field that selects `__typename` alone is another
exception: it selects nothing, and with a spread it selects something
(`extraction_changes_artifacts`).
-/

namespace OperationSamples

open Selection

/-! ### Places in a document -/

/-- An inline fragment, with what stands around a part of the selections inside it. -/
structure Wrapping where
  before : List Selection
  condition : Option String
  directives : List Directive
  after : List Selection

/-- The fragment with something inside, among the selections it stands in. -/
def Wrapping.fill (w : Wrapping) (inside : List Selection) : List Selection :=
  w.before ++ .inline w.condition w.directives inside :: w.after

/-- The selections of one level around one of its fields: inline fragments from the outside in, and
inside all of them the field. -/
structure Stage where
  wrappings : List Wrapping
  before : List Selection
  head : FieldHead
  after : List Selection

namespace Stage

variable (stage : Stage)

/-- The level with something below the field. -/
def fill (below : List Selection) : List Selection :=
  stage.wrappings.foldr Wrapping.fill
    (stage.before ++ .branch stage.head none below :: stage.after)

/-- All selections of the level but the way to the field. -/
def others : List Selection :=
  (stage.wrappings.flatMap fun w => w.before ++ w.after) ++ (stage.before ++ stage.after)

def leg : Leg := ⟨stage.wrappings.filterMap Wrapping.condition, stage.head⟩

end Stage

/-- An operation, the way to a field of it, and the part of the field's selections that moves into a
new fragment on the type of the field. -/
structure Extraction where
  operation : Operation
  stages : List Stage
  before : List Selection
  part : List Selection
  after : List Selection
  name : String
  type : TypeDef

namespace Extraction

variable (x : Extraction)

def original : Operation :=
  { x.operation with selections := x.stages.foldr Stage.fill (x.before ++ x.part ++ x.after) }

def extracted : Operation :=
  { x.operation with
    selections := x.stages.foldr Stage.fill (x.before ++ .spread x.name [] :: x.after) }

def fragment : Fragment := ⟨x.name, x.type.name, [], x.part⟩

/-- When extracting changes nothing: the way leads to an object type, no other selection leads to a
field on it, a key that is used inside and outside of the part is a leaf in both, and the field
selects more than the name of its type. -/
structure Fits (schema : Schema) (table : FragmentTable) (limit : Nat) : Prop where
  leads : ∃ root, schema.rootType? x.operation.kind = some root ∧
    schema.wayType? root (x.stages.map Stage.leg) = some x.type
  object : x.type.isObject
  alone : ∀ stage ∈ x.stages, Avoids table stage.others stage.head.responseKey
  compatible : Compatible (resolve table limit x.part).value
    (resolve table limit (x.before ++ x.after)).value
  selects : hasSelections
    (some ⟨none, (resolve table limit (x.before ++ x.part ++ x.after)).value⟩) = true

end Extraction

/-! ### Resolving -/

section Resolving

variable {name : String} {table' table : FragmentTable} {limit : Nat}

theorem mem_allSpreads_fill {stage : Stage} {below : List Selection} {own : String} :
    own ∈ allSpreads (stage.fill below) ↔
      own ∈ allSpreads stage.others ∨ own ∈ allSpreads below := by
  obtain ⟨wrappings, before, head, after⟩ := stage
  simp only [Stage.fill, Stage.others]
  induction wrappings with
  | nil =>
    simp only [List.foldr_nil, List.flatMap_nil, List.nil_append, allSpreads_append, allSpreads,
      spreads, List.mem_append]
    tauto
  | cons w rest ih =>
    simp only [List.foldr_cons, Wrapping.fill, List.flatMap_cons, allSpreads_append, allSpreads,
      spreads, List.mem_append] at ih ⊢
    tauto

theorem value_expandList_around (rule : SpreadRule) (entered : List Entered) (level : Nat)
    (before after : List Selection) (s : Selection) :
    (expandList rule entered level (before ++ s :: after)).value =
      (expandList rule entered level before).value ++
        ((expand rule entered level s).value ++ (expandList rule entered level after).value) := by
  rw [value_expandList_append]
  simp only [expandList, Logged.value_bind, Logged.value_pure]

theorem notices_expandList_around (rule : SpreadRule) (entered : List Entered) (level : Nat)
    (before after : List Selection) (s : Selection) :
    (expandList rule entered level (before ++ s :: after)).notices =
      (expandList rule entered level before).notices ++
        ((expand rule entered level s).notices ++
          (expandList rule entered level after).notices) := by
  rw [notices_expandList_append]
  simp only [expandList, Logged.notices_bind, Logged.notices_pure, List.append_nil]

/-- What stands around a changed field is resolved alike. -/
theorem changedIn_around (hdiffers : DiffersIn name table' table) (level : Nat)
    {before after : List Selection} (hfree : name ∉ allSpreads (before ++ after)) {c : Change}
    (havoids : Avoids table (before ++ after) c.key) {conditions : List String} {s' s : Selection}
    (h : ChangedIn c conditions (expand (expandWithin table' limit limit) [] level s').value
      (expand (expandWithin table limit limit) [] level s).value) :
    ChangedIn c conditions
      (expandList (expandWithin table' limit limit) [] level (before ++ s' :: after)).value
      (expandList (expandWithin table limit limit) [] level (before ++ s :: after)).value := by
  rw [allSpreads_append, List.mem_append, not_or] at hfree
  obtain ⟨hbefore, hafter⟩ := avoids_append.1 havoids
  rw [value_expandList_around, value_expandList_around,
    value_expandList_of_differsIn hdiffers limit hfree.1 level level,
    value_expandList_of_differsIn hdiffers limit hfree.2 level level]
  exact (h.append_right (hafter.expandList limit limit [] level)).append_left
    (hbefore.expandList limit limit [] level)

theorem changedIn_fill (hdiffers : DiffersIn name table' table) {stage : Stage}
    (hfree : name ∉ allSpreads stage.others)
    (havoids : Avoids table stage.others stage.head.responseKey) (level : Nat)
    (below' below : List Selection) :
    ChangedIn
      ⟨stage.head, none,
        merge (expandList (expandWithin table' limit limit) [] (level + 1) below').value,
        merge (expandList (expandWithin table limit limit) [] (level + 1) below).value⟩
      stage.leg.conditions
      (expandList (expandWithin table' limit limit) [] level (stage.fill below')).value
      (expandList (expandWithin table limit limit) [] level (stage.fill below)).value := by
  obtain ⟨wrappings, before, head, after⟩ := stage
  simp only [Stage.fill, Stage.others, Stage.leg] at hfree havoids ⊢
  induction wrappings with
  | nil =>
    rw [List.flatMap_nil, List.nil_append] at hfree havoids
    refine changedIn_around hdiffers level hfree ?_ ?_
    · exact havoids
    · exact Changed.field.single
  | cons w rest ih =>
    rw [List.flatMap_cons, List.append_assoc] at hfree havoids
    rw [allSpreads_append, List.mem_append, not_or] at hfree
    obtain ⟨howns, hothers⟩ := avoids_append.1 havoids
    have hinside := ih hfree.2 hothers
    refine changedIn_around hdiffers level hfree.1 ?_ ?_
    · exact howns
    rw [List.filterMap_cons]
    cases hcondition : w.condition with
    | none => exact hinside
    | some condition =>
      simp only [expand, Logged.value_bind, Logged.value_pure]
      have hmerged := hinside.merge
      generalize merge (expandList (expandWithin table' limit limit) [] level _).value = xs
        at hmerged ⊢
      generalize merge (expandList (expandWithin table limit limit) [] level _).value = ys
        at hmerged ⊢
      cases hmerged with
      | around hbefore hafter h =>
        exact (Changed.inline hbefore hafter h).single

/-- What is reported below the field of a level is reported for the level. -/
theorem notices_below_subset (rule : SpreadRule) (entered : List Entered) (level : Nat)
    (stage : Stage) (below : List Selection) :
    (expandList rule entered (level + 1) below).notices ⊆
      (expandList rule entered level (stage.fill below)).notices := by
  obtain ⟨wrappings, before, head, after⟩ := stage
  simp only [Stage.fill]
  induction wrappings with
  | nil =>
    intro n hn
    rw [List.foldr_nil, notices_expandList_around]
    simp only [expand, Logged.notices_bind, Logged.notices_pure, List.append_nil, List.mem_append]
    exact .inr (.inl hn)
  | cons w rest ih =>
    intro n hn
    rw [List.foldr_cons, Wrapping.fill, notices_expandList_around]
    refine List.mem_append_right _ (List.mem_append_left _ ?_)
    cases w.condition with
    | none => exact ih hn
    | some condition =>
      simp only [expand, Logged.notices_bind, Logged.notices_pure, List.append_nil]
      exact ih hn

end Resolving

namespace Extraction

variable {x : Extraction} {schema : Schema} {table' table : FragmentTable} {limit : Nat}

/-- The selections of the field, with the spread and written out. -/
theorem spliced_field (hfits : x.Fits schema table limit) (hdiffers : DiffersIn x.name table' table)
    (hknown : table'.get? x.name = some x.fragment)
    (hfree : x.name ∉ allSpreads (x.before ++ x.part ++ x.after)) (level : Nat)
    (hquiet : ∀ n ∈ (expandList (expandWithin table' limit limit) [] level
      (x.before ++ .spread x.name [] :: x.after)).notices, ∀ own, n ≠ .fragmentTooDeep own limit) :
    Spliced x.type.name
      (merge (expandList (expandWithin table' limit limit) [] level
        (x.before ++ .spread x.name [] :: x.after)).value)
      (merge (expandList (expandWithin table limit limit) [] level
        (x.before ++ x.part ++ x.after)).value) := by
  have hself : DiffersIn x.name table table := ⟨fun _ _ => rfl, hdiffers.free⟩
  simp only [allSpreads_append, List.mem_append, not_or] at hfree
  obtain ⟨⟨hbefore, hpart⟩, hafter⟩ := hfree
  rw [value_expandList_around, value_expandList_append, value_expandList_append,
    value_expandList_of_differsIn hdiffers limit hbefore level 0,
    value_expandList_of_differsIn hdiffers limit hafter level 0,
    value_expandList_of_differsIn hself limit hbefore level 0,
    value_expandList_of_differsIn hself limit hpart level 0,
    value_expandList_of_differsIn hself limit hafter level 0, expand]
  rw [notices_expandList_around] at hquiet
  have hquiet' : ∀ n ∈ (expandWithin table' limit limit [] level x.name []).notices,
      ∀ own, n ≠ .fragmentTooDeep own limit := fun n hn =>
    hquiet n (List.mem_append_right _ (List.mem_append_left _ hn))
  have hcompatible := hfits.compatible
  have hselects := hfits.selects
  simp only [resolve, Logged.value_bind, Logged.value_pure, value_expandList_append]
    at hcompatible hselects
  cases limit with
  | zero =>
    rw [expandWithin_zero table' 0 [] List.not_mem_nil] at hquiet'
    exact absurd rfl (hquiet' _ List.mem_cons_self x.name)
  | succ remaining =>
    rw [expandWithin_of_fresh (remaining + 1) remaining [] List.not_mem_nil hknown] at hquiet' ⊢
    -- inside the fragment one less may be entered, and the fragment itself is in the chain
    have hagree : AgreeBut x.name (fun n => ∀ own, n ≠ .fragmentTooDeep own (remaining + 1))
        (expandWithin table' (remaining + 1) remaining)
        (expandWithin table (remaining + 1) (remaining + 1)) [⟨x.name, level⟩] [] level 0 := by
      refine agreeBut_expandWithin hdiffers _ (Nat.le_succ remaining)
        (.inr fun own h => h own rfl) fun own hown depth => ?_
      simp [hown]
    have hinside := value_expandList_eq hagree 0 x.part hpart hquiet'
    have hvalue : (expandList (expandWithin table' (remaining + 1) remaining) [⟨x.name, level⟩]
        level x.part).value =
        (expandList (expandWithin table (remaining + 1) (remaining + 1)) [] 0 x.part).value :=
      hinside
    have hspliced := spliced_merge x.type.name [] hcompatible hselects
    rw [← hvalue] at hspliced ⊢
    exact hspliced

theorem mem_allSpreads_foldr_fill {name : String} {inner : List Selection} (stages : List Stage)
    (h : name ∈ allSpreads inner) : name ∈ allSpreads (stages.foldr Stage.fill inner) := by
  induction stages with
  | nil => exact h
  | cons stage rest ih =>
    rw [List.foldr_cons, mem_allSpreads_fill]
    exact .inr ih

theorem along_stages (hdiffers : DiffersIn x.name table' table) {stages : List Stage}
    {inner' inner : List Selection} {type : String}
    (hfree : x.name ∉ allSpreads (stages.foldr Stage.fill inner))
    (halone : ∀ stage ∈ stages, Avoids table stage.others stage.head.responseKey)
    {Q : Notice → Prop}
    (hinner : ∀ level,
      (∀ n ∈ (expandList (expandWithin table' limit limit) [] level inner').notices, Q n) →
        Spliced type (merge (expandList (expandWithin table' limit limit) [] level inner').value)
          (merge (expandList (expandWithin table limit limit) [] level inner).value))
    (level : Nat)
    (hquiet : ∀ n ∈ (expandList (expandWithin table' limit limit) [] level
      (stages.foldr Stage.fill inner')).notices, Q n) :
    Along type (stages.map Stage.leg)
      (merge (expandList (expandWithin table' limit limit) [] level
        (stages.foldr Stage.fill inner')).value)
      (merge (expandList (expandWithin table limit limit) [] level
        (stages.foldr Stage.fill inner)).value) := by
  induction stages generalizing level with
  | nil => exact .here (hinner level hquiet)
  | cons stage rest ih =>
    obtain ⟨hstage, hrest⟩ := List.forall_mem_cons.1 halone
    rw [List.foldr_cons, mem_allSpreads_fill, not_or] at hfree
    have hbelow := ih hfree.2 hrest (level + 1) fun n hn =>
      hquiet n (notices_below_subset _ [] level stage _ hn)
    exact .enter (changedIn_fill hdiffers hfree.1 hstage level _ _).merge hbelow

/-- The selections of the operation, resolved with the spread and without it, differ only at the end
of the way. -/
theorem Fits.paired (hfits : x.Fits schema table limit) (hdiffers : DiffersIn x.name table' table)
    (hknown : table'.get? x.name = some x.fragment)
    (hfree : x.name ∉ allSpreads x.original.selections)
    (hquiet : ∀ own,
      .fragmentTooDeep own limit ∉ (resolve table' limit x.extracted.selections).notices)
    {root : TypeDef} (hroot : schema.rootType? x.operation.kind = some root) :
    Paired schema x.type root ⟨none, (resolve table' limit x.extracted.selections).value⟩
      ⟨none, (resolve table limit x.original.selections).value⟩ := by
  obtain ⟨_, hsame, hway⟩ := hfits.leads
  obtain rfl := Option.some.inj (hroot.symm.trans hsame)
  have hfinds : schema.Finds root := by
    obtain ⟨name, -, hfound⟩ := Option.bind_eq_some_iff.1 hroot
    exact Schema.finds_of_type? hfound
  have hinside : x.name ∉ allSpreads (x.before ++ x.part ++ x.after) := fun h =>
    hfree (mem_allSpreads_foldr_fill x.stages h)
  have halong := along_stages (Q := fun n => ∀ own, n ≠ .fragmentTooDeep own limit) hdiffers hfree
    hfits.alone (fun level => spliced_field hfits hdiffers hknown hinside level) 0 (by
      intro n hn own heq
      rw [heq] at hn
      exact hquiet own (List.mem_append_left _ hn))
  exact ⟨rfl, .inr ⟨_, root, halong, hway, hfinds, hfinds, .inl rfl⟩⟩

end Extraction

/-! ### Definitions of a run -/

theorem exists_append_of_forall₂ {α β : Type} {R : α → β → Prop} {xs ys : List α} {zs : List β}
    (h : List.Forall₂ R (xs ++ ys) zs) :
    ∃ us vs, zs = us ++ vs ∧ List.Forall₂ R xs us ∧ List.Forall₂ R ys vs := by
  induction xs generalizing zs with
  | nil => exact ⟨[], zs, rfl, .nil, h⟩
  | cons a rest ih =>
    cases h with
    | cons hfirst hrest =>
      obtain ⟨us, vs, rfl, hus, hvs⟩ := ih hrest
      exact ⟨_ :: us, vs, rfl, .cons hfirst hus, hvs⟩

namespace Run

/-- Paired definitions give the same alone. -/
theorem alone_of_paired {providers : Providers} {schema : Schema} {config : Config}
    {table' table : FragmentTable}
    {S : TypeDef → SelectionSet → SelectionSet → Prop}
    (h : Pairing schema config.splitInterfaceVariants ⟨0, 0⟩ S) {subject' subject : Subject}
    (hsubject : Option.Rel (fun t t' : Target => t.owner = t'.owner ∧ t.kind = t'.kind ∧
        t.name = t'.name ∧ S t'.owner
          ⟨none, (resolve table' config.maxFragmentDepth t.selections).value⟩
          ⟨none, (resolve table config.maxFragmentDepth t'.selections).value⟩)
      (subject'.target? schema).value (subject.target? schema).value)
    (location : Option String) :
    alone ⟨providers, schema, config, table'⟩ (location, subject') =
      alone ⟨providers, schema, config, table⟩ (location, subject) := by
  have hlockstep := lockstep_visitSubject providers h hsubject location .start .start
    ⟨rfl, rfl, by simp⟩
  rw [alone_eq_map, alone_eq_map]
  generalize (visitSubject ⟨providers, schema, config, table'⟩ location subject').run.run .start =
    first at hlockstep ⊢
  generalize (visitSubject ⟨providers, schema, config, table⟩ location subject).run.run .start =
    second at hlockstep ⊢
  match first, second with
  | (.error _, _), (.error _, _) => exact congrArg Except.error hlockstep
  | (.ok _, _), (.ok _, _) =>
    obtain ⟨hrel, -⟩ := hlockstep
    cases hrel with
    | none => rfl
    | some hmoved =>
      have hnothing : ∀ id ∈ Emission.empty.emitted, id < 0 := by simp [Emission.empty]
      have hemit := hmoved.emit hnothing .empty
      rw [Emission.onTop_empty] at hemit
      simp only [Except.map, Option.toList_some, List.foldl_cons, List.foldl_nil]
      -- moving identities by nothing leaves them as they are
      have hself : ∀ a : Artifact, a.renumbered (· + 0) = a := Artifact.renumbered_self
      rw [hemit, Emission.onTop, List.map_congr_left fun a _ => hself a, List.map_id']
      rfl

theorem alone_succeeds_iff {context : Context} {task : Option String × Subject} :
    Succeeds (alone context task) ↔ Succeeds (planSubject context task.2) := by
  have hfollows : Matches context.shaper none .empty _
      ((visitSubject context task.1 task.2).run.run .start) (planSubject context task.2) :=
    follows_visitSubject 0 task.1 task.2 .start (fits_empty context.shaper _)
  rw [alone_eq_map]
  generalize (visitSubject context task.1 task.2).run.run .start = outcome at hfollows ⊢
  generalize planSubject context task.2 = plan at hfollows ⊢
  match outcome, plan with
  | (.ok _, _), .ok _ => exact iff_of_true ⟨_, rfl⟩ ⟨_, rfl⟩
  | (.error _, _), .error _ => exact iff_of_false (by rintro ⟨_, h⟩; cases h) (by simp)
  | (.ok _, _), .error _ => exact hfollows.elim
  | (.error _, _), .ok _ => exact hfollows.elim

/-- A run succeeds where each of its definitions succeeds alone. -/
theorem succeeds_iff_alone (providers : Providers) (schema : Schema) (config : Config)
    (sources : List SourceDocument) :
    Succeeds (generateSamples providers schema config sources).result ↔
      Succeeds ((config.oracle providers).checkGenerators) ∧
        ∀ task ∈ tasks sources,
          Succeeds (alone (contextOf providers schema config sources) task) := by
  rw [succeeds_iff_plans]
  refine (Succeeds.bind_iff fun _ _ => planSubjects_succeeds_iff (tasks sources)).trans ?_
  rw [Succeeds.mapError_iff]
  exact and_congr_right fun _ => forall₂_congr fun task _ => alone_succeeds_iff.symm

def Subject.selections : Subject → List Selection
  | .fragment f => f.selections
  | .operation o => o.selections

def Subject.fragment? : Subject → Option Fragment
  | .fragment f => some f
  | .operation _ => none

theorem fragments_eq_filterMap (sources : List SourceDocument) :
    (sources.map SourceDocument.document).flatMap Document.fragments =
      (tasks sources).filterMap fun task => task.2.fragment? := by
  induction sources with
  | nil => rfl
  | cons source rest ih =>
    have htasks : tasks (source :: rest) =
        (subjects source.document).map (fun s => (source.location, s)) ++ tasks rest := rfl
    have hfragments : ∀ fs : List Fragment, fs.filterMap (Subject.fragment? ∘ Subject.fragment) =
        fs := fun fs => List.filterMap_some
    have hoperations : ∀ os : List Operation,
        os.filterMap (Subject.fragment? ∘ Subject.operation) = [] := fun os =>
      List.filterMap_eq_nil_iff.2 fun _ _ => rfl
    rw [List.map_cons, List.flatMap_cons, ih, htasks, List.filterMap_append, subjects,
      List.filterMap_map]
    change _ = List.filterMap Subject.fragment? _ ++ _
    rw [List.filterMap_append, List.filterMap_map, List.filterMap_map, hfragments, hoperations,
      List.append_nil]

/-- The artifacts of several definitions, with the identities of each moved by its own amount. -/
def joined (parts : List (Nat × List Artifact)) : List Artifact :=
  parts.flatMap fun part => part.2.map (Artifact.renumbered (· + part.1))

theorem map_snd_eq {context' context : Context} {first second : List (Option String × Subject)}
    {parts parts' : List (Nat × List Artifact)}
    (h : List.Forall₂ (fun t t' => alone context' t' = alone context t) first second)
    (hparts : List.Forall₂ (fun task part => alone context task = .ok part.2) first parts)
    (hparts' : List.Forall₂ (fun task part => alone context' task = .ok part.2) second parts') :
    parts.map Prod.snd = parts'.map Prod.snd := by
  induction h generalizing parts parts' with
  | nil =>
    cases hparts
    cases hparts'
    rfl
  | cons hfirst _ ih =>
    cases hparts with
    | cons hpart hparts =>
      cases hparts' with
      | cons hpart' hparts' =>
        rw [hpart, hpart'] at hfirst
        rw [List.map_cons, List.map_cons, ih hparts hparts', Except.ok.inj hfirst]

theorem succeeds_all_iff {context' context : Context}
    {first second : List (Option String × Subject)}
    (h : List.Forall₂ (fun t t' => alone context' t' = alone context t) first second) :
    (∀ task ∈ second, Succeeds (alone context' task)) ↔
      ∀ task ∈ first, Succeeds (alone context task) := by
  induction h with
  | nil => simp
  | cons hfirst _ ih => rw [List.forall_mem_cons, List.forall_mem_cons, ih, hfirst]

theorem get?_contextOf (providers : Providers) (schema : Schema) (config : Config)
    (sources : List SourceDocument)
    (name : String) : (contextOf providers schema config sources).table.get? name =
      ((tasks sources).filterMap fun task => task.2.fragment?).find? fun f => f.name == name := by
  rw [← fragments_eq_filterMap]
  exact FragmentTable.get?_ofDocuments _ name

theorem exists_task_of_mem_table {providers : Providers} {schema : Schema} {config : Config}
    {sources : List SourceDocument} {f : Fragment}
    (h : f ∈ (contextOf providers schema config sources).table) :
    ∃ task ∈ tasks sources, task.2.fragment? = some f := by
  have hf : f ∈ (sources.map SourceDocument.document).flatMap Document.fragments :=
    List.mem_flatMap.2 (FragmentTable.mem_ofDocuments h)
  rw [fragments_eq_filterMap] at hf
  exact List.mem_filterMap.1 hf

theorem selections_of_target? {subject : Subject} {schema : Schema} {target : Target}
    (h : (subject.target? schema).value = some target) :
    target.selections = subject.selections := by
  rcases Subject.exists_of_target? h with ⟨f, owner, rfl, -, -, rfl⟩ | ⟨o, name, owner, rfl, -, rfl⟩
  · rfl
  · rfl

end Run

namespace Extraction

variable {x : Extraction} {providers : Providers} {schema : Schema} {config : Config}

/-- Whether no definition has or spreads the name of the new fragment. -/
structure Fresh (x : Extraction) (sources : List SourceDocument) : Prop where
  names : ∀ task ∈ Run.tasks sources, ∀ f, task.2.fragment? = some f → f.name ≠ x.name
  spreads : ∀ task ∈ Run.tasks sources, x.name ∉ allSpreads task.2.selections

/-- Whether a definition stays as it is or has the part extracted. -/
def Becomes (x : Extraction) (task task' : Option String × Run.Subject) : Prop :=
  task' = task ∨ task.2 = .operation x.original ∧ task' = (task.1, .operation x.extracted)

theorem filterMap_of_becomes {first second : List (Option String × Run.Subject)}
    (h : List.Forall₂ x.Becomes first second) :
    second.filterMap (fun task => task.2.fragment?) =
      first.filterMap fun task => task.2.fragment? := by
  induction h with
  | nil => rfl
  | cons hbecomes _ ih =>
    rw [List.filterMap_cons, List.filterMap_cons, ih]
    rcases hbecomes with rfl | ⟨horiginal, rfl⟩
    · rfl
    · rw [horiginal]
      rfl

section Sources

variable {sources sources' : List SourceDocument} {location : Option String}
  {first second first' second' : List (Option String × Run.Subject)}

theorem fragments_extracted
    (htasks' : Run.tasks sources' = first' ++ (location, .fragment x.fragment) :: second')
    (hfirst : List.Forall₂ x.Becomes first first')
    (hsecond : List.Forall₂ x.Becomes second second') :
    ((Run.tasks sources').filterMap fun task => task.2.fragment?) =
      (first.filterMap fun task => task.2.fragment?) ++
        x.fragment :: second.filterMap fun task => task.2.fragment? := by
  rw [htasks', List.filterMap_append, filterMap_of_becomes hfirst, ← filterMap_of_becomes hsecond]
  rfl

theorem Fresh.differsIn (hfresh : x.Fresh sources) (htasks : Run.tasks sources = first ++ second)
    (htasks' : Run.tasks sources' = first' ++ (location, .fragment x.fragment) :: second')
    (hfirst : List.Forall₂ x.Becomes first first')
    (hsecond : List.Forall₂ x.Becomes second second') :
    DiffersIn x.name (Run.contextOf providers schema config sources').table
      (Run.contextOf providers schema config sources).table where
  get? := by
    intro name hne
    have hown : (x.fragment.name == name) = false := beq_false_of_ne hne.symm
    rw [Run.get?_contextOf, Run.get?_contextOf, fragments_extracted htasks' hfirst hsecond, htasks,
      List.filterMap_append, List.find?_append, List.find?_append, List.find?_cons, hown]
  free := by
    intro f hf
    obtain ⟨task, htask, hfragment⟩ := Run.exists_task_of_mem_table hf
    have hspreads := hfresh.spreads task htask
    match task, hfragment with
    | (_, .fragment _), rfl => exact hspreads

theorem Fresh.get?_name (hfresh : x.Fresh sources)
    (htasks : Run.tasks sources = first ++ second)
    (htasks' : Run.tasks sources' = first' ++ (location, .fragment x.fragment) :: second')
    (hfirst : List.Forall₂ x.Becomes first first')
    (hsecond : List.Forall₂ x.Becomes second second') :
    (Run.contextOf providers schema config sources').table.get? x.name = some x.fragment := by
  have hbefore : (first.filterMap fun task => task.2.fragment?).find?
      (fun f => f.name == x.name) = none := by
    refine List.find?_eq_none.2 fun f hf => ?_
    obtain ⟨task, htask, hfragment⟩ := List.mem_filterMap.1 hf
    have hmem : task ∈ Run.tasks sources := by
      rw [htasks]
      exact List.mem_append_left _ htask
    simpa using hfresh.names task hmem f hfragment
  have hown : (x.fragment.name == x.name) = true := beq_self_eq_true x.name
  rw [Run.get?_contextOf, fragments_extracted htasks' hfirst hsecond, List.find?_append, hbefore,
    Option.none_or, List.find?_cons, hown]

end Sources

/-- Every definition gives the same alone, whether or not the part is extracted from it. -/
theorem Fits.alone_of_becomes {table' table : FragmentTable} (hvalid : schema.issues = [])
    (hfits : x.Fits schema table config.maxFragmentDepth)
    (hdiffers : DiffersIn x.name table' table) (hknown : table'.get? x.name = some x.fragment)
    (hquiet : ∀ own, .fragmentTooDeep own config.maxFragmentDepth ∉
      (resolve table' config.maxFragmentDepth x.extracted.selections).notices)
    {task task' : Option String × Run.Subject} (hfree : x.name ∉ allSpreads task.2.selections)
    (h : x.Becomes task task') :
    Run.alone ⟨providers, schema, config, table'⟩ task' =
      Run.alone ⟨providers, schema, config, table⟩ task := by
  have hpairing := pairing_paired hvalid hfits.object config.splitInterfaceVariants
  obtain ⟨location, subject⟩ := task
  rcases h with rfl | ⟨horiginal, rfl⟩
  · refine Run.alone_of_paired hpairing ?_ location
    cases htarget : (subject.target? schema).value with
    | none => exact .none
    | some target =>
      have hselections : x.name ∉ allSpreads target.selections := by
        rw [Run.selections_of_target? htarget]
        exact hfree
      refine .some ⟨rfl, rfl, rfl, ?_⟩
      rw [value_resolve_of_differsIn hdiffers _ hselections]
      exact Paired.refl _
  · obtain rfl : subject = .operation x.original := horiginal
    refine Run.alone_of_paired hpairing ?_ location
    simp only [Run.Subject.target?, Target.ofOperation?, original, extracted]
    cases hname : x.operation.name with
    | none => exact .none
    | some name =>
      cases hroot : schema.rootType? x.operation.kind with
      | none => exact .none
      | some owner =>
        exact .some ⟨rfl, rfl, rfl, hfits.paired hdiffers hknown hfree hquiet hroot⟩

end Extraction

/-- **Extracting selections into a fragment changes nothing else**, where it fits: the run succeeds
if it did before and the new fragment does alone. Then each definition gives the artifacts it gave
before, in the same order, and those of the fragment stand where the fragment does. The artifacts of
a definition have their identities all moved by the same amount. -/
theorem artifacts_of_extraction {providers : Providers} {schema : Schema} {config : Config}
    {x : Extraction}
    {sources sources' : List SourceDocument} {location : Option String}
    {first second first' second' : List (Option String × Run.Subject)}
    (hvalid : schema.issues = [])
    (hfits : x.Fits schema (Run.contextOf providers schema config sources).table
      config.maxFragmentDepth)
    (hfresh : x.Fresh sources) (htasks : Run.tasks sources = first ++ second)
    (htasks' : Run.tasks sources' = first' ++ (location, .fragment x.fragment) :: second')
    (hfirst : List.Forall₂ x.Becomes first first')
    (hsecond : List.Forall₂ x.Becomes second second')
    (hquiet : ∀ own, .fragmentTooDeep own config.maxFragmentDepth ∉
      (resolve (Run.contextOf providers schema config sources').table config.maxFragmentDepth
        x.extracted.selections).notices) :
    let context := Run.contextOf providers schema config sources
    let fragment := Run.alone (Run.contextOf providers schema config sources')
      (location, .fragment x.fragment)
    (Succeeds (generateSamples providers schema config sources').result ↔
      Succeeds (generateSamples providers schema config sources).result ∧ Succeeds fragment) ∧
    ∀ artifacts artifacts',
      (generateSamples providers schema config sources).result = .ok artifacts →
      (generateSamples providers schema config sources').result = .ok artifacts' →
      ∃ (before after before' after' : List (Nat × List Artifact)) (moved : Nat)
        (own : List Artifact),
        List.Forall₂ (fun task part => Run.alone context task = .ok part.2) first before ∧
        List.Forall₂ (fun task part => Run.alone context task = .ok part.2) second after ∧
        before.map Prod.snd = before'.map Prod.snd ∧ after.map Prod.snd = after'.map Prod.snd ∧
        fragment = .ok own ∧ artifacts = Run.joined (before ++ after) ∧
        artifacts' = Run.joined (before' ++ (moved, own) :: after') := by
  intro context fragment
  have hdiffers : DiffersIn x.name (Run.contextOf providers schema config sources').table
      context.table :=
    hfresh.differsIn htasks htasks' hfirst hsecond
  have hknown : (Run.contextOf providers schema config sources').table.get? x.name =
      some x.fragment :=
    hfresh.get?_name htasks htasks' hfirst hsecond
  have halone : ∀ tasks tasks', (∀ task ∈ tasks, task ∈ Run.tasks sources) →
      List.Forall₂ x.Becomes tasks tasks' → List.Forall₂ (fun task task' =>
        Run.alone (Run.contextOf providers schema config sources') task' = Run.alone context task)
        tasks tasks' := by
    intro tasks tasks' hmem hbecomes
    refine ((List.forall₂_and_left tasks tasks').2 ⟨hmem, hbecomes⟩).imp ?_
    rintro task task' ⟨htask, hbecome⟩
    exact hfits.alone_of_becomes hvalid hdiffers hknown hquiet (hfresh.spreads task htask) hbecome
  have halone₁ := halone first first' (fun task h => htasks ▸ List.mem_append_left _ h) hfirst
  have halone₂ := halone second second' (fun task h => htasks ▸ List.mem_append_right _ h) hsecond
  constructor
  · rw [Run.succeeds_iff_alone, Run.succeeds_iff_alone, htasks, htasks', List.forall_mem_append,
      List.forall_mem_append, List.forall_mem_cons, Run.succeeds_all_iff halone₁,
      Run.succeeds_all_iff halone₂]
    tauto
  · intro artifacts artifacts' hrun hrun'
    obtain ⟨gs, _, hgenerated, rfl⟩ := Run.exists_generated hrun
    obtain ⟨gs', _, hgenerated', rfl⟩ := Run.exists_generated hrun'
    obtain ⟨parts, hparts, hartifacts⟩ := Run.exists_parts_of_generated hgenerated
    obtain ⟨parts', hparts', hartifacts'⟩ := Run.exists_parts_of_generated hgenerated'
    rw [htasks] at hparts
    rw [htasks'] at hparts'
    obtain ⟨before, after, rfl, hbefore, hafter⟩ := exists_append_of_forall₂ hparts
    obtain ⟨before', rest, rfl, hbefore', hrest⟩ := exists_append_of_forall₂ hparts'
    cases hrest with
    | @cons _ part _ after' hown hafter' =>
      exact ⟨before, after, before', after', part.1, part.2, hbefore, hafter,
        Run.map_snd_eq halone₁ hbefore hbefore', Run.map_snd_eq halone₂ hafter hafter', hown,
        hartifacts, hartifacts'⟩

namespace Pets

def head (name : String) : FieldHead := ⟨none, name, [], []⟩

/-- A fragment from a query. -/
def parts (stages : List Stage) (before part after : List Selection) : Extraction where
  operation := ⟨.query, some "Home", [], [], []⟩
  stages := stages
  before := before
  part := part
  after := after
  name := "Parts"
  type := ⟨"Person", [],
    .object [] [field "mood" "Mood", field "pet" "Pet", field "friend" "Person"]⟩

def home (x : Extraction) : List SourceDocument := query x.original.selections

def homeWithParts (x : Extraction) : List SourceDocument :=
  [⟨[.operation x.extracted, .fragment x.fragment], none⟩]

/-- The owner's mood and friend. The mood is also selected beside the fragment. -/
def moodAndFriend : Extraction :=
  parts [⟨[⟨[branch "ownerFriend" [leaf "mood"]], some "Query", [], []⟩], [], head "owner", []⟩]
    [leaf "mood"] [leaf "mood", branch "friend" [leaf "mood"]]
    [branch "pet" [.inline (some "Cat") [] [leaf "mood"]]]

theorem fits_moodAndFriend : moodAndFriend.Fits schema
    (Run.contextOf Pets.providers schema .defaults (home moodAndFriend)).table
    Config.defaults.maxFragmentDepth where
  leads := ⟨_, rfl, rfl⟩
  object := rfl
  alone := by
    intro stage hstage
    obtain rfl := List.mem_singleton.1 hstage
    exact (avoids_field rfl).2 (by decide)
  compatible := by
    unfold Compatible
    decide +kernel
  selects := by decide +kernel

theorem fresh_moodAndFriend : moodAndFriend.Fresh (home moodAndFriend) where
  names := by
    intro task htask f hf
    obtain rfl := List.mem_singleton.1 htask
    cases hf
  spreads := by
    intro task htask
    obtain rfl := List.mem_singleton.1 htask
    decide +kernel

end Pets

theorem artifacts_of_extraction_moodAndFriend :
    let sources := Pets.home Pets.moodAndFriend
    let sources' := Pets.homeWithParts Pets.moodAndFriend
    let context := Run.contextOf Pets.providers Pets.schema .defaults sources
    let fragment := Run.alone (Run.contextOf Pets.providers Pets.schema .defaults sources')
      (none, .fragment Pets.moodAndFriend.fragment)
    Pets.schema.issues = [] ∧
    ∃ artifacts artifacts',
      (generateSamples Pets.providers Pets.schema .defaults sources).result = .ok artifacts ∧
      artifacts.map Artifact.name = ["HomeOwnerFriend", "HomeOwnerFriend", "HomeOwnerPetAsCat",
        "HomeOwnerAsCat", "HomeQueryAsCat"] ∧
      (generateSamples Pets.providers Pets.schema .defaults sources').result = .ok artifacts' ∧
      artifacts'.map Artifact.name = ["PartsFriend", "PartsFragment", "HomeOwnerFriend",
        "HomeOwnerFriend", "HomeOwnerPetAsCat", "HomeOwnerAsCat", "HomeQueryAsCat"] ∧
      ∃ (before after before' after' : List (Nat × List Artifact)) (moved : Nat)
        (own : List Artifact),
        List.Forall₂ (fun task part => Run.alone context task = .ok part.2) [] before ∧
        List.Forall₂ (fun task part => Run.alone context task = .ok part.2)
          [(none, .operation Pets.moodAndFriend.original)] after ∧
        before.map Prod.snd = before'.map Prod.snd ∧ after.map Prod.snd = after'.map Prod.snd ∧
        fragment = .ok own ∧ artifacts = Run.joined (before ++ after) ∧
        artifacts' = Run.joined (before' ++ (moved, own) :: after') := by
  intro sources sources' context fragment
  have hvalid : Pets.schema.issues = [] := by decide +kernel
  obtain ⟨artifacts, hrun, hnames⟩ := Pets.exists_result sources
    (fun artifacts => artifacts.map Artifact.name == ["HomeOwnerFriend", "HomeOwnerFriend",
      "HomeOwnerPetAsCat", "HomeOwnerAsCat", "HomeQueryAsCat"]) (by decide +kernel)
  obtain ⟨artifacts', hrun', hnames'⟩ := Pets.exists_result sources'
    (fun artifacts => artifacts.map Artifact.name == ["PartsFriend", "PartsFragment",
      "HomeOwnerFriend", "HomeOwnerFriend", "HomeOwnerPetAsCat", "HomeOwnerAsCat",
      "HomeQueryAsCat"]) (by decide +kernel)
  have hquiet : (resolve (Run.contextOf Pets.providers Pets.schema .defaults sources').table
      Config.defaults.maxFragmentDepth Pets.moodAndFriend.extracted.selections).notices = [] := by
    decide +kernel
  have hbecomes : Pets.moodAndFriend.Becomes (none, .operation Pets.moodAndFriend.original)
      (none, .operation Pets.moodAndFriend.extracted) := .inr ⟨rfl, rfl⟩
  refine ⟨hvalid, artifacts, artifacts', hrun, beq_iff_eq.1 hnames, hrun', beq_iff_eq.1 hnames', ?_⟩
  refine (artifacts_of_extraction hvalid Pets.fits_moodAndFriend Pets.fresh_moodAndFriend
    (show Run.tasks sources = [] ++ [(none, .operation Pets.moodAndFriend.original)] from rfl)
    (show Run.tasks sources' = [] ++ (none, .fragment Pets.moodAndFriend.fragment) ::
      [(none, .operation Pets.moodAndFriend.extracted)] from rfl)
    .nil (.cons hbecomes .nil) ?_).2 artifacts artifacts' hrun hrun'
  intro own
  rw [hquiet]
  exact List.not_mem_nil

namespace Pets

/-- A field that selects the name of its type alone. -/
def typename : Extraction := parts [⟨[], [], head "owner", []⟩] [] [leaf "__typename"] []

/-- The friend, selected before, inside and after the fragment. -/
def friendThrice : Extraction :=
  parts [⟨[], [], head "owner", []⟩] [branch "friend" [leaf "mood"]]
    [branch "friend" [branch "friend" [leaf "mood"]]]
    [branch "friend" [branch "pet" [.inline (some "Cat") [] [leaf "mood"]]]]

def names (sources : List SourceDocument) : Option (List String) :=
  (generateSamples Pets.providers schema .defaults sources).result.toOption.map fun artifacts =>
    artifacts.map Artifact.name

end Pets

/-- Without the conditions on the selections, an artifact of the operation can be new, and the order
of its artifacts can change. -/
theorem extraction_changes_artifacts :
    Pets.schema.issues = [] ∧
    (∀ x ∈ [Pets.typename, Pets.friendThrice],
      (∃ root, Pets.schema.rootType? x.operation.kind = some root ∧
        Pets.schema.wayType? root (x.stages.map Stage.leg) = some x.type) ∧ x.type.isObject ∧
      (resolve [] Config.defaults.maxFragmentDepth x.original.selections).notices = [] ∧
      (resolve [x.fragment] Config.defaults.maxFragmentDepth x.extracted.selections).notices =
        []) ∧
    Pets.names (Pets.home Pets.typename) = some ["HomeQuery"] ∧
    Pets.names (Pets.homeWithParts Pets.typename) =
      some ["PartsFragment", "HomeOwner", "HomeQuery"] ∧
    Pets.names (Pets.home Pets.friendThrice) =
      some ["HomeOwnerFriendFriend", "HomeOwnerFriendPetAsCat", "HomeOwnerFriendAsCat",
        "HomeOwnerAsCat", "HomeQueryAsCat"] ∧
    Pets.names (Pets.homeWithParts Pets.friendThrice) =
      some ["PartsFriendFriend", "PartsFriend", "PartsFragment", "HomeOwnerFriendPetAsCat",
        "HomeOwnerFriendFriend", "HomeOwnerFriendAsCat", "HomeOwnerAsCat", "HomeQueryAsCat"] := by
  refine ⟨by decide +kernel, ?_, by decide +kernel, by decide +kernel, by decide +kernel,
    by decide +kernel⟩
  intro x hx
  rcases List.mem_pair.1 hx with rfl | rfl
  · exact ⟨⟨_, rfl, rfl⟩, rfl, by decide +kernel, by decide +kernel⟩
  · exact ⟨⟨_, rfl, rfl⟩, rfl, by decide +kernel, by decide +kernel⟩

end OperationSamples
