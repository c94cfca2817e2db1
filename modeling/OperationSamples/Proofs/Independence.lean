import OperationSamples.Proofs.Lockstep
import OperationSamples.Proofs.Memory
import OperationSamples.Proofs.Order

/-!
The definitions of a run do not interfere.

A run builds the shapes of one definition after those of another, in one state and with one record
of what was emitted. Where a definition starts makes no difference but for the numbers: selection
sets are paired with themselves when their marks are moved, so a definition builds what it builds
alone, with moved identities (`Run.lockstep_visitSubject`). These are larger than all that were
taken before, so emitting them adds what is emitted alone (`Emission.shape_onTop`).
-/

namespace OperationSamples

/-- Sets that differ in their marks only, which are moved. -/
def Offset.Marks (o : Offset) (_ : TypeDef) (set other : SelectionSet) : Prop :=
  set = other.remarked fun m => some (o.mark m)

theorem Offset.pairing_marks (o : Offset) (schema : Schema) (split : Bool) :
    Pairing schema split o o.Marks where
  mark := by
    rintro _ _ ⟨mark, selections⟩ rfl
    cases mark <;> rfl
  marked := by
    rintro _ _ other next rfl
    have hmarked := SelectionSet.marked_remarked (f := o.mark)
      (fun m => Nat.add_right_comm m 1 o.marks) next other
    rw [hmarked]
    exact ⟨rfl, rfl⟩
  analysed := by
    rintro owner _ other rfl
    simp only [SelectionSet.remarked, Analysis.ofSelections_remarked, Analysis.Walk.result_map]
    cases (Analysis.ofSelections schema split owner other.selections).result with
    | error fault => exact .error fault
    | ok analysis =>
      refine .ok ⟨?_, rfl⟩
      refine List.forall₂_map_left_iff.2 (List.forall₂_same.2 fun info _ => ?_)
      refine ⟨rfl, rfl, rfl, rfl, rfl, ?_⟩
      unfold FieldInfo.remarked
      cases info.set with
      | none => exact .none
      | some set => exact .some rfl
  expanded := by
    intro info other hinfo _
    have hset : info.set = other.set.map (SelectionSet.remarked fun m => some (o.mark m)) := by
      have hrel := hinfo.set
      generalize info.set = own at hrel
      generalize other.set = own' at hrel
      cases hrel with
      | none => rfl
      | some hsame => rw [hsame, Option.map_some]
    have hexpand : MemberSelection.expand schema info =
        MemberSelection.expand schema (other.remarked fun m => some (o.mark m)) := by
      simp only [MemberSelection.expand, FieldInfo.remarked, hset, hinfo.namedType]
    rw [hexpand, MemberSelection.expand_remarked]
    refine List.forall₂_map_left_iff.2 (List.forall₂_same.2 fun m _ => ⟨rfl, rfl⟩)

namespace Emission

variable {e : Nat}

/-- What is emitted on top of something else, with identities moved by `e`. -/
def onTop (base : Emission) (e : Nat) (own : Emission) : Emission :=
  ⟨own.emitted.map (· + e) ++ base.emitted,
    base.artifacts ++ own.artifacts.map (Artifact.renumbered (· + e))⟩

@[simp] theorem onTop_empty (base : Emission) : base.onTop e .empty = base := by
  simp [onTop, empty]

/-- A moved identity is taken when it was taken before it was moved. -/
theorem mem_emitted_onTop {base own : Emission} (hbase : ∀ id ∈ base.emitted, id < e) (id : Nat) :
    id + e ∈ (base.onTop e own).emitted ↔ id ∈ own.emitted := by
  have hfree : id + e ∉ base.emitted := by
    intro hmem
    have := hbase _ hmem
    omega
  simp [onTop, hfree]

theorem shapes_onTop {origin : Provenance} {base : Emission} (given : List Shape)
    (h : ∀ s ∈ given, ∀ kind own, shape origin kind (base.onTop e own) (s.renumbered (· + e)) =
      base.onTop e (shape origin kind own s)) (own : Emission) :
    shapes origin (base.onTop e own) (given.map (Shape.renumbered (· + e))) =
      base.onTop e (shapes origin own given) := by
  induction given generalizing own with
  | nil => rfl
  | cons s rest ih =>
    rw [List.map_cons, shapes, shapes, h s (by simp)]
    exact ih (fun t ht => h t (by simp [ht])) _

/-- Emitting a moved shape on top of something else adds what it adds on its own. -/
theorem shape_onTop {base : Emission} (hbase : ∀ id ∈ base.emitted, id < e) (origin : Provenance)
    (s : Shape) : ∀ kind own, shape origin kind (base.onTop e own) (s.renumbered (· + e)) =
      base.onTop e (shape origin kind own s) := by
  induction s using Shape.dependencyInduction with
  | step s ih =>
    intro kind own
    rw [shape_eq, shape_eq, Shape.id_renumbered]
    by_cases htaken : s.id ∈ own.emitted
    · rw [if_pos htaken, if_pos ((mem_emitted_onTop hbase _).2 htaken)]
    · rw [if_neg htaken, if_neg (mt (mem_emitted_onTop hbase _).1 htaken),
        Shape.dependencies_renumbered]
      have hopened : (⟨(s.id + e) :: (base.onTop e own).emitted, (base.onTop e own).artifacts⟩ :
          Emission) = base.onTop e { own with emitted := s.id :: own.emitted } := rfl
      dsimp only
      rw [hopened, shapes_onTop s.dependencies ih]
      simp [onTop, artifactOf, Artifact.renumbered]

end Emission

namespace Run

/-- What was built for the same definition, with moved identities. -/
structure Generated.Moved (o : Offset) (g other : Generated) : Prop where
  name : g.target.name = other.target.name
  kind : g.target.kind = other.target.kind
  location : g.location = other.location
  built : g.built = other.built.renumbered o.id

theorem Generated.Moved.roots {o : Offset} {g other : Generated} (h : g.Moved o other) :
    g.roots = other.roots.map fun r => (r.1.renumbered o.id, r.2) := by
  have hvalue : ∀ (kind : ArtifactKind) (b : Built), (Run.roots kind b).value =
      if b.variants.isEmpty then [(b.shape, kind)]
      else b.variants.map fun v => (v.shape, ArtifactKind.variant) := by
    intro kind b
    unfold Run.roots
    split <;> rfl
  unfold Generated.roots
  rw [h.kind, h.built, hvalue, hvalue, Built.renumbered, List.isEmpty_map]
  split
  · rfl
  · simp only [List.map_map]
    rfl

/-- Definitions with paired selections are built alike, whatever was built before. -/
theorem lockstep_visitSubject (providers : Providers) {schema : Schema} {config : Config}
    {table table' : FragmentTable} {o : Offset}
    {S : TypeDef → SelectionSet → SelectionSet → Prop}
    (h : Pairing schema config.splitInterfaceVariants o S) {subject subject' : Subject}
    (hsubject : Option.Rel (fun t t' : Target => t.owner = t'.owner ∧ t.kind = t'.kind ∧
        t.name = t'.name ∧ S t'.owner
          ⟨none, (Selection.resolve table config.maxFragmentDepth t.selections).value⟩
          ⟨none, (Selection.resolve table' config.maxFragmentDepth t'.selections).value⟩)
      (subject.target? schema).value (subject'.target? schema).value)
    (location : Option String) :
    Lockstep o false (Option.Rel (Generated.Moved o))
      (visitSubject ⟨providers, schema, config, table⟩ location subject)
      (visitSubject ⟨providers, schema, config, table'⟩ location subject') := by
  unfold visitSubject
  refine Lockstep.logged ?_
  dsimp only
  generalize (subject.target? schema).value = target? at hsubject ⊢
  generalize (subject'.target? schema).value = target?' at hsubject ⊢
  cases hsubject with
  | none => exact Lockstep.pure .none
  | @some target target' htarget =>
    obtain ⟨howner, hkind, hname, hpaired⟩ := htarget
    refine Lockstep.logged ?_
    unfold rootName
    rw [howner, hkind, hname]
    cases ShapeName.root? config.addOperationSuffix target'.name target'.kind with
    | none => exact Lockstep.throw _
    | some name =>
      simp only [pure_bind]
      refine Lockstep.bind (h.lockstep_visitRoot hpaired name _) fun built built' hbuilt => ?_
      refine Lockstep.logged (Lockstep.pure (.some ?_))
      exact ⟨hname, hkind, rfl, hbuilt⟩

theorem emitRoots_onTop {e : Nat} {base : Emission} (hbase : ∀ id ∈ base.emitted, id < e)
    (origin : Provenance) (roots : List (Shape × ArtifactKind)) (own : Emission) :
    emitRoots origin (base.onTop e own) (roots.map fun r => (r.1.renumbered (· + e), r.2)) =
      base.onTop e (emitRoots origin own roots) := by
  induction roots generalizing own with
  | nil => rfl
  | cons r rest ih =>
    rw [List.map_cons, emitRoots, emitRoots, Emission.shape_onTop hbase, ih]

theorem Generated.Moved.emit {o : Offset} {g other : Generated} (h : g.Moved o other)
    {base : Emission} (hbase : ∀ id ∈ base.emitted, id < o.ids) (own : Emission) :
    g.emit (base.onTop o.ids own) = base.onTop o.ids (other.emit own) := by
  unfold Generated.emit
  rw [h.name, h.location, h.roots]
  exact emitRoots_onTop hbase _ _ own

/-- What a definition gives alone: nothing is remembered, emitted or counted before. -/
def alone (context : Context) (task : Option String × Subject) :
    Except BuildFault (List Artifact) :=
  ((generate context task.1 .empty task.2).run.run .start).1.map Emission.artifacts

theorem alone_eq_map (context : Context) (task : Option String × Subject) :
    alone context task = ((visitSubject context task.1 task.2).run.run .start).1.map
      fun own => (own.toList.foldl Generated.emit .empty).artifacts := by
  rw [alone, generate_eq, map_eq_pure_bind, Follows.run_bind]
  generalize (visitSubject context task.1 task.2).run.run .start = outcome
  match outcome with
  | (.ok _, _) => rfl
  | (.error _, _) => rfl

/-- Alone, a definition takes identities from zero on. -/
theorem lt_nextId_of_emitted {context : Context} {location : Option String} {subject : Subject}
    {own : Option Generated} {after : BuildState}
    (h : (visitSubject context location subject).run.run .start = (.ok own, after)) :
    ∀ id ∈ (own.toList.foldl Generated.emit .empty).emitted, id < after.nextId := by
  have hfollows := follows_visitSubject 0 location subject .start (fits_empty context.shaper _)
  rw [h] at hfollows
  generalize planSubject context subject = plan at hfollows
  match plan with
  | .error _ => exact hfollows.elim
  | .ok plan =>
    obtain ⟨w, -, hfits, trees, hplanted⟩ := hfollows
    obtain ⟨hsound, -⟩ := sound_emitAll w.distinguished .empty own.toList
      (Emission.sound_empty _) hplanted.has_root
    intro id hid
    rcases (hsound.taken id).1 hid with hopen | hid
    · cases hopen
    · obtain ⟨a, ha, rfl⟩ := List.mem_map.1 hid
      obtain ⟨o, hhas⟩ := hsound.inside a ha
      by_contra hge
      have hnone := hfits.ids a.shape.id (by omega)
      rw [World.Has, hnone] at hhas
      cases hhas

/-- Where a definition stands makes no difference to what is emitted for it. -/
theorem exists_own {context : Context} {task : Option String × Subject} {state after : BuildState}
    {g : Option Generated}
    (h : (visitSubject context task.1 task.2).run.run state = (.ok g, after)) {base : Emission}
    (hbase : ∀ id ∈ base.emitted, id < state.nextId) :
    ∃ own : Emission, alone context task = .ok own.artifacts ∧
      g.toList.foldl Generated.emit base = base.onTop state.nextId own ∧
      ∀ id ∈ (base.onTop state.nextId own).emitted, id < after.nextId := by
  let o : Offset := ⟨state.nextMark, state.nextId⟩
  have hsubject : Option.Rel (fun t t' : Target => t.owner = t'.owner ∧ t.kind = t'.kind ∧
      t.name = t'.name ∧ o.Marks t'.owner
        ⟨none, (Selection.resolve context.table context.config.maxFragmentDepth
          t.selections).value⟩
        ⟨none, (Selection.resolve context.table context.config.maxFragmentDepth
          t'.selections).value⟩)
      (task.2.target? context.schema).value (task.2.target? context.schema).value := by
    cases (task.2.target? context.schema).value with
    | none => exact .none
    | some target =>
      refine .some ⟨rfl, rfl, rfl, ?_⟩
      rw [Offset.Marks, SelectionSet.remarked, (Selection.unmarked_resolve _ _ _).map_remarked]
      rfl
  have hlockstep := lockstep_visitSubject context.providers (o.pairing_marks _ _) hsubject task.1
    state .start ⟨(Nat.zero_add _).symm, (Nat.zero_add _).symm, by simp⟩
  change o.Agree false _ ((visitSubject context task.1 task.2).run.run state)
    ((visitSubject context task.1 task.2).run.run .start) at hlockstep
  rw [h] at hlockstep
  generalize halone : (visitSubject context task.1 task.2).run.run .start = outcome at hlockstep
  obtain ⟨result, fresh⟩ := outcome
  cases result with
  | error fault => exact hlockstep.elim
  | ok own =>
    obtain ⟨hrel, hmoved⟩ := hlockstep
    have hnext : after.nextId = fresh.nextId + state.nextId := hmoved.nextId
    refine ⟨own.toList.foldl Generated.emit .empty, by rw [alone_eq_map, halone]; rfl, ?_, ?_⟩
    · cases hrel with
      | none => simp
      | some hg => simpa using hg.emit hbase .empty
    · intro id hid
      rcases List.mem_append.1 hid with hid | hid
      · obtain ⟨own, hown, rfl⟩ := List.mem_map.1 hid
        have := lt_nextId_of_emitted halone own hown
        omega
      · have := hbase id hid
        omega

/-- A run over some definitions emits what each of them gives alone, one after the other. -/
theorem exists_parts {context : Context} {tasks : List (Option String × Subject)}
    {state after : BuildState} {gs : List Generated}
    (h : (visitSubjects context tasks).run.run state = (.ok gs, after)) {base : Emission}
    (hbase : ∀ id ∈ base.emitted, id < state.nextId) :
    ∃ parts : List (Nat × List Artifact),
      List.Forall₂ (fun task part => alone context task = .ok part.2) tasks parts ∧
      (gs.foldl Generated.emit base).artifacts = base.artifacts ++
        parts.flatMap fun part => part.2.map (Artifact.renumbered (· + part.1)) := by
  induction tasks generalizing state gs base with
  | nil =>
    cases h
    exact ⟨[], .nil, by simp⟩
  | cons task rest ih =>
    obtain ⟨first, between, hfirst, h⟩ := Build.exists_of_run_bind h
    obtain ⟨others, _, hothers, h⟩ := Build.exists_of_run_bind h
    cases h
    obtain ⟨own, halone, hemit, hbound⟩ := exists_own hfirst hbase
    obtain ⟨parts, hparts, hartifacts⟩ := ih hothers hbound
    refine ⟨(state.nextId, own.artifacts) :: parts, .cons halone hparts, ?_⟩
    rw [List.foldl_append, hemit, hartifacts, List.flatMap_cons, ← List.append_assoc]
    rfl

theorem exists_parts_of_generated {providers : Providers} {schema : Schema} {config : Config}
    {sources : List SourceDocument} {gs : List Generated} {after : BuildState}
    (h : (generated providers schema config sources).run.run .start = (.ok gs, after)) :
    ∃ parts : List (Nat × List Artifact),
      List.Forall₂ (fun task part => alone ⟨providers, schema, config,
          (FragmentTable.ofDocuments (sources.map SourceDocument.document)).value⟩ task =
        .ok part.2) (tasks sources) parts ∧
      (gs.foldl Generated.emit .empty).artifacts =
        parts.flatMap fun part => part.2.map (Artifact.renumbered (· + part.1)) := by
  obtain ⟨_, started, -, hrun⟩ := Build.exists_of_run_bind h
  obtain ⟨_, checked, -, hrun⟩ := Build.exists_of_run_bind hrun
  obtain ⟨_, reported, -, hrun⟩ := Build.exists_of_run_bind hrun
  obtain ⟨table, between, htable, hrun⟩ := Build.exists_of_run_bind hrun
  cases htable
  have hnothing : ∀ id ∈ Emission.empty.emitted, id < reported.nextId := by simp [Emission.empty]
  obtain ⟨parts, hparts, hartifacts⟩ := exists_parts hrun hnothing
  exact ⟨parts, hparts, hartifacts⟩

end Run

/-- The definitions of a run do not interfere: the artifacts are those that each definition gives
alone, in the order of the documents and, in a document, fragments before operations. Only the
identities are different: those of a definition are all moved by the same amount. -/
theorem artifacts_of_definitions {providers : Providers} {schema : Schema} {config : Config}
    {sources : List SourceDocument} {artifacts : List Artifact}
    (h : (generateSamples providers schema config sources).result = .ok artifacts) :
    let context : Run.Context := ⟨providers, schema, config,
      (FragmentTable.ofDocuments (sources.map SourceDocument.document)).value⟩
    ∃ parts : List (Nat × List Artifact),
      List.Forall₂ (fun task part => Run.alone context task = .ok part.2) (Run.tasks sources)
        parts ∧
      artifacts = parts.flatMap fun part => part.2.map (Artifact.renumbered (· + part.1)) := by
  intro context
  obtain ⟨gs, after, hgenerated, rfl⟩ := Run.exists_generated h
  exact Run.exists_parts_of_generated hgenerated

/-- Two documents with the same query: all its artifacts are there twice. -/
theorem artifacts_of_definitions_friends : ∃ artifacts,
    (generateSamples Pets.providers Pets.schema .defaults (Pets.friends ++ Pets.friends)).result =
      .ok artifacts ∧
    artifacts.map Artifact.name =
      ["HomeOwnerFriend", "HomeOwnerFriend", "HomeOwner", "HomeQuery",
        "HomeOwnerFriend", "HomeOwnerFriend", "HomeOwner", "HomeQuery"] ∧
    let context : Run.Context := ⟨Pets.providers, Pets.schema, .defaults, (FragmentTable.ofDocuments
      ((Pets.friends ++ Pets.friends).map SourceDocument.document)).value⟩
    ∃ parts : List (Nat × List Artifact),
      List.Forall₂ (fun task part => Run.alone context task = .ok part.2)
        (Run.tasks (Pets.friends ++ Pets.friends)) parts ∧
      artifacts = parts.flatMap fun part => part.2.map (Artifact.renumbered (· + part.1)) := by
  obtain ⟨artifacts, hresult, hnames⟩ := Pets.exists_result (Pets.friends ++ Pets.friends)
    (fun artifacts => artifacts.map Artifact.name ==
      ["HomeOwnerFriend", "HomeOwnerFriend", "HomeOwner", "HomeQuery",
        "HomeOwnerFriend", "HomeOwnerFriend", "HomeOwner", "HomeQuery"])
    (by decide +kernel)
  exact ⟨artifacts, hresult, beq_iff_eq.1 hnames, artifacts_of_definitions hresult⟩

end OperationSamples
