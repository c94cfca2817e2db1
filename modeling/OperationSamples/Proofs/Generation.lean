import OperationSamples.Artifact.Run
import OperationSamples.Proofs.Visit

/-!
What a run builds before anything is emitted.

`Run.generated` goes through the documents as a run does, but collects what is built for each
definition instead of emitting it. A run is this computation followed by the emission of the roots
of everything that was collected.

`Run.plans` is the draft of a run: a function of schema, options and documents that gives the tree
of every definition without identities. A run succeeds where its plans do, and builds what they say.
-/

namespace OperationSamples

namespace Run

/-- A definition that artifacts are generated for, and what was built for it. -/
structure Generated where
  target : Target
  location : Option String
  built : Built

namespace Generated

/-- The shapes that stand for the definition. -/
def roots (g : Generated) : List (Shape × ArtifactKind) := (Run.roots g.target.kind g.built).value

def emit (state : Emission) (g : Generated) : Emission :=
  emitRoots ⟨g.target.name, g.location⟩ state g.roots

end Generated

/-- Builds what a definition stands for. -/
def visitSubject (context : Context) (location : Option String) (subject : Subject) :
    Build (Option Generated) := do
  match ← Build.ofLogged (subject.target? context.schema) with
  | none => return none
  | some target =>
    let selections ← Build.ofLogged
      (Selection.resolve context.table context.config.maxFragmentDepth target.selections)
    let name ← rootName context.config target.name target.kind
    let built ← context.shaper.visitRoot target.owner selections name
      (ShapeName.operationName target.name)
    let _ ← Build.ofLogged (roots target.kind built)
    return some ⟨target, location, built⟩

def visitSubjects (context : Context) : List (Option String × Subject) → Build (List Generated)
  | [] => return []
  | (location, subject) :: rest => do
    let first ← visitSubject context location subject
    let others ← visitSubjects context rest
    return first.toList ++ others

/-- The definitions of some documents, with the locations of the documents. -/
def tasks (sources : List SourceDocument) : List (Option String × Subject) :=
  sources.flatMap fun source => (subjects source.document).map fun s => (source.location, s)

/-- Builds what the documents of a run stand for. -/
def generated (providers : Providers) (schema : Schema) (config : Config)
    (sources : List SourceDocument) :
    Build (List Generated) := do
  Build.report (.runStarted sources.length)
  Build.ofSample ((config.oracle providers).checkGenerators)
  Build.report (.generatorsChecked config.scalars.length)
  let table ← Build.ofLogged (FragmentTable.ofDocuments (sources.map SourceDocument.document))
  visitSubjects ⟨providers, schema, config, table⟩ (tasks sources)

/-! ### A run emits what it builds -/

theorem generate_eq (context : Context) (location : Option String) (state : Emission)
    (subject : Subject) :
    generate context location state subject =
      (fun g => g.toList.foldl Generated.emit state) <$> visitSubject context location subject := by
  unfold generate visitSubject
  rw [map_bind]
  congr 1
  funext target?
  cases target? with
  | none => simp
  | some target =>
    simp only [map_bind, map_pure]
    rfl

theorem visitSubjects_append (context : Context) (first rest : List (Option String × Subject)) :
    visitSubjects context (first ++ rest) = do
      let gs ← visitSubjects context first
      let others ← visitSubjects context rest
      return gs ++ others := by
  induction first with
  | nil => simp [visitSubjects]
  | cons task first ih =>
    simp only [List.cons_append, visitSubjects, ih, bind_assoc, pure_bind, List.append_assoc]

theorem generateAll_eq (context : Context) (location : Option String) (state : Emission)
    (subjects : List Subject) :
    generateAll context location state subjects =
      (fun gs => gs.foldl Generated.emit state) <$>
        visitSubjects context (subjects.map fun s => (location, s)) := by
  induction subjects generalizing state with
  | nil => simp [generateAll, visitSubjects]
  | cons subject rest ih =>
    simp [generateAll, visitSubjects, generate_eq, ih, List.foldl_append]

theorem generateDocuments_eq (context : Context) (state : Emission)
    (sources : List SourceDocument) :
    generateDocuments context state sources =
      (fun gs => gs.foldl Generated.emit state) <$> visitSubjects context (tasks sources) := by
  induction sources generalizing state with
  | nil => simp [generateDocuments, tasks, visitSubjects]
  | cons source rest ih =>
    have htasks : tasks (source :: rest) =
        (subjects source.document).map (fun s => (source.location, s)) ++ tasks rest := rfl
    simp [generateDocuments, htasks, visitSubjects_append, generateAll_eq, ih, List.foldl_append]

theorem artifacts_eq (providers : Providers) (schema : Schema) (config : Config)
    (sources : List SourceDocument) :
    artifacts providers schema config sources = do
      let gs ← generated providers schema config sources
      let state := gs.foldl Generated.emit .empty
      Build.report (.runFinished state.artifacts.length)
      return state.artifacts := by
  simp [artifacts, generated, generateDocuments_eq]

/-- The artifacts of a run are what is emitted for everything that the run builds. -/
theorem exists_generated {providers : Providers} {schema : Schema} {config : Config}
    {sources : List SourceDocument}
    {emitted : List Artifact}
    (h : (generateSamples providers schema config sources).result = .ok emitted) :
    ∃ gs after, (generated providers schema config sources).run.run .start = (.ok gs, after) ∧
      emitted = (gs.foldl Generated.emit .empty).artifacts := by
  have hrun : ((artifacts providers schema config sources).run.run .start).1 = .ok emitted := h
  rw [artifacts_eq, Follows.run_bind] at hrun
  generalize (generated providers schema config sources).run.run .start = outcome at hrun
  match outcome with
  | (.ok gs, after) => exact ⟨gs, after, rfl, (Except.ok.inj hrun).symm⟩
  | (.error fault, after) => cases hrun

/-! ### Plans -/

/-- The tree of a definition that artifacts are generated for. -/
def planSubject (context : Context) (subject : Subject) : Except BuildFault (Option VisitTree) :=
  match (subject.target? context.schema).value with
  | none => .ok none
  | some target =>
    let selections := (Selection.resolve context.table context.config.maxFragmentDepth
      target.selections).value
    match ShapeName.root? context.config.addOperationSuffix target.name target.kind with
    | none => .error (.unnamed target.kind)
    | some name => do
      let tree ← context.shaper.draft context.shaper.maxDepth
        (.ofRoot target.owner selections name (ShapeName.operationName target.name))
      return some tree

def planSubjects (context : Context) :
    List (Option String × Subject) → Except BuildFault (List VisitTree)
  | [] => .ok []
  | (_, subject) :: rest => do
    let first ← planSubject context subject
    let others ← planSubjects context rest
    return first.toList ++ others

/-- The trees of all definitions of a run. -/
def plans (providers : Providers) (schema : Schema) (config : Config)
    (sources : List SourceDocument) :
    Except BuildFault (List VisitTree) := do
  ((config.oracle providers).checkGenerators).mapError BuildFault.sample
  planSubjects ⟨providers, schema, config,
    (FragmentTable.ofDocuments (sources.map SourceDocument.document)).value⟩ (tasks sources)

/-- A tree that was built for a definition, at the address of a root. -/
structure Planted (w : World) (number : Nat) (address : Address) (t : VisitTree) : Prop where
  keys : address.keys = []
  name : address.name.Proper
  stem : startsSmall address.stem.toList = false
  grown : Grown number w address none t

theorem Planted.mono {older newer : World} {number : Nat} {address : Address} {t : VisitTree}
    (h : Planted older number address t) (hle : older.Within newer) :
    Planted newer number address t :=
  { h with grown := h.grown.mono hle }

/-- The trees of the definitions from `start` on are on record; they hold what was built, and are
the plans when identities are left aside. -/
structure PlantedAll (start : Nat) (w : World) (trees : List (Address × VisitTree))
    (gs : List Generated) (plans : List VisitTree) : Prop where
  built : gs.map Generated.built = trees.map fun e => e.2.built
  plans : plans = trees.map fun e => e.2.unnumbered
  planted : ∀ i e, trees[i]? = some e → Planted w (start + i) e.1 e.2

theorem PlantedAll.mono {start : Nat} {older newer : World} {trees : List (Address × VisitTree)}
    {gs : List Generated} {plans : List VisitTree} (h : PlantedAll start older trees gs plans)
    (hle : older.Within newer) : PlantedAll start newer trees gs plans :=
  { h with planted := fun i e he => (h.planted i e he).mono hle }

theorem PlantedAll.append {start : Nat} {w : World} {trees more : List (Address × VisitTree)}
    {gs others : List Generated} {plans rest : List VisitTree}
    (h : PlantedAll start w trees gs plans)
    (h' : PlantedAll (start + trees.length) w more others rest) :
    PlantedAll start w (trees ++ more) (gs ++ others) (plans ++ rest) := by
  refine ⟨by simp [h.built, h'.built], by simp [h.plans, h'.plans], ?_⟩
  intro i e he
  by_cases hi : i < trees.length
  · rw [List.getElem?_append_left hi] at he
    exact h.planted i e he
  · rw [List.getElem?_append_right (by omega)] at he
    have hnumber : start + trees.length + (i - trees.length) = start + i := by omega
    have hplanted := h'.planted _ e he
    rwa [hnumber] at hplanted

section Following

variable {w : World} {context : Context}

theorem follows_visitSubject (start : Nat) (location : Option String) (subject : Subject) :
    Follows context.shaper none w (visitSubject context location subject)
      (planSubject context subject)
      fun w' g plan => ∃ trees, PlantedAll start w' trees g.toList plan.toList := by
  unfold visitSubject planSubject
  refine Follows.logged ?_
  cases (subject.target? context.schema).value with
  | none => exact Follows.pure ⟨[], rfl, rfl, by simp⟩
  | some target =>
    refine Follows.logged ?_
    dsimp only
    unfold rootName
    cases hname : ShapeName.root? context.config.addOperationSuffix target.name target.kind with
    | none => exact Follows.throw _
    | some name =>
      simp only [pure_bind]
      refine Follows.bind (Follows.visitRoot start (Selection.unmarked_resolve _ _ _)) ?_
      rintro w₁ _ _ - - ⟨⟨tree, rfl, rfl, hgrown⟩, -⟩
      let address : Address := ⟨name, ShapeName.operationName target.name, []⟩
      have hplanted : Planted w₁ start address tree :=
        ⟨rfl, ShapeName.proper_root hname, ShapeName.startsSmall_operationName target.name, hgrown⟩
      refine Follows.logged (Follows.pure ⟨[(address, tree)], rfl, rfl, ?_⟩)
      intro i e he
      cases i with
      | zero =>
        cases he
        exact hplanted
      | succ i => cases he

theorem follows_visitSubjects (tasks : List (Option String × Subject)) (start : Nat) :
    Follows context.shaper none w (visitSubjects context tasks) (planSubjects context tasks)
      fun w' gs plans => ∃ trees, PlantedAll start w' trees gs plans := by
  induction tasks generalizing w start with
  | nil => exact Follows.pure ⟨[], rfl, rfl, by simp⟩
  | cons task rest ih =>
    obtain ⟨location, subject⟩ := task
    refine Follows.bind (follows_visitSubject start location subject) ?_
    rintro w₁ first plan - - ⟨trees, hfirst⟩
    refine Follows.bind (ih (start + trees.length)) ?_
    rintro w₂ others plans hw₂ - ⟨more, hothers⟩
    exact Follows.pure ⟨trees ++ more, (hfirst.mono hw₂).append hothers⟩

end Following

/-- A run builds what its plans say, and nothing if they fail. -/
theorem follows_generated (providers : Providers) (schema : Schema) (config : Config)
    (sources : List SourceDocument) :
    let context : Context := ⟨providers, schema, config,
      (FragmentTable.ofDocuments (sources.map SourceDocument.document)).value⟩
    Follows context.shaper none .empty (generated providers schema config sources)
      (plans providers schema config sources)
      fun w gs ps => ∃ trees, PlantedAll 0 w trees gs ps := by
  intro context
  unfold generated plans
  refine Follows.step (Follows.note _) ?_
  rintro _ _ - rfl
  refine Follows.bind (Follows.ofSample _) ?_
  rintro _ _ _ - - ⟨rfl, rfl⟩
  refine Follows.step (Follows.note _) ?_
  rintro _ _ - rfl
  refine Follows.logged ?_
  exact follows_visitSubjects (tasks sources) 0

end Run

end OperationSamples
