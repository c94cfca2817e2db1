import OperationSamples.Artifact.Basic
import OperationSamples.Selection.Resolve
import OperationSamples.Shape.Build

/-!
Generating the artifacts of a list of documents.

Fragments are gathered over all documents first, so that a document may spread fragments of another.
Then every document gives the artifacts of its fragments and after them those of its operations. A
definition without a usable root type, or without a name, is reported and left out. A root that has
variants is represented by its variants alone.
-/

namespace OperationSamples

structure SourceDocument where
  document : Document
  location : Option String
deriving Repr

/-- Something that artifacts are generated for: its root type, kind, name and selections. -/
structure Target where
  owner : TypeDef
  kind : ArtifactKind
  name : String
  selections : List Selection
deriving Repr

def OperationKind.artifactKind : OperationKind → ArtifactKind
  | .query => .query
  | .mutation => .mutation
  | .subscription => .subscription

namespace Target

/-- A fragment is generated when its condition is an object or interface type. -/
def ofFragment? (schema : Schema) (f : Fragment) : Logged (Option Target) :=
  match (schema.type? f.condition).filter TypeDef.isComposite with
  | some owner => return some ⟨owner, .fragment, f.name, f.selections⟩
  | none => do
    Logged.report (.fragmentNotComposite f.name f.condition)
    return none

/-- An operation is generated when it has a name and the schema has a root type for it. -/
def ofOperation? (schema : Schema) (o : Operation) : Logged (Option Target) :=
  match o.name with
  | none => do
    Logged.report (.anonymousOperation o.kind.word)
    return none
  | some name =>
    match schema.rootType? o.kind with
    | none => do
      Logged.report (.rootMissing o.kind.word name)
      return none
    | some owner => return some ⟨owner, o.kind.artifactKind, name, o.selections⟩

end Target

namespace Run

/-- A definition of a document that artifacts can be generated for. -/
inductive Subject where
  | fragment (f : Fragment)
  | operation (o : Operation)
deriving Repr

/-- The subjects of a document: fragments come first. -/
def subjects (d : Document) : List Subject :=
  d.fragments.map .fragment ++ d.operations.map .operation

def Subject.target? (schema : Schema) : Subject → Logged (Option Target)
  | .fragment f => Target.ofFragment? schema f
  | .operation o => Target.ofOperation? schema o

/-- The shapes that stand for a root: its variants if it has any. -/
def roots (kind : ArtifactKind) (built : Built) : Logged (List (Shape × ArtifactKind)) :=
  if built.variants.isEmpty then return [(built.shape, kind)]
  else do
    Logged.report (.plainShapeOmitted built.shape.name.qualified built.variants.length)
    return built.variants.map fun v => (v.shape, .variant)

def emitRoots (origin : Provenance) (state : Emission) :
    List (Shape × ArtifactKind) → Emission
  | [] => state
  | (shape, kind) :: rest => emitRoots origin (state.shape origin kind shape) rest

/-- What all definitions of a run share. -/
structure Context where
  providers : Providers
  schema : Schema
  config : Config
  table : FragmentTable

def Context.oracle (context : Context) : Oracle := context.config.oracle context.providers

def Context.shaper (context : Context) : Shaper :=
  ⟨context.schema, context.oracle, context.config.splitInterfaceVariants,
    context.config.maxDepth, true⟩

def rootName (config : Config) (name : String) (kind : ArtifactKind) : Build ShapeName :=
  match ShapeName.root? config.addOperationSuffix name kind with
  | some name => return name
  | none => throw (.unnamed kind)

/-- Adds the artifacts of one definition. -/
def generate (context : Context) (location : Option String) (state : Emission)
    (subject : Subject) : Build Emission := do
  match ← Build.ofLogged (subject.target? context.schema) with
  | none => return state
  | some target =>
    let selections ← Build.ofLogged
      (Selection.resolve context.table context.config.maxFragmentDepth target.selections)
    let name ← rootName context.config target.name target.kind
    let built ← context.shaper.visitRoot target.owner selections name
      (ShapeName.operationName target.name)
    let shapes ← Build.ofLogged (roots target.kind built)
    return emitRoots ⟨target.name, location⟩ state shapes

def generateAll (context : Context) (location : Option String) :
    Emission → List Subject → Build Emission
  | state, [] => return state
  | state, subject :: rest => do
    let state ← generate context location state subject
    generateAll context location state rest

def generateDocuments (context : Context) : Emission → List SourceDocument → Build Emission
  | state, [] => return state
  | state, source :: rest => do
    let state ← generateAll context source.location state (subjects source.document)
    generateDocuments context state rest

/-- A run over some documents. -/
def artifacts (providers : Providers) (schema : Schema) (config : Config)
    (sources : List SourceDocument) : Build (List Artifact) := do
  Build.report (.runStarted sources.length)
  Build.ofSample ((config.oracle providers).checkGenerators)
  Build.report (.generatorsChecked config.scalars.length)
  let table ← Build.ofLogged (FragmentTable.ofDocuments (sources.map SourceDocument.document))
  let state ← generateDocuments ⟨providers, schema, config, table⟩ .empty sources
  Build.report (.runFinished state.artifacts.length)
  return state.artifacts

end Run

/-- What a run ends with, and what it reported. -/
structure RunOutcome where
  result : Except BuildFault (List Artifact)
  notices : List Notice

/-- Generates the artifacts of the documents. -/
def generateSamples (providers : Providers) (schema : Schema) (config : Config)
    (sources : List SourceDocument) : RunOutcome :=
  let (result, state) := (Run.artifacts providers schema config sources).run.run .start
  ⟨result, state.notices⟩

end OperationSamples
