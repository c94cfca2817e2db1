import OperationSamples.Shape.Basic

/-!
Artifacts: shapes in the order in which they are emitted.

`Emission.shape` emits a shape after everything it refers to, and each shape once. A shape that is
met through another is a nested shape; it keeps the operation and the location of the root that
brought it in first.
-/

namespace OperationSamples

structure Artifact where
  kind : ArtifactKind
  shape : Shape
  operation : String
  location : Option String
deriving Repr, Inhabited

namespace Artifact

def name (a : Artifact) : String := a.shape.name.qualified

def factory (a : Artifact) : String := a.shape.name.factory

/-- The names of the shapes it refers to, with repetitions. -/
def dependencyNames (a : Artifact) : List String := a.shape.dependencies.map fun s => s.name.qualified

def value (a : Artifact) : List (String × Sample) := a.shape.value

end Artifact

/-- The artifacts emitted so far, and the identities of their shapes. -/
structure Emission where
  emitted : List Nat
  artifacts : List Artifact
deriving Repr

/-- Where a root shape comes from. -/
structure Provenance where
  operation : String
  location : Option String
deriving DecidableEq, Repr

namespace Emission

def empty : Emission := ⟨[], []⟩

mutual

def shape (origin : Provenance) (kind : ArtifactKind) (state : Emission) : Shape → Emission
  | ⟨id, name, typeName, path, depth, fields, value, dependencies⟩ =>
    if state.emitted.contains id then state
    else
      let state := shapes origin { state with emitted := id :: state.emitted } dependencies
      { state with
        artifacts := state.artifacts ++
          [⟨kind, ⟨id, name, typeName, path, depth, fields, value, dependencies⟩,
            origin.operation, origin.location⟩] }

def shapes (origin : Provenance) (state : Emission) : List Shape → Emission
  | [] => state
  | s :: rest => shapes origin (shape origin .nestedShape state s) rest

end

end Emission

end OperationSamples
