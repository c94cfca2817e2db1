import OperationSamples.Artifact.TypeScript

/-!
Artifacts as a JSON document, and the choice between the two output formats.
-/

namespace OperationSamples

namespace Artifact

/-- The description of a field. -/
def fieldJson (field : Field Shape) : Json := .obj [
  ("name", .str field.name),
  ("kind", .str field.content.word),
  ("type", .str (TypeScript.fieldType (TypeScript.named field))),
  ("nullable", .bool field.isNullable),
  ("list", .bool field.isList)]

/-- The description of an artifact. -/
def toJson (a : Artifact) : Json := .obj [
  ("name", .str a.name),
  ("factory", .str a.factory),
  ("kind", .str a.kind.word),
  ("operation", .str a.operation),
  ("location", Json.ofOption .str a.location),
  ("dependencies", Json.ofStrings a.dependencyNames),
  ("fields", .arr (a.shape.fields.map fieldJson)),
  ("sample", (Sample.obj a.value).toJson)]

end Artifact

inductive OutputFormat where
  | typescript
  | json
deriving DecidableEq, Repr, Inhabited

namespace OutputFormat

def word : OutputFormat → String
  | .typescript => "typescript"
  | .json => "json"

def ofWord? (word : String) : Option OutputFormat :=
  [OutputFormat.typescript, .json].find? fun format => format.word == word

/-- The text of some artifacts in a format. -/
def render (format : OutputFormat) (artifacts : List Artifact) : Logged String :=
  match format with
  | .json => return Json.indented .plain (.arr (artifacts.map Artifact.toJson)) ++ "\n"
  | .typescript => do
    if artifacts.isEmpty then Logged.report .nothingToRender
    return TypeScript.module artifacts

end OutputFormat

end OperationSamples
