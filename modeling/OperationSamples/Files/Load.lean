import OperationSamples.Artifact.Run
import OperationSamples.Document.Parser
import OperationSamples.Files.Search
import OperationSamples.Notice
import OperationSamples.Schema.Build
import OperationSamples.Text.Blank
import OperationSamples.Text.Newline
import OperationSamples.Text.Utf8

/-!
Loading schemas and documents from files.

Files are UTF-8. The files of a schema are checked one by one before they are put together. A
document without content is passed over.
-/

namespace OperationSamples

/-- Why something could not be loaded. -/
inductive LoadFault where
  | isDirectory
  | undecodable
  | syntaxFault (fault : SyntaxFault)
  /-- A file of a schema is malformed. -/
  | fileSyntaxFault (fault : SyntaxFault)
  | schema (faults : List SchemaFault)
  /-- An argument of a directive in the schema does not fit; the message says which. -/
  | directiveValue (message : String)
deriving DecidableEq, Repr

/-- Loading can report and can fail. -/
abbrev Load := ExceptT LoadFault Logged

namespace FileTree

/-- The text at a place. -/
def textAt (tree : FileTree) (place : Place) : Except LoadFault String :=
  match tree.get? place with
  | some (.file bytes) =>
    match Utf8.decode? bytes with
    | some text => .ok (String.ofList (Text.unifyNewlines text.toList))
    | none => .error .undecodable
  | _ => .error .isDirectory

def text (tree : FileTree) (p : Path) : Except LoadFault String :=
  match tree.locate? p with
  | some place => tree.textAt place
  | none => .error .isDirectory

/-! ### Schemas -/

/-- The text of one file of a schema, which must be well-formed on its own. -/
def schemaFile (tree : FileTree) (place : Place) : Except LoadFault String := do
  let text ← tree.textAt place
  match Document.parse text with
  | .ok _ => return text
  | .error fault => throw (.fileSyntaxFault fault)

def schemaSuffixes : List String := [".graphql", ".graphqls", ".gql"]

/-- The files of a schema inside a directory, by their full texts. -/
def schemaFilesIn (tree : FileTree) (place : Place) : List Place :=
  let inside := (tree.below place).filter fun way =>
    hasSuffix schemaSuffixes (String.ofList ((way.getLastD "").toList.map Char.toLower))
  let files := (inside.map fun way => place ++ way).filter tree.isFileAt
  files.mergeSort fun a b => "/".intercalate a ≤ "/".intercalate b

/-- The schema text that a found path stands for. A directory can be found too, by its name. -/
def schemaPart (tree : FileTree) (p : Path) : Except LoadFault String :=
  match tree.locate? p with
  | none => .error .isDirectory
  | some place =>
    if tree.isDirectoryAt place then do
      return "\n".intercalate (← (tree.schemaFilesIn place).mapM tree.schemaFile)
    else tree.schemaFile place

def loadSchema (tree : FileTree) (paths : List Path) : Load Schema := do
  let parts ← ((tree.graphqlFiles paths).mapM tree.schemaPart : Except LoadFault _)
  match Schema.parse ("\n".intercalate parts) false with
  | .ok schema =>
    ExceptT.lift (Logged.report .schemaBuilt)
    return schema
  | .error (.syntaxFault fault) => throw (.syntaxFault fault)
  | .error (.invalid faults) => throw (.schema faults)
  | .error (.directiveValue owner argument reason) =>
    throw (.directiveValue (SchemaError.directiveMessage owner argument reason))

/-! ### Documents -/

/-- The document of a file, none if the file has no content. -/
def loadDocument (tree : FileTree) (p : Path) : Except LoadFault (Option SourceDocument) := do
  let text ← tree.text p
  if (Text.trimBlanks text.toList).isEmpty then return none
  else
    match Document.parse text with
    | .ok document => return some ⟨document, some p.text⟩
    | .error fault => throw (.syntaxFault fault)

def loadDocuments (tree : FileTree) (paths : List Path) : Load (List SourceDocument) := do
  let found ← ((tree.graphqlFiles paths).mapM tree.loadDocument : Except LoadFault _)
  let documents := found.filterMap id
  ExceptT.lift (Logged.report (.documentsLoaded documents.length))
  return documents

end FileTree

end OperationSamples
