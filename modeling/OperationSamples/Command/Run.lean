import OperationSamples.Command.Options
import OperationSamples.Config.Yaml
import OperationSamples.Console.Markup
import OperationSamples.Files.Load
import OperationSamples.Schema.Issues

/-!
Running commands on a file tree.

A command reads its inputs from the tree and ends with an `Outcome`: the exit code, what was reported,
the lines for the console, and the file to be written. Expected errors are reported and end the
command with code one; a failure of any other kind is passed on.
-/

namespace OperationSamples.Command

/-- Why a file could not be opened for writing. -/
inductive WriteFault where
  | missing
  | notDirectory
  | alreadyFile
  | isDirectory
deriving DecidableEq, Repr

/-- A failure that no command expects. -/
inductive Failure where
  | configuration (fault : Yaml.Fault)
  | load (fault : LoadFault)
  | examination (issue : SchemaIssue)
  | build (fault : BuildFault)
  | write (fault : WriteFault)
  /-- A line for the console has a tag that closes nothing. -/
  | markup
deriving DecidableEq, Repr

/-- What the command line can tell about itself. -/
inductive Information where
  | version
  | help
deriving DecidableEq, Repr

namespace Failure

def message : Failure → String
  | configuration _ => "The configuration holds a value that cannot be read"
  | load .isDirectory | write .isDirectory => "Is a directory"
  | load .undecodable => "A file is not valid UTF-8"
  | load (.syntaxFault fault) | load (.fileSyntaxFault fault) => fault.message
  | load (.schema _) => "The schema is invalid"
  | load (.directiveValue message) => message
  | examination issue => issue.message
  | build _ => "The operations cannot be sampled"
  | write .missing => "No such file or directory"
  | write .notDirectory => "Not a directory"
  | write .alreadyFile => "File exists"
  | markup => "A tag closes what is not open"

end Failure

structure Outcome where
  exit : Nat
  /-- The threshold for reports. -/
  level : Level
  notices : List Notice
  console : List String
  /-- Where the log goes, if a file was opened for it. -/
  logPlace : Option Place
  written : Option (Place × String)
  information : Option Information
  usage : Option UsageError
  failure : Option Failure
deriving Repr

/-! ### Writing -/

/-- Creates the directories along a way and gives the place it ends at. -/
def makeDirectories (tree : FileTree) : Place → List String → Except WriteFault (FileTree × Place)
  | place, [] => .ok (tree, place)
  | place, component :: rest =>
    let next := FileTree.step place component
    match tree.get? next with
    | some .directory => makeDirectories tree next rest
    | some (.file _) => .error (if rest.isEmpty then .alreadyFile else .notDirectory)
    | none => makeDirectories (tree.setEntry next .directory) next rest

/-- The place of a file to be written into a directory that exists. -/
def writablePlace (tree : FileTree) (components : List String) : Except WriteFault Place :=
  match tree.walk [] components with
  | .error .missing => .error .missing
  | .error .notDirectory => .error .notDirectory
  | .ok place => if tree.isDirectoryAt place then .error .isDirectory else .ok place

/-- Where an output goes. Missing directories are created. -/
def outputPlace (tree : FileTree) (p : Path) : Except WriteFault Place := do
  let (tree, _) ← makeDirectories tree [] p.parent.parts
  writablePlace tree p.parts

/-! ### Generating -/

/-- How a command ends early: with a report of the error, or with a failure. -/
inductive Stop where
  | reported
  | failed (failure : Failure)
deriving Repr

abbrev Work := ExceptT Stop Logged

def report (notice : Notice) : Work Unit := ExceptT.lift (Logged.report notice)

/-- Reports an error and stops. -/
def stopWith {α : Type} (notice : Notice) : Work α := do
  report notice
  throw .reported

def ofLoad {α : Type} (load : Load α) : Work α := do
  match ← ExceptT.lift load.run with
  | .ok a => return a
  | .error (.syntaxFault fault) => stopWith (.inputUnreadable fault.message)
  | .error (.directiveValue message) => stopWith (.inputUnreadable message)
  | .error fault => throw (.failed (.load fault))

def configOf (tree : FileTree) (inputs : Inputs) : Work Config := do
  let config ← match inputs.config with
    | none => pure Config.defaults
    | some p =>
      match tree.text p with
      | .error fault => throw (.failed (.load fault))
      | .ok text =>
        match Config.ofYaml text with
        | .ok config => pure config
        | .error (.unreadable .malformed) => stopWith (.configurationRejected "")
        | .error (.unreadable fault) => throw (.failed (.configuration fault))
        | .error fault => stopWith (.configurationRejected fault.reason)
  return { config with
    maxDepth := inputs.maxDepth.getD config.maxDepth
    addOperationSuffix := config.addOperationSuffix && !inputs.noSuffix }

def reportIssues : List SchemaIssue → Work Unit
  | [] => return ()
  | issue :: rest => do
    report (.schemaProblem issue.line)
    reportIssues rest

/-- A schema with issues ends the command. -/
def checkSchema (schema : Schema) : Work Unit := do
  match schema.examine with
  | .error issue => throw (.failed (.examination issue))
  | .ok [] => return ()
  | .ok issues =>
    report .schemaRejected
    reportIssues issues
    stopWith (.schemaProblems issues.length)

def ofRun (outcome : RunOutcome) : Work (List Artifact) := do
  ExceptT.lift ⟨(), outcome.notices⟩
  match outcome.result with
  | .ok artifacts => return artifacts
  | .error (.sample fault) =>
    match fault.message? with
    | some message => stopWith (.configurationFailed message)
    | none => throw (.failed (.build (.sample fault)))
  | .error fault => throw (.failed (.build fault))

/-- The artifacts of the inputs. Directories are searched first, and what was found is looked up
again when it is loaded. -/
def artifactsOf (providers : Providers) (tree : FileTree) (inputs : Inputs) :
    Work (List Artifact) := do
  let config ← configOf tree inputs
  let schema ← ofLoad (tree.loadSchema (tree.graphqlFiles inputs.schemas))
  checkSchema schema
  let sources ← ofLoad (tree.loadDocuments (tree.graphqlFiles inputs.documents))
  ofRun (generateSamples providers schema config sources)

/-! ### Tasks -/

/-- The lines that describe an artifact. -/
def description (a : Artifact) : List String :=
  (a.kind.word ++ ": " ++ a.name ++ " (" ++ a.factory ++ ")")
    :: (if a.dependencyNames.isEmpty then []
        else ["    depends on: " ++ ", ".intercalate a.dependencyNames])

/-- What a task leaves behind: lines for the console, a file, or a request for information. -/
structure Result where
  /-- The lines, unless their markup is wrong. -/
  console : Option (List String)
  written : Option (Place × String)
  information : Option Information
deriving Repr

def inspect (providers : Providers) (tree : FileTree) (inputs : Inputs) : Work Result := do
  let artifacts ← artifactsOf providers tree inputs
  if artifacts.isEmpty then return ⟨some ["No named operations or fragments found"], none, none⟩
  else return ⟨some (artifacts.flatMap description), none, none⟩

def generate (providers : Providers) (tree : FileTree) (inputs : Inputs) (output : Path)
    (format : OutputFormat) : Work Result := do
  let artifacts ← artifactsOf providers tree inputs
  let content ← ExceptT.lift (format.render artifacts)
  match outputPlace tree output with
  | .error fault => throw (.failed (.write fault))
  | .ok place =>
    let line := "[green]✓[/green] Generated " ++ Json.intText artifacts.length ++ " artifact(s) to "
      ++ output.text
    return ⟨Console.render? line, some (place, content), none⟩

def perform (providers : Providers) (tree : FileTree) : Task → Work Result
  | .help => return ⟨some [], none, some .help⟩
  | .inspect inputs => inspect providers tree inputs
  | .generate inputs output format => generate providers tree inputs output format

/-! ### The command line -/

def Information.text : Information → String
  | .version => "opmocks, version 0.1.0\n"
  | .help => "Usage: opmocks [OPTIONS] COMMAND [ARGS]...\n"

/-- An outcome with nothing but an exit code. -/
def Outcome.plain (exit : Nat) : Outcome :=
  ⟨exit, .info, [], [], none, none, none, none, none⟩

def Outcome.refused (outcome : Outcome) (e : UsageError) : Outcome :=
  { outcome with exit := 2, usage := some e }

/-- Opens the log file, which is emptied. Its path is simplified before it is followed. -/
def openLog (tree : FileTree) : Option Path → Except WriteFault (FileTree × Option Place)
  | none => .ok (tree, none)
  | some p => do
    let place ← writablePlace tree (FileTree.simplify p)
    return (tree.setEntry place (.file []), some place)

def performCommand (providers : Providers) (tree : FileTree) (name : CommandName)
    (arguments : List String) (outcome : Outcome) : Outcome :=
  match taskOf tree name arguments with
  | .error e => outcome.refused e
  | .ok task =>
    let work := (perform providers tree task).run
    let outcome := { outcome with notices := work.notices }
    match work.value with
    | .ok result =>
      let outcome := { outcome with written := result.written, information := result.information }
      match result.console with
      | some lines => { outcome with console := lines }
      | none => { outcome with exit := 1, failure := some .markup }
    | .error .reported => { outcome with exit := 1 }
    | .error (.failed failure) => { outcome with exit := 1, failure := some failure }

/-- Runs the command line on a tree. -/
def run (providers : Providers) (tree : FileTree) (arguments : List String) : Outcome :=
  match openingOf tree arguments with
  | .error e => (Outcome.plain 0).refused e
  | .ok .version => { Outcome.plain 0 with information := some .version }
  | .ok .help => { Outcome.plain 0 with information := some .help }
  | .ok (.command level logFile name rest) =>
    match openLog tree logFile with
    | .error fault => { Outcome.plain 1 with failure := some (.write fault) }
    | .ok (tree, place) =>
      performCommand providers tree name rest
        { Outcome.plain 0 with level := level, logPlace := place }

/-- The lines of a log of the given threshold. -/
def logLines (level : Level) (notices : List Notice) : List String :=
  (notices.filter fun n => n.level.reaches level).map fun n =>
    String.ofList (n.level.word.toList.map Char.toUpper) ++ ":" ++ n.message

end OperationSamples.Command
