import OperationSamples.Artifact.Document
import OperationSamples.Config.Check
import OperationSamples.Files.Tree
import OperationSamples.Notice

/-!
The options of the command line.

General options come first, then the name of a command, then its options. An option is written in
its long form, its value after an equals sign or as the next argument, or in its short form, its
value attached or as the next argument. Everything that is wrong with the arguments is a usage error.
-/

namespace OperationSamples.Command

inductive UsageError where
  | unknownOption (name : String)
  | missingValue (name : String)
  | unexpectedValue (name : String)
  | unexpectedArgument (text : String)
  | unknownCommand (name : String)
  | missingCommand
  | missingOption (name : String)
  | badValue (name text : String)
deriving DecidableEq, Repr

namespace UsageError

def message : UsageError → String
  | unknownOption name => "No such option: " ++ name
  | missingValue name => "Option '--" ++ name ++ "' requires an argument."
  | unexpectedValue name => "Option '--" ++ name ++ "' does not take a value."
  | unexpectedArgument text => "Got unexpected extra argument (" ++ text ++ ")"
  | unknownCommand name => "No such command '" ++ name ++ "'."
  | missingCommand => "Missing command."
  | missingOption name => "Missing option '--" ++ name ++ "'."
  | badValue name text => "Invalid value for '--" ++ name ++ "': " ++ text

end UsageError

/-- An option by its long name, its short name, and whether it takes a value. -/
structure OptionSpec where
  name : String
  short : Option Char
  takesValue : Bool
deriving DecidableEq, Repr

/-- Options as given, in order, and the arguments that are none. -/
structure Scanned where
  options : List (String × String)
  arguments : List String
deriving DecidableEq, Repr

/-! ### Scanning -/

/-- A long option and the value after its equals sign. -/
def splitValue (text : List Char) : List Char × Option (List Char) :=
  let name := text.takeWhile fun c => c != '='
  match text.dropWhile fun c => c != '=' with
  | [] => (name, none)
  | _ :: value => (name, some value)

/-- What an argument that starts with a dash says: options with their values, or an option that takes
the next argument. -/
inductive Dashed where
  | complete (options : List (String × String))
  | awaiting (options : List (String × String)) (name : String)
deriving DecidableEq, Repr

def scanLong (specs : List OptionSpec) (text : List Char) : Except UsageError Dashed :=
  let (name, value) := splitValue text
  let name := String.ofList name
  match specs.find? fun spec => spec.name == name with
  | none => .error (.unknownOption name)
  | some spec =>
    match spec.takesValue, value with
    | true, some value => .ok (.complete [(name, String.ofList value)])
    | true, none => .ok (.awaiting [] name)
    | false, some _ => .error (.unexpectedValue name)
    | false, none => .ok (.complete [(name, "")])

/-- Short options may be written together; the first that takes a value takes the rest. -/
def scanShort (specs : List OptionSpec) (found : List (String × String)) :
    List Char → Except UsageError Dashed
  | [] => .ok (.complete found)
  | c :: rest =>
    match specs.find? fun spec => spec.short == some c with
    | none => .error (.unknownOption (String.ofList [c]))
    | some spec =>
      if !spec.takesValue then scanShort specs (found ++ [(spec.name, "")]) rest
      else if rest.isEmpty then .ok (.awaiting found spec.name)
      else .ok (.complete (found ++ [(spec.name, String.ofList rest)]))

def scanDashed (specs : List OptionSpec) (argument : String) : Except UsageError Dashed :=
  match argument.toList with
  | '-' :: '-' :: text => scanLong specs text
  | '-' :: text => scanShort specs [] text
  | _ => .error (.unexpectedArgument argument)

def isDashed (argument : String) : Bool := argument.startsWith "-" && argument != "-"

/-- Scans arguments for options. Unless `mixed`, the first argument that is no option ends them. -/
def scan (specs : List OptionSpec) (mixed : Bool) (scanned : Scanned) :
    List String → Except UsageError Scanned
  | [] => .ok scanned
  | argument :: rest =>
    if argument == "--" then .ok { scanned with arguments := scanned.arguments ++ rest }
    else if isDashed argument then
      match scanDashed specs argument with
      | .error e => .error e
      | .ok (.complete options) =>
        scan specs mixed { scanned with options := scanned.options ++ options } rest
      | .ok (.awaiting options name) =>
        match rest with
        | [] => .error (.missingValue name)
        | value :: rest =>
          scan specs mixed { scanned with options := scanned.options ++ options ++ [(name, value)] }
            rest
    else if mixed then
      scan specs mixed { scanned with arguments := scanned.arguments ++ [argument] } rest
    else .ok { scanned with arguments := scanned.arguments ++ argument :: rest }

/-- All values of an option. -/
def Scanned.values (scanned : Scanned) (name : String) : List String :=
  (scanned.options.filter fun option => option.1 == name).map Prod.snd

/-- The last value of an option. -/
def Scanned.value? (scanned : Scanned) (name : String) : Option String :=
  (scanned.values name).getLast?

def Scanned.has (scanned : Scanned) (name : String) : Bool := !(scanned.values name).isEmpty

/-! ### Values -/

/-- Whether a text ends where only a directory can be meant. -/
def meansDirectory (text : String) : Bool := text.endsWith "/" || text.endsWith "/."

/-- The place that the text of an option leads to. -/
def existing? (tree : FileTree) (text : String) : Option Place :=
  if text.isEmpty then none
  else (tree.locate? (Path.ofText text)).filter fun place =>
    !meansDirectory text || tree.isDirectoryAt place

/-- Paths that must exist, at least one. -/
def existingPaths (tree : FileTree) (scanned : Scanned) (name : String) :
    Except UsageError (List Path) :=
  match scanned.values name with
  | [] => .error (.missingOption name)
  | values => values.mapM fun text =>
    match existing? tree text with
    | some _ => .ok (Path.ofText text)
    | none => .error (.badValue name text)

/-- A file that must exist, if the option is given. -/
def existingFile? (tree : FileTree) (scanned : Scanned) (name : String) :
    Except UsageError (Option Path) :=
  match scanned.value? name with
  | none => .ok none
  | some text =>
    match existing? tree text with
    | some place =>
      if tree.isFileAt place then .ok (some (Path.ofText text)) else .error (.badValue name text)
    | none => .error (.badValue name text)

/-- A file to be written, which must not be a directory. -/
def outputFile (tree : FileTree) (name text : String) : Except UsageError Path :=
  if (existing? tree text).any tree.isDirectoryAt then .error (.badValue name text)
  else .ok (Path.ofText text)

/-- The word among those of a choice that a text stands for, whatever its case. -/
def choice (text : String) : String := String.ofList (Text.foldText text.toList)

def levelOf (scanned : Scanned) : Except UsageError Level :=
  match scanned.value? "log-level" with
  | none => .ok .info
  | some text =>
    match Level.ofWord? (choice text) with
    | some level => .ok level
    | none => .error (.badValue "log-level" text)

def formatOf (scanned : Scanned) : Except UsageError OutputFormat :=
  match scanned.value? "format" with
  | none => .ok .typescript
  | some text =>
    match OutputFormat.ofWord? (choice text) with
    | some format => .ok format
    | none => .error (.badValue "format" text)

/-- A depth is a number that is not negative. -/
def depthOf (scanned : Scanned) : Except UsageError (Option Nat) :=
  match scanned.value? "max-depth" with
  | none => .ok none
  | some text =>
    match Numeral.whole? text.toList with
    | some n => if n < 0 then .error (.badValue "max-depth" text) else .ok (some n.toNat)
    | none => .error (.badValue "max-depth" text)

/-! ### Commands -/

def generalSpecs : List OptionSpec := [
  ⟨"log-level", some 'l', true⟩, ⟨"log-file", none, true⟩, ⟨"version", none, false⟩,
  ⟨"help", none, false⟩]

def inspectSpecs : List OptionSpec := [
  ⟨"schema", some 's', true⟩, ⟨"documents", some 'd', true⟩, ⟨"config", some 'c', true⟩,
  ⟨"max-depth", none, true⟩, ⟨"help", none, false⟩]

def generateSpecs : List OptionSpec := inspectSpecs ++ [
  ⟨"output", some 'o', true⟩, ⟨"format", some 'f', true⟩,
  ⟨"no-operation-suffix", none, false⟩]

/-- What both commands need. -/
structure Inputs where
  schemas : List Path
  documents : List Path
  config : Option Path
  maxDepth : Option Nat
  noSuffix : Bool
deriving Repr

/-- A command with its options, or a request for help. -/
inductive Task where
  | generate (inputs : Inputs) (output : Path) (format : OutputFormat)
  | inspect (inputs : Inputs)
  | help
deriving Repr

inductive CommandName where
  | generate
  | inspect
deriving DecidableEq, Repr

def CommandName.ofWord? : String → Option CommandName
  | "generate" => some .generate
  | "inspect" => some .inspect
  | _ => none

def CommandName.specs : CommandName → List OptionSpec
  | .generate => generateSpecs
  | .inspect => inspectSpecs

def inputsOf (tree : FileTree) (scanned : Scanned) : Except UsageError Inputs := do
  let schemas ← existingPaths tree scanned "schema"
  let documents ← existingPaths tree scanned "documents"
  let config ← existingFile? tree scanned "config"
  let maxDepth ← depthOf scanned
  return ⟨schemas, documents, config, maxDepth, scanned.has "no-operation-suffix"⟩

/-- The task that the arguments after the name of a command describe. -/
def taskOf (tree : FileTree) (name : CommandName) (arguments : List String) :
    Except UsageError Task := do
  let scanned ← scan name.specs true ⟨[], []⟩ arguments
  if scanned.has "help" then return .help
  let inputs ← inputsOf tree scanned
  let task ← match name with
    | .inspect => pure (.inspect inputs)
    | .generate => do
      let output ← match scanned.value? "output" with
        | some text => outputFile tree "output" text
        | none => throw (.missingOption "output")
      let format ← formatOf scanned
      pure (Task.generate inputs output format)
  match scanned.arguments with
  | [] => return task
  | extra :: _ => throw (.unexpectedArgument extra)

/-- What the general options ask for: information, or a command. -/
inductive Opening where
  | version
  | help
  | command (level : Level) (logFile : Option Path) (name : CommandName) (arguments : List String)
deriving Repr

def openingOf (tree : FileTree) (arguments : List String) : Except UsageError Opening := do
  let scanned ← scan generalSpecs false ⟨[], []⟩ arguments
  match (scanned.options.filter fun option => option.1 == "version" || option.1 == "help").head? with
  | some ("version", _) => return .version
  | some _ => return .help
  | none =>
    let level ← levelOf scanned
    let logFile ← match scanned.value? "log-file" with
      | none => pure none
      | some text => some <$> outputFile tree "log-file" text
    match scanned.arguments with
    | [] => throw .missingCommand
    | word :: rest =>
      match CommandName.ofWord? word with
      | some name => return .command level logFile name rest
      | none => throw (.unknownCommand word)

/-- The paths that the named options give, whether they exist or not. -/
def pathsGiven (names : List String) (arguments : List String) : List Path :=
  match scan generalSpecs false ⟨[], []⟩ arguments with
  | .error _ => []
  | .ok general =>
    let own := match general.arguments with
      | [] => []
      | word :: rest =>
        match CommandName.ofWord? word with
        | none => []
        | some name =>
          match scan name.specs true ⟨[], []⟩ rest with
          | .ok scanned => scanned.options
          | .error _ => []
    ((general.options ++ own).filter fun option => names.contains option.1).map fun option =>
      Path.ofText option.2

end OperationSamples.Command
