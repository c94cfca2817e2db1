import OperationSamples.Sample.Raw
import OperationSamples.Text.Blank

/-!
Reading a configuration from a plain value.

Every option has two spellings. All options are checked, and all problems are reported together,
each with the path of the value it concerns; a path shows an option in the spelling it is given in.
Options are read generously: whole numbers may be written as texts, as doubles without fraction or
as truth values, and truth values as numbers or by one of several words.
-/

namespace OperationSamples

inductive ConfigProblemKind where
  | extraForbidden
  | invalidKey
  | missing
  | modelType
  | dictType
  | stringType
  | stringUnicode
  | intType
  | intParsing
  | intParsingSize
  | intFromFloat
  | finiteNumber
  | greaterThanEqual
  | boolType
  | boolParsing
  | arguments
deriving DecidableEq, Repr

def ConfigProblemKind.word : ConfigProblemKind → String
  | .extraForbidden => "extra_forbidden"
  | .invalidKey => "invalid_key"
  | .missing => "missing"
  | .modelType => "model_type"
  | .dictType => "dict_type"
  | .stringType => "string_type"
  | .stringUnicode => "string_unicode"
  | .intType => "int_type"
  | .intParsing => "int_parsing"
  | .intParsingSize => "int_parsing_size"
  | .intFromFloat => "int_from_float"
  | .finiteNumber => "finite_number"
  | .greaterThanEqual => "greater_than_equal"
  | .boolType => "bool_type"
  | .boolParsing => "bool_parsing"
  | .arguments => "arguments"

structure ConfigProblem where
  kind : ConfigProblemKind
  path : List String
  /-- As how many problems it is counted. A value that could have been of several kinds counts once
  for each of them. -/
  count : Nat
deriving DecidableEq, Repr

namespace ConfigProblem

def of (path : List String) (kind : ConfigProblemKind) : ConfigProblem := ⟨kind, path, 1⟩

/-- Order by path, then by the word for the kind. -/
def le (a b : ConfigProblem) : Bool :=
  if a.path == b.path then a.kind.word ≤ b.kind.word
  else List.lex a.path b.path (fun s t => decide (s < t))

end ConfigProblem

/-- A value with the problems found in it. The value is meaningful when there are none. -/
structure Checked (α : Type) where
  value : α
  problems : List ConfigProblem
deriving Repr

namespace Checked

def pure {α : Type} (value : α) : Checked α := ⟨value, []⟩

/-- Both values are checked whatever the first one's problems are. -/
def bind {α β : Type} (x : Checked α) (f : α → Checked β) : Checked β :=
  let y := f x.value
  ⟨y.value, x.problems ++ y.problems⟩

instance : Monad Checked where
  pure := Checked.pure
  bind := Checked.bind

def failed {α : Type} (fallback : α) (path : List String) (kind : ConfigProblemKind) : Checked α :=
  ⟨fallback, [ConfigProblem.of path kind]⟩

end Checked

namespace Config

/-! ### Numbers and truth values -/

/-- Digits with single underscores between them. -/
def digitsWithUnderscores : List Char → Option (List Char)
  | [] => none
  | [c] => if c.isDigit then some [c] else none
  | c :: '_' :: rest =>
    if c.isDigit then (digitsWithUnderscores rest).map fun digits => c :: digits else none
  | c :: rest =>
    if c.isDigit then (digitsWithUnderscores rest).map fun digits => c :: digits else none

/-- A text without a fraction that consists of zeros. -/
def withoutZeroFraction (text : List Char) : List Char :=
  let whole := text.takeWhile fun c => c != '.'
  let fraction := (text.dropWhile fun c => c != '.').drop 1
  if !fraction.isEmpty && fraction.all fun c => c == '0' then whole else text

/-- The whole number written by a text without white space around it. -/
def wholeOfText? (text : List Char) : Option Int :=
  let (negative, digits) := Numeral.splitSign (withoutZeroFraction text)
  (digitsWithUnderscores digits).map fun digits =>
    let n : Int := Numeral.natOfDigits digits
    if negative then -n else n

/-- The longest text that is read as a number. -/
def maxNumberLength : Nat := 4300

/-- The numbers of 64 bits with sign. -/
def isWord (n : Int) : Bool := -(Nat.pow 2 63 : Int) ≤ n && n < Nat.pow 2 63

/-- A byte string that is UTF-8 counts as its text. -/
def withText (value : RawValue) : RawValue :=
  match value with
  | .bytes bs => ((Utf8.decode? bs).map RawValue.text).getD value
  | _ => value

/-- The whole number that a double without fraction stands for. It has to be inside the numbers of 64
bits. -/
def wholeOfDouble (x : Double) : Except ConfigProblemKind Int :=
  match x.truncate? with
  | none => .error .finiteNumber
  | some n =>
    if !x.isIntegral then .error .intFromFloat
    else if -(Nat.pow 2 63 : Int) < n && n < Nat.pow 2 63 then .ok n
    else .error .intParsingSize

def checkWhole (path : List String) (value : RawValue) : Checked Int :=
  match withText value with
  | .int n => return n
  | .bool b => return if b then 1 else 0
  | .float x =>
    match wholeOfDouble x with
    | .ok n => return n
    | .error kind => .failed 0 path kind
  | .text s =>
    let trimmed := Text.trimSpaces s.toList
    if maxNumberLength < (String.ofList trimmed).utf8ByteSize then .failed 0 path .intParsingSize
    else
      match wholeOfText? trimmed with
      | some n => return n
      | none => .failed 0 path .intParsing
  | .bytes _ => .failed 0 path .intParsing
  | _ => .failed 0 path .intType

/-- A whole number that is at least `least`. -/
def checkLimit (path : List String) (least : Nat) (value : RawValue) : Checked Nat :=
  let n := checkWhole path value
  if n.problems.isEmpty && n.value < least then .failed least path .greaterThanEqual
  else ⟨n.value.toNat, n.problems⟩

def wordsForTrue : List String := ["1", "on", "t", "true", "y", "yes"]

def wordsForFalse : List String := ["0", "off", "f", "false", "n", "no"]

def checkBool (path : List String) (value : RawValue) : Checked Bool :=
  match withText value with
  | .bool b => return b
  | .int n => ofNumber n
  | .float x =>
    match wholeOfDouble x with
    | .ok n => ofNumber n
    | .error _ => .failed false path .boolType
  | .text s =>
    let word := String.ofList (s.toList.map Char.toLower)
    if wordsForTrue.contains word then return true
    else if wordsForFalse.contains word then return false
    else .failed false path .boolParsing
  | .bytes _ => .failed false path .boolParsing
  | _ => .failed false path .boolType
where
  ofNumber (n : Int) : Checked Bool :=
    if n == 0 then return false
    else if n == 1 then return true
    else .failed false path (if isWord n then .boolParsing else .boolType)

/-- How a key of a mapping is shown in a path. -/
def keyLabel : RawValue → String
  | .text s => s
  | .bool b => if b then "1" else "0"
  | key => key.quotedText

/-! ### Options of an object -/

abbrev Entries := List (RawValue × RawValue)

def valueAt? (entries : Entries) (key : String) : Option RawValue :=
  match entries with
  | [] => none
  | (.text k, value) :: rest => if k == key then some value else valueAt? rest key
  | _ :: rest => valueAt? rest key

/-- An option with its two spellings. The first one counts when both are given. -/
structure OptionKey where
  first : String
  second : String
deriving DecidableEq, Repr

/-- The value of an option, with the spelling it is given in. -/
def OptionKey.find? (key : OptionKey) (entries : Entries) : Option (String × RawValue) :=
  ((valueAt? entries key.first).map fun value => (key.first, value)).orElse fun _ =>
    (valueAt? entries key.second).map fun value => (key.second, value)

/-- Whether a key of the object spells the option. -/
def OptionKey.accepts (key : OptionKey) (entries : Entries) (spelling : String) : Bool :=
  spelling == key.first || (spelling == key.second && (valueAt? entries key.first).isNone)

def extraProblem? (options : List OptionKey) (path : List String) (entries : Entries) :
    RawValue × RawValue → Option ConfigProblem
  | (.text key, _) =>
    if options.any fun option => option.accepts entries key then none
    else some (.of (path ++ [key]) .extraForbidden)
  | (key, _) => some (.of (path ++ [keyLabel key]) .invalidKey)

/-- Reports the keys that no option accepts. -/
def checkExtras (options : List OptionKey) (path : List String) (entries : Entries) :
    Checked Unit :=
  ⟨(), entries.filterMap (extraProblem? options path entries)⟩

/-- An option's value, or the default when it is not given. -/
def checkOption {α : Type} (key : OptionKey) (path : List String) (entries : Entries) (default : α)
    (check : List String → RawValue → Checked α) : Checked α :=
  match key.find? entries with
  | none => return default
  | some (spelling, value) => check (path ++ [spelling]) value

/-! ### Scalars -/

def atom? (value : RawValue) : Option Atom :=
  match withText value with
  | .text s => some (.text s)
  | .int n => some (.int n)
  | .float x => some (.float x)
  | .bool b => some (.bool b)
  | _ => none

/-- The kinds a single argument can have. -/
def atomKinds : Nat := 4

/-- The items of a collection that can serve as a list. -/
def itemsOf? : RawValue → Option (List RawValue)
  | .list items => some items
  | .set items => some items
  | _ => none

/-- Arguments are one value or a list of values. -/
def checkArguments (path : List String) (value : RawValue) : Checked Arguments :=
  match value, itemsOf? value with
  | .null, _ => return .none
  | _, some items =>
    let wrong := items.filter fun item => (atom? item).isNone
    if wrong.isEmpty then return .many (items.filterMap atom?)
    else ⟨.none, [⟨.arguments, path, atomKinds + atomKinds * wrong.length⟩]⟩
  | _, none =>
    match atom? value with
    | some a => return .one a
    | none => ⟨.none, [⟨.arguments, path, atomKinds + 1⟩]⟩

def generatorKey : OptionKey := ⟨"generator", "generator"⟩

def argumentsKey : OptionKey := ⟨"arguments", "arguments"⟩

def checkText (path : List String) (value : RawValue) : Checked String :=
  match withText value with
  | .text s => return s
  | .bytes _ => .failed "" path .stringUnicode
  | _ => .failed "" path .stringType

/-- The generator of an object, which has to be given. -/
def checkGenerator (path : List String) (entries : Entries) : Checked String :=
  match generatorKey.find? entries with
  | none => .failed "" (path ++ [generatorKey.first]) .missing
  | some (spelling, value) => checkText (path ++ [spelling]) value

/-- A generator with its arguments; a text is a generator without arguments. -/
def checkSpec (path : List String) (value : RawValue) : Checked ScalarSpec :=
  match value with
  | .text generator => return ⟨generator, .none⟩
  | .mapping entries => do
    let generator ← checkGenerator path entries
    let arguments ← checkOption argumentsKey path entries .none checkArguments
    checkExtras [generatorKey, argumentsKey] path entries
    return ⟨generator, arguments⟩
  | _ => .failed default path .modelType

def checkScalarEntries (path : List String) : Entries → Checked (List (String × ScalarSpec))
  | [] => return []
  | (key, value) :: rest => do
    let keyPath := path ++ [keyLabel key]
    let name ← checkText (keyPath ++ ["[key]"]) key
    let spec ← checkSpec keyPath value
    let others ← checkScalarEntries path rest
    return (name, spec) :: others

def checkScalars (path : List String) (value : RawValue) : Checked (List (String × ScalarSpec)) :=
  match value with
  | .mapping entries => checkScalarEntries path entries
  | _ => .failed [] path .dictType

/-! ### The whole configuration -/

def scalarsKey : OptionKey := ⟨"scalars", "scalars"⟩

def namingKey : OptionKey := ⟨"naming", "naming"⟩

def suffixKey : OptionKey := ⟨"addOperationSuffix", "add_operation_suffix"⟩

def maxDepthKey : OptionKey := ⟨"maxDepth", "max_depth"⟩

def maxFragmentDepthKey : OptionKey := ⟨"maxFragmentDepth", "max_fragment_depth"⟩

def splitKey : OptionKey := ⟨"splitInterfaceVariants", "split_interface_variants"⟩

/-- The options on names; the only one says whether root names get a suffix. -/
def checkNaming (path : List String) (value : RawValue) : Checked Bool :=
  match value with
  | .mapping entries => do
    let suffix ← checkOption suffixKey path entries defaults.addOperationSuffix checkBool
    checkExtras [suffixKey] path entries
    return suffix
  | _ => .failed defaults.addOperationSuffix path .modelType

def checkRoot (value : RawValue) : Checked Config :=
  match value with
  | .mapping entries => do
    let scalars ← checkOption scalarsKey [] entries [] checkScalars
    let suffix ← checkOption namingKey [] entries defaults.addOperationSuffix checkNaming
    let maxDepth ← checkOption maxDepthKey [] entries defaults.maxDepth fun path => checkLimit path 0
    let maxFragmentDepth ←
      checkOption maxFragmentDepthKey [] entries defaults.maxFragmentDepth fun path =>
        checkLimit path 1
    let split ← checkOption splitKey [] entries defaults.splitInterfaceVariants checkBool
    checkExtras [scalarsKey, namingKey, maxDepthKey, maxFragmentDepthKey, splitKey] [] entries
    return ⟨scalars, suffix, maxDepth, maxFragmentDepth, split⟩
  | _ => .failed defaults [] .modelType

/-- The configuration that a value describes, or its problems in order. -/
def ofRaw (value : RawValue) : Except (List ConfigProblem) Config :=
  let checked := checkRoot value
  if checked.problems.isEmpty then .ok checked.value
  else .error (checked.problems.mergeSort ConfigProblem.le)

end Config

end OperationSamples
