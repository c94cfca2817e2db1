import OperationSamples.Random.Checksum
import OperationSamples.Sample.Generator
import OperationSamples.Sample.Pattern

/-!
Sample values of scalars.

A value depends on the scalar, the type that owns the field and the path of the field, and on
nothing else: the generator is seeded afresh from a checksum of the three. A scalar that the
configuration gives a generator for has its value from a provider, the built-in scalars have draws
of their own, and any other scalar is sampled by its name.

A provider may raise an exception. Those that are handled become a report of bad arguments. The
other ones leave the run, and so does what goes wrong after the call: arguments that the report
cannot show, and a value that has no JSON form.
-/

namespace OperationSamples

/-- Where a scalar stands. -/
structure ScalarPlace where
  scalar : String
  owner : String
  path : String
deriving DecidableEq, Repr

def ScalarPlace.seed (place : ScalarPlace) : UInt32 :=
  Checksum.ofText (place.scalar ++ ":" ++ place.owner ++ ":" ++ place.path)

/-- Why a scalar has no sample. -/
inductive SampleFault where
  | unknownGenerator (generator scalar : String)
  | badArguments (arguments : Arguments) (generator scalar : String)
  /-- Bad arguments that cannot be shown. -/
  | unwritable (arguments : Arguments)
  /-- An exception that is not handled. -/
  | escaped (exception : ProviderException)
  /-- A value without a JSON form. -/
  | unconvertible
deriving DecidableEq, Repr

/-- Faults of the configuration have a message; the others are failures that nothing reports. -/
def SampleFault.message? : SampleFault → Option String
  | .unknownGenerator g s => some ("Invalid generator \"" ++ g ++ "\" for scalar \"" ++ s ++ "\"")
  | .badArguments a g s =>
    some ("Invalid arguments " ++ a.display ++ " for generator \"" ++ g ++ "\" of scalar \"" ++ s
      ++ "\"")
  | .unwritable _ => none
  | .escaped _ => none
  | .unconvertible => none

namespace Scalar

/-- The draws of the built-in scalars. -/
def builtin? (name : String) : Option (Draw Json) :=
  match name with
  | "ID" => some do return .str (← Generator.identifier)
  | "String" => some do return .str (← Generator.sentenceOf (.int 6) true (pure sampleWords))
  | "Int" => some do return .int (← Draw.between 0 1000)
  | "Float" => some do return .float (← Generator.double 3 2 (some (.bool true)))
  | "Boolean" => some (return .bool true)
  | _ => none

def isBuiltin (name : String) : Bool := ["ID", "String", "Int", "Float", "Boolean"].contains name

/-- What stands for a scalar that nothing is known about. -/
def placeholder (name : String) : Json := .str (String.ofList (Text.lowerText name.toList) ++ "-mock")

/-- The generators whose first argument is a date pattern. -/
def patternGenerators : List String := ["date", "time"]

end Scalar

/-- The arguments that a generator is called with. -/
def ScalarSpec.callArguments (spec : ScalarSpec) : List Atom :=
  match spec.arguments.positional with
  | .text pattern :: rest =>
    if Scalar.patternGenerators.contains spec.generator then
      .text (DatePattern.directives pattern) :: rest
    else .text pattern :: rest
  | arguments => arguments

/-- Where the samples of scalars come from. -/
structure Oracle where
  providers : Providers
  /-- The scalars that have a generator. -/
  scalars : List (String × ScalarSpec)

def Config.oracle (config : Config) (providers : Providers) : Oracle := ⟨providers, config.scalars⟩

namespace Oracle

/-- The first scalar whose generator is not known. -/
def checkGenerators (oracle : Oracle) : Except SampleFault Unit :=
  match oracle.scalars.find? fun entry => !oracle.providers.accepts entry.2.generator with
  | some (scalar, spec) => .error (.unknownGenerator spec.generator scalar)
  | none => .ok ()

/-- What becomes of an exception that a generator raises. -/
def faultOf (scalar : String) (spec : ScalarSpec) (exception : ProviderException) : SampleFault :=
  if !exception.isHandled then .escaped exception
  else if !spec.arguments.isWritable then .unwritable spec.arguments
  else .badArguments spec.arguments spec.generator scalar

/-- The value of a scalar with a generator. -/
def generate (oracle : Oracle) (place : ScalarPlace) (spec : ScalarSpec) :
    Except SampleFault Json :=
  match oracle.providers.call place.seed spec.generator spec.callArguments with
  | .error exception => .error (faultOf place.scalar spec exception)
  | .ok value =>
    match value.toJson? with
    | some json => .ok json
    | none => .error .unconvertible

/-- The sample value of a scalar at its place. -/
def sample (oracle : Oracle) (place : ScalarPlace) : Except SampleFault Json :=
  match Members.get? oracle.scalars place.scalar with
  | some spec => oracle.generate place spec
  | none =>
    match Scalar.builtin? place.scalar with
    | some draw =>
      (draw.fromSeed place.seed).mapError fun fault => .escaped (Generator.exceptionOf fault)
    | none => .ok (Scalar.placeholder place.scalar)

end Oracle

end OperationSamples
