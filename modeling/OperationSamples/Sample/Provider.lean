import OperationSamples.Sample.Raw

/-!
Providers of values.

The values of configured scalars come from outside. `Providers` is all that a run sees of where they
come from: which methods there are, and what a call of one gives, a value or an exception. A call
depends on the seed, the name and the arguments; the clock stands still during a run. Runs are
defined for all providers, and what is proved of them holds for all providers.
-/

namespace OperationSamples

/-- An exception of a provider, by the class under which it is handled. One that belongs to no such
class goes by the name of its own. -/
inductive ProviderException where
  | typeError
  | valueError
  | attributeError
  | other (name : String)
deriving DecidableEq, Repr

namespace ProviderException

/-- Whether a call that raises the exception counts as one with bad arguments. -/
def isHandled : ProviderException → Bool
  | .typeError => true
  | .valueError => true
  | .attributeError => true
  | .other _ => false

def name : ProviderException → String
  | .typeError => "TypeError"
  | .valueError => "ValueError"
  | .attributeError => "AttributeError"
  | .other name => name

end ProviderException

structure Providers where
  /-- Whether some provider has a method of this name. -/
  hasMethod : String → Bool
  /-- Calls a method with arguments by position, after seeding. -/
  call : UInt32 → String → List Atom → Except ProviderException RawValue

/-- Whether a name can be given as a generator. A method whose name starts with an underscore
cannot. -/
def Providers.accepts (providers : Providers) (name : String) : Bool :=
  match name.toList with
  | [] => false
  | c :: _ => c != '_' && providers.hasMethod name

end OperationSamples
