import OperationSamples.Json.Basic
import OperationSamples.Json.Printer
import OperationSamples.Text.Printable

/-!
Options of a generation run.

A scalar of the schema can be given a generator with arguments: none, one value, or a list of values
that are passed one after the other. `Arguments.display` shows arguments the way error messages do.
Arguments with an integer of very many digits cannot be shown (`Arguments.isWritable`).
-/

namespace OperationSamples

/-- One argument of a generator. -/
inductive Atom where
  | text (s : String)
  | int (n : Int)
  | float (x : Double)
  | bool (b : Bool)
deriving DecidableEq, Repr, Inhabited

inductive Arguments where
  | none
  | one (a : Atom)
  | many (items : List Atom)
deriving DecidableEq, Repr, Inhabited

structure ScalarSpec where
  generator : String
  arguments : Arguments
deriving DecidableEq, Repr, Inhabited

structure Config where
  scalars : List (String × ScalarSpec)
  addOperationSuffix : Bool
  maxDepth : Nat
  maxFragmentDepth : Nat
  splitInterfaceVariants : Bool
deriving DecidableEq, Repr

def Config.defaults : Config := ⟨[], true, 5, 3, false⟩

instance : Inhabited Config := ⟨Config.defaults⟩

namespace Quoted

/-- A text is quoted by apostrophes, unless it has an apostrophe and no double quote. -/
def mark (text : List Char) : Char :=
  if text.contains '\'' && !text.contains '"' then '"' else '\''

/-- How a character is shown between the given quotes. -/
def showChar (quote : Char) (c : Char) : List Char :=
  if c == quote || c == '\\' then ['\\', c]
  else if c == '\n' then ['\\', 'n']
  else if c == '\r' then ['\\', 'r']
  else if c == '\t' then ['\\', 't']
  else if Text.isPrintable c then [c]
  else if c.toNat < 0x100 then '\\' :: 'x' :: Quoting.hex 2 c.toNat
  else if c.toNat < 0x10000 then '\\' :: 'u' :: Quoting.hex 4 c.toNat
  else '\\' :: 'U' :: Quoting.hex 8 c.toNat

/-- A text as it is shown in a message. -/
def display (text : String) : String :=
  let quote := mark text.toList
  String.ofList (quote :: (text.toList.flatMap (showChar quote) ++ [quote]))

end Quoted

/-- Numbers as they are shown in messages. -/
def displayNumbers : Double.Specials := ⟨"nan", "inf"⟩

def displayBool (b : Bool) : String := if b then "True" else "False"

/-- The most digits that an integer is shown with. -/
def maxDigits : Nat := 4300

/-- Whether an integer can be shown. -/
def isWritable (n : Int) : Bool := n.natAbs < Nat.pow 10 maxDigits

def Atom.display : Atom → String
  | .text s => Quoted.display s
  | .int n => Json.intText n
  | .float x => x.text displayNumbers
  | .bool b => displayBool b

def Atom.isWritable : Atom → Bool
  | .int n => OperationSamples.isWritable n
  | _ => true

namespace Arguments

def display : Arguments → String
  | .none => "None"
  | .one a => a.display
  | .many items => "[" ++ ", ".intercalate (items.map Atom.display) ++ "]"

/-- The arguments in the order in which they are passed. -/
def positional : Arguments → List Atom
  | .none => []
  | .one a => [a]
  | .many items => items

def isWritable (arguments : Arguments) : Bool := arguments.positional.all Atom.isWritable

end Arguments

end OperationSamples
