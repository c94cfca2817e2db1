import OperationSamples.Number.Double

/-!
Reading decimal numerals.

A numeral is a run of digits with an optional fraction and an optional power of ten. `Numeral.read?`
takes a whole text apart; `Numeral.toDouble` gives the nearest double. Signs are read as part of the
numeral.
-/

namespace OperationSamples

/-- The parts of a written number: sign, digits before and after the point, and exponent. -/
structure Numeral where
  negative : Bool
  whole : List Char
  fraction : Option (List Char)
  exponent : Option Int
deriving DecidableEq, Repr

namespace Numeral

def digitValue (c : Char) : Nat := c.toNat - '0'.toNat

/-- The number a run of digits stands for. -/
def natOfDigits (digits : List Char) : Nat := digits.foldl (fun n c => 10 * n + digitValue c) 0

def splitSign : List Char → Bool × List Char
  | '-' :: rest => (true, rest)
  | '+' :: rest => (false, rest)
  | text => (false, text)

/-- An exponent with an optional sign and at least one digit. -/
def readExponent? (text : List Char) : Option Int :=
  let (negative, digits) := splitSign text
  if digits.isEmpty || !digits.all Char.isDigit then none
  else some (if negative then -(natOfDigits digits : Int) else natOfDigits digits)

/-- Reads a numeral that takes up the whole text. -/
def read? (text : List Char) : Option Numeral :=
  let (negative, rest) := splitSign text
  let whole := rest.takeWhile Char.isDigit
  let rest := rest.dropWhile Char.isDigit
  let (fraction, rest) := match rest with
    | '.' :: more => (some (more.takeWhile Char.isDigit), more.dropWhile Char.isDigit)
    | _ => (none, rest)
  if whole.isEmpty && (fraction.getD []).isEmpty then none
  else
    match rest with
    | [] => some ⟨negative, whole, fraction, none⟩
    | c :: more =>
      if c == 'e' || c == 'E' then
        (readExponent? more).map fun exponent => ⟨negative, whole, fraction, some exponent⟩
      else none

def toDouble (n : Numeral) : Double :=
  let fraction := n.fraction.getD []
  Double.ofDecimal n.negative (natOfDigits (n.whole ++ fraction))
    (n.exponent.getD 0 - fraction.length)

def toInt (n : Numeral) : Int :=
  if n.negative then -(natOfDigits n.whole : Int) else natOfDigits n.whole

end Numeral

end OperationSamples
