import OperationSamples.Number.Literal
import OperationSamples.Text.Blank
import OperationSamples.Text.Digit

/-!
Numbers in texts that people write.

White space may stand around the number, its digits may be of any script, and single underscores may
stand between digits. `Numeral.whole?` reads a whole number of limited length, `Numeral.double?` a
double, which may also be written as a word.
-/

namespace OperationSamples.Numeral

/-- Leaves out underscores, each of which has to stand between two digits. The flag says whether a
digit stands before. -/
def joined? : Bool → List Char → Option (List Char)
  | _, [] => some []
  | true, '_' :: c :: rest =>
    if c.isDigit then (joined? true rest).map fun others => c :: others else none
  | _, c :: rest =>
    if c == '_' then none else (joined? c.isDigit rest).map fun others => c :: others

/-- A text without the white space around it, in ASCII digits. -/
def plain (text : List Char) : List Char := (Text.trimSpaces text).map Text.plainDigit

/-- The most digits of a whole number that is read. -/
def maxDigits : Nat := 4300

def whole? (text : List Char) : Option Int := do
  let (negative, digits) := splitSign (← joined? false (plain text))
  if digits.isEmpty || !digits.all Char.isDigit || maxDigits < digits.length then none
  else if negative then return -(natOfDigits digits : Int)
  else return natOfDigits digits

def double? (text : List Char) : Option Double := do
  let text ← joined? false (plain text)
  let (negative, body) := splitSign text
  let word := String.ofList (body.map Char.toLower)
  if word == "inf" || word == "infinity" then return Double.infinity negative
  else if word == "nan" then return Double.nan
  else (read? text).map toDouble

end OperationSamples.Numeral
