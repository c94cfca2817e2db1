import OperationSamples.Json.Reader
import OperationSamples.Text.Blank

/-!
Bytes and identifiers written in hexadecimal digits.

Between bytes there may be white space. An identifier has thirty-two digits; hyphens, braces around it
and the words of its scheme do not count, and it is written in five groups.
-/

namespace OperationSamples.Hex

/-- Bytes of two digits each. -/
def readBytes? : List Char → Option (List UInt8)
  | [] => some []
  | [c] => if Text.isSpace c then some [] else none
  | a :: b :: rest =>
    if Text.isSpace a then readBytes? (b :: rest)
    else
      match Json.hexValue? a, Json.hexValue? b, readBytes? rest with
      | some high, some low, some others => some (UInt8.ofNat (high * 16 + low) :: others)
      | _, _, _ => none

/-- Groups of digits of the given widths. -/
def groups : List Nat → List Char → List String
  | [], _ => []
  | width :: rest, digits => String.ofList (digits.take width) :: groups rest (digits.drop width)

/-- The written form of an identifier. -/
def identifierText (digits : List Char) : String :=
  "-".intercalate (groups [8, 4, 4, 4, 12] digits)

def isBrace (c : Char) : Bool := c == '\x7b' || c == '\x7d'

/-- The written form of an identifier that is given in any of its forms. -/
def readIdentifier? (text : String) : Option String :=
  let text := ((text.replace "urn:" "").replace "uuid:" "").toList
  let inner := ((text.dropWhile isBrace).reverse.dropWhile isBrace).reverse
  let digits := (inner.filter fun c => c != '-').map Char.toLower
  if digits.length == 32 && digits.all fun c => (Json.hexValue? c).isSome then
    some (identifierText digits)
  else none

end OperationSamples.Hex
