/-!
Texts of code points.

A character is never half of a surrogate pair, but a text of code points may hold such halves, alone
or next to each other. Two halves side by side are not the character that the pair stands for;
`CodeText.split` puts the pair in the place of every character beyond the basic plane.
-/

namespace OperationSamples

/-- The code of a character, or half of a surrogate pair. -/
abbrev CodePoint := Fin 0x110000

abbrev CodeText := List CodePoint

namespace CodePoint

def ofNat (n : Nat) : CodePoint := Fin.ofNat _ n

def ofChar (c : Char) : CodePoint := ofNat c.toNat

/-- The character with the code, and the null character for half of a pair. -/
def toChar (p : CodePoint) : Char := Char.ofNat p.val

def isHigh (p : CodePoint) : Bool := 0xD800 ≤ p.val && p.val < 0xDC00

def isLow (p : CodePoint) : Bool := 0xDC00 ≤ p.val && p.val < 0xE000

/-- The UTF-16 units of a code point: the point itself, or a pair. -/
def units (p : CodePoint) : CodeText :=
  if p.val < 0x10000 then [p]
  else [ofNat (0xD800 + (p.val - 0x10000) / 1024), ofNat (0xDC00 + (p.val - 0x10000) % 1024)]

/-- The character beyond the basic plane that a pair stands for. -/
def ofPair (high low : CodePoint) : CodePoint :=
  ofNat (0x10000 + (high.val - 0xD800) * 1024 + (low.val - 0xDC00))

end CodePoint

namespace CodeText

def ofString (text : String) : CodeText := text.toList.map CodePoint.ofChar

/-- The text with the replacement character for every half of a pair. -/
def toText (text : CodeText) : String :=
  String.ofList (text.map fun p => if p.isHigh || p.isLow then Char.ofNat 0xFFFD else p.toChar)

def split (text : CodeText) : CodeText := text.flatMap CodePoint.units

/-- Whether no pair stands in the text as two halves. -/
def isUnpaired : CodeText → Bool
  | first :: second :: rest => !(first.isHigh && second.isLow) && isUnpaired (second :: rest)
  | _ => true

end CodeText

end OperationSamples
