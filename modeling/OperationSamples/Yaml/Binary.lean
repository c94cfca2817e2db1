/-!
Bytes in base 64.

Four characters stand for three bytes, six bits each. Characters that do not belong to the alphabet are
passed over. The last group may be short; equals signs then fill it up, and nothing behind them counts.
-/

namespace OperationSamples.Yaml

/-- The six bits of a character. -/
def sixBits? (c : Char) : Option Nat :=
  if c.isUpper then some (c.toNat - 'A'.toNat)
  else if c.isLower then some (c.toNat - 'a'.toNat + 26)
  else if c.isDigit then some (c.toNat - '0'.toNat + 52)
  else if c == '+' then some 62
  else if c == '/' then some 63
  else none

/-- Reads on in a group of which `count` characters are read. Of their bits those of `left` are still to
be written, and `fill` equals signs have been seen since. -/
def bytesFrom? (count left fill : Nat) : List Char → Option (List UInt8)
  | [] => if count == 0 then some [] else none
  | c :: rest =>
    if c == '=' then
      if count < 2 then bytesFrom? count left fill rest
      else if 4 ≤ count + fill + 1 then some []
      else bytesFrom? count left (fill + 1) rest
    else
      match sixBits? c with
      | none => bytesFrom? count left fill rest
      | some bits =>
        if count == 0 then bytesFrom? 1 bits 0 rest
        else
          let all := left * 64 + bits
          let size := Nat.pow 4 (3 - count)
          (bytesFrom? ((count + 1) % 4) (all % size) 0 rest).map fun bytes =>
            UInt8.ofNat (all / size) :: bytes

/-- The bytes of a text of ASCII characters. -/
def bytes? (text : List Char) : Option (List UInt8) :=
  if text.all fun c => c.toNat < 128 then bytesFrom? 0 0 0 text else none

end OperationSamples.Yaml
