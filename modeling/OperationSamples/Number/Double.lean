/-!
Double-precision numbers as bit patterns.

A `Double` is the sixty-four bits of the format, so equality is decidable and says "the same bits".
`Double.parts` reads the bits as a sign, an integer mantissa and a power of two; `Double.ofRatio` and
`Double.ofDecimal` go the other way and round to the nearest value, a tie to the even mantissa. Both
work in exact integer arithmetic. Arithmetic on two doubles is the machine's, through `toFloat`.
-/

namespace OperationSamples

structure Double where
  bits : UInt64
deriving DecidableEq, Repr, Inhabited

namespace Double

/-- What the bits say. A finite value is `mantissa * 2 ^ exponent`, negated when `negative`. -/
inductive Parts where
  | finite (negative : Bool) (mantissa : Nat) (exponent : Int)
  | infinite (negative : Bool)
  | nan
deriving DecidableEq, Repr

/-- The exponent of the smallest values. -/
def leastExponent : Int := -1074

/-- Mantissas of values that are not subnormal start here. -/
def hiddenBit : Nat := Nat.pow 2 52

def parts (x : Double) : Parts :=
  let word := x.bits.toNat
  let negative := Nat.pow 2 63 ≤ word
  let biased := word / hiddenBit % 2048
  let fraction := word % hiddenBit
  if biased == 2047 then
    if fraction == 0 then .infinite negative else .nan
  else if biased == 0 then .finite negative fraction leastExponent
  else .finite negative (hiddenBit + fraction) (biased - 1075)

def signBits (negative : Bool) : Nat := if negative then Nat.pow 2 63 else 0

def ofWord (word : Nat) : Double := ⟨UInt64.ofNat word⟩

def infinity (negative : Bool) : Double := ofWord (signBits negative + 2047 * hiddenBit)

def nan : Double := ofWord (2047 * hiddenBit + Nat.pow 2 51)

/-- The double `mantissa * 2 ^ exponent`, for a mantissa of at most fifty-three bits that is
either normalised or stands over the least exponent. -/
def encode (negative : Bool) (mantissa : Nat) (exponent : Int) : Double :=
  if mantissa < hiddenBit then ofWord (signBits negative + mantissa)
  else
    -- A mantissa that was rounded up to `2 ^ 53` carries into the exponent by itself.
    let biased := (exponent + 1075).toNat
    let word := biased * hiddenBit + (mantissa - hiddenBit)
    if 2047 * hiddenBit ≤ word then infinity negative else ofWord (signBits negative + word)

/-- Numerator and denominator of `num / den / 2 ^ exponent`. -/
def scaleRatio (num den : Nat) (exponent : Int) : Nat × Nat :=
  if 0 ≤ exponent then (num, den * Nat.pow 2 exponent.toNat)
  else (num * Nat.pow 2 (-exponent).toNat, den)

/-- A quotient rounded to the nearest integer, a tie to the even one. -/
def roundRatio (num den : Nat) : Nat :=
  let quotient := num / den
  let rest := num % den
  if den < 2 * rest || (2 * rest == den && quotient % 2 == 1) then quotient + 1 else quotient

/-- The double nearest to `num / den`. -/
def ofRatio (negative : Bool) (num den : Nat) : Double :=
  if num == 0 then ofWord (signBits negative)
  else
    let magnitude : Int := (num.log2 : Int) - (den.log2 : Int)
    let start := max (magnitude - 53) leastExponent
    let trial := scaleRatio num den start
    let exponent := if 2 * hiddenBit ≤ trial.1 / trial.2 then start + 1 else start
    let scaled := scaleRatio num den exponent
    encode negative (roundRatio scaled.1 scaled.2) exponent

/-- The double nearest to `digits * 10 ^ exponent`. Exponents far outside the range of the format
are settled without building the power. -/
def ofDecimal (negative : Bool) (digits : Nat) (exponent : Int) : Double :=
  if digits == 0 then ofWord (signBits negative)
  else
    let size : Int := (Nat.toDigits 10 digits).length + exponent
    if 400 < size then infinity negative
    else if size < -400 then ofWord (signBits negative)
    else if 0 ≤ exponent then ofRatio negative (digits * Nat.pow 10 exponent.toNat) 1
    else ofRatio negative digits (Nat.pow 10 (-exponent).toNat)

def ofInt (n : Int) : Double := ofRatio (n < 0) n.natAbs 1

/-- The double nearest to the quotient of two integers, the second positive. -/
def ofIntRatio (num : Int) (den : Nat) : Double := ofRatio (num < 0) num.natAbs den

def toFloat (x : Double) : Float := Float.ofBits x.bits

def ofFloat (x : Float) : Double := ⟨x.toBits⟩

def isNegative (x : Double) : Bool := Nat.pow 2 63 ≤ x.bits.toNat

def isZero (x : Double) : Bool := x.bits.toNat % Nat.pow 2 63 == 0

/-- The value of a finite double rounded toward zero. -/
def truncate? (x : Double) : Option Int :=
  match x.parts with
  | .finite negative mantissa exponent =>
    let size := if 0 ≤ exponent then mantissa * Nat.pow 2 exponent.toNat
      else mantissa / Nat.pow 2 (-exponent).toNat
    some (if negative then -(size : Int) else size)
  | _ => none

/-- Whether a double is finite and has no fraction. -/
def isIntegral (x : Double) : Bool :=
  match x.parts with
  | .finite _ mantissa exponent => 0 ≤ exponent || mantissa % Nat.pow 2 (-exponent).toNat == 0
  | _ => false

end Double

end OperationSamples
