import OperationSamples.Number.Double

/-!
The shortest decimal that reads back as a given double.

`Double.shortest` looks, for one digit, two digits and so on, at the two neighbours of the value on
the grid of decimals with that many digits, and takes the first grid on which one of them lies in the
interval of reals that round to the value. Of two hits the nearer wins, an exact tie goes to the even
digit. Seventeen digits always suffice. `Double.text` writes the digits: positional notation for
decimal points between the fourth leading zero and the sixteenth digit, a two-digit exponent
otherwise, and a fraction always.
-/

namespace OperationSamples.Double

/-- A positive value and the half gaps to its neighbours, over one common denominator. -/
structure Interval where
  value : Nat
  below : Nat
  above : Nat
  denominator : Nat
  closed : Bool
deriving DecidableEq, Repr

/-- The interval of reals that round to `mantissa * 2 ^ exponent`. The gap below a power of two is
half as wide, except at the bottom of the range. -/
def interval (mantissa : Nat) (exponent : Int) : Interval :=
  let narrow := mantissa == hiddenBit && leastExponent < exponent
  let quarter := exponent - 2
  let unit := if 0 ≤ quarter then Nat.pow 2 quarter.toNat else 1
  { value := 4 * mantissa * unit
    below := (if narrow then 1 else 2) * unit
    above := 2 * unit
    denominator := if 0 ≤ quarter then 1 else Nat.pow 2 (-quarter).toNat
    closed := mantissa % 2 == 0 }

/-- Decimal digits and the power of ten they are counted in. -/
structure Decimal where
  digits : Nat
  exponent : Int
deriving DecidableEq, Repr

/-- The nearest point of the grid of step `10 ^ step` that lies in the interval, if one does. -/
def Interval.onGrid (i : Interval) (step : Int) : Option Decimal :=
  let unit := i.denominator * (if 0 ≤ step then Nat.pow 10 step.toNat else 1)
  let scale := if 0 ≤ step then 1 else Nat.pow 10 (-step).toNat
  let floor := i.value * scale / unit
  let down := i.value * scale % unit
  let up := unit - down
  let within (distance gap : Nat) : Bool :=
    distance < gap * scale || (i.closed && distance == gap * scale)
  let lowHit := within down i.below
  let highHit := within up i.above
  let takeLow := lowHit && (!highHit || down < up || (down == up && floor % 2 == 0))
  if takeLow then some ⟨floor, step⟩
  else if highHit then some ⟨floor + 1, step⟩
  else none

/-- The least `k` not below `start` with the value below `10 ^ k`, looked for in `fuel` steps. -/
def Interval.decade (i : Interval) : Nat → Int → Int
  | 0, start => start
  | fuel + 1, start =>
    let bounded :=
      if 0 ≤ start then i.value < i.denominator * Nat.pow 10 start.toNat
      else i.value * Nat.pow 10 (-start).toNat < i.denominator
    if bounded then start else i.decade fuel (start + 1)

/-- The first grid with a hit, starting with `count` digits and trying `fuel` grids. -/
def Interval.search (i : Interval) (decade : Int) : Nat → Nat → Decimal
  | 0, _ => ⟨i.value / i.denominator, 0⟩
  | fuel + 1, count =>
    match i.onGrid (decade - count) with
    | some hit => hit
    | none => i.search decade fuel (count + 1)

/-- Drops trailing zeros of the digits. -/
def Decimal.trim : Nat → Decimal → Decimal
  | 0, d => d
  | fuel + 1, d =>
    if d.digits ≠ 0 ∧ d.digits % 10 = 0 then Decimal.trim fuel ⟨d.digits / 10, d.exponent + 1⟩ else d

/-- The shortest decimal that rounds to `mantissa * 2 ^ exponent`, for a positive mantissa. -/
def shortest (mantissa : Nat) (exponent : Int) : Decimal :=
  let i := interval mantissa exponent
  let estimate := Int.fdiv ((exponent + mantissa.log2) * 30103) 100000
  (i.search (i.decade 5 (estimate - 1)) 18 1).trim 20

def digitText (n : Nat) : String := String.ofList (Nat.toDigits 10 n)

def zeros (n : Nat) : String := String.ofList (List.replicate n '0')

/-- The written form of a positive decimal. -/
def Decimal.text (d : Decimal) : String :=
  let digits := Nat.toDigits 10 d.digits
  let point : Int := digits.length + d.exponent
  if -4 < point && point ≤ 16 then
    if point ≤ 0 then "0." ++ zeros (-point).toNat ++ String.ofList digits
    else if digits.length ≤ point then
      String.ofList digits ++ zeros (point - digits.length).toNat ++ ".0"
    else
      String.ofList (digits.take point.toNat) ++ "." ++ String.ofList (digits.drop point.toNat)
  else
    let power := point - 1
    let size := digitText power.natAbs
    let fraction := if digits.length == 1 then "" else "." ++ String.ofList (digits.drop 1)
    String.ofList (digits.take 1) ++ fraction ++ "e" ++ (if power < 0 then "-" else "+")
      ++ (if size.length == 1 then "0" ++ size else size)

/-- Spellings of the values that are no finite numbers. -/
structure Specials where
  nan : String
  infinite : String
deriving DecidableEq, Repr

def text (specials : Specials) (x : Double) : String :=
  let sign := if x.isNegative then "-" else ""
  match x.parts with
  | .nan => specials.nan
  | .infinite negative => (if negative then "-" else "") ++ specials.infinite
  | .finite _ mantissa exponent =>
    if mantissa == 0 then sign ++ "0.0" else sign ++ (shortest mantissa exponent).text

end OperationSamples.Double
