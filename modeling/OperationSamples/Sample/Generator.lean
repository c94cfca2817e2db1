import OperationSamples.Sample.DateFormat
import OperationSamples.Sample.Draw
import OperationSamples.Sample.Hex
import OperationSamples.Sample.Names
import OperationSamples.Sample.Provider
import OperationSamples.Sample.Words
import OperationSamples.Text.Case

/-!
Generators of sample values.

A `Generator` has a name, a number of parameters and a draw. Arguments are passed by position; an
argument that is left out takes its default. `Generator.catalogue` lists the generators in groups:
numbers, words, templates whose marks are filled in, and moments between the epoch and an end, which
is given as a whole number or is the present.

`Generator.providers` are the providers that the command runs with. They accept all of
`generatorNames` and have draws for the catalogue; any other name is left out, and to call it is
answered by an exception of its own.
-/

namespace OperationSamples

namespace Atom

/-- The number an argument stands for when whole numbers are asked for; a double counts when it has
no fraction. -/
def whole? : Atom → Option Int
  | .int n => some n
  | .bool b => some (if b then 1 else 0)
  | .float x => if x.isIntegral then x.truncate? else none
  | .text _ => none

/-- The number of an argument that must be given as a whole number. -/
def index? : Atom → Option Int
  | .int n => some n
  | .bool b => some (if b then 1 else 0)
  | _ => none

/-- The double an argument stands for. -/
def float? : Atom → Option Double
  | .int n => some (Double.ofInt n)
  | .bool b => some (Double.ofInt (if b then 1 else 0))
  | .float x => some x
  | .text _ => none

def isTrue : Atom → Bool
  | .text s => !s.isEmpty
  | .int n => n != 0
  | .bool b => b
  | .float x => !x.isZero

/-- Whether a number is at most the argument. -/
def atLeast? (a : Atom) (n : Int) : Option Bool :=
  match a with
  | .float x => some ((Double.ofInt n).toFloat ≤ x.toFloat)
  | _ => a.index?.map fun m => n ≤ m

/-- Whether the argument is at most a number. -/
def atMost? (a : Atom) (n : Int) : Option Bool :=
  match a with
  | .float x => some (x.toFloat ≤ (Double.ofInt n).toFloat)
  | _ => a.index?.map fun m => m ≤ n

/-- Whether the argument is less than a number. -/
def isBelow? (a : Atom) (n : Int) : Option Bool :=
  match a with
  | .float x => some (x.toFloat < (Double.ofInt n).toFloat)
  | _ => a.index?.map fun m => m < n

/-- Whether the argument is greater than a number. -/
def isAbove? (a : Atom) (n : Int) : Option Bool :=
  match a with
  | .float x => some ((Double.ofInt n).toFloat < x.toFloat)
  | _ => a.index?.map fun m => n < m

def toRaw : Atom → RawValue
  | .text s => .text s
  | .int n => .int n
  | .bool b => .bool b
  | .float x => .float x

end Atom

structure Generator where
  name : String
  /-- How many arguments are accepted. -/
  parameters : Nat
  draw : List Atom → Draw RawValue

namespace Generator

open Draw

/-- The value of an argument, which must have one. -/
def need {α : Type} : Option α → Draw α
  | some a => return a
  | none => throw .badArguments

def isTrueAt (arguments : List Atom) (place : Nat) (default : Bool) : Bool :=
  (arguments[place]?.map Atom.isTrue).getD default

def textAt (arguments : List Atom) (place : Nat) (default : String) : Draw (List Char) :=
  match arguments[place]? with
  | none => return default.toList
  | some (.text s) => return s.toList
  | some _ => throw .badArguments

def characters (text : List Char) : List String := text.map fun c => String.ofList [c]

def letters : List Char := "abcdefghijklmnopqrstuvwxyzABCDEFGHIJKLMNOPQRSTUVWXYZ".toList

/-! ### Numbers -/

/-- A bound of a range. An infinite bound is out of range, a fraction no bound at all. -/
def boundOf (a : Atom) : Draw Int :=
  match a with
  | .float x =>
    match x.parts with
    | .infinite _ => throw .outOfRange
    | _ => need a.whole?
  | _ => need a.whole?

/-- One more than an argument, in its own kind of number. -/
def successor (a : Atom) : Atom :=
  match a with
  | .float x => .float (.ofFloat (x.toFloat + 1))
  | .bool b => .int (if b then 2 else 1)
  | .int n => .int (n + 1)
  | .text s => .text s

/-- The number of steps from `start` that stay before `stop`. -/
def stepCount (start stop step : Int) : Int :=
  if 0 < step then (stop - start + step - 1).fdiv step else (stop - start + step + 1).fdiv step

def inRange (start stop step : Int) : Draw Int :=
  if step == 0 || stepCount start stop step ≤ 0 then throw .badArguments
  else do
    let n ← below (stepCount start stop step).toNat
    return start + step * n

/-- A whole number of a range. That the upper bound is a number is checked first. -/
def wholeNumber (arguments : List Atom) : Draw RawValue := do
  let last := arguments[1]?.getD (.int 9999)
  let _ ← need last.float?
  let start ← boundOf (arguments[0]?.getD (.int 0))
  let stop ← boundOf (successor last)
  let step ← boundOf (arguments[2]?.getD (.int 1))
  return .int (← inRange start stop step)

def digit (low high : Int) : Draw RawValue := do
  return .int (← between low high)

def digitText (low high : Int) : Draw (List Char) := do
  return (Json.intText (← between low high)).toList

/-- A digit or nothing, with equal chances. -/
def perhapsDigitText (low high : Int) : Draw (List Char) := do
  let present ← between 0 1
  if present == 1 then digitText low high else return []

def perhapsDigit (low high : Int) : Draw RawValue := do
  let present ← between 0 1
  if present == 1 then digit low high else return .text ""

/-- A power of ten in the kind of number of its exponent. -/
def powerOfTen (digits : Atom) (offset : Int) : Draw Atom :=
  match digits with
  | .float x =>
    let power := Float.pow 10 (x.toFloat + (Double.ofInt offset).toFloat)
    if power.isInf && !x.toFloat.isInf then throw .outOfRange else return .float (.ofFloat power)
  | _ => do
    let n ← need digits.index?
    return .int (Nat.pow 10 (n + offset).toNat)

/-- The greatest number of so many digits. -/
def predecessor : Atom → Atom
  | .float x => .float (.ofFloat (x.toFloat - 1))
  | .int n => .int (n - 1)
  | a => a

def ofDigits (digits : Atom) (fixed : Bool) : Draw Int := do
  if ← need (digits.isBelow? 0) then throw .badArguments
  let top := predecessor (← powerOfTen digits 0)
  if fixed then
    if !(← need (digits.isAbove? 0)) then throw .badArguments
    inRange (← boundOf (← powerOfTen digits (-1))) (← boundOf (successor top)) 1
  else inRange 0 (← boundOf (successor top)) 1

def number (arguments : List Atom) : Draw RawValue := do
  let digits ← match arguments[0]? with
    | some a => pure a
    | none => do
      let n ← between 1 9
      pure (Atom.int n)
  return .int (← ofDigits digits (isTrueAt arguments 1 false))

def chanceOf (arguments : List Atom) : Atom := arguments[0]?.getD (.int 50)

def byChance (chance : Atom) : Draw RawValue := do
  let n ← between 1 100
  return .bool (← need (chance.atLeast? n))

/-- A truth value by a chance that must be a percentage. -/
def byPercentage (chance : Atom) : Draw RawValue := do
  if (← need (chance.isBelow? 0)) || (← need (chance.isAbove? 100)) then throw .badArguments
  byChance chance

def perhapsBool : Draw RawValue := do
  match ← between (-1) 1 with
  | 0 => return .null
  | 1 => return .bool true
  | _ => return .bool false

/-- Doubles have fifteen decimal digits that can be relied on. -/
def reliableDigits : Int := 15

def otherDigits (digits : Int) : Int := max 1 (reliableDigits - digits)

/-- The digits before and after the point, filled in where they are not given. -/
def digitCounts (left right : Option Int) : Draw (Int × Int) :=
  match left, right with
  | some l, some r => return (l, r)
  | some l, none => return (l, otherDigits l)
  | none, some r => return (otherDigits r, r)
  | none, none => do
    let r ← between 1 (reliableDigits - 1)
    return (otherDigits r, r)

def signOf (positive : Option Atom) : Draw Bool :=
  match positive with
  | none => do
    let sign ← choice [false, true]
    return sign
  | some (.bool true) => return false
  | some _ => return true

/-- The least positive double with so many digits after the point. -/
def leastFraction (right : Int) : Double := Double.ofDecimal false 1 (-right)

/-- A fraction of the unit interval. -/
def fraction : Draw Double := do
  return Double.ofRatio false (← unit) (Nat.pow 2 53)

/-- A value that is to be positive: zero becomes the least fraction, and below zero the value is drawn
anew between zero and its size. -/
def madePositive (right : Int) (value : Double) : Draw Double := do
  if value.isZero then return leastFraction right
  else if value.isNegative then
    let size := -value.toFloat
    let part := (← fraction).toFloat
    return .ofFloat (value.toFloat + (size + size * part))
  else return value

/-- The greatest value with so many digits before and after the point. -/
def greatestOf (left right : Int) : Double :=
  .ofFloat ((Double.ofDecimal false 1 left).toFloat - (Double.ofDecimal false 1 (-right)).toFloat)

/-- A double whose text is a sign, digits, a point and digits. The digits after the point are a
number of their own and are not filled up with zeros. -/
def double (left right : Int) (positive : Option Atom) : Draw Double := do
  if left < 0 || right < 0 || (left == 0 && right == 0) || reliableDigits < left + right then
    throw .badArguments
  let negative ← signOf positive
  let before ← ofDigits (.int left) false
  let after ← ofDigits (.int right) false
  let decimals := (Nat.toDigits 10 after.toNat).length
  let value :=
    Double.ofDecimal negative (before.toNat * Nat.pow 10 decimals + after.toNat) (-(decimals : Int))
  let value ← if (positive.map Atom.isTrue).getD false then madePositive right value
    else pure value
  let greatest := greatestOf left right
  return if greatest.toFloat < value.toFloat then greatest else value

/-- A digit count that may be left out. -/
def countAt (arguments : List Atom) (place : Nat) (count? : Atom → Option Int) :
    Draw (Option Int) :=
  match arguments[place]? with
  | none => return none
  | some a => do
    let n ← need (count? a)
    return some n

/-- The digits before the point may be counted by a double, those after it not. -/
def decimal (arguments : List Atom) : Draw RawValue := do
  if 3 < arguments.length then throw .badArguments
  let left ← countAt arguments 0 (if arguments.length == 1 then Atom.index? else Atom.whole?)
  let right ← countAt arguments 1 Atom.index?
  if left.any (· < 0) || right.any (· < 0) then throw .badArguments
  let (left, right) ← digitCounts left right
  return .float (← double left right arguments[2]?)

/-! ### Words and elements -/

/-- How many elements are asked for. A double counts only when it is one. -/
def countOf (a : Atom) : Draw Int :=
  match a with
  | .float x => if x.toFloat == 1 then return 1 else throw .badArguments
  | _ => need a.index?

/-- As many elements as asked for, without repetition if they are to be unique. -/
def several {α : Type} (items : List α) (count : Atom) (unique : Bool) : Draw (List α) := do
  if unique then sample items (← need count.index?) else pick items (← countOf count)

/-- The words to draw from: the characters of a text when one is given. -/
def wordsFrom (arguments : List Atom) (kind list : Nat) : Draw (List String) :=
  match arguments[list]? with
  | some (.text s) => return characters s.toList
  | some _ => throw .badArguments
  | none => if isTrueAt arguments kind false then throw .badArguments else return sampleWords

def word (arguments : List Atom) : Draw RawValue := do
  let words ← wordsFrom arguments 0 1
  return .text (← choice words)

def words (arguments : List Atom) : Draw RawValue := do
  let list ← wordsFrom arguments 2 1
  let count := arguments[0]?.getD (.int 3)
  return .list ((← several list count (isTrueAt arguments 3 false)).map .text)

/-- A share of a number between two percentages, rounded toward zero. -/
def share (n : Atom) (low high : Int) : Draw Int := do
  let percent ← between low high
  let value : Double ← match n with
    | .float x => pure (.ofFloat (x.toFloat * (Double.ofInt percent).toFloat / 100))
    | _ => do
      let m ← need n.index?
      pure (Double.ofIntRatio (m * percent) 100)
  match value.parts with
  | .infinite _ => throw .outOfRange
  | _ => need value.truncate?

def titleCase (word : String) : String :=
  match word.toList with
  | [] => ""
  | c :: rest => String.ofList (Text.title c ++ rest.flatMap Text.lower)

/-- A sentence of about so many words. Where the words come from is looked at only if there are any. -/
def sentenceOf (count : Atom) (varied : Bool) (source : Draw (List String)) : Draw String := do
  if ← need (count.atMost? 0) then return ""
  let count ← if varied then do
      let n ← share count 60 140
      pure (max 1 n)
    else countOf count
  match ← pick (← source) count with
  | [] => throw .emptyChoice
  | first :: rest => return " ".intercalate (titleCase first :: rest) ++ "."

def sentence (arguments : List Atom) : Draw RawValue := do
  let source := wordsFrom arguments arguments.length 2
  return .text (← sentenceOf (arguments[0]?.getD (.int 6)) (isTrueAt arguments 1 true) source)

def element (arguments : List Atom) : Draw RawValue := do
  let text ← textAt arguments 0 "abc"
  return .text (← choice (characters text))

/-- As many elements as asked for, or a random number of them. -/
def elements (arguments : List Atom) : Draw RawValue := do
  let text ← textAt arguments 0 "abc"
  let count ← match arguments[1]? with
    | some a => pure a
    | none => do
      let n ← between 1 text.length
      pure (Atom.int n)
  return .list ((← several (characters text) count (isTrueAt arguments 2 false)).map .text)

def letter (source : List Char) : Draw RawValue := do
  return .text (String.ofList [← choice source])

/-- A number, or its lower bound when it is below. -/
def notBelow (least : Option Atom) (n : Int) : Draw Atom :=
  match least with
  | none => return .int n
  | some least => do
    let tooFew ← need (least.isAbove? n)
    return if tooFew then least else .int n

/-- A number, or its upper bound when it is above. -/
def notAbove (most : Option Atom) (m : Atom) : Draw Atom :=
  match most, m with
  | none, _ => return m
  | some most, .int n => do
    let tooMany ← need (most.isBelow? n)
    return if tooMany then most else m
  | some most, _ => do
    let a ← need m.float?
    let b ← need most.float?
    return if b.toFloat < a.toFloat then most else m

/-- A number of about the given size, kept between bounds when there are any. -/
def aboutAsMany (arguments : List Atom) : Draw RawValue := do
  let n := arguments[0]?.getD (.int 10)
  let less := isTrueAt arguments 1 false
  let more := isTrueAt arguments 2 false
  if less && more then return n.toRaw
  let m ← share n (if more then 100 else 60) (if less then 100 else 140)
  let m ← notBelow arguments[3]? m
  return (← notAbove arguments[4]? m).toRaw

/-! ### Templates -/

def fillDigits (text : List Char) : Draw (List Char) := do
  let text ← substitute '#' (digitText 0 9) text
  let text ← substitute '%' (digitText 1 9) text
  let text ← substitute '$' (digitText 2 9) text
  let text ← substitute '!' (perhapsDigitText 0 9) text
  substitute '@' (perhapsDigitText 1 9) text

/-- Fills question marks with letters; what the letters are is looked at only when one is drawn. -/
def fillLetters (source : Option Atom) (text : List Char) : Draw (List Char) :=
  substitute '?' (do
    let source ← textAt source.toList 0 (String.ofList letters)
    return [← choice source]) text

def digitTemplate (arguments : List Atom) : Draw RawValue := do
  return .text (String.ofList (← fillDigits (← textAt arguments 0 "###")))

def letterTemplate (arguments : List Atom) : Draw RawValue := do
  return .text (String.ofList (← fillLetters arguments[1]? (← textAt arguments 0 "????")))

def mixedTemplate (arguments : List Atom) : Draw RawValue := do
  let text ← fillDigits (← textAt arguments 0 "## ??")
  return .text (String.ofList (← fillLetters arguments[1]? text))

def hexTemplate (arguments : List Atom) : Draw RawValue := do
  let digits := if isTrueAt arguments 1 false then "0123456789ABCDEF" else "0123456789abcdef"
  let text ← textAt arguments 0 "^^^^"
  return .text (String.ofList (← substitute '^' (do return [← choice digits.toList]) text))

/-! ### Identifiers and bytes -/

/-- A random identifier: 128 bits, of which six are fixed to the version and the variant. -/
def identifier : Draw String := do
  let n ← bits 128
  let n := n - (n >>> 62) % 4 * Nat.pow 2 62 + 2 * Nat.pow 2 62
  let n := n - (n >>> 76) % 16 * Nat.pow 2 76 + 4 * Nat.pow 2 76
  return Hex.identifierText (Quoting.hex 32 n)

def uniqueIdentifier (arguments : List Atom) : Draw RawValue := do
  if !arguments.isEmpty then throw .badArguments
  return .text (← identifier)

def byteString (arguments : List Atom) : Draw RawValue := do
  let count ← need (Atom.index? (arguments[0]?.getD (.int 1048576)))
  return .bytes ((← times count.toNat (below 256)).map UInt8.ofNat)

/-! ### Moments -/

def secondsBetween (start stop : Int) : Draw Double :=
  if stop < start then throw .badArguments
  else do
    let span := (Double.ofInt (stop - start)).toFloat
    let part := (← fraction).toFloat
    let first := (Double.ofInt start).toFloat
    if span.isInf || first.isInf then throw .outOfRange
    return .ofFloat (first + span * part)

def seconds (now : Int) (arguments : List Atom) : Draw RawValue := do
  let stop ← need (Atom.index? (arguments[0]?.getD (.int now)))
  let start ← need (Atom.index? (arguments[1]?.getD (.int 0)))
  return .float (← secondsBetween start stop)

/-- Whole microseconds of a number of seconds: the fraction is scaled as a double and rounded, a tie
to the even number. -/
def microseconds (seconds : Double) : Nat :=
  let whole := (seconds.truncate?.getD 0).toNat
  let fraction : Double := .ofFloat (seconds.toFloat - (Double.ofInt whole).toFloat)
  let scaled : Double := .ofFloat (fraction.toFloat * 1000000)
  let rounded := match scaled.parts with
    | .finite _ mantissa exponent =>
      if 0 ≤ exponent then mantissa * Nat.pow 2 exponent.toNat
      else Double.roundRatio mantissa (Nat.pow 2 (-exponent).toNat)
    | _ => 0
  whole * 1000000 + rounded

def lastYear : Nat := 9999

/-- The moment a number of seconds after the epoch. -/
def momentAt (seconds : Double) : Draw (Date × TimeOfDay) :=
  let micros := microseconds seconds
  let date := Date.ofDays (micros / 86400000000)
  if lastYear < date.year then throw .outOfRange
  else return (date, TimeOfDay.ofMicroseconds (micros % 86400000000))

/-- A moment between the epoch and the end, which is the present unless it is given. -/
def moment (now : Int) (stop : Option Atom) : Draw (Date × TimeOfDay) := do
  let stop ← need (Atom.index? (stop.getD (.int now)))
  momentAt (← secondsBetween 0 stop)

def dateOnly (now : Int) (arguments : List Atom) : Draw RawValue := do
  return .date (← moment now arguments[0]?).1

def timeOnly (now : Int) (arguments : List Atom) : Draw RawValue := do
  return .time (← moment now arguments[0]?).2

/-- A moment with its date. A time zone, the first argument, would have to be more than an atom. -/
def dateAndTime (now : Int) (arguments : List Atom) : Draw RawValue := do
  if !arguments.isEmpty then throw .badArguments
  let (date, time) ← moment now none
  return .moment date time

def formattedDate (now : Int) (arguments : List Atom) : Draw RawValue := do
  let (date, time) ← moment now arguments[1]?
  let pattern ← textAt arguments 0 "%Y-%m-%d"
  return .text (String.ofList (Calendar.format date time pattern))

/-- A time of day stands on the first day of 1900. -/
def formattedTime (now : Int) (arguments : List Atom) : Draw RawValue := do
  let (_, time) ← moment now arguments[1]?
  let pattern ← textAt arguments 0 "%H:%M:%S"
  return .text (String.ofList (Calendar.format ⟨1900, 1, 1⟩ time pattern))

/-! ### The catalogue -/

/-- The generators with draws, at a present in seconds after the epoch. -/
def catalogue (now : Int) : List Generator := [
  ⟨"uuid4", 1, uniqueIdentifier⟩,
  ⟨"random_int", 3, wholeNumber⟩,
  ⟨"pyint", 3, wholeNumber⟩,
  ⟨"random_digit", 0, fun _ => digit 0 9⟩,
  ⟨"random_digit_not_null", 0, fun _ => digit 1 9⟩,
  ⟨"random_digit_above_two", 0, fun _ => digit 2 9⟩,
  ⟨"random_digit_or_empty", 0, fun _ => perhapsDigit 0 9⟩,
  ⟨"random_digit_not_null_or_empty", 0, fun _ => perhapsDigit 1 9⟩,
  ⟨"random_number", 2, number⟩,
  ⟨"boolean", 1, fun arguments => byChance (chanceOf arguments)⟩,
  ⟨"pybool", 1, fun arguments => byPercentage (chanceOf arguments)⟩,
  ⟨"null_boolean", 0, fun _ => perhapsBool⟩,
  ⟨"pyfloat", 5, decimal⟩,
  ⟨"word", 2, word⟩,
  ⟨"words", 4, words⟩,
  ⟨"sentence", 3, sentence⟩,
  ⟨"random_element", 1, element⟩,
  ⟨"random_elements", 4, elements⟩,
  ⟨"random_choices", 2, elements⟩,
  ⟨"random_letter", 0, fun _ => letter letters⟩,
  ⟨"random_lowercase_letter", 0, fun _ => letter (letters.take 26)⟩,
  ⟨"random_uppercase_letter", 0, fun _ => letter (letters.drop 26)⟩,
  ⟨"randomize_nb_elements", 5, aboutAsMany⟩,
  ⟨"numerify", 1, digitTemplate⟩,
  ⟨"lexify", 2, letterTemplate⟩,
  ⟨"bothify", 2, mixedTemplate⟩,
  ⟨"hexify", 2, hexTemplate⟩,
  ⟨"binary", 1, byteString⟩,
  -- What it is to choose from cannot be an atom.
  ⟨"enum", 1, fun _ => throw .badArguments⟩,
  ⟨"unix_time", 2, seconds now⟩,
  ⟨"date_object", 1, dateOnly now⟩,
  ⟨"time_object", 1, timeOnly now⟩,
  ⟨"date_time", 2, dateAndTime now⟩,
  ⟨"date", 2, formattedDate now⟩,
  ⟨"time", 2, formattedTime now⟩]

/-- Draws a value of the named generator. -/
def run (now : Int) (name : String) (arguments : List Atom) : Draw RawValue :=
  match (catalogue now).find? fun g => g.name == name with
  | none => throw .leftOut
  | some g => if g.parameters < arguments.length then throw .badArguments else g.draw arguments

/-- Why a draw fails is not told apart further than the handling of exceptions does. -/
def exceptionOf : GeneratorFault → ProviderException
  | .badArguments => .valueError
  | .emptyChoice => .other "IndexError"
  | .outOfRange => .other "OverflowError"
  | .leftOut => .other "NotImplementedError"

/-- The providers of the catalogue. -/
def providers (now : Int) : Providers where
  hasMethod := generatorNames.contains
  call seed name arguments := (fromSeed (run now name arguments) seed).mapError exceptionOf

end Generator

end OperationSamples
