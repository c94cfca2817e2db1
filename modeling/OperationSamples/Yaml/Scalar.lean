import OperationSamples.Number.Reading
import OperationSamples.Sample.IsoText
import OperationSamples.Sample.Raw
import OperationSamples.Yaml.Binary
import OperationSamples.Yaml.Tag

/-!
What a scalar stands for.

A plain scalar is a text unless it has the form of something else: a truth value, a number, nothing,
or a date (`Tag.ofPlain`). Numbers may have underscores between their digits, may be written to base
two, eight, sixteen or sixty, and a double needs a point; its exponent needs a sign. `scalarValue` reads
a scalar of a given kind. It reads more than has the form of that kind, and not everything that has it:
no month has forty days.
-/

namespace OperationSamples.Yaml

/-! ### Forms of plain scalars -/

def wordsForTrue : List String :=
  ["yes", "Yes", "YES", "true", "True", "TRUE", "on", "On", "ON"]

def wordsForFalse : List String :=
  ["no", "No", "NO", "false", "False", "FALSE", "off", "Off", "OFF"]

def wordsForNull : List String := ["", "~", "null", "Null", "NULL"]

def wordsForInfinity : List String := [".inf", ".Inf", ".INF"]

def wordsForNan : List String := [".nan", ".NaN", ".NAN"]

def isDigitOrUnderscore (c : Char) : Bool := c.isDigit || c == '_'

/-- A digit, then digits and underscores. -/
def isDigits : List Char → Bool
  | [] => false
  | c :: rest => c.isDigit && rest.all isDigitOrUnderscore

/-- Nothing, or a letter, a sign and digits. -/
def isExponent : List Char → Bool
  | [] => true
  | e :: sign :: digits =>
    (e == 'e' || e == 'E') && (sign == '+' || sign == '-') && !digits.isEmpty
      && digits.all Char.isDigit
  | _ => false

def splitColons : List Char → List (List Char)
  | [] => [[]]
  | c :: rest =>
    if c == ':' then [] :: splitColons rest
    else
      match splitColons rest with
      | [] => [[c]]
      | first :: others => (c :: first) :: others

/-- A place of a number to base sixty, after the first. -/
def isSixtieth : List Char → Bool
  | [a] => a.isDigit
  | [a, b] => '0' ≤ a && a ≤ '5' && b.isDigit
  | _ => false

/-- Digits and further places to base sixty. -/
def isSixties (text : List Char) : Bool :=
  match splitColons text with
  | first :: others => isDigits first && !others.isEmpty && others.all isSixtieth
  | [] => false

/-- The form of a double: digits before a point, digits to base sixty before it, or none, and then
neither a sign. -/
def isDouble (text : List Char) : Bool :=
  let body := (Numeral.splitSign text).2
  let whole := body.takeWhile fun c => c != '.'
  match body.drop whole.length with
  | [] => false
  | _ :: rest =>
    let fraction := rest.takeWhile isDigitOrUnderscore
    let exponent := rest.dropWhile isDigitOrUnderscore
    (isDigits whole && isExponent exponent)
      || (isSixties whole && exponent.isEmpty)
      || (whole.isEmpty && body.length == text.length && isDigits fraction && isExponent exponent)
      || wordsForInfinity.contains (String.ofList body)
      || wordsForNan.contains (String.ofList text)

def isHexDigit (c : Char) : Bool := (hexValue? c).isSome

def isInBase (isBaseDigit : Char → Bool) (digits : List Char) : Bool :=
  !digits.isEmpty && digits.all fun c => isBaseDigit c || c == '_'

def isWhole (text : List Char) : Bool :=
  match (Numeral.splitSign text).2 with
  | ['0'] => true
  | '0' :: 'b' :: digits => isInBase (fun c => c == '0' || c == '1') digits
  | '0' :: 'x' :: digits => isInBase isHexDigit digits
  | '0' :: digits => isInBase (fun c => '0' ≤ c && c ≤ '7') digits
  | body => isDigits body || isSixties body

/-! ### Dates -/

/-- The parts of a written date. -/
structure WrittenTime where
  date : Date
  /-- Whether month and day have two digits each. -/
  full : Bool
  time : Option TimeOfDay
deriving DecidableEq, Repr

/-- A number of one or two digits. -/
def oneOrTwoDigits? (text : List Char) : Option (Nat × List Char) :=
  (Calendar.readDigits? 2 text).orElse fun _ => Calendar.readDigits? 1 text

def expect? (c : Char) : List Char → Option (List Char)
  | d :: rest => if c == d then some rest else none
  | [] => none

/-- The offset at the end of a moment, in microseconds. -/
def offset? (text : List Char) : Option (Option Int) :=
  match text.dropWhile isBlank with
  | [] => if text.isEmpty then some none else none
  | ['Z'] => some (some 0)
  | sign :: rest =>
    if sign == '+' || sign == '-' then do
      let (hours, rest) ← oneOrTwoDigits? rest
      let minutes ← match rest with
        | [] => some 0
        | [':', a, b] => Calendar.readNumber? [a, b]
        | _ => none
      let size : Int := (hours * 60 + minutes) * 60000000
      some (some (if sign == '-' then -size else size))
    else none

def clock? (text : List Char) : Option TimeOfDay := do
  let (hour, rest) ← oneOrTwoDigits? text
  let (minute, rest) ← Calendar.readDigits? 2 (← expect? ':' rest)
  let (second, rest) ← Calendar.readDigits? 2 (← expect? ':' rest)
  let (fraction, rest) := match rest with
    | '.' :: rest => (rest.takeWhile Char.isDigit, rest.dropWhile Char.isDigit)
    | _ => ([], rest)
  let micros := (Calendar.readMicroseconds? fraction).getD 0
  let offset ← offset? rest
  return ⟨hour, minute, second, micros, offset⟩

/-- A date and perhaps, after a `T` or a gap, a time of day. -/
def WrittenTime.read? (text : List Char) : Option WrittenTime := do
  let (year, rest) ← Calendar.readDigits? 4 text
  let (month, monthEnd) ← oneOrTwoDigits? (← expect? '-' rest)
  let (day, dayEnd) ← oneOrTwoDigits? (← expect? '-' monthEnd)
  let full := text.length == dayEnd.length + 10
  match dayEnd with
  | [] => return ⟨⟨year, month, day⟩, full, none⟩
  | c :: rest =>
    if c == 'T' || c == 't' then return ⟨⟨year, month, day⟩, full, some (← clock? rest)⟩
    else if isBlank c then
      return ⟨⟨year, month, day⟩, full, some (← clock? (rest.dropWhile isBlank))⟩
    else none

/-- The form of a date. Without a time of day it must be written in full. -/
def isTime (text : List Char) : Bool :=
  match WrittenTime.read? text with
  | some written => written.full || written.time.isSome
  | none => false

/-! ### Kinds -/

/-- A text without a newline at its end. -/
def withoutNewline (text : List Char) : List Char :=
  if text.getLast? == some '\n' && 1 < text.length then text.dropLast else text

/-- The kind of a plain scalar. -/
def Tag.ofPlain (text : List Char) : Tag :=
  let text := withoutNewline text
  let word := String.ofList text
  if wordsForTrue.contains word || wordsForFalse.contains word then .bool
  else if isDouble text then .float
  else if isWhole text then .int
  else if word == "<<" then .merge
  else if wordsForNull.contains word then .null
  else if isTime text then .time
  else if word == "=" then .value
  else if ["!", "&", "*"].contains word then .unknown
  else .text

/-! ### Values -/

def withoutUnderscores (text : List Char) : List Char := text.filter fun c => c != '_'

/-- A number to a base of at most sixteen. -/
def digitsToBase? (base : Nat) (text : List Char) : Option Int :=
  let (negative, digits) := Numeral.splitSign (Numeral.plain text)
  let size := digits.foldlM (fun n c =>
    match hexValue? c with
    | some v => if v < base then some (n * base + v) else none
    | none => none) 0
  if digits.isEmpty then none
  else size.map fun (n : Nat) => if negative then -(n : Int) else n

/-- A number without underscores and sign. -/
def natural? : List Char → Option Int
  | ['0'] => some 0
  | '0' :: 'b' :: digits => digitsToBase? 2 digits
  | '0' :: 'x' :: digits => digitsToBase? 16 digits
  | '0' :: 'o' :: digits => digitsToBase? 8 digits
  | '0' :: 'O' :: digits => digitsToBase? 8 digits
  | '0' :: digits => digitsToBase? 8 ('0' :: digits)
  | text =>
    if text.contains ':' then do
      let places ← (splitColons text).mapM Numeral.whole?
      return places.foldl (fun n place => n * 60 + place) 0
    else Numeral.whole? text

/-- An expected value, or the fault that there is none. -/
def orImpossible {α : Type} : Option α → Except Fault α
  | some a => .ok a
  | none => .error .impossible

def wholeValue (text : List Char) : Except Fault Int :=
  let digits := withoutUnderscores text
  let (negative, body) := Numeral.splitSign digits
  if body.isEmpty then .error .blankNumber
  else do
    let n ← orImpossible (natural? body)
    return if negative then -n else n

/-- Places to base sixty, the last one first, added up in doubles. -/
def sixtiesDouble (places : List Double) : Double :=
  let sum := places.foldl (fun (sum, unit) place =>
    (sum + place.toFloat * (Double.ofInt unit).toFloat, unit * 60)) ((0 : Float), (1 : Int))
  Double.ofFloat sum.1

def negated (negative : Bool) (x : Double) : Double :=
  if negative then Double.ofFloat (-x.toFloat) else x

def doubleValue (text : List Char) : Except Fault Double :=
  let text := (withoutUnderscores text).map Char.toLower
  let (negative, body) := Numeral.splitSign text
  if text.isEmpty then .error .blankNumber
  else if body == ".inf".toList then .ok (Double.infinity negative)
  else if body == ".nan".toList then .ok Double.nan
  else if body.contains ':' then do
    let places ← orImpossible ((splitColons body).mapM Numeral.double?)
    return negated negative (sixtiesDouble places.reverse)
  else do
    let x ← orImpossible (Numeral.double? body)
    return negated negative x

def boolValue (text : List Char) : Except Fault Bool :=
  let word := String.ofList (text.map Char.toLower)
  if wordsForTrue.contains word then .ok true
  else if wordsForFalse.contains word then .ok false
  else .error .unknownWord

def timeValue (text : List Char) : Except Fault RawValue :=
  match WrittenTime.read? (withoutNewline text) with
  | none => .error .formless
  | some written =>
    if !Calendar.isDate written.date then .error .impossible
    else
      match written.time with
      | none => .ok (.date written.date)
      | some time => if Calendar.isTime time then .ok (.moment written.date time) else .error .impossible

/-- The value of a scalar of a kind. -/
def scalarValue (tag : Tag) (text : String) : Except Fault RawValue :=
  match tag with
  | .null => .ok .null
  | .bool => (boolValue text.toList).map .bool
  | .int => (wholeValue text.toList).map .int
  | .float => (doubleValue text.toList).map .float
  | .text => .ok (.text text)
  | .binary =>
    match bytes? text.toList with
    | some bytes => .ok (.bytes bytes)
    | none => .error .malformed
  | .time => timeValue text.toList
  | _ => .error .malformed

end OperationSamples.Yaml
