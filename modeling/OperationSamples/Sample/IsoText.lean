import OperationSamples.Number.Literal
import OperationSamples.Sample.Calendar

/-!
Reading dates and times from ISO texts.

A date is written by year, month and day, or by year, week and weekday, with hyphens between the parts
or without. A time is written by two digits each for hours, minutes and seconds, with colons or without,
from the front as far as it goes; then come a fraction and an offset. `readDate?`, `readTime?` and
`readMoment?` give nothing for a text of another form and for a date or time that does not exist.
-/

namespace OperationSamples.Calendar

/-! ### Dates that exist -/

def isLeapYear (year : Nat) : Bool := year % 4 == 0 && (year % 100 != 0 || year % 400 == 0)

def daysInMonth (year month : Nat) : Nat :=
  if month == 2 then if isLeapYear year then 29 else 28
  else if [4, 6, 9, 11].contains month then 30
  else 31

/-- Whether a year from 1 to 9999 has the date. -/
def isDate (d : Date) : Bool :=
  1 ≤ d.year && d.year ≤ 9999 && 1 ≤ d.month && d.month ≤ 12 && 1 ≤ d.day
    && d.day ≤ daysInMonth d.year d.month

def dayLength : Int := 86400000000

/-- Whether a day has the time, and its offset is less than a day. -/
def isTime (t : TimeOfDay) : Bool :=
  t.hour < 24 && t.minute < 60 && t.second < 60
    && (t.offset.map fun offset => -dayLength < offset && offset < dayLength).getD true

/-! ### Digits -/

def readNumber? (text : List Char) : Option Nat :=
  if !text.isEmpty && text.all Char.isDigit then some (Numeral.natOfDigits text) else none

/-- A number of exactly `count` digits at the start of a text, and what follows it. -/
def readDigits? (count : Nat) (text : List Char) : Option (Nat × List Char) :=
  let digits := text.take count
  if digits.length == count && digits.all Char.isDigit then
    some (Numeral.natOfDigits digits, text.drop count)
  else none

def dropHyphen? : List Char → Option (List Char)
  | '-' :: rest => some rest
  | _ => none

/-! ### Dates -/

/-- Monday is zero. The day from which days are counted, the first of March of the year 0, was a
Wednesday. -/
def weekday (dayNumber : Nat) : Nat := (dayNumber + 2) % 7

/-- The date of a day of a week. The first week of a year is the one with its first Thursday. -/
def ofWeek? (year week day : Nat) : Option Date :=
  if year == 0 || week == 0 || 53 < week || day == 0 || 7 < day then none
  else
    let newYear := Date.dayNumber ⟨year, 1, 1⟩
    let first := weekday newYear
    let long := first == 3 || (first == 2 && isLeapYear year)
    if week == 53 && !long then none
    else
      let monday := if first ≤ 3 then newYear - first else newYear + 7 - first
      some (Date.ofDayNumber (monday + (week - 1) * 7 + (day - 1)))

/-- A date at the start of a text. Only when the text ends after it may a week be without its day. -/
def readDatePart? (text : List Char) : Option Date := do
  let (year, rest) ← readDigits? 4 text
  let hyphens := rest.head? == some '-'
  let rest := if hyphens then rest.drop 1 else rest
  match rest with
  | 'W' :: rest =>
    let (week, rest) ← readDigits? 2 rest
    if rest.isEmpty then ofWeek? year week 1
    else
      let rest ← if hyphens then dropHyphen? rest else some rest
      let (day, _) ← readDigits? 1 rest
      ofWeek? year week day
  | rest =>
    let (month, rest) ← readDigits? 2 rest
    let rest ← if hyphens then dropHyphen? rest else some rest
    let (day, _) ← readDigits? 2 rest
    return ⟨year, month, day⟩

/-- A date that fills a text. Only the length of the text is held against what follows the date. -/
def readDate? (text : String) : Option Date :=
  if [7, 8, 10].contains text.utf8ByteSize then (readDatePart? text.toList).filter isDate else none

/-! ### Times -/

/-- Microseconds from the digits of a fraction; digits after the sixth are dropped. -/
def readMicroseconds? (digits : List Char) : Option Nat :=
  let kept := digits.take 6
  if kept.isEmpty || !kept.all Char.isDigit then none
  else some (Numeral.natOfDigits (kept ++ List.replicate (6 - kept.length) '0'))

/-- The fields of a clock. -/
structure Clock where
  hour : Nat
  minute : Nat
  second : Nat
  microsecond : Nat
deriving DecidableEq, Repr, Inhabited

def Clock.ofFields (fields : List Nat) (micros : Nat) : Clock :=
  ⟨fields.getD 0 0, fields.getD 1 0, fields.getD 2 0, micros⟩

/-- A clock at the start of a text, and whether anything follows it. -/
abbrev Reading := Clock × Bool

/-- The digits of a fraction; what follows the sixth is looked at only for its presence. -/
def readFraction? (fields : List Nat) (text : List Char) : Option Reading :=
  (readMicroseconds? text).map fun micros =>
    (Clock.ofFields fields micros, (text.drop 6).any fun c => !c.isDigit)

/-- Reads up to `more` further fields of a clock, and then a fraction. With colons one stands before
every field, and even before a fraction. A single character that is left over is not looked at. -/
def readFields? (colons : Bool) : Nat → List Nat → List Char → Option Reading
  | _, fields, [] => some (Clock.ofFields fields 0, false)
  | _, fields, [_] => some (Clock.ofFields fields 0, true)
  | more, fields, c :: rest =>
    if c == '.' || c == ',' || (colons && c == ':' && more == 0) then readFraction? fields rest
    else
      match more with
      | 0 => if colons then none else readFraction? fields (c :: rest)
      | more + 1 =>
        if colons && c != ':' then none
        else
          match readDigits? 2 (if colons then rest else c :: rest) with
          | some (field, rest) => readFields? colons more (fields ++ [field]) rest
          | none => none

/-- Hours, minutes, seconds and a fraction; parts at the end may be missing. -/
def readClock? (text : List Char) : Option Reading := do
  let (hour, rest) ← readDigits? 2 text
  readFields? (rest.head? == some ':') 2 [hour] rest

/-- A clock that fills a text. -/
def readWholeClock? (text : List Char) : Option Clock :=
  match readClock? text with
  | some (clock, false) => some clock
  | _ => none

def startsOffset (c : Char) : Bool := c == '+' || c == '-' || c == 'Z'

/-- The offset at the end of a time, in microseconds. -/
def readOffset? : List Char → Option (Option Int)
  | [] => some none
  | ['Z'] => some (some 0)
  | sign :: rest =>
    if sign == 'Z' then none
    else do
      let c ← readWholeClock? rest
      let size : Int := ((c.hour * 60 + c.minute) * 60 + c.second) * 1000000 + c.microsecond
      return some (if sign == '-' then -size else size)

/-- A time that fills a text. What is left over between the clock and an offset is passed over. -/
def readTimePart? (text : List Char) : Option TimeOfDay := do
  let clock := text.takeWhile fun c => !startsOffset c
  let rest := text.dropWhile fun c => !startsOffset c
  let c ← if rest.isEmpty then readWholeClock? clock else (readClock? clock).map Prod.fst
  return ⟨c.hour, c.minute, c.second, c.microsecond, ← readOffset? rest⟩

/-- A time of day, with or without the letter T before it. -/
def readTime? (text : String) : Option TimeOfDay :=
  let chars := match text.toList with
    | 'T' :: rest => rest
    | chars => chars
  (readTimePart? chars).filter isTime

/-! ### Moments -/

/-- How many characters of a moment are its date. A hyphen after a week is taken as the separator when
two digits follow. -/
def dateLength (text : List Char) : Nat :=
  let isDigitAt (i : Nat) : Bool := (text[i]?.map Char.isDigit).getD false
  if text.length == 7 then 7
  else if text[4]? == some '-' then
    if text[5]? == some 'W' then
      if text[8]? == some '-' then if isDigitAt 10 then 8 else 10 else 8
    else 10
  else if text[4]? == some 'W' then
    let digits := ((text.drop 7).takeWhile Char.isDigit).length
    if digits < 2 then 7 + digits else if digits % 2 == 1 then 7 else 8
  else 8

/-- A date and, after a character of any kind, a time. -/
def readMoment? (text : String) : Option (Date × TimeOfDay) := do
  let chars := text.toList
  let length := dateLength chars
  let date ← (readDatePart? (chars.take length)).filter isDate
  if chars.length ≤ length then return (date, ⟨0, 0, 0, 0, none⟩)
  else return (date, ← (readTimePart? (chars.drop (length + 1))).filter isTime)

end OperationSamples.Calendar
