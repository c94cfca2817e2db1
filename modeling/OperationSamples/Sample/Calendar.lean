import OperationSamples.Number.Shortest

/-!
Dates, times of day and durations, with their ISO texts.

Days are counted from a first of March; `Date.ofDayNumber` finds the date of a day by counting whole
eras of 400 years, which all have the same number of days. Times carry microseconds, which are
written only when they are not zero, in six digits. A time may have an offset from universal time,
in microseconds.
-/

namespace OperationSamples

structure Date where
  year : Nat
  month : Nat
  day : Nat
deriving DecidableEq, Repr, Inhabited

structure TimeOfDay where
  hour : Nat
  minute : Nat
  second : Nat
  microsecond : Nat
  /-- Offset from universal time in microseconds. -/
  offset : Option Int
deriving DecidableEq, Repr, Inhabited

namespace Calendar

/-- A number in at least `width` digits. -/
def padded (width n : Nat) : String :=
  let digits := Nat.toDigits 10 n
  String.ofList (List.replicate (width - digits.length) '0' ++ digits)

def fractionText (microsecond : Nat) : String :=
  if microsecond == 0 then "" else "." ++ padded 6 microsecond

/-- The offset as signed hours and minutes, with seconds when there are any. -/
def offsetText (offset : Int) : String :=
  let size := offset.natAbs
  let seconds := size / 1000000
  let micros := size % 1000000
  (if offset < 0 then "-" else "+") ++ padded 2 (seconds / 3600) ++ ":"
    ++ padded 2 (seconds / 60 % 60)
    ++ (if seconds % 60 == 0 && micros == 0 then ""
        else ":" ++ padded 2 (seconds % 60) ++ fractionText micros)

end Calendar

namespace Date

open Calendar

/-- The date a number of days after the first of March of the year 0. Years are counted from March, so
that the leap day comes last. -/
def ofDayNumber (days : Nat) : Date :=
  let era := days / 146097
  let dayOfEra := days % 146097
  let yearOfEra := (dayOfEra - dayOfEra / 1460 + dayOfEra / 36524 - dayOfEra / 146096) / 365
  let dayOfYear := dayOfEra - (365 * yearOfEra + yearOfEra / 4 - yearOfEra / 100)
  let monthIndex := (5 * dayOfYear + 2) / 153
  let day := dayOfYear - (153 * monthIndex + 2) / 5 + 1
  let month := if monthIndex < 10 then monthIndex + 3 else monthIndex - 9
  let year := era * 400 + yearOfEra + (if month ≤ 2 then 1 else 0)
  ⟨year, month, day⟩

/-- The number of days of a date after the first of March of the year 0, for years from 1 on. -/
def dayNumber (d : Date) : Nat :=
  let year := if d.month ≤ 2 then d.year - 1 else d.year
  let monthIndex := if d.month ≤ 2 then d.month + 9 else d.month - 3
  year * 365 + year / 4 - year / 100 + year / 400 + (153 * monthIndex + 2) / 5 + d.day - 1

/-- The date a number of days after the first of January 1970. -/
def ofDays (days : Nat) : Date := ofDayNumber (days + 719468)

def text (d : Date) : String := padded 4 d.year ++ "-" ++ padded 2 d.month ++ "-" ++ padded 2 d.day

end Date

namespace TimeOfDay

open Calendar

def text (t : TimeOfDay) : String :=
  padded 2 t.hour ++ ":" ++ padded 2 t.minute ++ ":" ++ padded 2 t.second
    ++ fractionText t.microsecond ++ (t.offset.map offsetText).getD ""

/-- The microseconds since midnight. -/
def sinceMidnight (t : TimeOfDay) : Int :=
  ((t.hour * 60 + t.minute) * 60 + t.second) * 1000000 + t.microsecond

/-- The time of day a number of microseconds after midnight. -/
def ofMicroseconds (n : Nat) : TimeOfDay :=
  let seconds := n / 1000000
  ⟨seconds / 3600 % 24, seconds / 60 % 60, seconds % 60, n % 1000000, none⟩

end TimeOfDay

end OperationSamples
