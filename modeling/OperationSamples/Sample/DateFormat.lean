import OperationSamples.Json.Printer
import OperationSamples.Sample.IsoText

/-!
Dates and times in a format.

A format is a text in which a percent sign and a letter, a directive, stand for a part of the date or the
time. Between the two may stand flags: for the padding of a number (`-` none, `_` spaces, `0` zeros) and
for capital letters (`^` and `#`). A directive that does not exist stands for itself.
-/

namespace OperationSamples.Calendar

/-! ### Parts of a date -/

def monthNames : List String :=
  ["January", "February", "March", "April", "May", "June", "July", "August", "September", "October",
    "November", "December"]

def dayNames : List String :=
  ["Monday", "Tuesday", "Wednesday", "Thursday", "Friday", "Saturday", "Sunday"]

def monthName (d : Date) : String := (monthNames[d.month - 1]?).getD ""

/-- The day of the week; Monday is zero. -/
def dayOfWeek (d : Date) : Nat := weekday d.dayNumber

def dayName (d : Date) : String := (dayNames[dayOfWeek d]?).getD ""

/-- The day of the year; the first is zero. -/
def dayOfYear (d : Date) : Nat := d.dayNumber - (Date.mk d.year 1 1).dayNumber

/-- The week of the year, where weeks begin `offset` days after Monday and what comes before the first of
them is week zero. -/
def weekOfYear (d : Date) (offset : Nat) : Nat :=
  (dayOfYear d + 7 - (dayOfWeek d + 7 - offset) % 7) / 7

/-- The Thursday of a week decides to which year it belongs, and which week of that year it is. -/
def thursday (d : Date) : Date := Date.ofDayNumber (d.dayNumber - dayOfWeek d + 3)

/-- The hour on a dial of twelve hours. -/
def dialHour (t : TimeOfDay) : Nat := if t.hour % 12 == 0 then 12 else t.hour % 12

def halfOfDay (t : TimeOfDay) : String := if t.hour < 12 then "AM" else "PM"

/-- The number of the first day of 1970. -/
def epoch : Int := 719468

def secondsSinceEpoch (d : Date) (t : TimeOfDay) : Int :=
  ((d.dayNumber : Int) - epoch) * 86400 + (t.hour * 3600 + t.minute * 60 + t.second : Nat)

/-! ### Fields -/

/-- What a directive stands for. -/
inductive Field where
  /-- A number that is filled up to a number of digits. -/
  | number (n digits : Nat) (filler : Char)
  | text (s : String)
deriving DecidableEq, Repr

def twoDigits (n : Nat) : Field := .number n 2 '0'

/-- The fields that are a single part of the date or the time. -/
def field? (d : Date) (t : TimeOfDay) : Char → Option Field
  | 'a' => some (.text ((dayName d).take 3).toString)
  | 'A' => some (.text (dayName d))
  | 'b' => some (.text ((monthName d).take 3).toString)
  | 'h' => some (.text ((monthName d).take 3).toString)
  | 'B' => some (.text (monthName d))
  | 'C' => some (twoDigits (d.year / 100))
  | 'd' => some (twoDigits d.day)
  | 'e' => some (.number d.day 2 ' ')
  | 'f' => some (.number t.microsecond 6 '0')
  | 'g' => some (twoDigits ((thursday d).year % 100))
  | 'G' => some (.number (thursday d).year 4 '0')
  | 'H' => some (twoDigits t.hour)
  | 'I' => some (twoDigits (dialHour t))
  | 'j' => some (.number (dayOfYear d + 1) 3 '0')
  | 'k' => some (.number t.hour 2 ' ')
  | 'l' => some (.number (dialHour t) 2 ' ')
  | 'm' => some (twoDigits d.month)
  | 'M' => some (twoDigits t.minute)
  | 'n' => some (.text "\n")
  | 'p' => some (.text (halfOfDay t))
  | 'P' => some (.text (String.ofList ((halfOfDay t).toList.map Char.toLower)))
  | 's' => some (.text (Json.intText (secondsSinceEpoch d t)))
  | 'S' => some (twoDigits t.second)
  | 't' => some (.text "\t")
  | 'u' => some (.number (dayOfWeek d + 1) 1 '0')
  | 'U' => some (twoDigits (weekOfYear d 6))
  | 'V' => some (twoDigits (dayOfYear (thursday d) / 7 + 1))
  | 'w' => some (.number ((dayOfWeek d + 1) % 7) 1 '0')
  | 'W' => some (twoDigits (weekOfYear d 0))
  | 'y' => some (twoDigits (d.year % 100))
  | 'Y' => some (.number d.year 4 '0')
  | 'z' => some (.text "")
  | 'Z' => some (.text "")
  | '%' => some (.text "%")
  | _ => none

/-- Directives that stand for several others. -/
def composite? : Char → Option String
  | 'c' => some "%a %b %e %H:%M:%S %Y"
  | 'D' => some "%m/%d/%y"
  | 'F' => some "%Y-%m-%d"
  | 'r' => some "%I:%M:%S %p"
  | 'R' => some "%H:%M"
  | 'T' => some "%H:%M:%S"
  | 'x' => some "%m/%d/%y"
  | 'X' => some "%H:%M:%S"
  | _ => none

/-- A field, whose number is filled up as the flags say. -/
def Field.written (flags : List Char) : Field → List Char
  | .text s =>
    if flags.contains '^' || flags.contains '#' then s.toList.map Char.toUpper else s.toList
  | .number n digits filler =>
    let written := Nat.toDigits 10 n
    let padding := List.replicate (digits - written.length)
    match flags.reverse.find? fun c => c == '-' || c == '_' || c == '0' with
    | some '-' => written
    | some '_' => padding ' ' ++ written
    | some _ => padding '0' ++ written
    | none => padding filler ++ written

/-! ### Formats -/

def isFlag (c : Char) : Bool := ['-', '_', '0', '^', '#'].contains c

/-- A format in which every directive stands for a single part. -/
def formatPlain (d : Date) (t : TimeOfDay) : List Char → List Char
  | '%' :: c :: rest =>
    match field? d t c with
    | some field => field.written [] ++ formatPlain d t rest
    | none => '%' :: c :: formatPlain d t rest
  | c :: rest => c :: formatPlain d t rest
  | [] => []

/-- What a directive with its flags stands for. -/
def directive? (d : Date) (t : TimeOfDay) (flags : List Char) (c : Char) : Option (List Char) :=
  match field? d t c, composite? c with
  | some field, _ => some (field.written flags)
  | none, some parts => some (formatPlain d t parts.toList)
  | none, none => none

/-- Reads on in a format. Of a directive that has begun, the flags have been read, the last first. A null
character ends the format. -/
def formatFrom (d : Date) (t : TimeOfDay) : Option (List Char) → List Char → List Char
  | none, [] => []
  | some flags, [] => '%' :: flags.reverse
  | none, c :: rest =>
    if c == '\x00' then []
    else if c == '%' then formatFrom d t (some []) rest
    else c :: formatFrom d t none rest
  | some flags, c :: rest =>
    if c == '\x00' then '%' :: flags.reverse
    else if isFlag c then formatFrom d t (some (c :: flags)) rest
    else
      match directive? d t flags c with
      | some text => text ++ formatFrom d t none rest
      | none => '%' :: (flags.reverse ++ c :: formatFrom d t none rest)

/-- A moment in a format. -/
def format (d : Date) (t : TimeOfDay) (text : List Char) : List Char := formatFrom d t none text

end OperationSamples.Calendar
