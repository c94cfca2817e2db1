import OperationSamples.Config.Basic
import OperationSamples.Files.Path
import OperationSamples.Number.Reading
import OperationSamples.Sample.IsoText
import OperationSamples.Text.Utf8

/-!
Values as generators give them, and their JSON form.

Generators produce more than JSON can hold: dates, durations, decimals, identifiers, byte strings,
mappings with keys of any kind. `RawValue.toJson?` brings them down to JSON. Mapping keys become
texts by `RawValue.keyText?`, which writes the parts of a tuple in their quoted form
(`RawValue.quotedText`). Keys that are equal as values are one key before that, and keys with the
same text are one key after. Two things cannot be brought down: a decimal that signals, since no
double stands for it, and a key with an integer of so many digits that it is not written out.
-/

namespace OperationSamples

/-- A decimal number as written: `digits * 10 ^ exponent`, or a value that is no number. Such a value
may carry digits, and it may signal, which forbids its use. -/
inductive DecimalValue where
  | finite (negative : Bool) (digits : List Char) (exponent : Int)
  | infinite (negative : Bool)
  | nan (negative signals : Bool) (payload : List Char)
deriving DecidableEq, Repr, Inhabited

namespace DecimalValue

def toDouble? : DecimalValue → Option Double
  | .finite negative digits exponent =>
    some (Double.ofDecimal negative (Numeral.natOfDigits digits) exponent)
  | .infinite negative => some (Double.infinity negative)
  | .nan _ signals _ => if signals then none else some Double.nan

def withoutZeros (digits : List Char) : List Char := digits.dropWhile fun c => c == '0'

/-- A value that is no number, after its sign. -/
def nan? (negative : Bool) (body : List Char) : Option DecimalValue :=
  let letters := String.ofList ((body.takeWhile fun c => !c.isDigit).map Char.toLower)
  let payload := body.dropWhile fun c => !c.isDigit
  if (letters == "nan" || letters == "snan") && payload.all Char.isDigit then
    some (.nan negative (letters == "snan") (withoutZeros payload))
  else none

/-- Whether a decimal is neither too large nor too finely divided to be represented. -/
def inRange (digits : List Char) (exponent : Int) : Bool :=
  exponent + digits.length ≤ Nat.pow 10 18 && -(2 * Nat.pow 10 18 : Int) + 2 < exponent

/-- Reads a decimal. White space around it and underscores anywhere are passed over, and leading zeros
of the digits are dropped. -/
def ofText? (text : String) : Option DecimalValue :=
  let text := ((Text.trimBlanks text.toList).filter fun c => c != '_').map Text.plainDigit
  let (negative, body) := Numeral.splitSign text
  let word := String.ofList (body.map Char.toLower)
  if word == "inf" || word == "infinity" then some (.infinite negative)
  else
    (nan? negative body).orElse fun _ =>
      (Numeral.read? text).bind fun n =>
        let fraction := n.fraction.getD []
        let significant := withoutZeros (n.whole ++ fraction)
        let digits := if significant.isEmpty then ['0'] else significant
        let exponent := n.exponent.getD 0 - fraction.length
        if inRange digits exponent then some (.finite n.negative digits exponent) else none

/-- The written form: positional while the exponent is not positive and at most six zeros follow the
point, scientific otherwise. -/
def text : DecimalValue → String
  | .nan negative signals payload =>
    (if negative then "-" else "") ++ (if signals then "s" else "") ++ "NaN" ++ String.ofList payload
  | .infinite negative => (if negative then "-" else "") ++ "Infinity"
  | .finite negative digits exponent =>
    let left : Int := exponent + digits.length
    let point : Int := if exponent ≤ 0 && -6 < left then left else 1
    let body :=
      if point ≤ 0 then "0." ++ Double.zeros (-point).toNat ++ String.ofList digits
      else if digits.length ≤ point then
        String.ofList digits ++ Double.zeros (point - digits.length).toNat
      else
        String.ofList (digits.take point.toNat) ++ "." ++ String.ofList (digits.drop point.toNat)
    let power := left - point
    let tail := if power == 0 then ""
      else "E" ++ (if power < 0 then "-" else "+") ++ Double.digitText power.natAbs
    (if negative then "-" else "") ++ body ++ tail

end DecimalValue

/-- A value of a generator. -/
inductive RawValue where
  | null
  | bool (b : Bool)
  | int (n : Int)
  | float (x : Double)
  | text (s : String)
  | date (d : Date)
  | moment (d : Date) (t : TimeOfDay)
  | time (t : TimeOfDay)
  /-- A duration in microseconds. -/
  | duration (micros : Int)
  | decimal (d : DecimalValue)
  /-- A universally unique identifier in its written form. -/
  | uuid (s : String)
  | bytes (bs : List UInt8)
  | path (p : Path)
  /-- A reference to a factory. -/
  | factory (name : String)
  /-- A value of any other kind, with its text and its quoted form. -/
  | other (shown quoted : String)
  | list (items : List RawValue)
  | tuple (items : List RawValue)
  | set (items : List RawValue)
  | mapping (entries : List (RawValue × RawValue))
deriving Repr, Inhabited

namespace RawValue

/-! ### Texts of keys -/

/-- A duration as days and a clock. -/
def durationText (micros : Int) : String :=
  let days := micros.fdiv 86400000000
  let rest := (micros.fmod 86400000000).toNat
  let seconds := rest / 1000000
  let clock := Double.digitText (seconds / 3600) ++ ":" ++ Calendar.padded 2 (seconds / 60 % 60) ++ ":"
    ++ Calendar.padded 2 (seconds % 60) ++ Calendar.fractionText (rest % 1000000)
  if days == 0 then clock
  else Json.intText days ++ " day" ++ (if days.natAbs == 1 then "" else "s") ++ ", " ++ clock

def byteText (quote : Char) (b : UInt8) : List Char :=
  let c := Char.ofNat b.toNat
  if c == quote || c == '\\' then ['\\', c]
  else if c == '\n' then ['\\', 'n']
  else if c == '\r' then ['\\', 'r']
  else if c == '\t' then ['\\', 't']
  else if 0x20 ≤ b.toNat && b.toNat < 0x7F then [c]
  else '\\' :: 'x' :: Quoting.hex 2 b.toNat

def bytesText (bs : List UInt8) : String :=
  let quote := Quoted.mark (bs.map fun b => Char.ofNat b.toNat)
  String.ofList ('b' :: quote :: (bs.flatMap (byteText quote) ++ [quote]))

def commaSeparated (parts : List String) : String := ", ".intercalate parts

def call (function : String) (parts : List String) : String :=
  function ++ "(" ++ commaSeparated parts ++ ")"

def numberTexts (numbers : List Nat) : List String := numbers.map Double.digitText

/-- Seconds and microseconds of a clock, left out from the end while they are zero. -/
def clockTail (t : TimeOfDay) : List Nat :=
  if t.microsecond != 0 then [t.second, t.microsecond]
  else if t.second != 0 then [t.second]
  else []

def durationParts (micros : Int) : List String :=
  let days := micros.fdiv 86400000000
  let rest := (micros.fmod 86400000000).toNat
  let part (name : String) (n : Int) : List String :=
    if n == 0 then [] else [name ++ "=" ++ Json.intText n]
  let parts := part "days" days ++ part "seconds" (rest / 1000000)
    ++ part "microseconds" (rest % 1000000)
  if parts.isEmpty then ["0"] else parts

def zoneParts (t : TimeOfDay) : List String :=
  match t.offset with
  | none => []
  | some 0 => ["tzinfo=datetime.timezone.utc"]
  | some offset =>
    ["tzinfo=" ++ call "datetime.timezone" [call "datetime.timedelta" (durationParts offset)]]

mutual

/-- The quoted form of a value, which tells values of different kinds apart. -/
def quotedText : RawValue → String
  | .null => "None"
  | .bool b => displayBool b
  | .int n => Json.intText n
  | .float x => x.text displayNumbers
  | .text s => Quoted.display s
  | .date d => call "datetime.date" (numberTexts [d.year, d.month, d.day])
  | .moment d t =>
    call "datetime.datetime"
      (numberTexts ([d.year, d.month, d.day, t.hour, t.minute] ++ clockTail t) ++ zoneParts t)
  | .time t =>
    call "datetime.time" (numberTexts ([t.hour, t.minute] ++ clockTail t) ++ zoneParts t)
  | .duration micros => call "datetime.timedelta" (durationParts micros)
  | .decimal d => call "Decimal" ["'" ++ d.text ++ "'"]
  | .uuid s => call "UUID" ["'" ++ s ++ "'"]
  | .bytes bs => bytesText bs
  | .path p => call "PurePosixPath" [Quoted.display p.text]
  | .factory name => "FactoryRef(factory_name=" ++ Quoted.display name ++ ")"
  | .other _ quoted => quoted
  | .list items => "[" ++ commaSeparated (quotedTexts items) ++ "]"
  | .tuple [item] => "(" ++ quotedText item ++ ",)"
  | .tuple items => "(" ++ commaSeparated (quotedTexts items) ++ ")"
  | .set [] => "set()"
  | .set items => "\x7b" ++ commaSeparated (quotedTexts items) ++ "\x7d"
  | .mapping entries => "\x7b" ++ commaSeparated (quotedEntries entries) ++ "\x7d"

def quotedTexts : List RawValue → List String
  | [] => []
  | item :: rest => quotedText item :: quotedTexts rest

def quotedEntries : List (RawValue × RawValue) → List String
  | [] => []
  | (key, value) :: rest => (quotedText key ++ ": " ++ quotedText value) :: quotedEntries rest

end

mutual

/-- Whether all integers in a value can be written out. -/
def isWritable : RawValue → Bool
  | .int n => OperationSamples.isWritable n
  | .list items => areWritable items
  | .tuple items => areWritable items
  | .set items => areWritable items
  | .mapping entries => entriesAreWritable entries
  | _ => true

def areWritable : List RawValue → Bool
  | [] => true
  | item :: rest => isWritable item && areWritable rest

def entriesAreWritable : List (RawValue × RawValue) → Bool
  | [] => true
  | (key, value) :: rest => isWritable key && isWritable value && entriesAreWritable rest

end

/-- The text of a value that serves as a key, written out whatever its length. -/
def keyText : RawValue → String
  | .text s => s
  | .date d => d.text
  | .moment d t => d.text ++ " " ++ t.text
  | .time t => t.text
  | .duration micros => durationText micros
  | .decimal d => d.text
  | .uuid s => s
  | .path p => p.text
  | .other shown _ => shown
  | value => quotedText value

/-- The text of a key, if it can be written. -/
def keyText? (key : RawValue) : Option String := if key.isWritable then some key.keyText else none

/-! ### Equality of keys -/

/-- A number as a fraction, when the value is one. A decimal with an enormous exponent is not written
out. -/
def fraction? : RawValue → Option (Int × Nat)
  | .bool b => some (if b then 1 else 0, 1)
  | .int n => some (n, 1)
  | .float x =>
    match x.parts with
    | .finite negative mantissa exponent =>
      let size : Int := if 0 ≤ exponent then mantissa * Nat.pow 2 exponent.toNat else mantissa
      some (if negative then -size else size,
        if 0 ≤ exponent then 1 else Nat.pow 2 (-exponent).toNat)
    | _ => none
  | .decimal (.finite negative digits exponent) =>
    if 100000 < exponent.natAbs then none else
    let n : Int := Numeral.natOfDigits digits
    let size : Int := if 0 ≤ exponent then n * Nat.pow 10 exponent.toNat else n
    some (if negative then -size else size,
      if 0 ≤ exponent then 1 else Nat.pow 10 (-exponent).toNat)
  | _ => none

/-- The sign of an infinite number. -/
def infinite? : RawValue → Option Bool
  | .float x =>
    match x.parts with
    | .infinite negative => some negative
    | _ => none
  | .decimal (.infinite negative) => some negative
  | _ => none

def isNan : RawValue → Bool
  | .float x => x.parts == .nan
  | .decimal (.nan _ _ _) => true
  | _ => false

/-- The instant of a moment or time with an offset in microseconds, and whether it has a date. -/
def instant? : RawValue → Option (Bool × Int)
  | .moment d t => t.offset.map fun offset =>
      (true, d.dayNumber * Calendar.dayLength + t.sinceMidnight - offset)
  | .time t => t.offset.map fun offset => (false, t.sinceMidnight - offset)
  | _ => none

mutual

/-- Whether two values are the same key. Numbers compare by value whatever their kind, moments and
times with an offset by the instant, anything else by kind and quoted form. -/
def sameKey : RawValue → RawValue → Bool
  | .tuple items, .tuple others => sameKeys items others
  | a, b =>
    match fraction? a, fraction? b with
    | some (n, d), some (m, e) => n * e == m * d
    | some _, none => false
    | none, some _ => false
    | none, none =>
      match infinite? a, infinite? b with
      | some s, some t => s == t
      | _, _ =>
        match instant? a, instant? b with
        | some i, some j => i == j
        | _, _ => !isNan a && quotedText a == quotedText b

def sameKeys : List RawValue → List RawValue → Bool
  | [], [] => true
  | a :: as, b :: bs => sameKey a b && sameKeys as bs
  | _, _ => false

end

mutual

/-- Whether a value can be a key or a member of a set: collections that can change cannot, nor can a
decimal that signals. -/
def canBeKey : RawValue → Bool
  | .list _ => false
  | .set _ => false
  | .mapping _ => false
  | .tuple items => canBeKeys items
  | .decimal d => d.toDouble?.isSome
  | _ => true

def canBeKeys : List RawValue → Bool
  | [] => true
  | item :: rest => canBeKey item && canBeKeys rest

end

/-! ### JSON -/

mutual

/-- The JSON form of a value, none if a decimal in it signals or a key in it has no text. -/
def toJson? : RawValue → Option Json
  | .null => some .null
  | .bool b => some (.bool b)
  | .int n => some (.int n)
  | .float x => some (.float x)
  | .text s => some (.str s)
  | .date d => some (.str d.text)
  | .moment d t => some (.str (d.text ++ "T" ++ t.text))
  | .time t => some (.str t.text)
  | .duration micros => some (.float (Double.ofIntRatio micros 1000000))
  | .decimal d => d.toDouble?.map .float
  | .uuid s => some (.str s)
  | .bytes bs => some (.str (Utf8.decodeReplacing bs))
  | .path p => some (.str p.text)
  | .factory name => some (.str (quotedText (.factory name)))
  | .other shown _ => some (.str shown)
  | .list items => (toJsons? items).map .arr
  | .tuple items => (toJsons? items).map .arr
  | .set items => (toJsons? items).map .arr
  | .mapping entries => (toMembers? entries).map fun members => .obj (Members.ofList members)

def toJsons? : List RawValue → Option (List Json)
  | [] => some []
  | item :: rest =>
    match toJson? item, toJsons? rest with
    | some first, some others => some (first :: others)
    | _, _ => none

def toMembers? : List (RawValue × RawValue) → Option (List (String × Json))
  | [] => some []
  | (key, value) :: rest =>
    match keyText? key, toJson? value, toMembers? rest with
    | some shown, some first, some others => some ((shown, first) :: others)
    | _, _, _ => none

end

mutual

/-- A JSON value as it is. -/
def ofJson : Json → RawValue
  | .null => .null
  | .bool b => .bool b
  | .int n => .int n
  | .float x => .float x
  | .str s => .text s
  | .arr items => .list (ofJsons items)
  | .obj members => .mapping (ofMembers members)

def ofJsons : List Json → List RawValue
  | [] => []
  | item :: rest => ofJson item :: ofJsons rest

def ofMembers : List (String × Json) → List (RawValue × RawValue)
  | [] => []
  | (key, value) :: rest => (.text key, ofJson value) :: ofMembers rest

end

/-- Sets a key of a mapping: the first of several equal keys stays, with the last value. -/
def setEntry (entries : List (RawValue × RawValue)) (key value : RawValue) :
    List (RawValue × RawValue) :=
  match entries with
  | [] => [(key, value)]
  | (k, v) :: rest =>
    if sameKey k key then (k, value) :: rest else (k, v) :: setEntry rest key value

/-- The mapping that a sequence of assignments leaves behind. -/
def mappingOf (entries : List (RawValue × RawValue)) : RawValue :=
  .mapping (entries.foldl (fun kept entry => setEntry kept entry.1 entry.2) [])

end RawValue

end OperationSamples
