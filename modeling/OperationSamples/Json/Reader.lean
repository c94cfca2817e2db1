import OperationSamples.Json.Basic
import OperationSamples.Number.Literal
import OperationSamples.Text.CodePoint

/-!
Reading JSON.

`Json.parse?` reads a value that takes up the whole text. A number without fraction and exponent is
a whole number, any other is a double; infinities and the value that is no number are read by their
names. Members keep their order, and a repeated key keeps its last value. A quoted text is read as
code points, since its escapes may be halves of surrogate pairs; a `Json.Builder` says what becomes
of the texts, and of all else that is read. The readers carry a fuel argument that bounds nesting and
length; the length of the text suffices, since each step reads a character.
-/

namespace OperationSamples.Json

def isSpace (c : Char) : Bool := c == ' ' || c == '\n' || c == '\r' || c == '\t'

def skipSpace (text : List Char) : List Char := text.dropWhile isSpace

def hexValue? (c : Char) : Option Nat :=
  if c.isDigit then some (c.toNat - 48)
  else if 'a' ≤ c && c ≤ 'f' then some (c.toNat - 87)
  else if 'A' ≤ c && c ≤ 'F' then some (c.toNat - 55)
  else none

def hexUnit? : List Char → Option (Nat × List Char)
  | a :: b :: c :: d :: rest => do
    let a ← hexValue? a
    let b ← hexValue? b
    let c ← hexValue? c
    let d ← hexValue? d
    return (((a * 16 + b) * 16 + c) * 16 + d, rest)
  | _ => none

/-- A numeric escape after its backslash and letter. A surrogate pair is one code point. -/
def readUnits? (text : List Char) : Option (CodePoint × List Char) := do
  let (unit, rest) ← hexUnit? text
  let point := CodePoint.ofNat unit
  if point.isHigh then
    match rest with
    | '\\' :: 'u' :: more =>
      let (unit, after) ← hexUnit? more
      let next := CodePoint.ofNat unit
      if next.isLow then return (.ofPair point next, after) else return (point, rest)
    | _ => return (point, rest)
  else return (point, rest)

def readEscape? : List Char → Option (CodePoint × List Char)
  | 'u' :: rest => readUnits? rest
  | '"' :: rest => some (.ofChar '"', rest)
  | '\\' :: rest => some (.ofChar '\\', rest)
  | '/' :: rest => some (.ofChar '/', rest)
  | 'b' :: rest => some (.ofNat 8, rest)
  | 'f' :: rest => some (.ofNat 12, rest)
  | 'n' :: rest => some (.ofChar '\n', rest)
  | 'r' :: rest => some (.ofChar '\r', rest)
  | 't' :: rest => some (.ofChar '\t', rest)
  | _ => none

/-- The rest of a quoted text, with what was read so far in reverse. -/
def readQuoted? : Nat → CodeText → List Char → Option (CodeText × List Char)
  | 0, _, _ => none
  | _ + 1, _, [] => none
  | fuel + 1, seen, c :: rest =>
    if c == '"' then some (seen.reverse, rest)
    else if c == '\\' then
      match readEscape? rest with
      | some (escaped, after) => readQuoted? fuel (escaped :: seen) after
      | none => none
    else readQuoted? fuel (.ofChar c :: seen) rest

/-- What values are made of. -/
structure Builder (α : Type) where
  null : α
  bool : Bool → α
  int : Int → α
  float : Double → α
  text : CodeText → α
  list : List α → α
  object : List (CodeText × α) → α

def builder : Builder Json where
  null := .null
  bool := .bool
  int := .int
  float := .float
  text t := .str t.toText
  list := .arr
  object members := .obj (Members.ofList (members.map fun (key, value) => (key.toText, value)))

section

variable {α : Type} (build : Builder α)

def isNumberChar (c : Char) : Bool :=
  c.isDigit || c == '-' || c == '+' || c == '.' || c == 'e' || c == 'E'

def readNumber? (text : List Char) : Option (α × List Char) := do
  let numeral ← Numeral.read? (text.takeWhile isNumberChar)
  let rest := text.dropWhile isNumberChar
  if numeral.fraction.isNone && numeral.exponent.isNone then return (build.int numeral.toInt, rest)
  else return (build.float numeral.toDouble, rest)

def dropWord? (word : String) (text : List Char) : Option (List Char) :=
  if word.toList.isPrefixOf text then some (text.drop word.length) else none

/-- The doubles that have no digits. -/
def readSpecial? (text : List Char) : Option (α × List Char) :=
  let named (word : String) (x : Double) : Option (α × List Char) :=
    (dropWord? word text).map fun rest => (build.float x, rest)
  (named "NaN" Double.nan).orElse fun _ =>
    (named "Infinity" (Double.infinity false)).orElse fun _ =>
      named "-Infinity" (Double.infinity true)

mutual

def readValue? : Nat → List Char → Option (α × List Char)
  | 0, _ => none
  | fuel + 1, text =>
    match skipSpace text with
    | [] => none
    | '"' :: rest => (readQuoted? fuel [] rest).map fun (t, rest) => (build.text t, rest)
    | '[' :: rest =>
      match skipSpace rest with
      | ']' :: rest => some (build.list [], rest)
      | rest => (readItems? fuel rest).map fun (items, rest) => (build.list items, rest)
    | '\x7b' :: rest =>
      match skipSpace rest with
      | '\x7d' :: rest => some (build.object [], rest)
      | rest => (readMembers? fuel rest).map fun (members, rest) => (build.object members, rest)
    | 't' :: rest => (dropWord? "rue" rest).map fun rest => (build.bool true, rest)
    | 'f' :: rest => (dropWord? "alse" rest).map fun rest => (build.bool false, rest)
    | 'n' :: rest => (dropWord? "ull" rest).map fun rest => (build.null, rest)
    | text => (readSpecial? build text).orElse fun _ => readNumber? build text

def readItems? : Nat → List Char → Option (List α × List Char)
  | 0, _ => none
  | fuel + 1, text => do
    let (item, rest) ← readValue? fuel text
    match skipSpace rest with
    | ',' :: rest =>
      let (items, rest) ← readItems? fuel rest
      return (item :: items, rest)
    | ']' :: rest => return ([item], rest)
    | _ => none

def readMembers? : Nat → List Char → Option (List (CodeText × α) × List Char)
  | 0, _ => none
  | fuel + 1, text =>
    match skipSpace text with
    | '"' :: rest => do
      let (key, rest) ← readQuoted? fuel [] rest
      match skipSpace rest with
      | ':' :: rest =>
        let (value, rest) ← readValue? fuel rest
        match skipSpace rest with
        | ',' :: rest =>
          let (members, rest) ← readMembers? fuel rest
          return ((key, value) :: members, rest)
        | '\x7d' :: rest => return ([(key, value)], rest)
        | _ => none
      | _ => none
    | _ => none

end

/-- Reads a value that takes up the whole text, blanks around it apart. -/
def parseWith? (text : String) : Option α := do
  let chars := text.toList
  let (value, rest) ← readValue? build (chars.length + 1) chars
  if (skipSpace rest).isEmpty then return value else none

end

def parse? (text : String) : Option Json := parseWith? builder text

end OperationSamples.Json
