import OperationSamples.Yaml.Place

/-!
Scalars between quotes.

A line break between quotes stands for a space, and blank lines for as many newlines. Between single
quotes two of them stand for one, and nothing else is special. Between double quotes a backslash starts
an escape.
-/

namespace OperationSamples.Yaml

/-- What a backslash and a character stand for. -/
def escapes : List (Char × Char) :=
  [('0', '\x00'), ('a', '\x07'), ('b', '\x08'), ('t', '\t'), ('\t', '\t'), ('n', '\n'), ('v', '\x0b'),
    ('f', '\x0c'), ('r', '\r'), ('e', '\x1b'), (' ', ' '), ('"', '"'), ('\\', '\\'), ('/', '/'),
    ('N', Char.ofNat 0x85), ('_', Char.ofNat 0xA0), ('L', Char.ofNat 0x2028), ('P', Char.ofNat 0x2029)]

/-- How many hexadecimal digits follow a letter. -/
def escapeLengths : List (Char × Nat) := [('x', 2), ('u', 4), ('U', 8)]

def hexValue? (c : Char) : Option Nat :=
  if c.isDigit then some (c.toNat - '0'.toNat)
  else if 'a' ≤ c && c ≤ 'f' then some (c.toNat - 'a'.toNat + 10)
  else if 'A' ≤ c && c ≤ 'F' then some (c.toNat - 'A'.toNat + 10)
  else none

def hexNumber? (digits : List Char) : Option Nat :=
  digits.foldlM (fun n c => (hexValue? c).map fun v => n * 16 + v) 0

/-- A character by its number, which has `count` hexadecimal digits. -/
def readCode (count : Nat) (place : Place) : Except Fault (Char × Place) :=
  let digits := place.rest.take count
  match hexNumber? digits with
  | none => .error .malformed
  | some n =>
    if digits.length < count then .error .malformed
    else if 0x10FFFF < n then .error .impossible
    else .ok (Char.ofNat n, place.advanceBy count)

/-- The breaks of the blank lines here, up to the next character that is no blank. No document may start
or end between quotes. -/
def readBlankLines : Nat → Place → Except Fault (List Char × Place)
  | 0, _ => .error .malformed
  | fuel + 1, place =>
    if isBoundary place.rest then .error .malformed
    else
      let place := place.advanceWhile isBlank
      match place.break? with
      | none => .ok ([], place)
      | some (c, after) => do
        let (breaks, after) ← readBlankLines fuel after
        return (c :: breaks, after)

/-- What a break followed by blank lines stands for. -/
def foldBreak (c : Char) (blankLines : List Char) : List Char :=
  if c != '\n' then c :: blankLines
  else if blankLines.isEmpty then [' ']
  else blankLines

/-- The space in the midst of a quoted scalar. -/
def readQuotedSpace (fuel : Nat) (place : Place) : Except Fault (List Char × Place) :=
  let (blanks, place) := place.take isBlank
  match place.break? with
  | some (c, after) => do
    let (blankLines, after) ← readBlankLines fuel after
    return (foldBreak c blankLines, after)
  | none => if place.rest.isEmpty then .error .malformed else .ok (blanks, place)

/-- An escape, behind its backslash. -/
def readEscape (fuel : Nat) (place : Place) : Except Fault (List Char × Place) :=
  match place.rest with
  | [] => .error .malformed
  | c :: _ =>
    match escapes.lookup c, escapeLengths.lookup c with
    | some meant, _ => .ok ([meant], place.advance)
    | none, some count => do
      let (meant, place) ← readCode count place.advance
      return ([meant], place)
    | none, none =>
      if isBreak c then readBlankLines fuel place.advance else .error .malformed

/-- The text up to the closing quote. -/
def readQuotedFrom (quote : Char) : Nat → Place → Except Fault (List Char × Place)
  | 0, _ => .error .malformed
  | fuel + 1, place =>
    match place.rest with
    | [] => .error .malformed
    | c :: more =>
      if c == quote then
        if c == '\'' && more.head? == some '\'' then do
          let (text, after) ← readQuotedFrom quote fuel (place.advanceBy 2)
          return ('\'' :: text, after)
        else .ok ([], place.advance)
      else do
        let (part, after) ←
          if isSpace c then readQuotedSpace fuel place
          else if c == '\\' && quote == '"' then readEscape fuel place.advance
          else .ok ([c], place.advance)
        let (text, after) ← readQuotedFrom quote fuel after
        return (part ++ text, after)

/-- The scalar whose opening quote stands here. -/
def readQuoted (quote : Char) (place : Place) : Except Fault (String × Place) := do
  let (text, after) ← readQuotedFrom quote (place.rest.length + 1) place.advance
  return (String.ofList text, after)

end OperationSamples.Yaml
