/-!
Characters of YAML and places in a text.

A `Place` is the text left to read with its position. The kinds of characters are those that decide
where a word, a line or the text ends. `Fault` says why a text has no value.
-/

namespace OperationSamples.Yaml

/-- Why a text has no value. -/
inductive Fault where
  /-- The text is no YAML, or its parts do not go together. -/
  | malformed
  /-- A number, a date or a character that does not exist. -/
  | impossible
  /-- A number without any character. -/
  | blankNumber
  /-- A truth value by a word that is none. -/
  | unknownWord
  /-- A date that does not have the form of one. -/
  | formless
  /-- More nodes within one another than can be read. -/
  | tooDeep
deriving DecidableEq, Repr

/-! ### Characters -/

def isBreak (c : Char) : Bool :=
  c == '\n' || c.toNat == 0x85 || c.toNat == 0x2028 || c.toNat == 0x2029

def isBlank (c : Char) : Bool := c == ' ' || c == '\t'

/-- Blank, or a line break. -/
def isSpace (c : Char) : Bool := isBlank c || isBreak c

def byteOrderMark : Char := Char.ofNat 0xFEFF

/-- Characters that may occur in YAML at all. -/
def isAllowed (c : Char) : Bool :=
  let n := c.toNat
  c == '\t' || c == '\n' || c == '\r' || (0x20 ≤ n && n ≤ 0x7E) || n == 0x85
    || (0xA0 ≤ n && n ≤ 0xFFFD) || 0x10000 ≤ n

/-- Characters of the names of anchors, directives and tag handles. -/
def isNameChar (c : Char) : Bool := c.isAlphanum || c == '-' || c == '_'

/-- Whether a line ends here: at a break or at the end of the text. -/
def endsLine : List Char → Bool
  | [] => true
  | c :: _ => isBreak c

/-- Whether a word ends here: at a blank, a break or the end of the text. -/
def endsWord : List Char → Bool
  | [] => true
  | c :: _ => isSpace c

/-- As `endsWord`, but a tab does not end the word. -/
def endsSpaced : List Char → Bool
  | [] => true
  | c :: _ => c == ' ' || isBreak c

/-- Whether three of the same mark stand here as a word. -/
def isTriple (mark : Char) (text : List Char) : Bool :=
  text.take 3 == [mark, mark, mark] && endsWord (text.drop 3)

/-- Whether a line that starts here starts or ends a document. -/
def isBoundary (text : List Char) : Bool := isTriple '-' text || isTriple '.' text

/-! ### Places -/

structure Place where
  rest : List Char
  /-- The number of characters read. -/
  index : Nat
  line : Nat
  column : Nat
deriving Repr

namespace Place

/-- Past the next character. A byte order mark takes up no column. -/
def advance (place : Place) : Place :=
  match place.rest with
  | [] => place
  | c :: rest =>
    let width := if c == byteOrderMark then 0 else 1
    if isBreak c then ⟨rest, place.index + 1, place.line + 1, 0⟩
    else ⟨rest, place.index + 1, place.line, place.column + width⟩

/-- Past so many characters. -/
def advanceBy (place : Place) : Nat → Place
  | 0 => place
  | count + 1 => place.advance.advanceBy count

/-- Past characters for as long as they fit. -/
def advanceWhile (place : Place) (fits : Char → Bool) : Place :=
  place.advanceBy (place.rest.takeWhile fits).length

def startsWith (place : Place) (c : Char) : Bool := place.rest.head? == some c

/-- The characters that fit, and the place behind them. -/
def take (place : Place) (fits : Char → Bool) : List Char × Place :=
  (place.rest.takeWhile fits, place.advanceWhile fits)

/-- A line break as it counts in a text: every kind is a newline, save the separators of lines and
paragraphs. -/
def break? (place : Place) : Option (Char × Place) :=
  match place.rest with
  | c :: _ =>
    if isBreak c then
      some (if c == '\n' || c.toNat == 0x85 then '\n' else c, place.advance)
    else none
  | [] => none

def skipSpaces (place : Place) : Place := place.advanceWhile fun c => c == ' '

/-- Past a comment that starts here. -/
def skipComment (place : Place) : Place :=
  if place.startsWith '#' then place.advanceWhile fun c => !isBreak c else place

/-- Past the rest of a line that has nothing more to say. -/
def finishLine (place : Place) : Except Fault Place :=
  let place := place.skipSpaces.skipComment
  if endsLine place.rest then .ok place.advance else .error .malformed

end Place

end OperationSamples.Yaml
