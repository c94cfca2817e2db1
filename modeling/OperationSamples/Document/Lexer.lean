import OperationSamples.Document.Token

/-!
From text to tokens.

`Lexer.next` skips what carries no meaning (blanks, commas, comments, byte order marks) and reads one
token. `Lexer.scan` reads a whole text. It never fails: a text that stops making sense gives the
tokens before that place and the fault found there, because a reader that already objects to an
earlier token must be able to say so first.
-/

namespace OperationSamples.Lexer

def isNameStart (c : Char) : Bool := c.isAlpha || c == '_'

def isNamePart (c : Char) : Bool := c.isAlphanum || c == '_'

def byteOrderMark : Char := Char.ofNat 0xFEFF

def isIgnored (c : Char) : Bool :=
  c == ' ' || c == '\t' || c == ',' || c == '\n' || c == '\r' || c == byteOrderMark

/-- Drops blanks and comments. The flag says whether a comment is being skipped. -/
def skipIgnored : Bool → List Char → List Char
  | _, [] => []
  | true, c :: rest => skipIgnored (!(c == '\n' || c == '\r')) rest
  | false, c :: rest =>
    if isIgnored c then skipIgnored false rest
    else if c == '#' then skipIgnored true rest
    else c :: rest

def punctuator? (c : Char) : Option TokenKind :=
  match c with
  | '!' => some .bang
  | '$' => some .dollar
  | '&' => some .amp
  | '(' => some .parenLeft
  | ')' => some .parenRight
  | ':' => some .colon
  | '=' => some .equals
  | '@' => some .atSign
  | '[' => some .bracketLeft
  | ']' => some .bracketRight
  | '\x7b' => some .braceLeft
  | '|' => some .pipe
  | '\x7d' => some .braceRight
  | _ => none

/-! ### Numbers -/

def readDigits (text : List Char) : Except SyntaxFault (List Char × List Char) :=
  match text with
  | c :: _ =>
    if c.isDigit then .ok (text.takeWhile Char.isDigit, text.dropWhile Char.isDigit)
    else .error (.digitExpected (some c))
  | [] => .error (.digitExpected none)

/-- The digits before the point: a zero stands alone. -/
def readWhole (text : List Char) : Except SyntaxFault (List Char × List Char) :=
  match text with
  | '0' :: c :: rest => if c.isDigit then .error (.digitAfterZero c) else .ok (['0'], c :: rest)
  | _ => readDigits text

def readFraction (text : List Char) : Except SyntaxFault (List Char × List Char) :=
  match text with
  | '.' :: rest => do
    let (digits, rest) ← readDigits rest
    return ('.' :: digits, rest)
  | _ => .ok ([], text)

def readPower (text : List Char) : Except SyntaxFault (List Char × List Char) :=
  match text with
  | c :: rest =>
    if c == 'e' || c == 'E' then do
      let (sign, rest) := match rest with
        | '+' :: more => (['+'], more)
        | '-' :: more => (['-'], more)
        | _ => ([], rest)
      let (digits, rest) ← readDigits rest
      return (c :: (sign ++ digits), rest)
    else .ok ([], text)
  | [] => .ok ([], text)

/-- A number is followed neither by a point nor by a letter. -/
def readNumber (text : List Char) : Except SyntaxFault (Token × List Char) := do
  let (sign, rest) := match text with
    | '-' :: more => (['-'], more)
    | _ => ([], text)
  let (whole, rest) ← readWhole rest
  let (fraction, rest) ← readFraction rest
  let (power, rest) ← readPower rest
  let kind := if fraction.isEmpty && power.isEmpty then TokenKind.int else TokenKind.float
  let token : Token := ⟨kind, some (String.ofList (sign ++ whole ++ fraction ++ power))⟩
  match rest with
  | c :: _ => if c == '.' || isNameStart c then throw (.digitExpected (some c)) else return (token, rest)
  | [] => return (token, rest)

/-! ### Strings -/

def hexValue? (c : Char) : Option Nat :=
  if c.isDigit then some (c.toNat - 48)
  else if 'a' ≤ c && c ≤ 'f' then some (c.toNat - 87)
  else if 'A' ≤ c && c ≤ 'F' then some (c.toNat - 55)
  else none

/-- The number written by the first four characters in hexadecimal. -/
def hexUnit? : List Char → Option Nat
  | a :: b :: c :: d :: _ => do
    let a ← hexValue? a
    let b ← hexValue? b
    let c ← hexValue? c
    let d ← hexValue? d
    return ((a * 16 + b) * 16 + c) * 16 + d
  | _ => none

/-- Code points that are characters, the surrogates left out. -/
def isScalarValue (n : Nat) : Bool := n ≤ 0xD7FF || (0xE000 ≤ n && n ≤ 0x10FFFF)

/-- An escape of four digits, or of two times four for a surrogate pair. The text starts at the
backslash; the result says how many characters the escape takes up. -/
def readFixedEscape (text : List Char) : Except SyntaxFault (Char × Nat) :=
  let fault := SyntaxFault.badUnicodeEscape (String.ofList (text.take 6))
  match hexUnit? (text.drop 2) with
  | none => .error fault
  | some unit =>
    if isScalarValue unit then .ok (Char.ofNat unit, 6)
    else if unit < 0xDC00 && (text.drop 6).take 2 == ['\\', 'u'] then
      match hexUnit? (text.drop 8) with
      | some low =>
        if 0xDC00 ≤ low && low ≤ 0xDFFF then
          .ok (Char.ofNat (0x10000 + (unit - 0xD800) * 1024 + (low - 0xDC00)), 12)
        else .error fault
      | none => .error fault
    else .error fault

/-- The digits of an escape in braces. `size` characters from the backslash on were read so far, at
most twelve are looked at; a failure reports how far the reading went. -/
def readBraceDigits : Nat → Nat → Nat → List Char → Except Nat (Nat × Nat)
  | 0, size, _, _ => .error size
  | _ + 1, size, _, [] => .error size
  | fuel + 1, size, point, c :: rest =>
    if c == '\x7d' then
      if size + 1 < 5 || !isScalarValue point then .error (size + 1) else .ok (point, size + 1)
    else
      match hexValue? c with
      | some digit => readBraceDigits fuel (size + 1) (point * 16 + digit) rest
      | none => .error (size + 1)

def readBraceEscape (text : List Char) : Except SyntaxFault (Char × Nat) :=
  match readBraceDigits 9 3 0 (text.drop 3) with
  | .ok (point, size) => .ok (Char.ofNat point, size)
  | .error size => .error (.badUnicodeEscape (String.ofList (text.take size)))

def shortEscape? (c : Char) : Option Char :=
  match c with
  | '"' => some '"'
  | '/' => some '/'
  | '\\' => some '\\'
  | 'b' => some (Char.ofNat 8)
  | 'f' => some (Char.ofNat 12)
  | 'n' => some '\n'
  | 'r' => some '\r'
  | 't' => some '\t'
  | _ => none

/-- An escape, the text starting at its backslash. -/
def readEscape (text : List Char) : Except SyntaxFault (Char × Nat) :=
  match text with
  | _ :: 'u' :: '\x7b' :: _ => readBraceEscape text
  | _ :: 'u' :: _ => readFixedEscape text
  | _ :: c :: _ =>
    match shortEscape? c with
    | some escaped => .ok (escaped, 2)
    | none => .error (.badEscape (String.ofList (text.take 2)))
  | _ => .error (.badEscape (String.ofList text))

/-- A string after its opening quote; `seen` is what was read, in reverse. -/
def readString : Nat → List Char → List Char → Except SyntaxFault (Token × List Char)
  | 0, _, _ => .error .unterminatedString
  | _ + 1, _, [] => .error .unterminatedString
  | fuel + 1, seen, c :: rest =>
    if c == '"' then .ok (⟨.string, some (String.ofList seen.reverse)⟩, rest)
    else if c == '\\' then
      match readEscape (c :: rest) with
      | .ok (escaped, size) => readString fuel (escaped :: seen) ((c :: rest).drop size)
      | .error fault => .error fault
    else if c == '\n' || c == '\r' then .error .unterminatedString
    else readString fuel (c :: seen) rest

/-! ### Block strings -/

/-- The raw lines of a block string after its opening quotes, with finished lines and the current
line in reverse. -/
def readBlockLines (lines : List (List Char)) (line : List Char) :
    List Char → Except SyntaxFault (List (List Char) × List Char)
  | [] => .error .unterminatedString
  | '"' :: '"' :: '"' :: rest => .ok ((line.reverse :: lines).reverse, rest)
  | '\\' :: '"' :: '"' :: '"' :: rest => readBlockLines lines ('"' :: '"' :: '"' :: line) rest
  | '\r' :: '\n' :: rest => readBlockLines (line.reverse :: lines) [] rest
  | '\n' :: rest => readBlockLines (line.reverse :: lines) [] rest
  | '\r' :: rest => readBlockLines (line.reverse :: lines) [] rest
  | c :: rest => readBlockLines lines (c :: line) rest

def isIndent (c : Char) : Bool := c == ' ' || c == '\t'

def isEmptyLine (line : List Char) : Bool := line.all isIndent

/-- The indentation that all lines but the first share, empty lines not counted. -/
def commonIndent (lines : List (List Char)) : Nat :=
  let indents := ((lines.drop 1).filter (fun line => !isEmptyLine line)).map
    fun line => (line.takeWhile isIndent).length
  match indents with
  | [] => 0
  | indent :: rest => rest.foldl min indent

/-- Removes the common indentation, and the empty lines at both ends. -/
def dedentLines (lines : List (List Char)) : List (List Char) :=
  let indent := commonIndent lines
  let shifted := match lines with
    | [] => []
    | first :: rest => first :: rest.map (List.drop indent)
  ((shifted.dropWhile isEmptyLine).reverse.dropWhile isEmptyLine).reverse

def readBlockString (text : List Char) : Except SyntaxFault (Token × List Char) := do
  let (lines, rest) ← readBlockLines [] [] text
  let value := "\n".intercalate ((dedentLines lines).map String.ofList)
  return (⟨.blockString, some value⟩, rest)

/-! ### Tokens -/

def readDots (text : List Char) : Except SyntaxFault (Token × List Char) :=
  match text with
  | '.' :: '.' :: '.' :: rest => .ok (⟨.spread, none⟩, rest)
  | '.' :: '.' :: _ => .error .twoDots
  | '.' :: c :: rest =>
    if c.isDigit then
      .error (.digitBeforePoint (String.ofList ((c :: rest).takeWhile Char.isDigit)))
    else .error (.unexpectedCharacter '.')
  | _ => .error (.unexpectedCharacter '.')

/-- The first token of a text, and the text after it. -/
def next (text : List Char) : Except SyntaxFault (Token × List Char) :=
  match skipIgnored false text with
  | [] => .ok (⟨.endOfFile, none⟩, [])
  | '"' :: '"' :: '"' :: rest => readBlockString rest
  | '"' :: rest => readString (rest.length + 1) [] rest
  | c :: rest =>
    match punctuator? c with
    | some kind => .ok (⟨kind, none⟩, rest)
    | none =>
      if c == '.' then readDots (c :: rest)
      else if c.isDigit || c == '-' then readNumber (c :: rest)
      else if isNameStart c then
        .ok (⟨.name, some (String.ofList (c :: rest.takeWhile isNamePart))⟩,
          rest.dropWhile isNamePart)
      else if c == '\'' then .error .singleQuote
      else .error (.unexpectedCharacter c)

/-- The tokens of a text up to its end or its first fault. The last token of a text without fault is
the end of file. -/
structure Scan where
  tokens : List Token
  fault : Option SyntaxFault
deriving DecidableEq, Repr

def scanFrom : Nat → List Char → Scan
  | 0, _ => ⟨[], none⟩
  | fuel + 1, text =>
    match next text with
    | .error fault => ⟨[], some fault⟩
    | .ok (token, rest) =>
      if token.kind = .endOfFile then ⟨[token], none⟩
      else
        let after := scanFrom fuel rest
        ⟨token :: after.tokens, after.fault⟩

/-- Every token but the end of file takes up a character, so one step per character suffices. -/
def scan (text : String) : Scan := scanFrom (text.length + 1) text.toList

end OperationSamples.Lexer
