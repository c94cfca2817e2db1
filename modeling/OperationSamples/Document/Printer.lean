import OperationSamples.Document.Value

/-!
The written form of literals.

Strings are quoted on one line with their control characters escaped, and those written as blocks
are written as blocks again: over several lines where one line would be hard to read or could not be
read back.
-/

namespace OperationSamples.Literal

/-! ### Strings -/

/-- Control characters of both ranges, which never stand in a quoted string. -/
def isControl (c : Char) : Bool := c.toNat < 0x20 || (0x7F ≤ c.toNat && c.toNat ≤ 0x9F)

def escaped (c : Char) : List Char :=
  if c == '"' || c == '\\' then ['\\', c]
  else if c.toNat == 8 then ['\\', 'b']
  else if c == '\t' then ['\\', 't']
  else if c == '\n' then ['\\', 'n']
  else if c.toNat == 12 then ['\\', 'f']
  else if c == '\r' then ['\\', 'r']
  else if isControl c then
    let digits := (Nat.toDigits 16 c.toNat).map Char.toUpper
    '\\' :: 'u' :: (List.replicate (4 - digits.length) '0' ++ digits)
  else [c]

def quotedText (value : String) : String :=
  String.ofList ('"' :: (value.toList.flatMap escaped ++ ['"']))

/-! ### Block strings -/

/-- Three quotes inside a block have a backslash before them. -/
def blockEscaped : List Char → List Char
  | '"' :: '"' :: '"' :: rest => '\\' :: '"' :: '"' :: '"' :: blockEscaped rest
  | c :: rest => c :: blockEscaped rest
  | [] => []

/-- The characters that end a line, apart from the pair of return and newline. -/
def endsLine (c : Char) : Bool :=
  [0x0A, 0x0B, 0x0C, 0x0D, 0x1C, 0x1D, 0x1E, 0x85, 0x2028, 0x2029].contains c.toNat

/-- The lines of a text; `line` is the current one in reverse. -/
def linesAfter (line : List Char) : List Char → List (List Char)
  | [] => if line.isEmpty then [] else [line.reverse]
  | '\r' :: '\n' :: rest => line.reverse :: linesAfter [] rest
  | c :: rest =>
    if endsLine c then line.reverse :: linesAfter [] rest else linesAfter (c :: line) rest

def isIndented : List Char → Bool
  | [] => true
  | c :: _ => c == ' ' || c == '\t'

/-- A block on one line, unless it is long, has several lines, or ends in what would run into the
closing quotes. -/
def blockText (value : String) : String :=
  let text := blockEscaped value.toList
  let single := (linesAfter [] text).length ≤ 1
  let closing := ['"', '"', '"', '\\'].isPrefixOf text.reverse
  let last := value.toList.getLast?
  let runsOn := (last == some '"' && !closing) || last == some '\\'
  let spread := !single || 70 < value.length || runsOn || closing
  let indented := single && !value.isEmpty && isIndented value.toList
  let before := if spread && !indented then ['\n'] else []
  let after := if spread then ['\n'] else []
  let quotes := ['"', '"', '"']
  String.ofList (quotes ++ before ++ text ++ after ++ quotes)

/-! ### Literals -/

mutual

/-- The written form of a literal. -/
def text : Literal → String
  | .variable name => "$" ++ name
  | .int digits => digits
  | .float digits => digits
  | .string value block => if block then blockText value else quotedText value
  | .boolean value => if value then "true" else "false"
  | .null => "null"
  | .enumerator name => name
  | .list items => "[" ++ ", ".intercalate (itemTexts items) ++ "]"
  | .object fields => "\x7b " ++ ", ".intercalate (fieldTexts fields) ++ " \x7d"

def itemTexts : List Literal → List String
  | [] => []
  | item :: rest => text item :: itemTexts rest

def fieldTexts : List (String × Literal) → List String
  | [] => []
  | (name, value) :: rest => (name ++ ": " ++ text value) :: fieldTexts rest

end

end OperationSamples.Literal
