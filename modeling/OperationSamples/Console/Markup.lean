import OperationSamples.Console.Emoji
import OperationSamples.Console.Style
import OperationSamples.Console.Width
import OperationSamples.Text.Letters

/-!
Console markup.

A tag in square brackets opens a style, and one that starts with a slash closes the last open one of its
name, or the last of all. A backslash before a tag makes it a text. `render?` gives the lines that a
console shows; there are none if a tag closes what is not open.
-/

namespace OperationSamples.Console

/-- A tag: its name and what stands behind an equals sign. -/
structure MarkupTag where
  name : String
  parameters : Option String
deriving DecidableEq, Repr

inductive Segment where
  | text (chars : List Char)
  | tag (tag : MarkupTag)
deriving DecidableEq, Repr

/-! ### Segments -/

def startsTag (c : Char) : Bool := ('a' ≤ c && c ≤ 'z') || c == '#' || c == '/' || c == '@'

/-- What stands in the bracket that has just been opened, if it is a tag, and what follows it. -/
def tagBody? (text : List Char) : Option (List Char × List Char) :=
  let body := text.takeWhile fun c => c != '[' && c != ']'
  match body, text.drop body.length with
  | first :: _, ']' :: rest => if startsTag first then some (body, rest) else none
  | _, _ => none

def MarkupTag.ofBody (body : List Char) : MarkupTag :=
  let name := body.takeWhile fun c => c != '='
  let behind := body.drop name.length
  ⟨String.ofList name, if behind.isEmpty then none else some (String.ofList behind.tail)⟩

def textSegment (chars : List Char) : List Segment := if chars.isEmpty then [] else [.text chars]

/-- A tag behind backslashes: two of them stand for one, and an odd one makes the tag a text. -/
def tagSegments (backslashes : Nat) (body : List Char) : List Segment :=
  textSegment (List.replicate (backslashes / 2) '\\')
    ++ [if backslashes % 2 == 1 then .text ('[' :: body ++ [']']) else .tag (.ofBody body)]

/-- The segments of a text, of which `before` has been read as text, last character first. -/
def segmentsFrom : Nat → List Char → List Char → List Segment
  | 0, before, text => textSegment (before.reverse ++ text)
  | _, before, [] => textSegment before.reverse
  | fuel + 1, before, c :: rest =>
    let text := c :: rest
    let backslashes := text.takeWhile fun c => c == '\\'
    match text.drop backslashes.length with
    | [] => textSegment (before.reverse ++ text)
    | '[' :: more =>
      match tagBody? more with
      | some (body, after) =>
        textSegment before.reverse ++ tagSegments backslashes.length body ++ segmentsFrom fuel [] after
      | none => segmentsFrom fuel ('[' :: (backslashes ++ before)) more
    | d :: more => segmentsFrom fuel (d :: (backslashes ++ before)) more

def segments (text : String) : List Segment := segmentsFrom (text.length + 1) [] text.toList

/-! ### Handlers -/

def isWordChar (c : Char) : Bool := Text.isAlphanumeric c || c == '_'

/-- A number, a word for a constant, or a quoted text. -/
def isLiteral (text : List Char) : Bool :=
  let text := Text.trimBlanks text
  let quoted (quote : Char) : Bool :=
    2 ≤ text.length && text.head? == some quote && text.getLast? == some quote
      && text.tail.dropLast.all fun c => c != quote && c != '\\' && c != '\n'
  (!text.isEmpty && text.all Char.isDigit) || ["True", "False", "None"].contains (String.ofList text)
    || quoted '"' || quoted '\''

/-- Whether what stands behind the name of a handler can be read: a name with or without arguments, or
literals. -/
def isHandler (parameters : List Char) : Bool :=
  let behind := parameters.dropWhile fun c => isWordChar c || c == '.'
  match behind with
  | [] => true
  | '(' :: rest =>
    rest.getLast? == some ')'
      && (rest.length == 1 || (Style.splitCommas rest.dropLast).all isLiteral)
  | _ => (Style.splitCommas parameters).all isLiteral

/-- Whether a tag can be closed. Only the parameters of handlers are looked at. -/
def MarkupTag.canClose (tag : MarkupTag) : Bool :=
  !tag.name.startsWith "@"
    || (tag.parameters.map fun p => isHandler (Text.trimBlanks p.toList)).getD true

/-! ### Rendering -/

/-- The open tags, the last first, without the last one that fits. -/
def close? (fits : MarkupTag → Bool) : List MarkupTag → Option (List MarkupTag)
  | [] => none
  | tag :: rest =>
    if fits tag then if tag.canClose then some rest else none
    else (close? fits rest).map fun others => tag :: others

/-- The open tags after a further one. -/
def stack? (tags : List MarkupTag) (tag : MarkupTag) : Option (List MarkupTag) :=
  if tag.name.startsWith "/" then
    let name := String.ofList (Text.trimBlanks (tag.name.toList.drop 1))
    if name.isEmpty then close? (fun _ => true) tags
    else close? (fun opened => opened.name == Style.normalize name) tags
  else some (⟨Style.normalize tag.name, tag.parameters⟩ :: tags)

/-- A bracket that belongs to no tag may have a backslash of its own. -/
def unescape : List Char → List Char
  | '\\' :: '[' :: rest => '[' :: unescape rest
  | c :: rest => c :: unescape rest
  | [] => []

/-- Characters that move the cursor are left out. -/
def isControl (c : Char) : Bool := [7, 8, 11, 12, 13].contains c.toNat

def plainText (chars : List Char) : List Char :=
  (replaceEmoji (unescape chars)).filter fun c => !isControl c

/-- The text of segments behind open tags. -/
def textOf? (tags : List MarkupTag) : List Segment → Option (List Char)
  | [] => some []
  | .text chars :: rest => (textOf? tags rest).map fun more => plainText chars ++ more
  | .tag tag :: rest => do textOf? (← stack? tags tag) rest

def splitLines : List Char → List (List Char)
  | [] => [[]]
  | c :: rest =>
    if c == '\n' then [] :: splitLines rest
    else
      match splitLines rest with
      | [] => [[c]]
      | first :: others => (c :: first) :: others

/-- The lines that a console shows for a text with markup. -/
def render? (text : String) : Option (List String) :=
  (textOf? [] (segments text)).map fun chars =>
    (splitLines chars).map fun line => String.ofList (expandTabs 0 line)

end OperationSamples.Console
