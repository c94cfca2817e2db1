import OperationSamples.Text.Case

/-!
Pascal case.

Words are separated by blanks, hyphens and underscores. `Text.pascal` takes these off both ends,
deletes all other ASCII punctuation, and reads each remaining run of separators as one. A text in
capitals is lowered first. The first character is written in upper case, and so is the first one
after a separator; a capital stays a capital after a letter that has case, and everything else is
lowered.
-/

namespace OperationSamples.Text

def isSeparator (c : Char) : Bool := c == ' ' || c == '-' || c == '_'

/-- ASCII punctuation that separates nothing. -/
def isDropped (c : Char) : Bool :=
  "!\"#$%&'()*+,./:;<=>?@[\\]^`\x7b|\x7d~".toList.contains c

def trimSeparators (text : List Char) : List Char :=
  ((text.dropWhile isSeparator).reverse.dropWhile isSeparator).reverse

/-- Every run of separators becomes one blank. The flag says whether the last character was one. -/
def joinSeparators : Bool → List Char → List Char
  | _, [] => []
  | afterSeparator, c :: rest =>
    if isSeparator c then
      if afterSeparator then joinSeparators true rest else ' ' :: joinSeparators true rest
    else c :: joinSeparators false rest

/-- The words of a name with one blank between them. -/
def spacedWords (text : List Char) : List Char :=
  let joined := joinSeparators false ((trimSeparators text).filter fun c => !isDropped c)
  if isAllUpper joined then lowerText joined else joined

/-- Everything after the first character, given the character before. The first character of a word
does not count as one that stands before another. -/
def pascalRest : Option Char → List Char → List Char
  | _, [] => []
  | _, [' '] => []
  | _, ' ' :: c :: rest => upper c ++ pascalRest (some ' ') rest
  | before, c :: rest =>
    let kept := isUpper c && before.any isCasedLetter
    (if kept then [c] else lower c) ++ pascalRest (some c) rest

def pascal (text : List Char) : List Char :=
  match spacedWords text with
  | [] => []
  | c :: rest => upper c ++ pascalRest none rest

end OperationSamples.Text
