import OperationSamples.Yaml.Block
import OperationSamples.Yaml.Plain
import OperationSamples.Yaml.Tag

/-!
Tokens of YAML.

Besides what is written, tokens say where block collections start and end, which the columns tell. A
collection ends where a line starts to the left of it. A mapping starts, if one does, at its first key,
but that a scalar or a collection is a key is known only at the colon behind it. So each place where a
key may start is remembered for every level of brackets, and the tokens for the key are put in
there later. Such a key must not go on over a line break or for too long.
-/

namespace OperationSamples.Yaml

inductive Token where
  | directive (d : YamlDirective)
  | documentStart
  | documentEnd
  | blockList
  | blockMapping
  | blockEnd
  | openList
  | closeList
  | openMapping
  | closeMapping
  | comma
  | dash
  | key
  | value
  | reference (name : String)
  | anchor (name : String)
  | tag (tag : WrittenTag)
  | scalar (text : String) (plain : Bool)
deriving DecidableEq, Repr

/-- A place where a key may have started. -/
structure KeyStart where
  /-- The number of tokens before it. -/
  position : Nat
  /-- Whether only a key can stand there. -/
  required : Bool
  index : Nat
  line : Nat
  column : Nat
deriving DecidableEq, Repr

/-- The most characters from the start of a key to its colon. -/
def maxKeyLength : Nat := 1024

/-- How far a text has been read. -/
structure Progress where
  place : Place
  tokens : Array Token
  /-- How many brackets are open. -/
  flow : Nat
  /-- The column of the innermost block collection, and those of the collections around it. -/
  indent : Int
  outer : List Int
  /-- Whether a key may start here. -/
  allowKey : Bool
  /-- Where keys may have started, by the number of brackets around them. -/
  keys : List (Nat × KeyStart)
deriving Repr

namespace Progress

abbrev Step := Progress → Except Fault Progress

def push (p : Progress) (token : Token) : Progress := { p with tokens := p.tokens.push token }

/-- Adds a token of so many characters. -/
def pushMark (p : Progress) (length : Nat) (token : Token) : Progress :=
  { p.push token with place := p.place.advanceBy length }

def inFlow (p : Progress) : Bool := p.flow != 0

/-! ### Keys -/

def keyHere? (p : Progress) : Option KeyStart := p.keys.lookup p.flow

def dropKeyHere (p : Progress) : Progress :=
  { p with keys := p.keys.filter fun entry => entry.1 != p.flow }

/-- No key started at this level, which is a fault if one had to. -/
def noKey : Step := fun p =>
  match p.keyHere? with
  | none => .ok p
  | some start => if start.required then .error .malformed else .ok p.dropKeyHere

/-- A key may start here. -/
def startKey : Step := fun p =>
  if p.allowKey then do
    let required := !p.inFlow && p.indent == p.place.column
    let p ← p.noKey
    let start : KeyStart := ⟨p.tokens.size, required, p.place.index, p.place.line, p.place.column⟩
    return { p with keys := (p.flow, start) :: p.keys }
  else .ok p

/-- Whether a key that started there can no longer end here. -/
def isStale (p : Progress) (start : KeyStart) : Bool :=
  start.line != p.place.line || maxKeyLength < p.place.index - start.index

def dropStaleKeys : Step := fun p =>
  if p.keys.any fun entry => p.isStale entry.2 && entry.2.required then .error .malformed
  else .ok { p with keys := p.keys.filter fun entry => !p.isStale entry.2 }

/-! ### Indentation -/

/-- Ends the block collections to the right of a column. -/
def unwind (column : Int) (p : Progress) : Progress :=
  if p.inFlow then p
  else
    let columns := p.indent :: p.outer
    let ended := columns.takeWhile fun c => column < c
    match columns.drop ended.length with
    | indent :: outer =>
      { p with tokens := p.tokens ++ ended.map (fun _ => Token.blockEnd), indent := indent, outer := outer }
    | [] => p

/-- Starts a block collection at a column, unless one has started there. The token for its start goes to
the given position. -/
def indentAt (column : Nat) (position : Nat) (token : Token) (p : Progress) : Progress :=
  if p.indent < column then
    { p with
      tokens := p.tokens.insertIdxIfInBounds position token
      indent := column
      outer := p.indent :: p.outer }
  else p

/-! ### Tokens -/

/-- Past spaces, comments and line breaks. In block context a key may start on a new line. -/
def skipSpace : Nat → Progress → Progress
  | 0, p => p
  | fuel + 1, p =>
    let place := p.place.skipSpaces.skipComment
    match place.break? with
    | none => { p with place := place }
    | some (_, after) => skipSpace fuel { p with place := after, allowKey := p.allowKey || !p.inFlow }

/-- Before the next token. -/
def settle : Step := fun p => do
  let start := if p.place.index == 0 && p.place.startsWith byteOrderMark then p.place.advance else p.place
  let p := skipSpace (start.rest.length + 1) { p with place := start }
  let p ← p.dropStaleKeys
  return p.unwind p.place.column

def readDocumentMark (token : Token) : Step := fun p => do
  let p ← (p.unwind (-1)).noKey
  return { p.pushMark 3 token with allowKey := false }

def readDirectiveLine : Step := fun p => do
  let p ← (p.unwind (-1)).noKey
  let (directive, after) ← readDirective p.place
  return { p.push (.directive directive) with place := after, allowKey := false }

def openBracket (token : Token) : Step := fun p => do
  let p ← p.startKey
  return { p.pushMark 1 token with flow := p.flow + 1, allowKey := true }

/-- A bracket closes only what is open. -/
def closeBracket (token : Token) : Step := fun p => do
  if p.flow == 0 then throw .malformed
  let p ← p.noKey
  return { p.pushMark 1 token with flow := p.flow - 1, allowKey := false }

def readComma : Step := fun p => do
  let p ← p.noKey
  return { p.pushMark 1 .comma with allowKey := true }

/-- Starts a block collection at a mark, where one may start. -/
def startBlock (token : Token) : Step := fun p =>
  if p.inFlow then .ok p
  else if p.allowKey then .ok (p.indentAt p.place.column p.tokens.size token)
  else .error .malformed

def readDash : Step := fun p => do
  let p ← (← p.startBlock .blockList).noKey
  return { p.pushMark 1 .dash with allowKey := true }

def readKeyMark : Step := fun p => do
  let p ← (← p.startBlock .blockMapping).noKey
  return { p.pushMark 1 .key with allowKey := !p.inFlow }

/-- A colon turns what started as a key into one. -/
def readValueMark : Step := fun p =>
  match p.keyHere? with
  | some start =>
    let p := { p.dropKeyHere with tokens := p.tokens.insertIdxIfInBounds start.position .key }
    let p := if p.inFlow then p else p.indentAt start.column start.position .blockMapping
    .ok { p.pushMark 1 .value with allowKey := false }
  | none => do
    let p ← (← p.startBlock .blockMapping).noKey
    return { p.pushMark 1 .value with allowKey := !p.inFlow }

/-- A token that may be a key or come before one. -/
def readWord (read : Place → Except Fault (Token × Place)) : Step := fun p => do
  let p ← p.startKey
  let (token, after) ← read p.place
  return { p.push token with place := after, allowKey := false }

def readBlockScalar (folded : Bool) : Step := fun p => do
  let p ← p.noKey
  let (text, after) ← readBlock folded p.indent p.place
  return { p.push (.scalar text false) with place := after, allowKey := true }

def readPlainScalar : Step := fun p => do
  let p ← p.startKey
  let ((text, newLine), after) := readPlain p.inFlow p.indent p.place
  return { p.push (.scalar text true) with place := after, allowKey := newLine }

/-- Reads the next token, whose first character is given. -/
def readToken (c : Char) : Step := fun p =>
  let behind := p.place.rest.tail
  let lineStart := p.place.column == 0
  let marks := p.inFlow || endsWord behind
  if c == '%' && lineStart then p.readDirectiveLine
  else if lineStart && isTriple '-' p.place.rest then p.readDocumentMark .documentStart
  else if lineStart && isTriple '.' p.place.rest then p.readDocumentMark .documentEnd
  else if c == '[' then p.openBracket .openList
  else if c == '\x7b' then p.openBracket .openMapping
  else if c == ']' then p.closeBracket .closeList
  else if c == '\x7d' then p.closeBracket .closeMapping
  else if c == ',' then p.readComma
  else if c == '-' && endsWord behind then p.readDash
  else if c == '?' && marks then p.readKeyMark
  else if c == ':' && marks then p.readValueMark
  else if c == '*' then
    p.readWord fun place => do
      let (name, after) ← readAnchor place.advance
      return (.reference name, after)
  else if c == '&' then
    p.readWord fun place => do
      let (name, after) ← readAnchor place.advance
      return (.anchor name, after)
  else if c == '!' then
    p.readWord fun place => do
      let (tag, after) ← readTag place
      return (.tag tag, after)
  else if c == '|' && !p.inFlow then p.readBlockScalar false
  else if c == '>' && !p.inFlow then p.readBlockScalar true
  else if c == '\'' || c == '"' then
    p.readWord fun place => do
      let (text, after) ← readQuoted c place
      return (.scalar text false, after)
  else if startsPlain p.inFlow p.place.rest then p.readPlainScalar
  else .error .malformed

def start (text : List Char) : Progress := ⟨⟨text, 0, 0, 0⟩, #[], 0, -1, [], true, []⟩

end Progress

/-- The tokens of a text, as far as it can be read, and the fault that ends it there. -/
structure Tokens where
  list : List Token
  fault : Option Fault
deriving DecidableEq, Repr

namespace Tokens

/-- Reads on; every token takes at least one character. -/
def readFrom : Nat → Progress → Tokens
  | 0, p => ⟨p.tokens.toList, some .malformed⟩
  | fuel + 1, p =>
    match p.settle with
    | .error fault => ⟨p.tokens.toList, some fault⟩
    | .ok settled =>
      match settled.place.rest with
      | [] =>
        match (settled.unwind (-1)).noKey with
        | .error fault => ⟨settled.tokens.toList, some fault⟩
        | .ok ended => ⟨ended.tokens.toList, none⟩
      | c :: _ =>
        match settled.readToken c with
        | .error fault => ⟨settled.tokens.toList, some fault⟩
        | .ok next => readFrom fuel next

def ofText (text : List Char) : Tokens :=
  if text.all isAllowed then readFrom (text.length + 1) (Progress.start text)
  else ⟨[], some .malformed⟩

end Tokens

end OperationSamples.Yaml
