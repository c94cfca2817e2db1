import OperationSamples.Yaml.Scalar
import OperationSamples.Yaml.Token

/-!
Nodes of a document.

A node is a scalar, a list, a mapping, or a reference to a node with an anchor. It carries its tag, which
for a scalar without one comes from its form. A reference may stand inside the node that it refers to, so
references are kept, with the anchored nodes beside the root (`YamlDocument`).
-/

namespace OperationSamples.Yaml

inductive Node where
  | scalar (tag : Tag) (text : String)
  | list (tag : Tag) (items : List Node)
  | mapping (tag : Tag) (entries : List (Node × Node))
  | reference (name : String)
deriving Repr, Inhabited

namespace Node

/-- What stands where nothing is written. -/
def empty : Node := .scalar .null ""

end Node

/-- The tokens left to read, and what is known from those before them. -/
structure Source where
  tokens : List Token
  /-- What ends the tokens, unless it is the end of the text. -/
  fault : Option Fault
  handles : Handles
  /-- The anchors so far. -/
  names : List String
  /-- The nodes with anchors that have been read to their end. -/
  anchored : List (String × Node)
  /-- How many nodes the next one stands in. -/
  depth : Nat

abbrev Build := StateT Source (Except Fault)

/-- The next token; nothing at the end of the text. -/
def peek : Build (Option Token) := do
  let source ← get
  match source.tokens, source.fault with
  | token :: _, _ => return some token
  | [], none => return none
  | [], some fault => throw fault

def skip : Build Unit := modify fun source => { source with tokens := source.tokens.tail }

/-- Whether one of the tokens is next. -/
def isNext (tokens : List Token) : Build Bool := do
  match ← peek with
  | some token => return tokens.contains token
  | none => return false

/-- Reads a token if it is next. -/
def accept (token : Token) : Build Bool := do
  if ← isNext [token] then
    skip
    return true
  else return false

def expect (token : Token) : Build Unit := do
  if !(← accept token) then throw .malformed

/-! ### Tags and anchors -/

def anchorNext? : Build (Option String) := do
  match ← peek with
  | some (.anchor name) =>
    skip
    return some name
  | _ => return none

def tagNext? : Build (Option String) := do
  match ← peek with
  | some (.tag tag) =>
    skip
    return some (← tag.name (← get).handles)
  | _ => return none

/-- What stands before a node: an anchor and a tag, in either order. -/
structure Properties where
  anchor : Option String
  tag : Option String

def properties : Build Properties := do
  match ← anchorNext? with
  | some anchor => return ⟨some anchor, ← tagNext?⟩
  | none =>
    match ← tagNext? with
    | some tag => return ⟨← anchorNext?, some tag⟩
    | none => return ⟨none, none⟩

/-- The tag of a node that leaves it open is the one that its form gives. -/
def tagOr (formed : Tag) : Option String → Tag
  | none => formed
  | some name => if name == "!" then formed else Tag.ofName name

/-- A scalar between quotes is a text, unless it has a tag that leaves its kind open. -/
def scalarNode (tag : Option String) (text : String) (plain : Bool) : Node :=
  let formed := if plain || tag.isSome then Tag.ofPlain text.toList else .text
  .scalar (tagOr formed tag) text

def declare : Option String → Build Unit
  | none => return ()
  | some name => do
    if (← get).names.contains name then throw .malformed
    modify fun source => { source with names := name :: source.names }

def record (anchor : Option String) (node : Node) : Build Node := do
  match anchor with
  | none => return node
  | some name =>
    modify fun source => { source with anchored := (name, node) :: source.anchored }
    return node

/-! ### Nodes -/

/-- The most nodes that one may stand in. -/
def maxDepth : Nat := 484

/-- Goes one level down. -/
def enter : Build Unit := do
  let source ← get
  if maxDepth < source.depth then throw .tooDeep
  set { source with depth := source.depth + 1 }

def leave : Build Unit := modify fun source => { source with depth := source.depth - 1 }

/-- Tokens before which a value or an entry of a block mapping or list is left out. -/
def blockStops : List Token := [.key, .value, .blockEnd]

/-- Where a node may stand. -/
inductive Site where
  /-- As an entry of a block list, or as the root. -/
  | block
  /-- As a key or value of a block mapping, where the entries of a list need not be indented. -/
  | member
  /-- Between brackets. -/
  | flow
deriving DecidableEq, Repr

mutual

def readNode (site : Site) : Nat → Build Node
  | 0 => throw .malformed
  | fuel + 1 => do
    match ← peek with
    | some (.reference name) =>
      skip
      if (← get).names.contains name then return .reference name else throw .malformed
    | _ =>
      let given ← properties
      declare given.anchor
      enter
      let node ← readContent site given fuel
      leave
      record given.anchor node

def readContent (site : Site) (given : Properties) : Nat → Build Node
  | 0 => throw .malformed
  | fuel + 1 => do
    let list := Node.list (tagOr .list given.tag)
    let mapping := Node.mapping (tagOr .mapping given.tag)
    if site == .member && (← isNext [.dash]) then return list (← readOutdented fuel)
    else if site != .flow && (← accept .blockList) then return list (← readEntries fuel)
    else if site != .flow && (← accept .blockMapping) then return mapping (← readMembers fuel)
    else if ← accept .openList then return list (← readItems true fuel)
    else if ← accept .openMapping then return mapping (← readFields true fuel)
    else
      match ← peek with
      | some (.scalar text plain) =>
        skip
        return scalarNode given.tag text plain
      | _ =>
        if given.anchor.isSome || given.tag.isSome then return scalarNode given.tag "" true
        else throw .malformed

/-- A node that is left out before certain tokens. -/
def readUnless (stops : List Token) (site : Site) : Nat → Build Node
  | 0 => throw .malformed
  | fuel + 1 => do
    if ← isNext stops then return Node.empty else readNode site fuel

/-- The node after a mark, if the mark is there. -/
def readAfter (mark : Token) (stops : List Token) (site : Site) : Nat → Build Node
  | 0 => throw .malformed
  | fuel + 1 => do
    if ← accept mark then readUnless stops site fuel else return Node.empty

/-- The entries of a block list. -/
def readEntries : Nat → Build (List Node)
  | 0 => throw .malformed
  | fuel + 1 => do
    if ← accept .dash then
      let item ← readUnless [.dash, .blockEnd] .block fuel
      return item :: (← readEntries fuel)
    else
      expect .blockEnd
      return []

/-- The entries of a list at the column of the key whose value it is. -/
def readOutdented : Nat → Build (List Node)
  | 0 => throw .malformed
  | fuel + 1 => do
    if ← accept .dash then
      let item ← readUnless (.dash :: blockStops) .block fuel
      return item :: (← readOutdented fuel)
    else return []

/-- The entries of a block mapping. -/
def readMembers : Nat → Build (List (Node × Node))
  | 0 => throw .malformed
  | fuel + 1 => do
    if ← accept .key then
      let key ← readUnless blockStops .member fuel
      let value ← readAfter .value blockStops .member fuel
      return (key, value) :: (← readMembers fuel)
    else
      expect .blockEnd
      return []

/-- The items of a list between brackets. An item with a key is a mapping of its own. -/
def readItems (first : Bool) : Nat → Build (List Node)
  | 0 => throw .malformed
  | fuel + 1 => do
    if ← accept .closeList then return []
    else
      if !first then expect .comma
      if ← accept .key then
        let key ← readUnless [.value, .comma, .closeList] .flow fuel
        let value ← readAfter .value [.comma, .closeList] .flow fuel
        return .mapping .mapping [(key, value)] :: (← readItems false fuel)
      else if ← accept .closeList then return []
      else
        let item ← readNode .flow fuel
        return item :: (← readItems false fuel)

/-- The entries of a mapping between braces. A key may stand without a value. -/
def readFields (first : Bool) : Nat → Build (List (Node × Node))
  | 0 => throw .malformed
  | fuel + 1 => do
    if ← accept .closeMapping then return []
    else
      if !first then expect .comma
      if ← accept .key then
        let key ← readUnless [.value, .comma, .closeMapping] .flow fuel
        let value ← readAfter .value [.comma, .closeMapping] .flow fuel
        return (key, value) :: (← readFields false fuel)
      else if ← accept .closeMapping then return []
      else
        let key ← readNode .flow fuel
        return (key, Node.empty) :: (← readFields false fuel)

end

/-! ### Documents -/

/-- The directives before a document. -/
def readDirectives (version : Bool) (own : Handles) : List Token → Except Fault (Handles × List Token)
  | .directive (.version major) :: rest =>
    if version || major != 1 then .error .malformed else readDirectives true own rest
  | .directive (.tagHandle handle start) :: rest =>
    if (own.lookup handle).isSome then .error .malformed
    else readDirectives version ((handle, start) :: own) rest
  | .directive .other :: rest => readDirectives version own rest
  | rest => .ok (own ++ standardHandles, rest)

/-- The head of a document that has one. -/
def readHead : Build Unit := do
  let source ← get
  let (handles, rest) ← readDirectives false [] source.tokens
  set { source with tokens := rest, handles := handles }
  expect .documentStart

def isDirective : Option Token → Bool
  | some (.directive _) => true
  | _ => false

/-- The root of a document. -/
def readRoot (fuel : Nat) : Build Node := do
  if isDirective (← peek) || (← isNext [.documentStart]) then
    readHead
    let next ← peek
    if next == none || isDirective next || (← isNext [.documentStart, .documentEnd]) then
      return Node.empty
    else readNode .block fuel
  else readNode .block fuel

/-- A document has the text to itself; only the marks of its end may follow. -/
def readEnd : Nat → Build Unit
  | 0 => throw .malformed
  | fuel + 1 => do
    if ← accept .documentEnd then readEnd fuel
    else if (← peek).isSome then throw .malformed

def readDocument (fuel : Nat) : Build Node := do
  if (← peek).isNone then return Node.empty
  else
    let root ← readRoot fuel
    readEnd fuel
    return root

structure YamlDocument where
  root : Node
  anchored : List (String × Node)
deriving Repr

namespace YamlDocument

/-- The document that tokens make up. -/
def ofTokens (tokens : Tokens) : Except Fault YamlDocument := do
  let fuel := 4 * tokens.list.length + 8
  let source : Source := ⟨tokens.list, tokens.fault, standardHandles, [], [], 0⟩
  let (root, source) ← (readDocument fuel).run source
  return ⟨root, source.anchored⟩

end YamlDocument

end OperationSamples.Yaml
