import OperationSamples.Yaml.Quoted

/-!
Tags, directives, and the names of anchors.

A tag says of what kind a node is. It is written in full between angle brackets, or as a handle, which
a directive may define, and a suffix. `Tag` is what a tag comes to: one of the known kinds, or none of
them.
-/

namespace OperationSamples.Yaml

/-- The kind of a node. -/
inductive Tag where
  | null
  | bool
  | int
  | float
  | text
  | binary
  | time
  /-- The key under which another mapping is merged. -/
  | merge
  /-- The key of the value that stands for a whole mapping. -/
  | value
  | list
  | mapping
  | set
  /-- A list of pairs, whose order counts. -/
  | pairs
  | unknown
deriving DecidableEq, Repr

/-- A tag as it is written. -/
structure WrittenTag where
  /-- The handle, unless the tag is written in full. -/
  handle : Option String
  suffix : String
deriving DecidableEq, Repr

/-- The tag that leaves the kind open. -/
def WrittenTag.bare : WrittenTag := ⟨none, "!"⟩

inductive YamlDirective where
  | version (major : Nat)
  | tagHandle (handle start : String)
  | other
deriving DecidableEq, Repr

/-! ### Kinds -/

def standardStart : String := "tag:yaml.org,2002:"

def standardTags : List (String × Tag) :=
  [("null", .null), ("bool", .bool), ("int", .int), ("float", .float), ("str", .text), ("binary", .binary),
    ("timestamp", .time), ("seq", .list), ("map", .mapping), ("set", .set), ("omap", .pairs),
    ("pairs", .pairs), ("merge", .merge), ("value", .value)]

/-- The kind that a tag in full stands for. -/
def Tag.ofName (name : String) : Tag :=
  ((standardTags.find? fun entry => standardStart ++ entry.1 == name).map Prod.snd).getD .unknown

/-- What each handle stands for. -/
abbrev Handles := List (String × String)

def standardHandles : Handles := [("!", "!"), ("!!", standardStart)]

/-- A tag in full. -/
def WrittenTag.name (handles : Handles) (tag : WrittenTag) : Except Fault String :=
  match tag.handle with
  | none => .ok tag.suffix
  | some handle =>
    match handles.lookup handle with
    | some start => .ok (start ++ tag.suffix)
    | none => .error .malformed

/-! ### Names -/

/-- A name of at least one character. -/
def readName (place : Place) : Except Fault (String × Place) :=
  let (name, after) := place.take isNameChar
  if name.isEmpty then .error .malformed else .ok (String.ofList name, after)

/-- The name of an anchor, behind its sign. -/
def readAnchor (place : Place) : Except Fault (String × Place) := do
  let (name, after) ← readName place
  let ends := endsWord after.rest || (after.rest.head?.map "?:,]\x7d%@`".toList.contains).getD false
  if ends then return (name, after) else throw .malformed

/-! ### Tags -/

/-- A handle: an exclamation mark, or a name between two of them. -/
def readHandle (place : Place) : Except Fault (String × Place) := do
  if !place.startsWith '!' then throw .malformed
  let name := place.rest.tail.takeWhile isNameChar
  let after := place.advanceBy (name.length + 1)
  if after.startsWith '!' then return ("!" ++ String.ofList name ++ "!", after.advance)
  else if name.isEmpty && after.startsWith ' ' then return ("!", after)
  else throw .malformed

def isTagChar (c : Char) : Bool := c.isAlphanum || "-;/?:@&=+$,_.!~*'()[]%".toList.contains c

/-- The bytes of a run of escapes. -/
def readEscapedBytes : List Char → Except Fault (List UInt8 × List Char)
  | '%' :: a :: b :: rest => do
    match hexNumber? [a, b] with
    | none => throw .malformed
    | some n =>
      let (bytes, rest) ← readEscapedBytes rest
      return (UInt8.ofNat n :: bytes, rest)
  | '%' :: _ => .error .malformed
  | rest => .ok ([], rest)

/-- The text of a tag, in which escapes stand for bytes. -/
def tagText : Nat → List Char → Except Fault (List Char)
  | 0, _ => .error .malformed
  | _, [] => .ok []
  | fuel + 1, c :: rest =>
    if c == '%' then do
      let (bytes, rest) ← readEscapedBytes (c :: rest)
      match String.fromUTF8? ⟨bytes.toArray⟩ with
      | some text => return text.toList ++ (← tagText fuel rest)
      | none => throw .malformed
    else do return c :: (← tagText fuel rest)

/-- A tag in full, or its suffix. -/
def readTagText (place : Place) : Except Fault (String × Place) := do
  let (written, after) := place.take isTagChar
  if written.isEmpty then throw .malformed
  return (String.ofList (← tagText (written.length + 1) written), after)

/-- The tag whose exclamation mark stands here. -/
def readTag (place : Place) : Except Fault (WrittenTag × Place) := do
  let behind := place.rest.tail
  let (tag, after) ←
    if behind.head? == some '<' then do
      let (suffix, after) ← readTagText (place.advanceBy 2)
      if after.startsWith '>' then pure (⟨none, suffix⟩, after.advance) else throw .malformed
    else if endsWord behind then pure (.bare, place.advance)
    else do
      let word := behind.takeWhile fun c => c != ' ' && !isBreak c
      let (handle, after) ←
        if word.contains '!' then readHandle place else pure ("!", place.advance)
      let (suffix, after) ← readTagText after
      pure (⟨some handle, suffix⟩, after)
  if endsSpaced after.rest then return (tag, after) else throw .malformed

/-! ### Directives -/

def readDigits (place : Place) : Except Fault (Nat × Place) :=
  let (digits, after) := place.take Char.isDigit
  if digits.isEmpty then .error .malformed
  else .ok (digits.foldl (fun n c => n * 10 + (c.toNat - '0'.toNat)) 0, after)

def readVersion (place : Place) : Except Fault (YamlDirective × Place) := do
  let (major, after) ← readDigits place
  if !after.startsWith '.' then throw .malformed
  let (_, after) ← readDigits after.advance
  if endsSpaced after.rest then return (.version major, after) else throw .malformed

def readTagHandle (place : Place) : Except Fault (YamlDirective × Place) := do
  let (handle, after) ← readHandle place
  if !after.startsWith ' ' then throw .malformed
  let (start, after) ← readTagText after.skipSpaces
  if endsSpaced after.rest then return (.tagHandle handle start, after) else throw .malformed

/-- The directive whose percent sign stands here, with the rest of its line. -/
def readDirective (place : Place) : Except Fault (YamlDirective × Place) := do
  let (name, after) ← readName place.advance
  if !endsSpaced after.rest then throw .malformed
  let (directive, after) ←
    if name == "YAML" then readVersion after.skipSpaces
    else if name == "TAG" then readTagHandle after.skipSpaces
    else pure (.other, after.advanceWhile fun c => !isBreak c)
  return (directive, ← after.finishLine)

end OperationSamples.Yaml
