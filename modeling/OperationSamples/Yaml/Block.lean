import OperationSamples.Yaml.Place

/-!
Block scalars.

A block scalar is a run of lines that are indented alike. A literal one keeps its line breaks. In a
folded one a single break between two lines that start at the indentation stands for a space. The header
may say how far the lines are indented, and what becomes of the breaks at the end.
-/

namespace OperationSamples.Yaml

/-- What becomes of the line breaks at the end of a block scalar. -/
inductive Chomping where
  | strip
  | clip
  | keep
deriving DecidableEq, Repr

structure BlockHeader where
  chomping : Chomping
  /-- How much further than its surroundings the block is indented, if the header says so. -/
  increment : Option Nat
deriving DecidableEq, Repr

def chomping? (c : Char) : Option Chomping :=
  if c == '+' then some .keep else if c == '-' then some .strip else none

def increment? (c : Char) : Option Nat := if c.isDigit then some (c.toNat - '0'.toNat) else none

/-- The signs of a block scalar, in either order. -/
def readBlockSigns (place : Place) : BlockHeader × Place :=
  match place.rest with
  | [] => (⟨.clip, none⟩, place)
  | a :: rest =>
    match chomping? a, increment? a with
    | some chomping, _ =>
      match rest.head?.bind increment? with
      | some n => (⟨chomping, some n⟩, place.advanceBy 2)
      | none => (⟨chomping, none⟩, place.advance)
    | none, some n =>
      match rest.head?.bind chomping? with
      | some chomping => (⟨chomping, some n⟩, place.advanceBy 2)
      | none => (⟨.clip, some n⟩, place.advance)
    | none, none => (⟨.clip, none⟩, place)

/-- The line on which a block scalar begins. -/
def readBlockHeader (place : Place) : Except Fault (BlockHeader × Place) := do
  let (header, after) := readBlockSigns place
  if header.increment == some 0 || !endsSpaced after.rest then throw .malformed
  return (header, ← after.finishLine)

/-- The blank lines before the first line of a block, and the widest column that their spaces reach. -/
def readLeadingLines : Nat → Nat → Place → (List Char × Nat) × Place
  | 0, widest, place => (([], widest), place)
  | fuel + 1, widest, place =>
    if place.startsWith ' ' then
      let place := place.advance
      readLeadingLines fuel (max widest place.column) place
    else
      match place.break? with
      | none => (([], widest), place)
      | some (c, after) =>
        let ((breaks, widest), after) := readLeadingLines fuel widest after
        ((c :: breaks, widest), after)

/-- Past at most so many spaces that the place is at the indentation. -/
def indentTo (indent : Nat) (place : Place) : Place :=
  place.advanceBy (min (indent - place.column) (place.rest.takeWhile fun c => c == ' ').length)

/-- The breaks of blank lines, up to a line that is indented enough, or to one that is not blank. -/
def readBlockBreaks (indent : Nat) : Nat → Place → List Char × Place
  | 0, place => ([], place)
  | fuel + 1, place =>
    let place := indentTo indent place
    match place.break? with
    | none => ([], place)
    | some (c, after) =>
      let (breaks, after) := readBlockBreaks indent fuel after
      (c :: breaks, after)

/-- Whether a line of the block starts here. -/
def isBlockLine (indent : Nat) (place : Place) : Bool :=
  place.column == indent && !place.rest.isEmpty

def startsBlank (place : Place) : Bool := (place.rest.head?.map isBlank).getD false

/-- The end of a block: its last break and the breaks of the blank lines behind it. -/
def chomp (chomping : Chomping) (last : List Char) (blankLines : List Char) : List Char :=
  match chomping with
  | .strip => []
  | .clip => last
  | .keep => last ++ blankLines

/-- The lines of a block from one that starts here. -/
def readBlockLines (folded : Bool) (chomping : Chomping) (indent : Nat) : Nat → Place → List Char × Place
  | 0, place => ([], place)
  | fuel + 1, place =>
    let (line, after) := place.take fun c => !isBreak c
    let (last, after) := match after.break? with
      | some (c, after) => ([c], after)
      | none => ([], after)
    let (blankLines, after) := readBlockBreaks indent (after.rest.length + 1) after
    if isBlockLine indent after then
      let joint :=
        if folded && last == ['\n'] && !startsBlank place && !startsBlank after then
          if blankLines.isEmpty then [' '] else blankLines
        else last ++ blankLines
      let (text, after) := readBlockLines folded chomping indent fuel after
      (line ++ joint ++ text, after)
    else (line ++ chomp chomping last blankLines, after)

/-- The scalar whose sign stands here, in surroundings that are indented by `outer`. -/
def readBlock (folded : Bool) (outer : Int) (place : Place) : Except Fault (String × Place) := do
  let (header, place) ← readBlockHeader place.advance
  let least := (max (outer + 1) 1).toNat
  let fuel := place.rest.length + 1
  let (indent, leading, place) := match header.increment with
    | some n =>
      let indent := least + n - 1
      (indent, readBlockBreaks indent fuel place)
    | none =>
      let ((breaks, widest), place) := readLeadingLines fuel 0 place
      (max least widest, breaks, place)
  if isBlockLine indent place then
    let (text, after) := readBlockLines folded header.chomping indent fuel place
    return (String.ofList (leading ++ text), after)
  else return (String.ofList (chomp header.chomping [] leading), place)

end OperationSamples.Yaml
