import OperationSamples.Yaml.Quoted

/-!
Scalars without quotes.

A plain scalar goes on over spaces and line breaks until something ends it: a colon before a space, a
comment, a line that is not indented enough, the start or end of a document, or, between brackets, a
character that is special there.
-/

namespace OperationSamples.Yaml

/-- The characters that no scalar may start with, though some of them may if no space follows. -/
def indicators : List Char := "-?:,[]\x7b\x7d#&*!|>'\"%@`".toList

/-- Characters that end a plain scalar between brackets. -/
def bracketMarks : List Char := ",[]\x7b\x7d".toList

/-- Whether a plain scalar can start here. -/
def startsPlain (inFlow : Bool) : List Char → Bool
  | [] => false
  | c :: rest =>
    !(isSpace c || indicators.contains c)
      || (!endsWord rest && (c == '-' || (!inFlow && (c == '?' || c == ':'))))

/-- The characters up to the next that may end a plain scalar. -/
def plainPart (inFlow : Bool) : List Char → List Char
  | [] => []
  | c :: rest =>
    let ends := isSpace c
      || (c == ':' && (endsWord rest || (inFlow && (rest.head?.map bracketMarks.contains).getD false)))
      || (inFlow && (c == '?' || bracketMarks.contains c))
    if ends then [] else c :: plainPart inFlow rest

/-- The space behind a part of a plain scalar. -/
structure PlainSpace where
  /-- What the space stands for if the scalar goes on, which it cannot at the bounds of a document. -/
  text : Option (List Char)
  /-- Whether the space holds a line break. -/
  newLine : Bool
deriving Repr

/-- The breaks of blank lines, unless a document starts or ends. -/
def readPlainLines : Nat → Place → Option (List Char) × Place
  | 0, place => (none, place)
  | fuel + 1, place =>
    if isBoundary place.rest then (none, place)
    else
      let place := place.skipSpaces
      match place.break? with
      | none => (some [], place)
      | some (c, after) =>
        let (breaks, after) := readPlainLines fuel after
        (breaks.map fun others => c :: others, after)

def readPlainSpace (place : Place) : PlainSpace × Place :=
  let (spaces, place) := place.take fun c => c == ' '
  match place.break? with
  | none => (⟨some spaces, false⟩, place)
  | some (c, after) =>
    let (breaks, after) := readPlainLines (after.rest.length + 1) after
    (⟨breaks.map (foldBreak c), true⟩, after)

/-- The scalar from here on, and whether a line break stands behind it. `indent` is the least column at
which it goes on. -/
def readPlainFrom (inFlow : Bool) (indent : Int) : Nat → Place → (List Char × Bool) × Place
  | 0, place => (([], false), place)
  | fuel + 1, place =>
    let part := plainPart inFlow place.rest
    let (space, after) := readPlainSpace (place.advanceBy part.length)
    let stops := after.startsWith '#' || (!inFlow && (after.column : Int) < indent)
      || (plainPart inFlow after.rest).isEmpty
    match space.text with
    | none => ((part, space.newLine), after)
    | some text =>
      if text.isEmpty || stops then ((part, space.newLine), after)
      else
        let ((more, newLine), after) := readPlainFrom inFlow indent fuel after
        ((part ++ text ++ more, newLine), after)

/-- The plain scalar that starts here, in surroundings that are indented by `outer`. -/
def readPlain (inFlow : Bool) (outer : Int) (place : Place) : (String × Bool) × Place :=
  let ((text, newLine), after) := readPlainFrom inFlow (outer + 1) (place.rest.length + 1) place
  ((String.ofList text, newLine), after)

end OperationSamples.Yaml
