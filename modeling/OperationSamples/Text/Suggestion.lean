import OperationSamples.Text.Case

/-!
Names that were probably meant.

`distance` counts the edits between two texts: characters inserted, deleted or replaced, and
neighbours that changed places. A name is suggested when it is within a limit that grows with the
length of what was written (`near`). The nearest come first, and names at one distance are in natural
order, in which runs of digits count as numbers.
-/

namespace OperationSamples.Suggestion

/-! ### Distances -/

/-- The cells of a row of distances after its first, which is `left`. `up` is the row before from the
column on the left, `older` the row before that one, and `last` the character of the last column. -/
def cells (c : Char) (before : Option Char) :
    Nat → List Nat → List Nat → Option Char → List Char → List Nat
  | left, diagonal :: above :: up, older, last, d :: rest =>
    let plain := min (min (above + 1) (left + 1)) (diagonal + if c == d then 0 else 1)
    let cell := match older with
      | far :: _ => if last == some c && before == some d then min plain (far + 1) else plain
      | [] => plain
    let older := if last.isSome then older.drop 1 else older
    cell :: cells c before cell (above :: up) older (some d) rest
  | _, _, _, _, _ => []

/-- The last row, row after row. `before` is the last character read and `older` the row before `up`. -/
def lastRow (b : List Char) : Nat → Option Char → List Nat → List Nat → List Char → List Nat
  | _, _, _, up, [] => up
  | n, before, older, up, c :: rest =>
    lastRow b (n + 1) (some c) up ((n + 1) :: cells c before (n + 1) up older none b) rest

/-- The number of edits that turn one text into the other. -/
def distance (a b : List Char) : Nat :=
  ((lastRow b 0 none [] (List.range (b.length + 1)) a).getLast?).getD 0

/-- The distance of a name from what was written; a difference in case only is one edit. -/
def measure (written name : String) : Nat :=
  let a := Text.lowerText written.toList
  let b := Text.lowerText name.toList
  if written == name then 0 else if a == b then 1 else distance b a

/-! ### Natural order -/

/-- A stretch without digits and the number after it. -/
structure Piece where
  text : List Char
  number : Option Nat
deriving DecidableEq, Repr

def pieces : Nat → List Char → List Piece
  | 0, _ => []
  | fuel + 1, text =>
    let plain := text.takeWhile fun c => !c.isDigit
    let rest := text.dropWhile fun c => !c.isDigit
    if rest.isEmpty then [⟨plain, none⟩]
    else
      let number := (rest.takeWhile Char.isDigit).foldl (fun n c => n * 10 + (c.toNat - 48)) 0
      ⟨plain, some number⟩ :: pieces fuel (rest.dropWhile Char.isDigit)

def piecesOf (name : String) : List Piece := pieces (name.length + 1) name.toList

def Piece.compare (a b : Piece) : Ordering :=
  if a.text < b.text then .lt else if b.text < a.text then .gt
  else match a.number, b.number with
    | none, none => .eq
    | none, some _ => .lt
    | some _, none => .gt
    | some m, some n => Ord.compare m n

def comparePieces : List Piece → List Piece → Ordering
  | [], [] => .eq
  | [], _ :: _ => .lt
  | _ :: _, [] => .gt
  | a :: as, b :: bs => (a.compare b).then (comparePieces as bs)

/-! ### Suggestions -/

/-- The names near to what was written, the nearest first. -/
def near (written : String) (names : List String) : List String :=
  let limit := written.length * 2 / 5 + 1
  let found := (names.map fun name => (measure written name, name)).filter fun (d, _) => d ≤ limit
  let sorted := found.mergeSort fun (d, a) (e, b) =>
    ((Ord.compare d e).then (comparePieces (piecesOf a) (piecesOf b))).isLE
  sorted.map Prod.snd

/-- Alternatives in words, with a comma before the last of three or more. -/
def alternatives : List String → String
  | [] => ""
  | [a] => a
  | [a, b] => a ++ " or " ++ b
  | items => ", ".intercalate items.dropLast ++ ", or " ++ items.getLastD ""

/-- The question whether one of the names was meant, five of them at most. -/
def question (subject : String) (names : List String) : String :=
  if names.isEmpty then ""
  else " Did you mean " ++ subject
    ++ alternatives ((names.take 5).map fun name => "'" ++ name ++ "'") ++ "?"

end OperationSamples.Suggestion
