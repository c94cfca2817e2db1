import OperationSamples.Number.Double
import OperationSamples.Random.Twister

/-!
Drawing at random.

A `Draw` reads words from a generator and may fail. Its primitives are whole numbers in a range, one
element of a list, and several elements. Several elements are drawn by a fraction of the length
each; a single one is drawn by its position. Elements without repetition are taken out of a pool, or,
when they are few among many, drawn again until they are new.
-/

namespace OperationSamples

/-- Why a generator gave no value. -/
inductive GeneratorFault where
  | badArguments
  /-- An element was to be chosen from nothing. -/
  | emptyChoice
  /-- A date or number lies outside of what can be represented. -/
  | outOfRange
  /-- There is no draw for the name. -/
  | leftOut
deriving DecidableEq, Repr

abbrev Draw := StateT Twister (Except GeneratorFault)

namespace Draw

def bits (count : Nat) : Draw Nat := fun t => .ok (t.bits count)

def below (bound : Nat) : Draw Nat := fun t => .ok (t.below bound)

/-- A fraction of the unit interval, as a numerator over `2 ^ 53`. -/
def unit : Draw Nat := fun t => .ok t.unitNumerator

/-- A whole number between two bounds, both included. -/
def between (low high : Int) : Draw Int :=
  if high < low then throw .badArguments
  else do
    let n ← below (high - low + 1).toNat
    return low + n

/-- Repeats a draw and keeps all results. -/
def times {α : Type} : Nat → Draw α → Draw (List α)
  | 0, _ => return []
  | n + 1, draw => do
    let first ← draw
    let rest ← times n draw
    return first :: rest

def elementAt {α : Type} (items : List α) (index : Nat) : Draw α :=
  match items[index]? with
  | some item => return item
  | none => throw .emptyChoice

def choice {α : Type} (items : List α) : Draw α :=
  if items.isEmpty then throw .emptyChoice
  else do
    let index ← below items.length
    elementAt items index

/-- An element at a random fraction of the length. The product is rounded to a double first. -/
def elementByFraction {α : Type} (items : List α) : Draw α := do
  let numerator ← unit
  let place := Double.ofRatio false (numerator * items.length) (Nat.pow 2 53)
  elementAt items ((place.truncate?.getD 0).toNat)

/-- `count` elements, with repetition. -/
def pick {α : Type} (items : List α) (count : Int) : Draw (List α) :=
  if count == 1 then do
    let item ← choice items
    return [item]
  else times count.toNat (elementByFraction items)

/-- Takes elements out of a pool. The last element fills the place of the one that was taken. -/
def takeOut {α : Type} : Nat → List α → Draw (List α)
  | 0, _ => return []
  | count + 1, pool => do
    let index ← below pool.length
    let item ← elementAt pool index
    let pool := match pool.getLast? with
      | some last => (pool.set index last).dropLast
      | none => pool
    let rest ← takeOut count pool
    return item :: rest

/-- A position that was not drawn before. The chance of failing so often is negligible. -/
def newPosition (length : Nat) (seen : List Nat) : Nat → Draw Nat
  | 0 => throw .badArguments
  | fuel + 1 => do
    let index ← below length
    if seen.contains index then newPosition length seen fuel else return index

def newPositions (length : Nat) : Nat → List Nat → Draw (List Nat)
  | 0, seen => return seen.reverse
  | count + 1, seen => do
    let index ← newPosition length seen 10000
    newPositions length count (index :: seen)

/-- The least power of four that is not below a number. -/
def powerOfFour (n : Nat) : Nat → Nat → Nat
  | 0, power => power
  | fuel + 1, power => if power < n then powerOfFour n fuel (4 * power) else power

/-- Up to how many elements a pool is made when `count` of them are drawn. -/
def poolLimit (count : Nat) : Nat := 21 + if 5 < count then powerOfFour (3 * count) (3 * count) 1 else 0

/-- `count` elements, without repetition. -/
def sample {α : Type} (items : List α) (count : Int) : Draw (List α) :=
  if count < 0 || items.length < count then throw .badArguments
  else if items.length ≤ poolLimit count.toNat then takeOut count.toNat items
  else do
    let positions ← newPositions items.length count.toNat []
    positions.mapM (elementAt items)

/-- Replaces every occurrence of a character by a drawn text, from left to right. -/
def substitute (mark : Char) (draw : Draw (List Char)) : List Char → Draw (List Char)
  | [] => return []
  | c :: rest =>
    if c == mark then do
      let text ← draw
      let rest ← substitute mark draw rest
      return text ++ rest
    else do
      let rest ← substitute mark draw rest
      return c :: rest

/-- Runs a draw from a seed. -/
def fromSeed {α : Type} (draw : Draw α) (seed : UInt32) : Except GeneratorFault α :=
  (draw.run (Twister.seed seed)).map Prod.fst

end Draw

end OperationSamples
