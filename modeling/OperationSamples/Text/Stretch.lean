/-!
Sets of code points, written as sorted lists of stretches.

Character classes such as "upper-case letter" are data of a standard. A class is kept as a list of
`Stretch`es, each of which holds every `step`-th code point of an interval (scripts that alternate
capital and small letters give stretches of step two). `Stretch.covers` decides membership and stops
at the first stretch that begins above the code point, which is right because the lists are sorted.
-/

namespace OperationSamples.Text

structure Stretch where
  first : Nat
  last : Nat
  step : Nat
deriving DecidableEq, Repr

namespace Stretch

def contains (s : Stretch) (n : Nat) : Bool :=
  s.first ≤ n && n ≤ s.last && (n - s.first) % s.step == 0

/-- Membership in a class given as stretches in ascending order of their first code points. -/
def covers : List Stretch → Nat → Bool
  | [], _ => false
  | s :: rest, n => if n < s.first then false else s.contains n || covers rest n

end Stretch

end OperationSamples.Text
