/-!
The Mersenne Twister, a generator of 32-bit words with a state of 624 words.

`Twister.seed` fills the state from one word. `Twister.next` gives a word and moves on; when all
words of a state are used up the state is renewed. The other draws are defined by `next` alone:
`bits` takes high bits, `below` rejects until a number is in range, `unit` makes a double in [0, 1)
from 53 bits.
-/

namespace OperationSamples

structure Twister where
  words : Array UInt32
  index : Nat
deriving Repr, Inhabited

namespace Twister

def size : Nat := 624

def middle : Nat := 397

/-- The initial state for a single number. -/
def initial (seed : UInt32) : Array UInt32 :=
  let step (words : Array UInt32) (i : Nat) : Array UInt32 :=
    let last := words.getD (i - 1) 0
    words.push ((1812433253 : UInt32) * (last ^^^ (last >>> 30)) + i.toUInt32)
  (List.range' 1 (size - 1)).foldl step #[seed]

/-- A state under construction, and the place where it is being worked on. -/
structure Mixing where
  words : Array UInt32
  place : Nat

/-- Moves to the next place; past the end the first word takes the value of the last. -/
def Mixing.advance (m : Mixing) : Mixing :=
  if size ≤ m.place + 1 then ⟨m.words.set! 0 (m.words.getD (size - 1) 0), 1⟩
  else ⟨m.words, m.place + 1⟩

def mixed (m : Mixing) (factor : UInt32) : UInt32 :=
  let last := m.words.getD (m.place - 1) 0
  m.words.getD m.place 0 ^^^ ((last ^^^ (last >>> 30)) * factor)

/-- Spreads a one-word key over the state. -/
def spread (key : UInt32) (m : Mixing) : Mixing :=
  let value := mixed m 1664525 + key
  Mixing.advance ⟨m.words.set! m.place value, m.place⟩

def settle (m : Mixing) : Mixing :=
  let value := mixed m 1566083941 - m.place.toUInt32
  Mixing.advance ⟨m.words.set! m.place value, m.place⟩

/-- The generator for a one-word seed. -/
def seed (key : UInt32) : Twister :=
  let start : Mixing := ⟨initial 19650218, 1⟩
  let spreadOut := size.repeat (spread key) start
  let settled := (size - 1).repeat settle spreadOut
  ⟨settled.words.set! 0 0x80000000, size⟩

/-- The recurrence of the state: the high bit of one word with the low bits of the next. -/
def twist (high low : UInt32) : UInt32 :=
  let joined := (high &&& 0x80000000) ||| (low &&& 0x7FFFFFFF)
  (joined >>> 1) ^^^ (if joined &&& 1 == 1 then 0x9908B0DF else 0)

/-- The next state. Each word depends on words that may already be renewed. -/
def renew (words : Array UInt32) : Array UInt32 :=
  let step (words : Array UInt32) (i : Nat) : Array UInt32 :=
    let high := words.getD i 0
    let low := words.getD ((i + 1) % size) 0
    let far := words.getD ((i + middle) % size) 0
    words.set! i (far ^^^ twist high low)
  (List.range size).foldl step words

/-- Scrambles a word of the state into an output. -/
def temper (word : UInt32) : UInt32 :=
  let word := word ^^^ (word >>> 11)
  let word := word ^^^ ((word <<< 7) &&& 0x9D2C5680)
  let word := word ^^^ ((word <<< 15) &&& 0xEFC60000)
  word ^^^ (word >>> 18)

def next (t : Twister) : UInt32 × Twister :=
  let ready : Twister := if size ≤ t.index then ⟨renew t.words, 0⟩ else t
  (temper (ready.words.getD ready.index 0), { ready with index := ready.index + 1 })

/-- Whole words first, the least significant first; of a part of a word the high bits count. -/
def wideBits : Nat → Nat → Twister → Nat × Twister
  | 0, _, t => (0, t)
  | fuel + 1, count, t =>
    if count == 0 then (0, t)
    else
      let (word, t) := t.next
      if count < 32 then ((word.toNat >>> (32 - count)), t)
      else
        let (rest, t) := wideBits fuel (count - 32) t
        (word.toNat + rest <<< 32, t)

/-- A number of `count` random bits. -/
def bits (count : Nat) (t : Twister) : Nat × Twister := wideBits (count / 32 + 1) count t

/-- Draws until a number is in range. Every draw succeeds with a chance of at least one half; after
`fuel` failures the range is given up for zero. -/
def belowWithin : Nat → Nat → Twister → Nat × Twister
  | 0, _, t => (0, t)
  | fuel + 1, bound, t =>
    let (n, t) := bits (bound.log2 + 1) t
    if n < bound then (n, t) else belowWithin fuel bound t

/-- A number below a positive bound. -/
def below (bound : Nat) (t : Twister) : Nat × Twister := belowWithin 10000 bound t

/-- A number of 53 random bits, to be read over `2 ^ 53`. -/
def unitNumerator (t : Twister) : Nat × Twister :=
  let (a, t) := t.next
  let (b, t) := t.next
  ((a.toNat >>> 5) * Nat.pow 2 26 + (b.toNat >>> 6), t)

end Twister

end OperationSamples
