/-!
Decoding UTF-8.

`Utf8.pieces` reads bytes with a small machine: it is either between characters or waits for
continuation bytes of a known range. A byte that does not fit ends the character under way, which is
then one invalid piece, and is itself read as the beginning of the next. `decode?` accepts valid
bytes only, `decodeReplacing` writes the replacement character for every invalid piece.
-/

namespace OperationSamples.Utf8

/-- Between characters, or waiting for `missing` more bytes, the next of which lies between `low` and
`high`; `point` is what was read of the code point. -/
inductive State where
  | ready
  | waiting (missing low high point : Nat)
deriving DecidableEq, Repr

/-- The first byte of a character: a whole character, the state it leads to, or nothing valid. -/
inductive First where
  | whole (c : Char)
  | starts (state : State)
  | invalid
deriving DecidableEq, Repr

def first (byte : Nat) : First :=
  if byte < 0x80 then .whole (Char.ofNat byte)
  else if byte < 0xC2 then .invalid
  else if byte < 0xE0 then .starts (.waiting 1 0x80 0xBF (byte - 0xC0))
  else if byte == 0xE0 then .starts (.waiting 2 0xA0 0xBF 0)
  else if byte == 0xED then .starts (.waiting 2 0x80 0x9F 0xD)
  else if byte < 0xF0 then .starts (.waiting 2 0x80 0xBF (byte - 0xE0))
  else if byte == 0xF0 then .starts (.waiting 3 0x90 0xBF 0)
  else if byte < 0xF4 then .starts (.waiting 3 0x80 0xBF (byte - 0xF0))
  else if byte == 0xF4 then .starts (.waiting 3 0x80 0x8F 4)
  else .invalid

/-- What a byte at the beginning of a character contributes, and the state after it. -/
def begin (byte : Nat) : List (Option Char) × State :=
  match first byte with
  | .whole c => ([some c], .ready)
  | .starts state => ([], state)
  | .invalid => ([none], .ready)

def step (state : State) (byte : Nat) : List (Option Char) × State :=
  match state with
  | .ready => begin byte
  | .waiting missing low high point =>
    if low ≤ byte && byte ≤ high then
      let point := point * 64 + (byte - 0x80)
      if missing ≤ 1 then ([some (Char.ofNat point)], .ready)
      else ([], .waiting (missing - 1) 0x80 0xBF point)
    else
      let (found, state) := begin byte
      (none :: found, state)

def run : State → List UInt8 → List (Option Char)
  | .ready, [] => []
  | .waiting .., [] => [none]
  | state, byte :: rest =>
    let (found, state) := step state byte.toNat
    found ++ run state rest

/-- The characters of a byte sequence, `none` for each maximal part that is invalid. -/
def pieces (bytes : List UInt8) : List (Option Char) := run .ready bytes

def decode? (bytes : List UInt8) : Option String := ((pieces bytes).mapM id).map String.ofList

def replacement : Char := Char.ofNat 0xFFFD

def decodeReplacing (bytes : List UInt8) : String :=
  String.ofList ((pieces bytes).map fun piece => piece.getD replacement)

end OperationSamples.Utf8
