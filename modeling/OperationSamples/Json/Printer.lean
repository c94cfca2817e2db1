import OperationSamples.Json.Basic
import OperationSamples.Number.Shortest
import OperationSamples.Text.CodePoint

/-!
Writing JSON.

Texts are quoted in one of two ways: `Quoting.ascii` escapes everything outside the visible ASCII
range, writing a character beyond the basic plane as a surrogate pair, and `Quoting.plain` escapes
only the quote, the backslash and the control characters. Values are written on one line with `", "`
and `": "` between their parts (`Json.text`), or one part to a line (`Json.indented`).
-/

namespace OperationSamples

inductive Quoting where
  | ascii
  | plain
deriving DecidableEq, Repr

namespace Quoting

/-- Lower-case hexadecimal digits of a number, padded to `width`. -/
def hex (width n : Nat) : List Char :=
  let digits := (Nat.toDigits 16 n).map Char.toLower
  List.replicate (width - digits.length) '0' ++ digits

def unitEscape (unit : Nat) : List Char := '\\' :: 'u' :: hex 4 unit

/-- The escape of a code point by its UTF-16 units. -/
def numericEscape (p : CodePoint) : List Char := p.units.flatMap fun unit => unitEscape unit.val

/-- Code points with an escape of their own. -/
def shortEscape? (p : CodePoint) : Option (List Char) :=
  if p == .ofChar '"' then some ['\\', '"']
  else if p == .ofChar '\\' then some ['\\', '\\']
  else if p == .ofChar '\n' then some ['\\', 'n']
  else if p == .ofChar '\r' then some ['\\', 'r']
  else if p == .ofChar '\t' then some ['\\', 't']
  else if p.val == 8 then some ['\\', 'b']
  else if p.val == 12 then some ['\\', 'f']
  else none

def needsEscape (quoting : Quoting) (p : CodePoint) : Bool :=
  match quoting with
  | .ascii => p.val < 32 || 126 < p.val
  | .plain => p.val < 32

/-- What is written for a code point that is not written as itself. -/
def escape? (quoting : Quoting) (p : CodePoint) : Option (List Char) :=
  match shortEscape? p with
  | some escaped => some escaped
  | none => if quoting.needsEscape p then some (numericEscape p) else none

def escape (quoting : Quoting) (c : Char) : List Char := (quoting.escape? (.ofChar c)).getD [c]

/-- A text between quotes. -/
def quote (quoting : Quoting) (text : String) : String :=
  String.ofList ('"' :: (text.toList.flatMap quoting.escape ++ ['"']))

end Quoting

namespace Json

def specialNumbers : Double.Specials := ⟨"NaN", "Infinity"⟩

def intText (n : Int) : String :=
  match n with
  | .ofNat k => Double.digitText k
  | .negSucc k => "-" ++ Double.digitText (k + 1)

mutual

/-- One line. -/
def text (quoting : Quoting) : Json → String
  | .null => "null"
  | .bool b => if b then "true" else "false"
  | .int n => intText n
  | .float x => x.text specialNumbers
  | .str s => quoting.quote s
  | .arr items => "[" ++ itemsText quoting items ++ "]"
  | .obj members => "\x7b" ++ membersText quoting members ++ "\x7d"

def itemsText (quoting : Quoting) : List Json → String
  | [] => ""
  | [item] => text quoting item
  | item :: rest => text quoting item ++ ", " ++ itemsText quoting rest

def membersText (quoting : Quoting) : List (String × Json) → String
  | [] => ""
  | [(key, value)] => quoting.quote key ++ ": " ++ text quoting value
  | (key, value) :: rest =>
    quoting.quote key ++ ": " ++ text quoting value ++ ", " ++ membersText quoting rest

end

def spaces (n : Nat) : String := String.ofList (List.replicate n ' ')

mutual

/-- One part to a line, each level two columns deeper. Empty lists and objects stay on one line. -/
def indentedAt (quoting : Quoting) (column : Nat) : Json → String
  | .arr [] => "[]"
  | .arr items =>
    "[\n" ++ indentedItems quoting (column + 2) items ++ "\n" ++ spaces column ++ "]"
  | .obj [] => "\x7b\x7d"
  | .obj members =>
    "\x7b\n" ++ indentedMembers quoting (column + 2) members ++ "\n" ++ spaces column ++ "\x7d"
  | value => text quoting value

def indentedItems (quoting : Quoting) (column : Nat) : List Json → String
  | [] => ""
  | [item] => spaces column ++ indentedAt quoting column item
  | item :: rest =>
    spaces column ++ indentedAt quoting column item ++ ",\n" ++ indentedItems quoting column rest

def indentedMembers (quoting : Quoting) (column : Nat) : List (String × Json) → String
  | [] => ""
  | [(key, value)] =>
    spaces column ++ quoting.quote key ++ ": " ++ indentedAt quoting column value
  | (key, value) :: rest =>
    spaces column ++ quoting.quote key ++ ": " ++ indentedAt quoting column value ++ ",\n"
      ++ indentedMembers quoting column rest

end

def indented (quoting : Quoting) (value : Json) : String := indentedAt quoting 0 value

end Json

end OperationSamples
