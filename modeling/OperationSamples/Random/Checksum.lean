/-!
The 32-bit cyclic redundancy check of byte sequences: bits reflected, all ones before and after.
-/

namespace OperationSamples.Checksum

def polynomial : UInt32 := 0xEDB88320

/-- One bit of the division. -/
def shift (remainder : UInt32) : UInt32 :=
  if remainder &&& 1 == 1 then (remainder >>> 1) ^^^ polynomial else remainder >>> 1

def shifts : Nat → UInt32 → UInt32
  | 0, remainder => remainder
  | n + 1, remainder => shifts n (shift remainder)

def feed (remainder : UInt32) (byte : UInt8) : UInt32 := shifts 8 (remainder ^^^ byte.toUInt32)

def ofBytes (bytes : List UInt8) : UInt32 := bytes.foldl feed 0xFFFFFFFF ^^^ 0xFFFFFFFF

/-- The check of a text's UTF-8 form. -/
def ofText (text : String) : UInt32 := ofBytes text.toUTF8.toList

end OperationSamples.Checksum
