import OperationSamples.Console.EmojiNames
import OperationSamples.Text.Blank
import OperationSamples.Text.Case

/-!
Emoji by name.

A name between colons stands for an emoji. It may end in a variant, which asks for the form of a text or
of a picture. A name that stands for nothing is left as it is, with both of its colons.
-/

namespace OperationSamples.Console

/-- A name between colons, and what follows it. -/
structure EmojiCode where
  name : List Char
  /-- The words of the variant and the character that asks for it. -/
  variant : Option (List Char × Char)
  rest : List Char

/-- The variants, up to the closing colon. -/
def variants : List (List Char × Char) :=
  [("-emoji".toList, Char.ofNat 0xFE0F), ("-text".toList, Char.ofNat 0xFE0E)]

/-- The code whose opening colon has been read, as has `name`, last character first. -/
def emojiCode? (name : List Char) : List Char → Option EmojiCode
  | [] => none
  | c :: rest =>
    match variants.find? fun variant => (variant.1 ++ [':']).isPrefixOf (c :: rest) with
    | some variant => some ⟨name.reverse, some variant, rest.drop variant.1.length⟩
    | none =>
      if c == ':' then some ⟨name.reverse, none, rest⟩
      else if Text.isBlank c then none
      else emojiCode? (c :: name) rest

/-- A code as it is written, without its opening colon. -/
def EmojiCode.written (code : EmojiCode) : List Char :=
  code.name ++ (code.variant.map Prod.fst).getD [] ++ [':']

/-- What a code stands for. -/
def EmojiCode.emoji? (code : EmojiCode) : Option (List Char) :=
  let name := String.ofList (Text.lowerText code.name)
  (emojiNames.lookup name).map fun emoji => emoji.toList ++ (code.variant.map Prod.snd).toList

def replaceEmojiFrom : Nat → List Char → List Char
  | 0, text => text
  | _, [] => []
  | fuel + 1, c :: rest =>
    if c == ':' then
      match emojiCode? [] rest with
      | none => c :: replaceEmojiFrom fuel rest
      | some code => code.emoji?.getD (c :: code.written) ++ replaceEmojiFrom fuel code.rest
    else c :: replaceEmojiFrom fuel rest

/-- A text with its emoji in place of their names. -/
def replaceEmoji (text : List Char) : List Char := replaceEmojiFrom text.length text

end OperationSamples.Console
