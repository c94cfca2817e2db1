/-!
Tokens of GraphQL documents, and what can be wrong with a text.

A token is a kind with, for names and literals, a value. `SyntaxFault` lists the ways in which a text
fails to be a document; `SyntaxFault.message` is the one place that words them. Tokens and kinds are
named in messages by `Token.describe` and `TokenKind.describe`: punctuation between quotes, every
other kind by its name, a value after it.
-/

namespace OperationSamples

inductive TokenKind where
  | endOfFile
  | bang
  | dollar
  | amp
  | parenLeft
  | parenRight
  | spread
  | colon
  | equals
  | atSign
  | bracketLeft
  | bracketRight
  | braceLeft
  | pipe
  | braceRight
  | name
  | int
  | float
  | string
  | blockString
deriving DecidableEq, Repr, Inhabited

def TokenKind.describe : TokenKind → String
  | .endOfFile => "<EOF>"
  | .bang => "'!'"
  | .dollar => "'$'"
  | .amp => "'&'"
  | .parenLeft => "'('"
  | .parenRight => "')'"
  | .spread => "'...'"
  | .colon => "':'"
  | .equals => "'='"
  | .atSign => "'@'"
  | .bracketLeft => "'['"
  | .bracketRight => "']'"
  | .braceLeft => "'\x7b'"
  | .pipe => "'|'"
  | .braceRight => "'\x7d'"
  | .name => "Name"
  | .int => "Int"
  | .float => "Float"
  | .string => "String"
  | .blockString => "BlockString"

structure Token where
  kind : TokenKind
  value : Option String
deriving DecidableEq, Repr, Inhabited

def Token.describe (t : Token) : String :=
  match t.value with
  | none => t.kind.describe
  | some value => t.kind.describe ++ " '" ++ value ++ "'"

/-- Why a text is not a document. -/
inductive SyntaxFault where
  | expectedKind (kind : TokenKind) (found : Token)
  | expectedWord (word : String) (found : Token)
  | unexpected (found : Token)
  | unterminatedString
  | digitAfterZero (found : Char)
  | digitExpected (found : Option Char)
  | digitBeforePoint (digits : String)
  | badEscape (text : String)
  | badUnicodeEscape (text : String)
  /-- A level of nesting beyond the allowed ones. -/
  | tooDeep
  | unexpectedCharacter (found : Char)
  | twoDots
  | singleQuote
  | reservedEnumValue (found : Token)
  | describedShorthand
  | describedUnknown
  | variableInConstant (name : String)
deriving DecidableEq, Repr

namespace SyntaxFault

/-- A character in a message: visible ASCII between quotes, anything else by its code point in at
least four hexadecimal digits. -/
def characterText (c : Char) : String :=
  if 0x20 ≤ c.toNat && c.toNat ≤ 0x7E then String.ofList ['\'', c, '\'']
  else
    let digits := (Nat.toDigits 16 c.toNat).map Char.toUpper
    "U+" ++ String.ofList (List.replicate (4 - digits.length) '0' ++ digits)

def reason : SyntaxFault → String
  | .expectedKind kind found => "Expected " ++ kind.describe ++ ", found " ++ found.describe ++ "."
  | .expectedWord word found => "Expected '" ++ word ++ "', found " ++ found.describe ++ "."
  | .unexpected found => "Unexpected " ++ found.describe ++ "."
  | .unterminatedString => "Unterminated string."
  | .digitAfterZero found => "Invalid number, unexpected digit after 0: " ++ characterText found ++ "."
  | .digitExpected found =>
    "Invalid number, expected digit but got: " ++ (found.map characterText).getD "<EOF>" ++ "."
  | .digitBeforePoint digits =>
    "Invalid number, expected digit before '.', did you mean '0." ++ digits ++ "'?"
  | .badEscape text => "Invalid character escape sequence: '" ++ text ++ "'."
  | .badUnicodeEscape text => "Invalid Unicode escape sequence: '" ++ text ++ "'."
  | .tooDeep => "Document is nested too deeply. Parsing aborted."
  | .unexpectedCharacter found => "Unexpected character: " ++ characterText found ++ "."
  | .twoDots => "Unexpected '..', did you mean '...'?"
  | .singleQuote =>
    "Unexpected single quote character ('), did you mean to use a double quote (\")?"
  | .reservedEnumValue found =>
    found.describe ++ " is reserved and cannot be used for an enum value."
  | .describedShorthand =>
    "Unexpected description, descriptions are not supported on shorthand queries."
  | .describedUnknown => "Unexpected description, only GraphQL definitions support descriptions."
  | .variableInConstant name => "Unexpected variable '$" ++ name ++ "' in constant value."

def message (fault : SyntaxFault) : String := "Syntax Error: " ++ fault.reason

end SyntaxFault

end OperationSamples
