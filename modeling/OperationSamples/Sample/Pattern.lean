/-!
Date patterns.

A pattern such as `YYYY-MM-DD` names the parts of a date by repeated letters. `DatePattern.directives`
turns it into percent directives, reading from left to right and taking the longest token at each
place. A pattern that has a percent sign is already in that form and stays as it is.
-/

namespace OperationSamples.DatePattern

/-- Replaces tokens by directives. -/
def replace : List Char → List Char
  | 'Y' :: 'Y' :: 'Y' :: 'Y' :: rest => '%' :: 'Y' :: replace rest
  | 'Y' :: 'Y' :: rest => '%' :: 'y' :: replace rest
  | 'M' :: 'M' :: rest => '%' :: 'm' :: replace rest
  | 'D' :: 'D' :: rest => '%' :: 'd' :: replace rest
  | 'H' :: 'H' :: rest => '%' :: 'H' :: replace rest
  | 'm' :: 'm' :: rest => '%' :: 'M' :: replace rest
  | 's' :: 's' :: rest => '%' :: 'S' :: replace rest
  | c :: rest => c :: replace rest
  | [] => []

def directives (pattern : String) : String :=
  if pattern.toList.contains '%' then pattern else String.ofList (replace pattern.toList)

end OperationSamples.DatePattern
