import OperationSamples.Text.Pascal

/-!
Names of shapes and of their factories.

A shape is named after the operation or fragment it belongs to and the path that leads to it: the
response keys on the path follow the base name, each with its first letter in upper case. The shape
of a union member adds the member after `As`, and a variant of a shape that holds several union
fields adds the path of the union after `At`. A factory's name is the shape's with `a` in front.

Paths are texts with dots between the segments; empty segments do not count.
-/

namespace OperationSamples

/-- What an artifact was generated for. -/
inductive ArtifactKind where
  | query
  | mutation
  | subscription
  | fragment
  | nestedShape
  | variant
deriving DecidableEq, Repr, Inhabited

namespace ArtifactKind

def word : ArtifactKind → String
  | .query => "query"
  | .mutation => "mutation"
  | .subscription => "subscription"
  | .fragment => "fragment"
  | .nestedShape => "nested-shape"
  | .variant => "variant"

def all : List ArtifactKind :=
  [.query, .mutation, .subscription, .fragment, .nestedShape, .variant]

def ofWord? (word : String) : Option ArtifactKind := all.find? fun kind => kind.word == word

/-- The suffix of root shapes; shapes that are no roots have none. -/
def suffix? : ArtifactKind → Option String
  | .query => some "Query"
  | .mutation => some "Mutation"
  | .subscription => some "Subscription"
  | .fragment => some "Fragment"
  | .nestedShape => none
  | .variant => none

end ArtifactKind

structure ShapeName where
  qualified : String
  factory : String
deriving DecidableEq, Repr, Inhabited

namespace ShapeName

/-- The first character in upper case. -/
def upperFirst (segment : String) : String :=
  match segment.toList with
  | [] => ""
  | c :: rest => String.ofList (Text.upper c ++ rest)

def factoryFor (qualified : String) : String := "a" ++ qualified

def of (qualified : String) : ShapeName := ⟨qualified, factoryFor qualified⟩

/-- Joins the segments that are not empty by dots. -/
def joinPath (segments : List String) : String :=
  ".".intercalate (segments.filter fun s => !s.isEmpty)

/-- The segments of a path, empty ones included. -/
def splitPath : List Char → List (List Char)
  | [] => [[]]
  | c :: rest =>
    if c == '.' then [] :: splitPath rest
    else
      match splitPath rest with
      | [] => [[c]]
      | first :: others => (c :: first) :: others

/-- The segments of a path that are not empty. -/
def segments (path : String) : List String :=
  ((splitPath path.toList).filter fun s => !s.isEmpty).map String.ofList

/-- An operation or fragment name, in pascal case unless it already starts with a capital and holds
letters and digits only. -/
def operationName (name : String) : String :=
  let chars := name.toList
  if (chars.head?.map Text.isUpper).getD false && chars.all Text.isAlphanumeric then name
  else String.ofList (Text.pascal chars)

/-- The name of a root shape. With suffixes on, a kind without suffix has no root name. -/
def root? (addSuffix : Bool) (name : String) (kind : ArtifactKind) : Option ShapeName :=
  if addSuffix then kind.suffix?.map fun suffix => of (operationName name ++ suffix)
  else some (of (operationName name))

/-- The name of the shape that a path below a base name leads to. -/
def below (base path : String) : ShapeName :=
  of (base ++ String.join ((segments path).map upperFirst))

/-- The name of a shape fixed to one member of its only union. -/
def variant (qualified member : String) : ShapeName := of (qualified ++ "As" ++ member)

/-- The name of a shape fixed to one member of the union at the given path. -/
def variantAt (qualified member unionPath : String) : ShapeName :=
  of (qualified ++ "As" ++ member ++ "At" ++ (below "" unionPath).qualified)

end ShapeName

end OperationSamples
