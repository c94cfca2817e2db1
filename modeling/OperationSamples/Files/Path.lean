/-!
Paths.

A path is a root (none, `/` or `//`) and a list of components. Reading a path drops empty components
and those that mean the current directory; the parent directory `..` is kept. Paths are compared
component by component.
-/

namespace OperationSamples

structure Path where
  root : String
  components : List String
deriving DecidableEq, Repr, Inhabited

namespace Path

def splitSlashes : List Char → List (List Char)
  | [] => [[]]
  | c :: rest =>
    if c == '/' then [] :: splitSlashes rest
    else
      match splitSlashes rest with
      | [] => [[c]]
      | first :: others => (c :: first) :: others

/-- Exactly two leading slashes are a root of their own. -/
def rootOf : List Char → String
  | '/' :: '/' :: '/' :: _ => "/"
  | '/' :: '/' :: _ => "//"
  | '/' :: _ => "/"
  | _ => ""

def ofText (text : String) : Path :=
  let parts := (splitSlashes text.toList).map String.ofList
  ⟨rootOf text.toList, parts.filter fun part => !(part.isEmpty || part == ".")⟩

def text (p : Path) : String :=
  if p.root.isEmpty && p.components.isEmpty then "."
  else p.root ++ "/".intercalate p.components

/-- The last component. -/
def name (p : Path) : String := p.components.getLastD ""

def child (p : Path) (component : String) : Path := { p with components := p.components ++ [component] }

/-- The parts that paths are compared by, the root among them. -/
def parts (p : Path) : List String :=
  if p.root.isEmpty then p.components else p.root :: p.components

/-- Order by components, each by code points. -/
def le (p q : Path) : Bool := !(List.lex q.parts p.parts (fun a b => decide (a < b)))

/-- The directory a path stands in. -/
def parent (p : Path) : Path := { p with components := p.components.dropLast }

end Path

end OperationSamples
