import OperationSamples.Files.Path

/-!
File trees.

A tree lists files and directories by place: the components that lead to them from the working
directory, or from a root. Finding a path walks its components one by one; what is walked through
must be a directory, and `..` leads back.
-/

namespace OperationSamples

inductive FileEntry where
  | file (bytes : List UInt8)
  | directory
deriving DecidableEq, Repr, Inhabited

/-- The components that lead to an entry. -/
abbrev Place := List String

structure FileTree where
  entries : List (Place × FileEntry)
deriving Repr, Inhabited

namespace FileTree

def empty : FileTree := ⟨[]⟩

/-- The working directory and those above it are always there. -/
def get? (tree : FileTree) (place : Place) : Option FileEntry :=
  if place.all fun component => component == ".." then some .directory
  else (tree.entries.find? fun entry => entry.1 == place).map Prod.snd

def isDirectoryAt (tree : FileTree) (place : Place) : Bool := tree.get? place == some .directory

def isFileAt (tree : FileTree) (place : Place) : Bool :=
  match tree.get? place with
  | some (.file _) => true
  | _ => false

def setEntry (tree : FileTree) (place : Place) (entry : FileEntry) : FileTree :=
  if tree.entries.any fun e => e.1 == place then
    ⟨tree.entries.map fun e => if e.1 == place then (place, entry) else e⟩
  else ⟨tree.entries ++ [(place, entry)]⟩

/-- Adds the directories that lead to a place, as far as they are missing. -/
def addParents (tree : FileTree) (place : Place) : FileTree :=
  (List.range (place.length - 1)).foldl (fun tree n =>
    let parent := place.take (n + 1)
    if (tree.get? parent).isSome then tree else tree.setEntry parent .directory) tree

/-- Adds an entry together with the directories that lead to it. -/
def insert (tree : FileTree) (place : Place) (entry : FileEntry) : FileTree :=
  (tree.addParents place).setEntry place entry

/-! ### Walking -/

/-- Whether a component is a root. No other component has a slash. -/
def isRoot (component : String) : Bool := component == "/" || component == "//"

/-- Back to the directory above. A root has none above it, and above the working directory the way is
kept as it is. -/
def up (place : Place) : Place :=
  match place.getLast? with
  | none => [".."]
  | some last =>
    if last == ".." then place ++ [".."] else if isRoot last then place else place.dropLast

/-- One component further. -/
def step (place : Place) (component : String) : Place :=
  if component == ".." then up place else place ++ [component]

/-- The place that a path would lead to if all its directories were there. -/
def simplify (p : Path) : Place := p.parts.foldl step []

/-- What stands in the way of a walk. -/
inductive Obstacle where
  | missing
  | notDirectory
deriving DecidableEq, Repr

/-- Walks along components. What is walked through must be a directory. -/
def walk (tree : FileTree) : Place → List String → Except Obstacle Place
  | place, [] => .ok place
  | place, component :: rest =>
    match (if isRoot component then some .directory else tree.get? place) with
    | some .directory => walk tree (step place component) rest
    | some (.file _) => .error .notDirectory
    | none => .error .missing

/-- The place that a path leads to, if it exists. -/
def locate? (tree : FileTree) (p : Path) : Option Place :=
  (tree.walk [] p.parts).toOption.filter fun place => (tree.get? place).isSome

def isFile (tree : FileTree) (p : Path) : Bool := (tree.locate? p).any tree.isFileAt

def isDirectory (tree : FileTree) (p : Path) : Bool := (tree.locate? p).any tree.isDirectoryAt

/-- Whether a component leads down to an entry: it is neither a root nor the way back. -/
def leadsDown (component : String) : Bool := component != ".." && !isRoot component

/-- The components that lead from a directory to everything below it. -/
def below (tree : FileTree) (place : Place) : List (List String) :=
  tree.entries.filterMap fun entry =>
    let way := entry.1.drop place.length
    if place.isPrefixOf entry.1 && !way.isEmpty && way.all leadsDown then some way else none

/-- How a place is written. -/
def placeText : Place → String
  | [] => "."
  | first :: rest =>
    if isRoot first then first ++ "/".intercalate rest else "/".intercalate (first :: rest)

end FileTree

end OperationSamples
