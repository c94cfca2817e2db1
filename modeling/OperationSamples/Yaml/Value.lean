import OperationSamples.Text.Newline
import OperationSamples.Yaml.Node

/-!
Values of documents.

Every node must have a value: its scalars must be readable, its keys must not be collections, and what
is merged into a mapping must be mappings. The nodes are examined level by level from the root. The value
is then taken down to a number of levels, with the nodes that references stand for in their places, so
that a document with a reference from within a node to itself has a value, too.
-/

namespace OperationSamples.Yaml

namespace YamlDocument

/-- A node or the one that it refers to. -/
def target (document : YamlDocument) : Node → Node
  | .reference name => (document.anchored.lookup name).getD Node.empty
  | node => node

def isMergeKey (document : YamlDocument) (key : Node) : Bool :=
  match document.target key with
  | .scalar .merge _ => true
  | _ => false

/-- The sign for the value of a whole mapping is a text as a key. -/
def keyNode (document : YamlDocument) (key : Node) : Node :=
  match document.target key with
  | .scalar .value text => .scalar .text text
  | _ => key

/-- The entries of a mapping that are not merged into it. -/
def ownEntries (document : YamlDocument) (entries : List (Node × Node)) : List (Node × Node) :=
  (entries.filter fun entry => !document.isMergeKey entry.1).map fun entry =>
    (document.keyNode entry.1, entry.2)

def mergedNodes (document : YamlDocument) (entries : List (Node × Node)) : List Node :=
  (entries.filter fun entry => document.isMergeKey entry.1).map Prod.snd

/-! ### Merging -/

/-- All entries of a mapping: first those that are merged into it, the ones of an earlier mapping of a list
after those of a later one, then its own. With `follow` the nodes of references are merged as well, save
those of `seen`, of which only the own entries count. -/
def allEntries (document : YamlDocument) (follow : Bool) (seen : List String) :
    Nat → List (Node × Node) → Except Fault (List (Node × Node))
  | 0, _ => .error .malformed
  | fuel + 1, entries => do
    let ofMapping (node : Node) : Except Fault (List (Node × Node)) :=
      match node, document.target node with
      | .reference name, .mapping _ entries =>
        if !follow then .ok []
        else if seen.contains name then .ok (document.ownEntries entries)
        else document.allEntries follow (name :: seen) fuel entries
      | _, .mapping _ entries => document.allEntries follow seen fuel entries
      | _, _ => .error .malformed
    let merged ← (document.mergedNodes entries).mapM fun node =>
      match document.target node with
      | .list _ items => do return (← items.mapM ofMapping).reverse.flatten
      | _ => ofMapping node
    return merged.flatten ++ document.ownEntries entries

/-! ### Examination -/

/-- The text of a node that is read as a scalar. A mapping may hold one under the sign for its value. -/
def scalarText? (document : YamlDocument) : Nat → Node → Option String
  | 0, _ => none
  | fuel + 1, node =>
    match document.target node with
    | .scalar _ text => some text
    | .mapping _ entries => do
      let entry ← entries.find? fun entry =>
        match document.target entry.1 with
        | .scalar .value _ => true
        | _ => false
      document.scalarText? fuel entry.2
    | _ => none

/-- The kinds of which every value is read from a text. -/
def isScalarTag (tag : Tag) : Bool := [Tag.null, .bool, .int, .float, .text, .binary].contains tag

/-- The value of a mapping that stands for a scalar. -/
def mappingScalar (document : YamlDocument) (fuel : Nat) (tag : Tag) (node : Node) : Except Fault RawValue :=
  match document.scalarText? fuel node with
  | some text => scalarValue tag text
  | none => .error .malformed

/-- Examines a scalar; a collection is left for the next level. A node that is referred to is examined
where it stands. -/
def examineNode : Node → Except Fault (List Node)
  | .scalar tag text => do
    let _ ← scalarValue tag text
    return []
  | .reference _ => .ok []
  | node => .ok [node]

def examineKey (document : YamlDocument) (key : Node) : Except Fault Unit :=
  match document.target key with
  | .scalar tag text => do
    let _ ← scalarValue tag text
  | _ => .error .malformed

def examineEntry (document : YamlDocument) (entry : Node × Node) : Except Fault (List Node) := do
  document.examineKey entry.1
  examineNode entry.2

/-- A pair is a mapping with one entry. -/
def pair? (document : YamlDocument) (node : Node) : Option (Node × Node) :=
  match document.target node with
  | .mapping _ [entry] => some entry
  | _ => none

def examinePair (document : YamlDocument) (node : Node) : Except Fault (List Node) :=
  match document.pair? node with
  | some (key, value) => do return (← examineNode key) ++ (← examineNode value)
  | none => .error .malformed

/-- Examines what a collection holds, and gives the collections in it. -/
def examineCollection (document : YamlDocument) (fuel : Nat) (node : Node) : Except Fault (List Node) :=
  match node with
  | .list .list items => do return (← items.mapM examineNode).flatten
  | .list .pairs items => do return (← items.mapM document.examinePair).flatten
  | .mapping tag entries =>
    if tag == .mapping || tag == .set then do
      let entries ← document.allEntries false [] fuel entries
      return (← entries.mapM document.examineEntry).flatten
    else if isScalarTag tag then do
      let _ ← document.mappingScalar fuel tag node
      return []
    else .error .malformed
  | _ => .error .malformed

def examineLevels (document : YamlDocument) (fuel : Nat) : Nat → List Node → Except Fault Unit
  | 0, _ => .error .malformed
  | levels + 1, nodes =>
    if nodes.isEmpty then .ok ()
    else do
      let next ← nodes.mapM (document.examineCollection fuel)
      document.examineLevels fuel levels next.flatten

def examine (document : YamlDocument) (fuel : Nat) : Except Fault Unit := do
  document.examineLevels fuel fuel (← examineNode document.root)

/-! ### Values -/

/-- The value of a node down to a number of levels of collections. -/
def valueOf (document : YamlDocument) (fuel : Nat) : Nat → Node → RawValue
  | 0, node =>
    match document.target node with
    | .scalar tag text => (scalarValue tag text).toOption.getD .null
    | .list _ _ => .list []
    | .mapping .set _ => .set []
    | .mapping tag entries =>
      if isScalarTag tag then (document.mappingScalar fuel tag (.mapping tag entries)).toOption.getD .null
      else .mapping []
    | .reference _ => .null
  | levels + 1, node =>
    let value := document.valueOf fuel levels
    let pairs (entries : List (Node × Node)) : List (RawValue × RawValue) :=
      ((document.allEntries true [] fuel entries).toOption.getD []).map fun entry =>
        (value entry.1, value entry.2)
    match document.target node with
    | .list .pairs items =>
      .list (items.filterMap fun item =>
        (document.pair? item).map fun entry => .tuple [value entry.1, value entry.2])
    | .list _ items => .list (items.map value)
    | .mapping .mapping entries => RawValue.mappingOf (pairs entries)
    | .mapping .set entries =>
      match RawValue.mappingOf (pairs entries) with
      | .mapping entries => .set (entries.map Prod.fst)
      | _ => .set []
    | other => document.valueOf fuel 0 other

end YamlDocument

/-- The value of a text that is a single document, down to a number of levels of collections. -/
def parse (levels : Nat) (text : String) : Except Fault RawValue := do
  let chars := Text.unifyNewlines text.toList
  let document ← YamlDocument.ofTokens (Tokens.ofText chars)
  let fuel := chars.length + 1
  document.examine fuel
  return document.valueOf fuel levels document.root

end OperationSamples.Yaml
