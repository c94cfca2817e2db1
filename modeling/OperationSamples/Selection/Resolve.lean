import OperationSamples.Document.Basic
import OperationSamples.Notice
import OperationSamples.Selection.Merge

/-!
Replacing fragment spreads by what they stand for.

A spread becomes an inline fragment with the condition of the fragment, the directives of the spread
and the fragment's own selections resolved in turn. Inline fragments without condition are dissolved
into their surroundings. At every level fields with the same response key are merged.

The chain of fragments being expanded is kept with the level, counted in fields from the root, at
which each was entered. A fragment that is spread again at the level of its own expansion can add
nothing and is left out; one that comes back deeper, through a field, is expanded until the chain is
as long as the limit allows. The limit therefore bounds the recursion: `expandWithin` counts down the
fragments that may still be entered, and each count expands lists of selections by structural
recursion (`expandList`).
-/

namespace OperationSamples

/-- The fragments of some documents by name, in the order of their first definitions. -/
abbrev FragmentTable := List Fragment

namespace FragmentTable

def get? (table : FragmentTable) (name : String) : Option Fragment :=
  table.find? fun f => f.name == name

/-- Adds a fragment unless the name is taken. -/
def register (table : FragmentTable) (f : Fragment) : Logged FragmentTable :=
  if (table.get? f.name).isSome then do
    Logged.report (.fragmentRedefined f.name)
    return table
  else return table ++ [f]

def registerAll : FragmentTable → List Fragment → Logged FragmentTable
  | table, [] => return table
  | table, f :: rest => do
    let table ← register table f
    registerAll table rest

/-- The table of all fragments of a list of documents. The first definition of a name counts. -/
def ofDocuments (documents : List Document) : Logged FragmentTable := do
  let table ← registerAll [] (documents.flatMap Document.fragments)
  Logged.report (.fragmentsRegistered table.length)
  return table

end FragmentTable

namespace Selection

/-- A fragment being expanded, and the level at which it was entered. -/
structure Entered where
  fragment : String
  level : Nat
deriving DecidableEq, Repr

/-- How a spread is expanded: given the chain of entered fragments, the level, and the spread. -/
abbrev SpreadRule := List Entered → Nat → String → List Directive → Logged (List Selection)

mutual

/-- Resolves one selection; the result may be several selections, or none. -/
def expand (rule : SpreadRule) (chain : List Entered) (level : Nat) :
    Selection → Logged (List Selection)
  | .leaf head => return [.leaf head]
  | .branch head _ selections => do
    let below ← expandList rule chain (level + 1) selections
    return [.branch head none (merge below)]
  | .inline none _ selections => expandList rule chain level selections
  | .inline (some condition) directives selections => do
    let inside ← expandList rule chain level selections
    return [.inline (some condition) directives (merge inside)]
  | .spread name directives => rule chain level name directives

def expandList (rule : SpreadRule) (chain : List Entered) (level : Nat) :
    List Selection → Logged (List Selection)
  | [] => return []
  | s :: rest => do
    let first ← expand rule chain level s
    let others ← expandList rule chain level rest
    return first ++ others

end

/-- Expands a spread when `remaining` more fragments may be entered. A repeated spread is reported
before the limit, and the limit before an unknown name. -/
def expandWithin (table : FragmentTable) (limit : Nat) : Nat → SpreadRule
  | remaining, chain, level, name, directives =>
    if chain.any fun e => e.fragment == name && e.level == level then do
      Logged.report (.fragmentCycle (chain.map Entered.fragment) name)
      return []
    else
      match remaining with
      | 0 => do
        Logged.report (.fragmentTooDeep name limit)
        return []
      | remaining + 1 =>
        match table.get? name with
        | none => do
          Logged.report (.unknownFragment name)
          return []
        | some f => do
          let inside ←
            expandList (expandWithin table limit remaining) (chain ++ [⟨name, level⟩]) level
              f.selections
          return [.inline (some f.condition) directives (merge inside)]

/-- Selections without spreads: every spread is expanded, within the limit. -/
def resolve (table : FragmentTable) (limit : Nat) (selections : List Selection) :
    Logged (List Selection) := do
  let expanded ← expandList (expandWithin table limit limit) [] 0 selections
  return merge expanded

end Selection

end OperationSamples
