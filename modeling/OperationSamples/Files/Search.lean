import OperationSamples.Files.Tree

/-!
Finding GraphQL files.

A path that is a file is taken as it is; a directory stands for everything below it whose name ends
in one of the two suffixes. The result is sorted and has no duplicates.
-/

namespace OperationSamples

namespace FileTree

def graphqlSuffixes : List String := [".graphql", ".gql"]

def hasSuffix (suffixes : List String) (name : String) : Bool :=
  suffixes.any fun suffix => name.endsWith suffix

/-- The paths below a directory whose names have one of the suffixes. -/
def search (tree : FileTree) (directory : Path) (place : Place) : List Path :=
  ((tree.below place).filter fun way => hasSuffix graphqlSuffixes (way.getLastD "")).map fun way =>
    way.foldl Path.child directory

/-- What one path stands for. -/
def expand (tree : FileTree) (p : Path) : List Path :=
  match tree.locate? p with
  | none => []
  | some place => if tree.isFileAt place then [p] else tree.search p place

def dropRepeated (paths : List Path) : List Path :=
  paths.foldl (fun kept p => if kept.contains p then kept else kept ++ [p]) []

/-- The GraphQL files that a list of paths stands for. -/
def graphqlFiles (tree : FileTree) (paths : List Path) : List Path :=
  (dropRepeated (paths.flatMap tree.expand)).mergeSort Path.le

end FileTree

end OperationSamples
