import OperationSamples.Command.Run

/-!
The command line program.

The files that the arguments name are read into a file tree, the command runs on the tree, and what it
leaves behind is printed and written.
-/

namespace OperationSamples

/-- Reads what is at a place of the file system. A directory is read with everything below it when
`deep`. -/
partial def readEntry (deep : Bool) (tree : FileTree) (place : Place) : IO FileTree := do
  let path := System.mkFilePath [FileTree.placeText place]
  if ← path.isDir then
    let tree := tree.insert place .directory
    if !deep then return tree
    let mut result := tree
    for child in ← path.readDir do
      result ← readEntry true result (place ++ [child.fileName])
    return result
  else if ← path.pathExists then
    return tree.insert place (.file (← IO.FS.readBinFile path).toList)
  else return tree

/-- Reads a path with the directories that lead to it. -/
def readPath (deep : Bool) (tree : FileTree) (p : Path) : IO FileTree := do
  let mut result := tree
  let mut place : Place := []
  for component in p.parts do
    place := FileTree.step place component
    result ← readEntry false result place
  readEntry deep result place

def readTree (arguments : List String) : IO FileTree := do
  let mut tree := FileTree.empty
  for p in Command.pathsGiven ["config", "output", "log-file"] arguments do
    tree ← readPath false tree p
  for p in Command.pathsGiven ["schema", "documents"] arguments do
    tree ← readPath true tree p
  return tree

def writeEntry (place : Place) (content : String) : IO Unit := do
  let path := System.mkFilePath [FileTree.placeText place]
  if let some directory := path.parent then IO.FS.createDirAll directory
  IO.FS.writeFile path content

/-- The present in seconds after the epoch, as the file system has it. -/
def present : IO Int :=
  IO.FS.withTempFile fun _ path => do return (← path.metadata).modified.sec

end OperationSamples

open OperationSamples in
def main (arguments : List String) : IO UInt32 := do
  let providers := Generator.providers (← present)
  let outcome := Command.run providers (← readTree arguments) arguments
  let lines := Command.logLines outcome.level outcome.notices
  if let some information := outcome.information then IO.print information.text
  for line in lines ++ outcome.console do IO.eprintln line
  if let some place := outcome.logPlace then
    writeEntry place (String.join (lines.map fun line => line ++ "\n"))
  if let some (place, content) := outcome.written then writeEntry place content
  if let some e := outcome.usage then IO.eprintln ("Error: " ++ e.message)
  if let some failure := outcome.failure then IO.eprintln ("Error: " ++ failure.message)
  return outcome.exit.toUInt32
