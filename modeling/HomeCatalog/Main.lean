import HomeCatalog.Command.Program
import Std.Time.DateTime.Timestamp

/-!
# The program

The first argument names a command, and the others are the command's own.  What the command looks
at is taken from the disk into a file tree, the command is run on the tree, its output is shown,
and what it has changed is written back.
-/

namespace HomeCatalog.Disk

def text (place : List String) : String :=
  Path.toString ⟨.slash, place⟩

/-- A place beside another one, with a hidden name of its own. -/
def beside (place : List String) (mark : String) : List String :=
  place.dropLast ++ ["." ++ place.getLastD "" ++ mark]

/-- What lies at a place of which all places above are directories. -/
def look (place : List String) : IO (Option Node) := do
  if isNameTooLong (place.getLastD "") then return none
  try return some (.file (← IO.FS.readBinFile (text place)).toList)
  catch
    | .noFileOrDirectory .. => return none
    | .inappropriateType .. => return some .directory
    | error => throw error

/-- Take what lies on the way from one place to another into a tree. -/
def takeAlong (tree : FileTree) (place : List String) : (rest : List String) → IO FileTree
  | [] => return tree
  | name :: rest => do
      let next := place ++ [name]
      match ← look next with
      | some .directory => takeAlong (tree.put next .directory) next rest
      | some file => return tree.put next file
      | none => return tree

/-- Write a file under another name and move it to its place. -/
def writeFile (place : List String) (bytes : List UInt8) : IO Unit := do
  let draft := text (beside place ".draft.tmp")
  IO.FS.writeBinFile draft ⟨bytes.toArray⟩
  IO.FS.rename draft (text place)

def write (place : List String) : Node → IO Unit
  | .directory => IO.FS.createDirAll (text place)
  | .file bytes => writeFile place bytes

/-- Remove a directory as far as that can be done. -/
def clear (place : List String) : IO Unit := do
  try IO.FS.removeDirAll (text place) catch _ => return ()

/-- Put the directory that a tree has at a place in the place of what lies there.  If it cannot be
moved there, what was moved aside is moved back. -/
def replace (tree : FileTree) (place : List String) : IO Unit := do
  let staging := beside place ".staging"
  let old := beside place ".old"
  try
    for (rest, node) in tree.below place do
      write (staging ++ rest) node
  catch error =>
    clear staging
    throw error
  let isOccupied := (← look place).isSome
  if isOccupied then IO.FS.rename (text place) (text old)
  try IO.FS.rename (text staging) (text place)
  catch error =>
    if isOccupied then IO.FS.rename (text old) (text place)
    clear staging
    throw error
  if isOccupied then clear old

end HomeCatalog.Disk

namespace HomeCatalog.Command

/-- The variables of the environment that commands read. -/
def environmentNames : List String :=
  ["HOMEKIT_CATALOG_OUTPUT", "HOMEKIT_METADATA_PATH"]

/-- A session in the working directory of the process, with nothing else of the disk. -/
def currentSession : IO Session := do
  let home := (Path.ofString (toString (← IO.currentDir))).parts
  let environment ← environmentNames.filterMapM fun name => do
    return (← IO.getEnv name).map fun value => (name, value)
  let seconds := (← Std.Time.Timestamp.now).toSecondsSinceUnixEpoch.val
  return ⟨.empty home, environment, .ofUnixSeconds seconds⟩

/-- Show pieces of output on a channel. -/
def display (channel : IO.FS.Stream) (blocks : List Terminal.Block) : IO Unit :=
  (Terminal.screen blocks).forM channel.putStrLn

/-- Run a command on the disk. -/
def Program.perform (program : Program) (texts : List String) : IO UInt32 := do
  let bare ← currentSession
  let tree ← (program.places bare texts).foldlM (fun tree place => Disk.takeAlong tree [] place)
    bare.tree
  let session := { bare with tree }
  let ending := program.run session texts
  display (← IO.getStdout) ending.out
  display (← IO.getStderr) ending.err
  for (place, node) in program.written session texts ending do
    Disk.write place node
  for place in program.replaced session texts ending do
    Disk.replace ending.tree place
  return UInt32.ofNat ending.status

end HomeCatalog.Command

/-- Run the command that the first argument names. -/
def main (texts : List String) : IO UInt32 := do
  match texts with
  | [] =>
      IO.eprintln "Name a command: extract or generate."
      return 2
  | name :: rest =>
      match HomeCatalog.Command.Program.ofName? name with
      | some program => program.perform rest
      | none =>
          IO.eprintln s!"No such command: {name}"
          return 2
