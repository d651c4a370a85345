import HomeCatalog.Files.Tree
import HomeCatalog.Text.Bytes

/-!
# Writing into a file tree

A partly written file or directory never takes the place of a good one: everything is written
to a hidden name beside its target first and then moved there in one step.  A directory that is
replaced is moved to a hidden name of its own before, and back if its successor cannot take its
place.  Missing parent directories are made first, and those that were made stay when a later step
is refused.

Besides what the tree itself rules out, a file system may refuse a step for reasons of its own, as
when a disk is full or a permission is lacking.  It may also refuse to tell what lies at a path.
-/

namespace HomeCatalog

/-- The steps of a write that a file system may refuse for reasons of its own. -/
inductive Operation where
  /-- Tell what lies at a path. -/
  | lookUp (path : Path)
  | makeDirectory (path : Path)
  /-- Make the hidden file or directory that is to become the target. -/
  | makeDraft
  /-- Write the content of a file. -/
  | fill (file : String)
  /-- Open the draft, which only its maker may read, to others. -/
  | shareDraft
  /-- Tell, when the draft is ready, whether there is anything to replace. -/
  | lookUpReplaced
  /-- Make a hidden directory to find a name for what is replaced, and remove it again. -/
  | makeBackup
  | clearBackup
  /-- Move what is replaced to its hidden name. -/
  | moveAway
  /-- Move the draft to the target. -/
  | moveIn
  /-- Move what is replaced back from its hidden name. -/
  | moveBack
  | discardDraft
  | discardBackup
  deriving Repr, DecidableEq

/-- What is up to the file system: the characters that it draws for the hidden name of each attempt,
and the steps that it refuses for reasons of its own. -/
structure Circumstances where
  draw : Nat → String
  refusal? : Operation → Option Refusal

namespace Circumstances

/-- The circumstances in which nothing is refused, with the number of the attempt for a name. -/
def usual : Circumstances where
  draw attempt :=
    let digits := toString attempt
    String.ofList (List.replicate (8 - digits.length) '0') ++ digits
  refusal? _ := none

/-- The result of a step unless it is refused. -/
def attempt {α : Type} (circumstances : Circumstances) (operation : Operation)
    (result : Except Refusal α) : Except Refusal α :=
  match circumstances.refusal? operation with
  | some refusal => .error refusal
  | none => result

end Circumstances

namespace FileTree

/-! ## Questions -/

/-- What lies at a path, unless the file system refuses to tell.  What is wrong with the path itself
comes first. -/
def findIn (circumstances : Circumstances) (operation : Operation) (tree : FileTree)
    (path : Path) : Except Refusal Node :=
  match pathRefusal? path with
  | some refusal => .error refusal
  | none => circumstances.attempt operation (tree.find path)

/-- Whether something lies at a path, as far as the file system tells. -/
def doesExist (circumstances : Circumstances) (operation : Operation) (tree : FileTree)
    (path : Path) : Except FileError Bool :=
  answer path (fun _ => true) (tree.findIn circumstances operation path)

/-- Whether a directory lies at a path, as far as the file system tells. -/
def isDirectory (circumstances : Circumstances) (tree : FileTree) (path : Path) :
    Except FileError Bool :=
  answer path (fun node => node == .directory) (tree.findIn circumstances (.lookUp path) path)

/-! ## Changes -/

/-- The tree after an operation, and whether it was refused. -/
structure Change where
  tree : FileTree
  error : Option FileError
  deriving DecidableEq

namespace Change

/-- A step that leaves the tree as it was if it is refused. -/
def ofStep (tree : FileTree) (path : Path) : Except Refusal FileTree → Change
  | .ok changed => ⟨changed, none⟩
  | .error refusal => ⟨tree, some ⟨refusal, path⟩⟩

/-- Go on unless something was refused. -/
def next (change : Change) (step : FileTree → Change) : Change :=
  match change.error with
  | none => step change.tree
  | some _ => change

/-- Clean up if something was refused. -/
def recover (change : Change) (cleanUp : FileTree → FileError → Change) : Change :=
  match change.error with
  | none => change
  | some error => cleanUp change.tree error

end Change

/-! ## Single steps -/

/-- The place of the entry that a path names below an existing directory.  A path that names no
entry leads to something that is there already. -/
def slot (tree : FileTree) (occupied : Refusal) (path : Path) : Except Refusal (List String) :=
  match pathRefusal? path with
  | some refusal => .error refusal
  | none =>
      match path.name? with
      | none => .error occupied
      | some name => do
          let parent ← tree.walk (tree.start path) path.parts.dropLast
          if !tree.isDirectoryAt parent then .error .notDirectory
          else if name = ".." then .error occupied
          else if isNameTooLong name then .error .nameTooLong
          else .ok (parent ++ [name])

/-- Make a file or a directory where nothing lies, and tell its place. -/
def create (tree : FileTree) (path : Path) (node : Node) :
    Except Refusal (FileTree × List String) := do
  let place ← tree.slot .alreadyExists path
  if (tree.node? place).isSome then .error .alreadyExists else .ok (tree.put place node, place)

/-- Write a file, over the file that lies at the path. -/
def overwrite (tree : FileTree) (path : Path) (bytes : List UInt8) : Except Refusal FileTree := do
  let place ← tree.slot .isDirectory path
  if tree.isDirectoryAt place then .error .isDirectory else .ok (tree.put place (.file bytes))

/-- Move what lies at a place, with everything below. -/
def relocate (tree : FileTree) (source target : List String) (node : Node) : FileTree :=
  let kept := tree.nodes.filter fun entry =>
    !source.isPrefixOf entry.1 && !target.isPrefixOf entry.1
  let moved := (tree.below source).filter fun entry => !entry.1.isEmpty
  { tree with nodes :=
      kept ++ (target, node) :: moved.map fun entry => (target ++ entry.1, entry.2) }

/-- Whether nothing lies below a place. -/
def isEmptyAt (tree : FileTree) (place : List String) : Bool :=
  (tree.below place).all fun entry => entry.1.isEmpty

/-- Rename what lies at a place.  A file gives way to a file and an empty directory to a directory;
the directories above the working directory stay where they are. -/
def move (tree : FileTree) (source target : List String) : Except Refusal FileTree :=
  let isAboveHome := source.isPrefixOf tree.home && source != tree.home
  match tree.node? source, tree.node? target with
  | none, _ => .error .missing
  | some node, none => if isAboveHome then .error .busy else .ok (tree.relocate source target node)
  | some .directory, some .directory =>
      if isAboveHome then .error .busy
      else if tree.isEmptyAt target then .ok (tree.relocate source target .directory)
      else .error .alreadyExists
  | some (.file bytes), some (.file _) => .ok (tree.relocate source target (.file bytes))
  | some .directory, some (.file _) => .error .notDirectory
  | some (.file _), some .directory => .error .isDirectory

/-! ## Directories -/

/-- Make one directory, whose parent must exist. -/
def makeDirectory (circumstances : Circumstances) (tree : FileTree) (path : Path) :
    Except Refusal FileTree :=
  circumstances.attempt (.makeDirectory path)
    ((tree.create path .directory).map fun created => created.1)

/-- A directory that cannot be made is accepted if it is there already. -/
def acceptDirectory (circumstances : Circumstances) (tree : FileTree) (path : Path)
    (refusal : Refusal) : Change :=
  match tree.isDirectory circumstances path with
  | .ok true => ⟨tree, none⟩
  | .ok false => ⟨tree, some ⟨refusal, path⟩⟩
  | .error error => ⟨tree, some error⟩

/-- Make a directory unless it is there already. -/
def provideDirectory (circumstances : Circumstances) (tree : FileTree) (path : Path) : Change :=
  match tree.makeDirectory circumstances path with
  | .ok made => ⟨made, none⟩
  | .error .missing => ⟨tree, some ⟨.missing, path⟩⟩
  | .error refusal => tree.acceptDirectory circumstances path refusal

/-- Make a directory and the missing directories above it, of which at most `depth` are
tried. -/
def makeDirectoriesWithin (circumstances : Circumstances) :
    (depth : Nat) → FileTree → Path → Change
  | 0, tree, path => tree.provideDirectory circumstances path
  | depth + 1, tree, path =>
      match tree.makeDirectory circumstances path with
      | .error .missing =>
          (makeDirectoriesWithin circumstances depth tree path.parent).next fun tree =>
            tree.provideDirectory circumstances path
      | _ => tree.provideDirectory circumstances path

/-- Make a directory and all missing directories above it. -/
def makeDirectoriesIn (circumstances : Circumstances) (tree : FileTree) (path : Path) : Change :=
  makeDirectoriesWithin circumstances path.parts.length tree path

def makeDirectories (tree : FileTree) (path : Path) : Change :=
  tree.makeDirectoriesIn .usual path

/-! ## Hidden names -/

/-- The name of a hidden file beside a target. -/
def draftName (name drawn : String) : String :=
  "." ++ name ++ "." ++ drawn ++ ".tmp"

/-- The name of a hidden directory that is to become a target. -/
def stagingName (name drawn : String) : String :=
  "." ++ name ++ ".staging-" ++ drawn

/-- The name of a hidden directory for what is replaced. -/
def backupName (name drawn : String) : String :=
  "." ++ name ++ ".old-" ++ drawn

/-- How often a hidden name is drawn. -/
def attemptLimit : Nat := 10000

/-- Make a file or a directory under the first hidden name that is free, and tell its place. -/
def createHidden (tree : FileTree) (directory : Path) (nameOf : Nat → String) (node : Node) :
    (attempts index : Nat) → Except Refusal (FileTree × List String)
  | 0, _ => .error .alreadyExists
  | attempts + 1, index =>
      match tree.create (directory.child (nameOf index)) node with
      | .error .alreadyExists => tree.createHidden directory nameOf node attempts (index + 1)
      | result => result

/-- Make something under a hidden name in a directory. -/
def makeHidden (circumstances : Circumstances) (operation : Operation) (tree : FileTree)
    (directory : Path) (naming : String → String) (node : Node) :
    Except Refusal (FileTree × List String) :=
  circumstances.attempt operation
    (tree.createHidden directory (fun index => naming (circumstances.draw index)) node
      attemptLimit 0)

/-- Remove what lies at a place, and let it lie if that is refused. -/
def discard (circumstances : Circumstances) (operation : Operation) (tree : FileTree)
    (place : List String) : FileTree :=
  match circumstances.refusal? operation with
  | none => tree.remove place
  | some _ => tree

/-! ## Files -/

/-- Remove the draft of a file after an error.  Should that be refused, this is the error. -/
def discardFile (circumstances : Circumstances) (draft : List String) (path : Path)
    (tree : FileTree) (error : FileError) : Change :=
  match circumstances.refusal? .discardDraft with
  | none => ⟨tree.remove draft, some error⟩
  | some refusal => ⟨tree, some ⟨refusal, path⟩⟩

/-- Move the draft of a file onto the target. -/
def installFile (circumstances : Circumstances) (tree : FileTree) (draft : List String)
    (path : Path) : Except Refusal FileTree :=
  circumstances.attempt .moveIn do
    let target ← tree.slot .busy path
    tree.move draft target

/-- Open a draft to others, which leaves what it holds. -/
def share (circumstances : Circumstances) (tree : FileTree) (path : Path) : Change :=
  .ofStep tree path (circumstances.attempt .shareDraft (.ok tree))

/-- Fill the draft of a file and move it onto the target. -/
def finishFile (circumstances : Circumstances) (tree : FileTree) (draft : List String)
    (path : Path) (text : String) : Change :=
  let filled := circumstances.attempt (.fill path.name)
    (.ok (tree.put draft (.file (Text.encode text))))
  (((Change.ofStep tree path filled).next fun tree => tree.share circumstances path).next
    fun tree => .ofStep tree path (tree.installFile circumstances draft path)).recover
      (discardFile circumstances draft path)

/-- Write a file, in place of the file that lies at the path. -/
def writeFileIn (circumstances : Circumstances) (tree : FileTree) (path : Path) (text : String) :
    Change :=
  (tree.makeDirectoriesIn circumstances path.parent).next fun tree =>
    match tree.makeHidden circumstances .makeDraft path.parent (draftName path.name) (.file []) with
    | .error refusal => ⟨tree, some ⟨refusal, path⟩⟩
    | .ok (tree, draft) => tree.finishFile circumstances draft path text

def writeFile (tree : FileTree) (path : Path) (text : String) : Change :=
  tree.writeFileIn .usual path text

/-! ## Directories as a whole -/

/-- The place to which components lead if nothing on the way is missing.  The root is its own
parent. -/
def follow (place parts : List String) : List String :=
  parts.foldl (fun place part => if part = ".." then place.dropLast else place ++ [part]) place

/-- The place to which a path leads if nothing on the way is missing. -/
def resolve (tree : FileTree) (path : Path) : List String :=
  follow (tree.start path) path.parts

/-- The path of one of the files of a draft. -/
def draftTarget (draft : List String) (file : String × String) : Path :=
  ⟨.slash, draft ++ Path.partsOfString file.1⟩

/-- Write one of the files of a draft, with the directories above it. -/
def fillFile (circumstances : Circumstances) (draft : List String) (tree : FileTree)
    (file : String × String) : Change :=
  let target := draftTarget draft file
  (tree.makeDirectoriesIn circumstances target.parent).next fun tree =>
    .ofStep tree target
      (circumstances.attempt (.fill file.1) (tree.overwrite target (Text.encode file.2)))

/-- Write the files of a draft. -/
def fillDraft (circumstances : Circumstances) (draft : List String) :
    FileTree → List (String × String) → Change
  | tree, [] => ⟨tree, none⟩
  | tree, file :: rest =>
      (tree.fillFile circumstances draft file).next fun tree =>
        fillDraft circumstances draft tree rest

/-- Move a draft to a place where nothing is known to lie. -/
def installFresh (circumstances : Circumstances) (tree : FileTree) (draft place : List String)
    (path : Path) : Change :=
  (Change.ofStep tree path (circumstances.attempt .moveIn (tree.move draft place))).recover
    fun tree error => ⟨tree.discard circumstances .discardDraft draft, some error⟩

/-- Move what was replaced back to its place after an error, and remove the draft.  Should that be
refused, this is the error, and both lie where they are. -/
def giveBack (circumstances : Circumstances) (draft backup place : List String) (path : Path)
    (tree : FileTree) (error : FileError) : Change :=
  match circumstances.attempt .moveBack (tree.move backup place) with
  | .ok restored => ⟨restored.discard circumstances .discardDraft draft, some error⟩
  | .error refusal => ⟨tree, some ⟨refusal, path⟩⟩

/-- Remove what was replaced.  Only directories are removed. -/
def discardReplaced (circumstances : Circumstances) (tree : FileTree) (backup : List String) :
    FileTree :=
  if tree.isDirectoryAt backup then tree.discard circumstances .discardBackup backup else tree

/-- Exchange what lies at a place for a draft by way of a place that is free. -/
def exchange (circumstances : Circumstances) (tree : FileTree)
    (draft backup place : List String) (path : Path) : Change :=
  let movedAway := circumstances.attempt .moveAway (tree.move place backup)
  (Change.ofStep tree path movedAway).next fun tree =>
    let movedIn := circumstances.attempt .moveIn (tree.move draft place)
    ((Change.ofStep tree path movedIn).recover
      (giveBack circumstances draft backup place path)).next fun tree =>
        ⟨tree.discardReplaced circumstances backup, none⟩

/-- Move a draft to a place where something lies, which is first moved to a hidden name. -/
def installOver (circumstances : Circumstances) (tree : FileTree) (draft place : List String)
    (path : Path) : Change :=
  match tree.makeHidden circumstances .makeBackup ⟨.slash, place.dropLast⟩
      (backupName (place.getLastD "")) .directory with
  | .error refusal => ⟨tree, some ⟨refusal, path⟩⟩
  | .ok (tree, backup) =>
      let cleared := circumstances.attempt .clearBackup (.ok (tree.remove backup))
      (Change.ofStep tree path cleared).next fun tree =>
        tree.exchange circumstances draft backup place path

/-- Move a draft to a place, in place of what is found there. -/
def install (circumstances : Circumstances) (tree : FileTree) (draft place : List String)
    (path : Path) : Change :=
  match tree.doesExist circumstances .lookUpReplaced ⟨.slash, place⟩ with
  | .ok true => tree.installOver circumstances draft place path
  | .ok false => tree.installFresh circumstances draft place path
  | .error error => ⟨tree, some error⟩

/-- Replace what lies at a path by a directory with exactly the given files. -/
def replaceDirectoryIn (circumstances : Circumstances) (tree : FileTree) (path : Path)
    (files : List (String × String)) : Change :=
  if path.parts.any fun part => part.toList.contains '\x00' then
    ⟨tree, some ⟨.nulCharacter, path⟩⟩
  else
    let place := tree.resolve path
    let parent : Path := ⟨.slash, place.dropLast⟩
    (tree.makeDirectoriesIn circumstances parent).next fun tree =>
      match tree.makeHidden circumstances .makeDraft parent (stagingName (place.getLastD ""))
          .directory with
      | .error refusal => ⟨tree, some ⟨refusal, path⟩⟩
      | .ok (tree, draft) =>
          (((tree.fillDraft circumstances draft files).next fun tree =>
            tree.share circumstances path).recover fun tree error =>
              ⟨tree.discard circumstances .discardDraft draft, some error⟩).next fun tree =>
                tree.install circumstances draft place path

end HomeCatalog.FileTree
