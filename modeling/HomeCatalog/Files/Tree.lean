import HomeCatalog.Entries
import HomeCatalog.Files.Path

/-!
# File trees

A file tree holds directories, and files with their bytes.  Places are lists of names from the
root on, and one place is the working directory.  A path is looked up one component after the
other, as a file system does: every component but the last must be a directory, and two dots go
back to the parent.
-/

namespace HomeCatalog

/-- What lies at a place of a file tree. -/
inductive Node where
  | file (bytes : List UInt8)
  | directory
  deriving DecidableEq

/-- Files and directories by place. -/
structure FileTree where
  /-- The place of the working directory. -/
  home : List String
  nodes : List (List String × Node)
  deriving DecidableEq

/-- Why a file system refuses an operation. -/
inductive Refusal where
  | missing
  | alreadyExists
  | notDirectory
  | isDirectory
  | nameTooLong
  | noPermission
  | busy
  /-- A name holds the character that ends names. -/
  | nulCharacter
  deriving Repr, DecidableEq

namespace Refusal

def number : Refusal → Nat
  | missing => 2
  | noPermission => 13
  | busy => 16
  | alreadyExists => 17
  | notDirectory => 20
  | isDirectory => 21
  | nulCharacter => 22
  | nameTooLong => 36

def description : Refusal → String
  | missing => "No such file or directory"
  | noPermission => "Permission denied"
  | busy => "Device or resource busy"
  | alreadyExists => "File exists"
  | notDirectory => "Not a directory"
  | isDirectory => "Is a directory"
  | nulCharacter => "embedded null byte"
  | nameTooLong => "File name too long"

end Refusal

/-- A refused operation on a path. -/
structure FileError where
  refusal : Refusal
  path : Path
  deriving Repr, DecidableEq

/-- The greatest number of bytes in a name. -/
def nameLimit : Nat := 255

/-- The least number of bytes in a path that is too long. -/
def pathLimit : Nat := 4096

/-- Whether a name has more bytes than a file system takes. -/
def isNameTooLong (name : String) : Bool :=
  nameLimit < name.utf8ByteSize

namespace FileTree

/-- The tree that has only an empty working directory. -/
def empty (home : List String) : FileTree := ⟨home, []⟩

/-- What lies at a place.  The working directory and those above it are directories. -/
def node? (tree : FileTree) (place : List String) : Option Node :=
  if place.isPrefixOf tree.home then some .directory else tree.nodes.lookup place

def isDirectoryAt (tree : FileTree) (place : List String) : Bool :=
  tree.node? place == some .directory

/-- Follow components from a place to something that exists. -/
def walk (tree : FileTree) : (place parts : List String) → Except Refusal (List String)
  | place, [] => .ok place
  | place, part :: rest =>
      if !tree.isDirectoryAt place then .error .notDirectory
      else if part = ".." then tree.walk place.dropLast rest
      else if isNameTooLong part then .error .nameTooLong
      else
        match tree.node? (place ++ [part]) with
        | some _ => tree.walk (place ++ [part]) rest
        | none => .error .missing

/-- What is wrong with a path whatever the tree. -/
def pathRefusal? (path : Path) : Option Refusal :=
  if path.parts.any fun part => part.toList.contains '\x00' then some .nulCharacter
  else if pathLimit ≤ path.toString.utf8ByteSize then some .nameTooLong
  else none

/-- The place at which a path starts. -/
def start (tree : FileTree) (path : Path) : List String :=
  match path.root with
  | .relative => tree.home
  | _ => []

/-- The place to which a path leads. -/
def locate (tree : FileTree) (path : Path) : Except Refusal (List String) :=
  match pathRefusal? path with
  | some refusal => .error refusal
  | none => tree.walk (tree.start path) path.parts

/-- What lies at a path. -/
def find (tree : FileTree) (path : Path) : Except Refusal Node := do
  let place ← tree.locate path
  match tree.node? place with
  | some node => .ok node
  | none => .error .missing

/-- Whether a refusal only says that nothing lies at a path. -/
def isAbsence : Refusal → Bool
  | .missing | .notDirectory | .nulCharacter => true
  | _ => false

/-- Answer a question by what was found at a path.  Nothing there answers no; a path at which
nothing can be looked up leaves the question open. -/
def answer (path : Path) (question : Node → Bool) : Except Refusal Node → Except FileError Bool
  | .ok node => .ok (question node)
  | .error refusal => if isAbsence refusal then .ok false else .error ⟨refusal, path⟩

def isFile (tree : FileTree) (path : Path) : Except FileError Bool :=
  answer path (fun node => node != .directory) (tree.find path)

def readBytes (tree : FileTree) (path : Path) : Except FileError (List UInt8) :=
  match tree.find path with
  | .ok (.file bytes) => .ok bytes
  | .ok .directory => .error ⟨.isDirectory, path⟩
  | .error refusal => .error ⟨refusal, path⟩

/-- Put something at a place, in place of what lies there. -/
def put (tree : FileTree) (place : List String) (node : Node) : FileTree :=
  { tree with nodes := Entries.put place node tree.nodes }

/-- Remove what lies at a place and everything below. -/
def remove (tree : FileTree) (place : List String) : FileTree :=
  { tree with nodes := tree.nodes.filter fun entry => !place.isPrefixOf entry.1 }

/-- Whether a place below another one can be seen: no name on the way starts with a dot. -/
def isVisible (place : List String) : Bool :=
  !place.isEmpty && place.all fun name => name.toList.head? != some '.'

/-- The text of a place in a listing.  Directories end in a slash. -/
def listingText (entry : List String × Node) : String :=
  String.intercalate "/" entry.1 ++ if entry.2 = .directory then "/" else ""

/-- What lies at a place and below, by place from there on. -/
def below (tree : FileTree) (place : List String) : List (List String × Node) :=
  tree.nodes.filterMap fun entry =>
    (place.isPrefixOf? entry.1).map fun rest => (rest, entry.2)

/-- What this tree holds in addition to another one, or in place of what lies there. -/
def additions (tree other : FileTree) : List (List String × Node) :=
  tree.nodes.filter fun entry => other.node? entry.1 != some entry.2

/-- The sorted texts of all places below the working directory that can be seen. -/
def listing (tree : FileTree) : List String :=
  (((tree.below tree.home).filter fun entry => isVisible entry.1).map listingText).mergeSort
    fun left right => decide (left ≤ right)

end FileTree

end HomeCatalog
