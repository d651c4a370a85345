import HomeCatalog.Document.Flaw
import HomeCatalog.Failure
import HomeCatalog.Files.Update
import HomeCatalog.Text.Bytes

/-!
# What ends a run

A run ends early with a failure of the library, a refusal of the file system, bytes that are no
text, a document on which its reader breaks down, a moment that has no stamp, or a path without a
name.  Each has a message for the user.
-/

namespace HomeCatalog

/-- The reason for which a run ended early. -/
inductive Problem where
  | failure (reason : Failure)
  | file (error : FileError)
  | malformedText (malformed : Text.Malformed) (bytes : List UInt8)
  | breakdown (reason : Document.Breakdown)
  | timeOutOfRange
  | unnamedPath (path : Path)
  deriving Repr, DecidableEq

/-- A refused operation in words. -/
def FileError.message (error : FileError) : String :=
  match error.refusal with
  | .nulCharacter => error.refusal.description
  | refusal =>
      "[Errno " ++ toString refusal.number ++ "] " ++ refusal.description ++ ": " ++
        Text.quoted error.path.toString

def Problem.message : Problem → String
  | .failure reason => reason.text
  | .file error => error.message
  | .malformedText malformed _ => malformed.message
  | .breakdown reason => reason.message
  | .timeOutOfRange => "date value out of range"
  | .unnamedPath path => "PosixPath(" ++ Text.quoted path.toString ++ ") has an empty name"

namespace FileTree

def readText (tree : FileTree) (path : Path) : Except Problem String :=
  match tree.readBytes path with
  | .error error => .error (.file error)
  | .ok bytes =>
      match Text.ofFile? bytes with
      | some text => .ok text
      | none =>
          .error (.malformedText
            ((Text.firstFault? 0 0 bytes).getD ⟨0, 1, 0, .invalidStart⟩) bytes)

end FileTree

end HomeCatalog
