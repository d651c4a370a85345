import HomeCatalog.Problem
import HomeCatalog.Terminal.Screen

/-!
# Showing why a command ended

A command that ends early shows a panel with the reason.  Failures of the library are titled by
their kind, two refusals of the file system come with advice, and all else is unexpected.
-/

namespace HomeCatalog.Terminal

/-- Why a command ended early. -/
inductive Mishap where
  | failure (reason : Failure)
  /-- There is no file of a given name. -/
  | noFile (name : Option String)
  /-- There is no permission for a file of a given name. -/
  | noPermission (name : Option String)
  | unexpected (message : String)
  deriving Repr, DecidableEq

/-- The mishap that a problem is for a command. -/
def Mishap.ofProblem (problem : Problem) : Mishap :=
  match problem with
  | .failure reason => failure reason
  | .file ⟨.missing, path⟩ => noFile (some path.toString)
  | .file ⟨.noPermission, path⟩ => noPermission (some path.toString)
  | _ => unexpected problem.message

def kindTitles : List (FailureKind × String) :=
  [ (.metadata, "Metadata Error"), (.extraction, "Extraction Error"),
    (.encoding, "Catalog Error"), (.reading, "Catalog Error"),
    (.generation, "Generation Error") ]

/-- The title of a failure: that of the first kind in its lineage that has one. -/
def failureTitle (kind : FailureKind) : String :=
  (kind.lineage.findSome? fun general => kindTitles.lookup general).getD "Error"

/-- The name of a file for a message. -/
def fileName (name : Option String) : String :=
  match name with
  | none | some "" => "unknown"
  | some text => text

def Mishap.blocks (mishap : Mishap) (isVerbose : Bool) : List Block :=
  match mishap with
  | failure reason =>
      let place := (reason.path.map fun path => "\n\n" ++ path.toString).getD ""
      [.panel (failureTitle reason.kind) (reason.message ++ place)] ++
        if isVerbose then
          reason.cause.toList.map fun cause => .text ("Caused by: " ++ cause.text)
        else []
  | noFile name =>
      [.panel "Error"
        ("File not found: " ++ fileName name ++
          "\n\nPlease check that the file path is correct.")]
  | noPermission name =>
      [.panel "Error"
        ("Permission denied: " ++ fileName name ++ "\n\nCheck file permissions and try again.")]
  | unexpected message =>
      [.panel "Error" ("An unexpected error occurred:\n" ++ message)] ++
        if isVerbose then [] else [.text "Use --verbose for full traceback"]

end HomeCatalog.Terminal
