import HomeCatalog.Bindings.Swift.Tree
import HomeCatalog.Bindings.TypeScript.Tree
import HomeCatalog.Calendar.Moment
import HomeCatalog.Problem

/-!
# Generating bindings

The files of a target language are rendered as a whole and then put in the place of the output
directory as a whole.  What is noticed on the way is reported even when the output cannot be
written.
-/

namespace HomeCatalog.Bindings

/-- The files of a target language, with a given stamp. -/
def files (target : Target) (stamp : String) (catalog : Catalog) : List (String × String) :=
  match target with
  | .swift => Swift.tree stamp catalog
  | .typeScript => TypeScript.tree stamp catalog

/-- Rendered files, and what was noticed. -/
structure Rendering where
  files : List (String × String)
  findings : List Finding
  deriving Repr, DecidableEq

/-- Render the files of a target language at a moment. -/
def render (target : Target) (moment : Calendar.Moment) (catalog : Catalog) :
    Except Problem Rendering :=
  match moment.stamp? with
  | none => .error .timeOutOfRange
  | some stamp => .ok ⟨files target stamp catalog, unresolvedReferences catalog⟩

/-- A file tree after an attempt to generate into it. -/
structure Generation where
  tree : FileTree
  findings : List Finding
  /-- The rendered files, unless the attempt failed. -/
  result : Except Problem (List (String × String))

/-- Render the files of a target language and put them in the place of a directory. -/
def generateIn (circumstances : Circumstances) (target : Target) (moment : Calendar.Moment)
    (catalog : Catalog) (tree : FileTree) (output : Path) : Generation :=
  match render target moment catalog with
  | .error problem => ⟨tree, [], .error problem⟩
  | .ok rendering =>
      match tree.doesExist circumstances (.lookUp output) output with
      | .error error => ⟨tree, rendering.findings, .error (.file error)⟩
      | .ok isReplaced =>
          let findings := rendering.findings ++
            if isReplaced then [.outputReplaced target output] else []
          let change := tree.replaceDirectoryIn circumstances output rendering.files
          match change.error with
          | none => ⟨change.tree, findings, .ok rendering.files⟩
          | some ⟨.nulCharacter, path⟩ =>
              ⟨change.tree, findings, .error (.file ⟨.nulCharacter, path⟩)⟩
          | some ⟨refusal, _⟩ =>
              ⟨change.tree, findings,
                .error (.failure (.outputFailed target output (.refused refusal)))⟩

/-- Generate bindings while the file system refuses only what the tree rules out. -/
def generate (target : Target) (moment : Calendar.Moment) (catalog : Catalog) (tree : FileTree)
    (output : Path) : Generation :=
  generateIn .usual target moment catalog tree output

end HomeCatalog.Bindings
