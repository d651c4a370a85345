import HomeCatalog.CatalogFile.Reader
import HomeCatalog.CatalogFile.Writer
import HomeCatalog.Problem

/-!
# Catalog files in a file tree

Writing a catalog file first makes the whole text and touches the tree only when that worked.
-/

namespace HomeCatalog.CatalogFile

/-- The text of a catalog file at a moment. -/
def write (moment : Calendar.Moment) (catalog : Catalog) : Except Problem String :=
  match moment.stamp? with
  | none => .error .timeOutOfRange
  | some stamp =>
      match textOf stamp catalog with
      | .ok text => .ok text
      | .error failure => .error (.failure failure)

/-- A file tree after an attempt to write a catalog file. -/
structure Storage where
  tree : FileTree
  /-- The written text, unless the attempt failed. -/
  result : Except Problem String

/-- Write a catalog file at a path. -/
def storeIn (circumstances : Circumstances) (moment : Calendar.Moment) (catalog : Catalog)
    (tree : FileTree) (path : Path) : Storage :=
  match write moment catalog with
  | .error problem => ⟨tree, .error problem⟩
  | .ok text =>
      let change := tree.writeFileIn circumstances path text
      match change.error with
      | none => ⟨change.tree, .ok text⟩
      | some error => ⟨change.tree, .error (.file error)⟩

/-- Write a catalog file while the file system refuses only what the tree rules out. -/
def store (moment : Calendar.Moment) (catalog : Catalog) (tree : FileTree) (path : Path) :
    Storage :=
  storeIn .usual moment catalog tree path

/-- Read the catalog file at a path. -/
def load (tree : FileTree) (path : Path) : Except Problem Contents :=
  match tree.readText path with
  | .ok text => .ok (read text)
  | .error (.file ⟨.missing, _⟩) => .error (.failure (.catalogNotFound path))
  | .error (.file ⟨.nulCharacter, path⟩) => .error (.file ⟨.nulCharacter, path⟩)
  | .error (.file ⟨refusal, _⟩) => .error (.failure (.catalogUnreadable path (.refused refusal)))
  | .error (.malformedText malformed bytes) =>
      .error (.failure (.catalogUnreadable path (.malformed malformed bytes)))
  | .error problem => .error problem

end HomeCatalog.CatalogFile
