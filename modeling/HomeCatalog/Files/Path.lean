import HomeCatalog.Text.Basic

/-!
# Paths

A path is a root and a list of components.  Reading a path drops empty components and single
dots, so repeated slashes collapse; two dots stay, since only a file tree can resolve them.
Exactly two leading slashes are a root of their own.
-/

namespace HomeCatalog

/-- Where a path starts. -/
inductive PathRoot where
  /-- In the working directory. -/
  | relative
  /-- At one slash. -/
  | slash
  /-- At exactly two slashes. -/
  | doubleSlash
  deriving Repr, DecidableEq

namespace PathRoot

def text : PathRoot → String
  | relative => ""
  | slash => "/"
  | doubleSlash => "//"

def ofChars : List Char → PathRoot
  | '/' :: '/' :: '/' :: _ => slash
  | '/' :: '/' :: _ => doubleSlash
  | '/' :: _ => slash
  | _ => relative

end PathRoot

/-- A path in a file tree. -/
structure Path where
  root : PathRoot
  parts : List String
  deriving Repr, DecidableEq

namespace Path

/-- The components of a path in writing. -/
def partsOfString (text : String) : List String :=
  ((Text.splitOn '/' text.toList).map String.ofList).filter fun part =>
    part != "" && part != "."

def ofString (text : String) : Path :=
  ⟨PathRoot.ofChars text.toList, partsOfString text⟩

/-- Write a path.  The path without root and components is a single dot. -/
def toString (path : Path) : String :=
  let text := path.root.text ++ String.intercalate "/" path.parts
  if text.isEmpty then "." else text

instance : ToString Path := ⟨Path.toString⟩

/-- Append a path.  One with a root of its own replaces the first. -/
def join (path : Path) (more : Path) : Path :=
  match more.root with
  | .relative => { path with parts := path.parts ++ more.parts }
  | _ => more

/-- Append one component. -/
def child (path : Path) (part : String) : Path :=
  { path with parts := path.parts ++ [part] }

/-- The last component, if there is one. -/
def name? (path : Path) : Option String :=
  path.parts.getLast?

/-- The last component, or the empty text. -/
def name (path : Path) : String :=
  path.name?.getD ""

/-- The path without its last component. -/
def parent (path : Path) : Path :=
  { path with parts := path.parts.dropLast }

/-- Exchange the last component of a path that has one. -/
def withName? (path : Path) (name : String) : Option Path :=
  if path.parts.isEmpty then none else some (path.parent.child name)

/-- The part of the last component from its last dot on.  A dot at either end of the component
starts no suffix. -/
def suffix (path : Path) : String :=
  let reversed := path.name.toList.reverse
  match Text.cut '.' reversed with
  | ([], _) => ""
  | (_, none) => ""
  | (_, some []) => ""
  | (after, some _) => String.ofList ('.' :: after.reverse)

end Path

end HomeCatalog
