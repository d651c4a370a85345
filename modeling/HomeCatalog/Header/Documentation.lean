import HomeCatalog.Text.Basic

/-!
# Documentation above a declaration

The documentation of a declaration is the run of line comments directly above it.  Blank lines
and comments without text are passed over; any other line ends the run.
-/

namespace HomeCatalog.Header

/-- The text of a trimmed line that is a line comment. -/
def commentBody? (trimmed : List Char) : Option (List Char) :=
  if ['/', '/'].isPrefixOf trimmed then
    some (Text.strip (trimmed.dropWhile fun c => c == '/'))
  else
    none

/-- The comment texts of the lines `above`, which are given nearest first. -/
def commentsAbove : (above : List (List Char)) → List (List Char)
  | [] => []
  | line :: rest =>
      match commentBody? (Text.strip line) with
      | some [] => commentsAbove rest
      | some body => body :: commentsAbove rest
      | none => if (Text.strip line).isEmpty then commentsAbove rest else []

/-- The documentation of a declaration that follows the text `before`: its comment texts in
order, with spaces between them. -/
def documentationAfter (before : List Char) : Option String :=
  match commentsAbove (Text.lines before).reverse with
  | [] => none
  | bodies => some (String.ofList (Text.joinWith [' '] bodies.reverse))

/-- The characters of a text before an offset.  A negative offset counts from the end. -/
def takeTo (offset : Int) (cs : List Char) : List Char :=
  if offset < 0 then cs.take (cs.length - offset.natAbs) else cs.take offset.toNat

/-- The documentation of a declaration at an offset of a header. -/
def documentationAt (header : String) (offset : Int) : Option String :=
  documentationAfter (takeTo offset header.toList)

end HomeCatalog.Header
