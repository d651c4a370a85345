import HomeCatalog.Document.PropertyList.Binary
import HomeCatalog.Document.PropertyList.Markup

/-!
# Property lists

A property list is written in XML or in binary form.  The first bytes of the file tell which:
nothing may stand in front of them but a mark of the encoding.
-/

namespace HomeCatalog.Document.PropertyList

/-- The forms of a property list. -/
inductive Form where
  | markup
  | binary
  deriving Repr, DecidableEq

/-- The ways to write the characters of an opening, each with its mark. -/
def writings : List (List UInt8 × (UInt8 → List UInt8)) :=
  [ ([], fun byte => [byte]),
    ([0xEF, 0xBB, 0xBF], fun byte => [byte]),
    ([0xFE, 0xFF], fun byte => [0, byte]),
    ([0xFF, 0xFE], fun byte => [byte, 0]) ]

/-- The openings of a property list in XML. -/
def openings : List (List UInt8) :=
  ["<?xml", "<plist"].map fun opening => Text.encode opening

/-- The form of the property list in a file, by its first bytes. -/
def Form.ofFile? (file : List UInt8) : Option Form :=
  if writings.any fun (mark, write) =>
      openings.any fun opening => (mark ++ opening.flatMap write).isPrefixOf file then
    some markup
  else if (Text.encode "bplist00").isPrefixOf file then some binary
  else none

/-- Read the property list in a file. -/
def read (file : List UInt8) : Except Flaw Value := do
  match ← orMalformed (Form.ofFile? file) with
  | .markup => markup file
  | .binary => binary file

end HomeCatalog.Document.PropertyList
