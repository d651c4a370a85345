import HomeCatalog.Text.Alphanumeric
import HomeCatalog.Text.Casing
import HomeCatalog.Text.Digit
import HomeCatalog.Text.Ranges
import HomeCatalog.Text.Uppercase

/-!
# Cutting and joining text

A text under analysis is its list of characters.  This module holds the operations that the
readers of the library share: trimming, cutting at a character, and searching.
-/

namespace HomeCatalog.Text

/-- The code points of white space: the separator categories, and the control characters whose
bidirectional class is white space, paragraph or segment separator.  The zero-width space and the
byte order mark are not among them. -/
def blankRanges : List (Nat × Nat) :=
  [ (0x9, 0xD), (0x1C, 0x20), (0x85, 0x85), (0xA0, 0xA0), (0x1680, 0x1680), (0x2000, 0x200A),
    (0x2028, 0x2029), (0x202F, 0x202F), (0x205F, 0x205F), (0x3000, 0x3000) ]

/-- Whether a character is white space. -/
def isBlank (c : Char) : Bool :=
  covers blankRanges c.toNat

/-- Remove the characters that satisfy `drop` from both ends. -/
def trim (drop : Char → Bool) (cs : List Char) : List Char :=
  ((cs.dropWhile drop).reverse.dropWhile drop).reverse

/-- Remove white space from both ends. -/
def strip (cs : List Char) : List Char :=
  trim isBlank cs

/-- Put a character in front of the first piece. -/
def consHead (c : Char) : List (List Char) → List (List Char)
  | [] => [[c]]
  | piece :: rest => (c :: piece) :: rest

/-- Cut a text at every occurrence of `sep`.  There is one piece more than there are
occurrences, so the empty text has one empty piece. -/
def splitOn (sep : Char) (cs : List Char) : List (List Char) :=
  cs.foldr (fun c pieces => if c = sep then [] :: pieces else consHead c pieces) [[]]

/-- The lines of a text.  Only the line feed ends a line. -/
def lines (cs : List Char) : List (List Char) :=
  splitOn '\n' cs

/-- Join pieces with `sep` between neighbours. -/
def joinWith (sep : List Char) : List (List Char) → List Char
  | [] => []
  | [piece] => piece
  | piece :: rest => piece ++ sep ++ joinWith sep rest

/-- Whether `needle` occurs somewhere in a text. -/
def contains (needle : List Char) : List Char → Bool
  | [] => needle.isEmpty
  | c :: rest => needle.isPrefixOf (c :: rest) || contains needle rest

/-- The text before the first `sep`, and the text after it if there is one. -/
def cut (sep : Char) : List Char → List Char × Option (List Char)
  | [] => ([], none)
  | c :: rest =>
      if c = sep then ([], some rest)
      else ((c :: (cut sep rest).1), (cut sep rest).2)

/-- Replace every occurrence of one character by a text. -/
def replaceChar (c : Char) (image : List Char) (cs : List Char) : List Char :=
  cs.flatMap fun x => if x = c then image else [x]

@[simp] theorem splitOn_nil (sep : Char) : splitOn sep [] = [[]] := rfl

@[simp] theorem splitOn_cons (sep c : Char) (rest : List Char) :
    splitOn sep (c :: rest) =
      if c = sep then [] :: splitOn sep rest else consHead c (splitOn sep rest) := rfl

theorem splitOn_ne_nil (sep : Char) (cs : List Char) : splitOn sep cs ≠ [] := by
  cases cs with
  | nil => simp
  | cons c rest =>
      rw [splitOn_cons]
      split
      · simp
      · cases splitOn sep rest <;> simp [consHead]

end HomeCatalog.Text
