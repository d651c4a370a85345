import HomeCatalog.Text.Basic
import HomeCatalog.Text.CellWidth

/-!
# Breaking lines

A text is shown in lines of a given number of cells.  A line is broken between words, and white
space in front of a break stays at the end of its line.  A word that is wider than a line is
folded into several lines or cut, and a cut leaves a mark.
-/

namespace HomeCatalog.Terminal

open Text (cells cellWidth isBlank)

/-- What becomes of a word that is wider than a line. -/
inductive Overflow where
  | fold
  | cut
  deriving Repr, DecidableEq

/-- Whether a character moves the cursor and is not shown. -/
def isControl (c : Char) : Bool :=
  c == '\x07' || c == '\x08' || c == '\x0b' || c == '\x0c' || c == '\r'

/-- The cells between two stops of the tabulator. -/
def tabWidth : Nat := 8

/-- Replace tabulators by the spaces up to the next stop, in a line that goes on at a given
cell. -/
def expandTabs (position : Nat) : List Char → List Char
  | [] => []
  | c :: rest =>
      if c = '\t' then
        let size := tabWidth - position % tabWidth
        List.replicate size ' ' ++ expandTabs (position + size) rest
      else c :: expandTabs (position + cellWidth c) rest

/-- Put a character in front of the words of a line. -/
def addToWords (c : Char) : List (List Char) → List (List Char)
  | [] => [[c]]
  | word :: rest =>
      if isBlank c && !word.head?.any isBlank then [c] :: word :: rest
      else (c :: word) :: rest

/-- The words of a line, each with the white space behind it.  White space at the start of the
line belongs to the first word. -/
def spacedWords (line : List Char) : List (List Char) :=
  match line.foldr addToWords [] with
  | [] => []
  | [word] => [word]
  | first :: second :: rest =>
      if first.all isBlank then (first ++ second) :: rest else first :: second :: rest

/-- The number of cells of a word without the white space behind it. -/
def wordCells (word : List Char) : Nat :=
  cells (word.reverse.dropWhile isBlank)

/-- Fold a word into pieces of at most `width` cells, given the piece that is being filled, last
character first, and its cells. -/
def foldWord (width : Nat) (piece : List Char) (count : Nat) : List Char → List (List Char)
  | [] => [piece.reverse]
  | c :: rest =>
      let size := cellWidth c
      if width < count + size && !piece.isEmpty then
        piece.reverse :: foldWord width [c] size rest
      else foldWord width (c :: piece) (count + size) rest

/-- Fill lines of `width` cells with words, given the line that is being filled. -/
def fillLines (overflow : Overflow) (width : Nat) (line : List Char) :
    List (List Char) → List (List Char)
  | [] => [line]
  | word :: rest =>
      if cells line + wordCells word ≤ width then
        fillLines overflow width (line ++ word) rest
      else
        let before := if line.isEmpty then [] else [line]
        let pieces :=
          if width < wordCells word && overflow = .fold then foldWord width [] 0 word else [word]
        before ++ pieces.dropLast ++
          fillLines overflow width (pieces.getLastD []) rest

/-- Remove white space at the end of a line that has more characters than cells, as far as it has
more. -/
def withoutExcess (width : Nat) (line : List Char) : List Char :=
  let blanks := line.length - (line.reverse.dropWhile isBlank).length
  line.take (line.length - min blanks (line.length - width))

/-- Cut a line to `size` cells, by halving the places from `start` to `stop` until one fits.  Half
a character that takes two cells becomes a space. -/
def cropBetween (size : Nat) (line : List Char) : (bound start stop : Nat) → List Char
  | 0, _, _ => line
  | bound + 1, start, stop =>
      let middle := (start + stop) / 2
      let before := line.take (middle + 1)
      let count := cells before
      if count = size + 1 && before.getLast?.any fun c => cellWidth c == 2 then
        before.dropLast ++ [' ']
      else if count = size then before
      else if size < count then cropBetween size line bound start middle
      else cropBetween size line bound middle stop

/-- Cut a line that is wider than `size` cells. -/
def crop (size : Nat) (line : List Char) : List Char :=
  cropBetween size line line.length 0 line.length

/-- A line as it fits into `width` cells. -/
def fitLine (overflow : Overflow) (width : Nat) (line : List Char) : List Char :=
  let line := withoutExcess width line
  if cells line ≤ width then line
  else
    match overflow with
    | .fold => crop width line
    | .cut => crop (width - 1) line ++ ['…']

/-- Break a line into lines of `width` cells. -/
def wrapLine (overflow : Overflow) (width : Nat) (line : List Char) : List (List Char) :=
  (fillLines overflow width [] (spacedWords (expandTabs 0 line))).map (fitLine overflow width)

/-- The lines of a text in `width` cells. -/
def wrap (overflow : Overflow) (width : Nat) (text : String) : List (List Char) :=
  (Text.lines (text.toList.filter fun c => !isControl c)).flatMap (wrapLine overflow width)

end HomeCatalog.Terminal
