import HomeCatalog.Text.Scan

/-!
# Lines of a YAML text

Four characters end a line: the line feed, the next-line character, and the line and paragraph
separators.  Carriage returns are turned into line feeds when a file is read.  A scalar may run
over several lines; the breaks between them are folded: a single break becomes a space, and of
several the first is dropped.  The two separators are never folded.
-/

namespace HomeCatalog.Document.Yaml

/-- Whether a character ends a line. -/
def isBreak (c : Char) : Bool :=
  c == '\n' || c == '\x85' || c == '\u2028' || c == '\u2029'

/-- Whether a character is a space or tab. -/
def isGap (c : Char) : Bool :=
  c == ' ' || c == '\t'

/-- Whether a text is at its end or at the end of a line. -/
def atLineEnd : List Char → Bool
  | [] => true
  | c :: _ => isBreak c

/-- Whether a text is at its end or starts with white space. -/
def atWordEnd : List Char → Bool
  | [] => true
  | c :: _ => isGap c || isBreak c

/-- Whether a text is at its end, a space or the end of a line. -/
def atSpace (cs : List Char) : Bool :=
  cs.head? == some ' ' || atLineEnd cs

/-- Whether a text starts with a given mark of a document, as a word of its own. -/
def startsWithMark (mark : String) (cs : List Char) : Bool :=
  match List.isPrefixOf? mark.toList cs with
  | some rest => atWordEnd rest
  | none => false

/-- Whether a line starts with the mark of a document's start or end. -/
def isDocumentMark (cs : List Char) : Bool :=
  startsWithMark "---" cs || startsWithMark "..." cs

/-- What a line break stands for inside a scalar. -/
def breakChar (c : Char) : Char :=
  if c = '\x85' then '\n' else c

/-- What a line break and the ones after it stand for between the words of a scalar. -/
def folded (first : Char) (more : List Char) : List Char :=
  if breakChar first != '\n' then breakChar first :: more
  else if more.isEmpty then [' ']
  else more

/-- The text without the characters up to the end of the line. -/
def dropLine (cs : List Char) : List Char :=
  cs.dropWhile fun c => !isBreak c

/-- The text after a line break, if it is at one. -/
def dropBreak : List Char → List Char
  | [] => []
  | c :: rest => if isBreak c then rest else c :: rest

/-- The start of the next line, if only spaces and a comment stand before it. -/
def restOfLine? (cs : List Char) : Option (List Char) :=
  let body := cs.dropWhile (· == ' ')
  let ending := if body.head? = some '#' then dropLine body else body
  if atLineEnd ending then some (dropBreak ending) else none

/-- Whether a character may stand in a name: an ASCII letter or digit, a dash or underscore. -/
def isNameChar (c : Char) : Bool :=
  c.isAlphanum || c == '-' || c == '_'

/-- Whether a character may stand in a text. -/
def isYamlChar (c : Char) : Bool :=
  c == '\t' || c == '\n' || c == '\r' || c == '\x85' || (' ' ≤ c && c ≤ '~') ||
    (0xA0 ≤ c.toNat && c.toNat != 0xFFFE && c.toNat != 0xFFFF)

end HomeCatalog.Document.Yaml
