import HomeCatalog.Document.Flaw
import HomeCatalog.Document.Yaml.Line

/-!
# Quoted scalars

In single quotes only the quote itself is special: it is written twice.  In double quotes a
backslash starts an escape.  White space around a line break is dropped, and the break is folded;
an escaped break stands for nothing.  An escape may name any code point, halves of characters
included.
-/

namespace HomeCatalog.Document.Yaml

/-- Escapes of one character. -/
def escapes : List (Char × Char) :=
  [ ('0', '\x00'), ('a', '\x07'), ('b', '\x08'), ('t', '\t'), ('\t', '\t'), ('n', '\n'),
    ('v', '\x0b'), ('f', '\x0c'), ('r', '\r'), ('e', '\x1b'), (' ', ' '), ('"', '"'),
    ('\\', '\\'), ('/', '/'), ('N', '\x85'), ('_', '\xa0'), ('L', '\u2028'), ('P', '\u2029') ]

/-- The number of hexadecimal digits of escapes by number. -/
def numberedEscapes : List (Char × Nat) :=
  [('x', 2), ('u', 4), ('U', 8)]

/-- A number of exactly so many hexadecimal digits, and what follows. -/
def hexDigits? (count : Nat) (cs : List Char) : Option (Nat × List Char) :=
  if cs.length < count then none
  else (Text.hexNumber? (cs.take count)).map fun number => (number, cs.drop count)

/-- The greatest number of an escape that can be looked at. -/
def greatestEscape : Nat := 0x7FFFFFFF

/-- The code point with a number that was written in an escape. -/
def escapedPoint (number : Nat) : Except Flaw Text.CodePoint :=
  if fits : number < 0x110000 then .ok ⟨number, fits⟩
  else if number ≤ greatestEscape then .error .malformed
  else breakDown .escapeTooLarge

/-- One step through the breaks, which are kept latest first, and the white space at the start of
lines.  No line may start with
the mark of a document. -/
def breaksStep (breaks : List Char) (cs : List Char) :
    Option ((List Char ⊕ List Char) × List Char) :=
  if isDocumentMark cs then none
  else
    match cs.dropWhile isGap with
    | [] => some (.inr breaks.reverse, [])
    | c :: rest =>
        if isBreak c then some (.inl (breakChar c :: breaks), rest)
        else some (.inr breaks.reverse, c :: rest)

/-- The line breaks after a first one, and what follows them and the white space between. -/
def breaks? (cs : List Char) : Option (List Char × List Char) :=
  Text.scan breaksStep [] cs

/-- What an escape stands for, given what follows the backslash, and what follows it. -/
def escape (cs : List Char) : Except Flaw (List Text.CodePoint × List Char) :=
  match cs with
  | [] => .error .malformed
  | c :: rest =>
      match escapes.lookup c, numberedEscapes.lookup c with
      | some image, _ => .ok ([Text.codePoint image], rest)
      | none, some count => do
          let (number, after) ← orMalformed (hexDigits? count rest)
          return ([← escapedPoint number], after)
      | none, none =>
          if isBreak c then
            (orMalformed (breaks? rest)).map fun (breaks, after) =>
              (breaks.map Text.codePoint, after)
          else .error .malformed

/-- The code points of a scalar in quotes that is being read, latest first. -/
abbrev QuotedProgress := List Text.CodePoint

/-- Add characters to a scalar. -/
def QuotedProgress.add (text : QuotedProgress) (cs : List Char) : QuotedProgress :=
  (cs.map Text.codePoint).reverse ++ text

/-- One step through a scalar in quotes of a given kind. -/
def quotedStep (mark : Char) (text : QuotedProgress) (cs : List Char) :
    Option ((QuotedProgress ⊕ Except Flaw Text.Wide) × List Char) :=
  match cs.dropWhile isGap with
  | [] => none
  | c :: rest =>
      if isBreak c then do
        let (more, after) ← breaks? rest
        some (.inl (text.add (folded c more)), after)
      else if (cs.headD ' ' |> isGap) then
        some (.inl (text.add (cs.takeWhile isGap)), c :: rest)
      else if c = mark then
        match mark, rest with
        | '\'', '\'' :: after => some (.inl (text.add ['\'']), after)
        | _, _ => some (.inr (.ok ⟨text.reverse⟩), rest)
      else if mark = '"' && c = '\\' then
        match escape rest with
        | .ok (points, after) => some (.inl (points.reverse ++ text), after)
        | .error flaw => some (.inr (.error flaw), rest)
      else some (.inl (text.add [c]), rest)

/-- Read a scalar in quotes, given what follows the opening one: the scalar, and what follows. -/
def quoted (mark : Char) (cs : List Char) : Except Flaw (Text.Wide × List Char) := do
  let (read, rest) ← orMalformed (Text.scan (quotedStep mark) [] cs)
  return (← read, rest)

end HomeCatalog.Document.Yaml
