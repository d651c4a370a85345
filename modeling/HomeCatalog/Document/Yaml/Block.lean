import HomeCatalog.Document.Yaml.Line

/-!
# Block scalars

A block scalar is a run of indented lines.  It keeps its line breaks if it is literal; if it is
folded, a break between two lines that start without white space is folded.  Its header may fix
the indentation, and says which of the breaks at the end are kept: one by default, none or all.
-/

namespace HomeCatalog.Document.Yaml

/-- Which line breaks at the end of a block scalar are kept. -/
inductive Chomping where
  | clip
  | strip
  | keep
  deriving Repr, DecidableEq

/-- The header of a block scalar. -/
structure BlockHeader where
  chomping : Chomping
  /-- The stated indentation. -/
  indent : Option Nat
  deriving Repr, DecidableEq

/-- The chomping mark in front of a text, and what follows it. -/
def chompingMark : List Char → Chomping × List Char
  | '+' :: rest => (.keep, rest)
  | '-' :: rest => (.strip, rest)
  | cs => (.clip, cs)

/-- The indentation digit in front of a text, and what follows it.  It must not be zero. -/
def indentDigit? : List Char → Option (Option Nat × List Char)
  | [] => some (none, [])
  | c :: rest =>
      if c = '0' then none
      else if c.isDigit then some (some (c.toNat - '0'.toNat), rest)
      else some (none, c :: rest)

/-- Read a header after its first character.  The two parts may come in any order. -/
def blockHeader? (cs : List Char) : Option (BlockHeader × List Char) := do
  let (chomping, afterMark) := chompingMark cs
  let (indent, afterDigit) ← indentDigit? afterMark
  let (chomping, rest) :=
    if afterMark.length = cs.length && indent.isSome then chompingMark afterDigit
    else (chomping, afterDigit)
  if atSpace rest then some (⟨chomping, indent⟩, ← restOfLine? rest) else none

/-- Line breaks before a line, latest first, and the number of spaces in front of the line. -/
structure Margin where
  breaks : List Char
  column : Nat
  deriving Repr, DecidableEq

/-- The empty lines before a line, and its indentation up to a limit. -/
def marginUpTo (limit : Nat) (margin : Margin) : List Char → Margin × List Char
  | [] => (margin, [])
  | c :: rest =>
      if c = ' ' && margin.column < limit then
        marginUpTo limit { margin with column := margin.column + 1 } rest
      else if isBreak c then marginUpTo limit ⟨breakChar c :: margin.breaks, 0⟩ rest
      else (margin, c :: rest)

/-- The empty lines before a line and its indentation, with the widest indentation of all. -/
def widestMargin (widest : Nat) (margin : Margin) : List Char → Nat × Margin × List Char
  | [] => (widest, margin, [])
  | c :: rest =>
      if c = ' ' then
        let column := margin.column + 1
        widestMargin (max widest column) { margin with column } rest
      else if isBreak c then widestMargin widest ⟨breakChar c :: margin.breaks, 0⟩ rest
      else (widest, margin, c :: rest)

/-- How far a block scalar has been read. -/
structure BlockProgress where
  /-- The characters of the lines so far, latest first. -/
  text : List Char
  /-- The break that ended the last line. -/
  ending : List Char
  /-- What stands in front of the next line. -/
  margin : Margin
  deriving Repr, DecidableEq

/-- What a line break between two lines of a block scalar stands for: one character at most. -/
def joint (isFolded : Bool) (line ending breaks next : List Char) : List Char :=
  if isFolded && ending = ['\n'] && !(line.headD ' ' |> isGap) && !(next.headD ' ' |> isGap) then
    if breaks.isEmpty then [' '] else []
  else ending

/-- One step through a block scalar with a given indentation: one line, and the margin of the
next. -/
def blockStep (isFolded : Bool) (indent : Nat) (progress : BlockProgress) (cs : List Char) :
    Option ((BlockProgress ⊕ BlockProgress) × List Char) :=
  if progress.margin.column != indent || cs.isEmpty then some (.inr progress, cs)
  else
    let line := cs.takeWhile fun c => !isBreak c
    let ending := ((dropLine cs).take 1).map breakChar
    let (margin, rest) := marginUpTo indent ⟨[], 0⟩ ((dropLine cs).drop 1)
    let text := line.reverse ++ progress.margin.breaks ++ progress.text
    if margin.column = indent && !rest.isEmpty then
      some (.inl ⟨joint isFolded line ending margin.breaks rest ++ text, ending, margin⟩, rest)
    else some (.inr ⟨text, ending, margin⟩, rest)

/-- Read a block scalar after its first character: the text, and what follows. -/
def block? (isFolded : Bool) (leastIndent : Nat) (cs : List Char) :
    Option (List Char × List Char) := do
  let (header, body) ← blockHeader? cs
  let (indent, margin, start) := match header.indent with
    | some stated =>
        let indent := leastIndent + stated - 1
        (indent, marginUpTo indent ⟨[], 0⟩ body)
    | none =>
        let (widest, margin, start) := widestMargin 0 ⟨[], 0⟩ body
        (max leastIndent widest, margin, start)
  let (progress, rest) ← Text.scan (blockStep isFolded indent) ⟨[], [], margin⟩ start
  let text := match header.chomping with
    | .strip => progress.text
    | .clip => progress.ending ++ progress.text
    | .keep => progress.margin.breaks ++ progress.ending ++ progress.text
  some (text.reverse, rest)

end HomeCatalog.Document.Yaml
