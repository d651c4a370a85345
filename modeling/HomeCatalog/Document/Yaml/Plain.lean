import HomeCatalog.Document.Yaml.Line

/-!
# Plain scalars

A scalar without quotes is a run of words.  It ends at a comment, at a colon that ends a word, at
a line that is not indented enough, and inside brackets also at the characters that have a
meaning there.
-/

namespace HomeCatalog.Document.Yaml

/-- Whether a character is a bracket or comma. -/
def isFlowMark (c : Char) : Bool :=
  ",[]\x7b\x7d".toList.contains c

/-- Whether a word of a plain scalar ends before a character with a given text behind it. -/
def endsPlainWord (inFlow : Bool) (c : Char) (rest : List Char) : Bool :=
  isGap c || isBreak c ||
    (c == ':' && (atWordEnd rest || (inFlow && (rest.headD ' ' |> isFlowMark)))) ||
    (inFlow && (isFlowMark c || c == '?'))

/-- A word of a plain scalar, and what follows it. -/
def plainWord (inFlow : Bool) : List Char → List Char × List Char
  | [] => ([], [])
  | c :: rest =>
      if endsPlainWord inFlow c rest then ([], c :: rest)
      else ((c :: (plainWord inFlow rest).1), (plainWord inFlow rest).2)

/-- Whether a plain scalar may start here. -/
def startsPlain (inFlow : Bool) : List Char → Bool
  | [] => false
  | c :: rest =>
      !(isGap c || isBreak c || "-?:,[]\x7b\x7d#&*!|>'\"%@`".toList.contains c) ||
        (!atWordEnd rest && (c == '-' || (!inFlow && (c == '?' || c == ':'))))

/-- What stands between two words of a plain scalar. -/
structure Gap where
  /-- What it contributes to the scalar.  Nothing can follow an empty gap. -/
  text : List Char
  hasBreak : Bool
  /-- The number of spaces in front of the next word in its line. -/
  indent : Nat
  deriving Repr, DecidableEq

/-- One step through the line breaks of a gap.  The state holds the breaks, latest first, and the
spaces since the last one.  The result is missing if the mark of a document follows a break. -/
def gapStep (state : List Char × Nat) (cs : List Char) :
    Option (((List Char × Nat) ⊕ Option (List Char × Nat)) × List Char) :=
  match cs with
  | ' ' :: rest => some (.inl (state.1, state.2 + 1), rest)
  | c :: rest =>
      if !isBreak c then some (.inr (some state), cs)
      else if isDocumentMark rest then some (.inr none, rest)
      else some (.inl (breakChar c :: state.1, 0), rest)
  | [] => some (.inr (some state), [])

/-- The gap in front of the next word of a plain scalar, and what follows it. -/
def plainGap (cs : List Char) : Gap × List Char :=
  let spaces := cs.takeWhile (· == ' ')
  match cs.dropWhile (· == ' ') with
  | [] => (⟨spaces, false, 0⟩, [])
  | c :: rest =>
      if !isBreak c then (⟨spaces, false, 0⟩, c :: rest)
      else if isDocumentMark rest then (⟨[], true, 0⟩, rest)
      else
        match Text.scan gapStep ([], 0) rest with
        | some (some (breaks, indent), after) => (⟨folded c breaks.reverse, true, indent⟩, after)
        | some (none, after) => (⟨[], true, 0⟩, after)
        | none => (⟨[], true, 0⟩, rest)

/-- How far a plain scalar has been read. -/
structure PlainProgress where
  /-- The characters of the words so far and of the gaps between them, latest first. -/
  text : List Char
  /-- The gap behind the last word. -/
  gap : Gap
  deriving Repr, DecidableEq

/-- One step through a plain scalar: a word, and the gap behind it. -/
def plainStep (inFlow : Bool) (leastIndent : Nat) (progress : PlainProgress) (cs : List Char) :
    Option ((PlainProgress ⊕ PlainProgress) × List Char) :=
  let (word, afterWord) := plainWord inFlow cs
  if word.isEmpty then some (.inr progress, cs)
  else
    let (gap, rest) := plainGap afterWord
    let next := ⟨word.reverse ++ progress.gap.text.reverse ++ progress.text, gap⟩
    if gap.text.isEmpty || rest.head? = some '#' ||
        (!inFlow && gap.hasBreak && gap.indent < leastIndent) then
      some (.inr next, rest)
    else some (.inl next, rest)

/-- Read a plain scalar: its text, whether it ended at the start of a line, and what follows. -/
def plain? (inFlow : Bool) (leastIndent : Nat) (cs : List Char) :
    Option (List Char × Bool × List Char) := do
  let (progress, rest) ← Text.scan (plainStep inFlow leastIndent) ⟨[], ⟨[], false, 0⟩⟩ cs
  some (progress.text.reverse, progress.gap.hasBreak, rest)

end HomeCatalog.Document.Yaml
