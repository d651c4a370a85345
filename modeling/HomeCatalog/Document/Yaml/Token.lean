import HomeCatalog.Document.Yaml.Block
import HomeCatalog.Document.Yaml.Plain
import HomeCatalog.Document.Yaml.Property
import HomeCatalog.Document.Yaml.Quoted

/-!
# Tokens of a YAML text

Brackets and dashes open collections in plain sight, but the indentation of a line opens and
closes them too, and a key shows only by the colon behind it.  So the reader remembers, for every
level of brackets, the last place at which a key without a mark of its own may have started.  Such
a key lies within one line and is not longer than 1024 characters.  When its colon comes, the
marks of the key are put in front of it.

Tokens are read as they are needed.  A text with a flaw has the tokens that are taken before the
flaw is met, which happens no later than at a token that may still turn out to be a key.
-/

namespace HomeCatalog.Document.Yaml

/-- A token of a YAML text. -/
inductive Token where
  | directive (value : Directive)
  | documentStart
  | documentEnd
  | blockSequenceStart
  | blockMappingStart
  | blockEnd
  | flowSequenceStart
  | flowSequenceEnd
  | flowMappingStart
  | flowMappingEnd
  | flowEntry
  | blockEntry
  | key
  | value
  | alias (name : String)
  | anchor (name : String)
  | tag (name : TagName)
  | scalar (text : Text.Wide) (isPlain : Bool)
  deriving Repr, DecidableEq

/-- A place in a text. -/
structure Place where
  index : Nat
  line : Nat
  column : Nat
  deriving Repr, DecidableEq

/-- The place behind a character.  The mark of the encoding has no width. -/
def Place.next (place : Place) (c : Char) : Place :=
  if isBreak c then ⟨place.index + 1, place.line + 1, 0⟩
  else if c = '\ufeff' then { place with index := place.index + 1 }
  else ⟨place.index + 1, place.line, place.column + 1⟩

def Place.behind (place : Place) (cs : List Char) : Place :=
  cs.foldl Place.next place

/-- The longest key without a mark of its own. -/
def longestKey : Nat := 1024

/-- The start of what may turn out to be a key. -/
structure PossibleKey where
  /-- The number of tokens in front of it. -/
  tokens : Nat
  place : Place
  /-- Whether nothing but a key may stand there. -/
  isRequired : Bool
  deriving Repr, DecidableEq

/-- How far a text has been read. -/
structure Progress where
  place : Place
  /-- The number of characters that are still to be read. -/
  unread : Nat
  /-- The tokens so far, latest first. -/
  tokens : List Token
  /-- The columns of the open collections without brackets, innermost first. -/
  indents : List Nat
  /-- Whether a key without a mark may start here. -/
  mayStartKey : Bool
  /-- The possible key at this level of brackets. -/
  possibleKey : Option PossibleKey
  /-- The possible keys at the levels around it, innermost first. -/
  outerKeys : List (Option PossibleKey)
  deriving Repr, DecidableEq

namespace Progress

/-- Nothing is read yet of a text of a given length. -/
def start (unread : Nat) : Progress := ⟨⟨0, 0, 0⟩, unread, [], [], true, none, []⟩

/-- Whether a bracket is open. -/
def inFlow (progress : Progress) : Bool :=
  !progress.outerKeys.isEmpty

/-- The least indentation of text inside the innermost collection. -/
def innerIndent (progress : Progress) : Nat :=
  ((progress.indents.head?).map (· + 1)).getD 0

def push (progress : Progress) (token : Token) : Progress :=
  { progress with tokens := token :: progress.tokens }

/-- Say whether a key may start behind the tokens so far. -/
def allowKey (progress : Progress) (mayStartKey : Bool) : Progress :=
  { progress with mayStartKey }

/-- Give up a possible key, unless nothing else may stand in its place. -/
def giveUp : Option PossibleKey → Except Flaw (Option PossibleKey)
  | some key => if key.isRequired then .error .malformed else .ok none
  | none => .ok none

/-- Give up the possible key at this level. -/
def giveUpKey (progress : Progress) : Except Flaw Progress := do
  return { progress with possibleKey := ← giveUp progress.possibleKey }

/-- Whether a possible key is too far away from a place. -/
def isStale (place : Place) (key : PossibleKey) : Bool :=
  key.place.line != place.line || longestKey < place.index - key.place.index

/-- Give up a possible key that is too far away by now. -/
def dropStale (place : Place) (key? : Option PossibleKey) : Except Flaw (Option PossibleKey) :=
  if key?.any (isStale place) then giveUp key? else .ok key?

/-- Give up all possible keys that are too far away by now. -/
def dropStaleKeys (progress : Progress) : Except Flaw Progress := do
  let possibleKey ← dropStale progress.place progress.possibleKey
  let outerKeys ← progress.outerKeys.mapM (dropStale progress.place)
  return { progress with possibleKey, outerKeys }

/-- The number of tokens that can be taken before more text has to be read: those in front of the
first one that may still turn out to be a key. -/
def settledTokens (progress : Progress) : Nat :=
  (((progress.possibleKey :: progress.outerKeys).filterMap id).filter fun key =>
    !isStale progress.place key).foldl (fun least key => min least key.tokens)
      progress.tokens.length

/-- Remember that a key may start here. -/
def saveKey (progress : Progress) : Except Flaw Progress :=
  if progress.mayStartKey then do
    let cleared ← progress.giveUpKey
    let isRequired := !progress.inFlow && progress.indents.head? = some progress.place.column
    return { cleared with
      possibleKey := some ⟨progress.tokens.length, progress.place, isRequired⟩ }
  else return progress

/-- Close the collections without brackets that are indented more than the given ones. -/
def closeBlocks (progress : Progress) (isInside : Nat → Bool) : Progress :=
  if progress.inFlow then progress
  else
    let closed := progress.indents.takeWhile isInside
    { progress with
      tokens := List.replicate closed.length .blockEnd ++ progress.tokens
      indents := progress.indents.dropWhile isInside }

/-- Insert a token in front of the last `count` ones. -/
def insertBefore (progress : Progress) (count : Nat) (token : Token) : Progress :=
  { progress with
    tokens := progress.tokens.take count ++ token :: progress.tokens.drop count }

/-- Open a collection without brackets in front of the last `count` tokens, unless one is open at
its column. -/
def openBlock (progress : Progress) (column count : Nat) (token : Token) : Progress :=
  if progress.innerIndent ≤ column then
    { progress.insertBefore count token with indents := column :: progress.indents }
  else progress

/-- Start an entry or key with a mark of its own: open its collection, if a new one may start. -/
def startMarked (progress : Progress) (opening : Token) : Except Flaw Progress :=
  if progress.inFlow then .ok progress
  else if progress.mayStartKey then .ok (progress.openBlock progress.place.column 0 opening)
  else .error .malformed

/-- Start a document, or a part of its front matter. -/
def pushTopLevel (progress : Progress) (token : Token) : Except Flaw Progress := do
  let cleared ← (progress.closeBlocks fun _ => true).giveUpKey
  return (cleared.allowKey false).push token

def openBracket (progress : Progress) (token : Token) : Except Flaw Progress := do
  let saved ← progress.saveKey
  return { saved.push token with
    mayStartKey := true, possibleKey := none, outerKeys := saved.possibleKey :: saved.outerKeys }

def closeBracket (progress : Progress) (token : Token) : Except Flaw Progress := do
  let cleared ← progress.giveUpKey
  match cleared.outerKeys with
  | [] => .error .malformed
  | possibleKey :: outerKeys =>
      .ok { cleared.push token with mayStartKey := false, possibleKey, outerKeys }

/-- Separate the entries inside brackets. -/
def pushFlowEntry (progress : Progress) : Except Flaw Progress := do
  return ((← progress.giveUpKey).allowKey true).push .flowEntry

/-- Start an entry of a sequence without brackets. -/
def pushBlockEntry (progress : Progress) : Except Flaw Progress := do
  let started ← progress.startMarked .blockSequenceStart
  return ((← started.giveUpKey).allowKey true).push .blockEntry

/-- Start a key with a mark of its own. -/
def pushKey (progress : Progress) : Except Flaw Progress := do
  let started ← progress.startMarked .blockMappingStart
  return ((← started.giveUpKey).allowKey (!progress.inFlow)).push .key

/-- Start a value.  If a key without a mark stands in front of it, mark that key now. -/
def pushValue (progress : Progress) : Except Flaw Progress :=
  match progress.possibleKey with
  | some key =>
      let count := progress.tokens.length - key.tokens
      let marked := { progress with possibleKey := none }.insertBefore count .key
      let opened :=
        if progress.inFlow then marked
        else marked.openBlock key.place.column (count + 1) .blockMappingStart
      .ok ((opened.allowKey false).push .value)
  | none => do
      let started ← progress.startMarked .blockMappingStart
      return (started.allowKey (!progress.inFlow)).push .value

/-- Add a token that may start a key, as long as the rest of the text can be read. -/
def pushNode (progress : Progress) (read : Except Flaw (Token × List Char)) :
    Except Flaw (Progress × List Char) := do
  let saved ← progress.saveKey
  let (token, rest) ← read
  return ((saved.allowKey false).push token, rest)

/-- Add a plain scalar.  Behind one that ends at the start of a line a key may start. -/
def pushPlain (progress : Progress) (cs : List Char) : Except Flaw (Progress × List Char) := do
  let saved ← progress.saveKey
  let (text, endsLine, rest) ← orMalformed (plain? progress.inFlow progress.innerIndent cs)
  return ((saved.allowKey endsLine).push (.scalar (.ofList text) true), rest)

/-- Add a block scalar, given what follows its first character. -/
def pushBlock (progress : Progress) (isFolded : Bool) (cs : List Char) :
    Except Flaw (Progress × List Char) := do
  let cleared ← progress.giveUpKey
  let (text, rest) ← orMalformed (block? isFolded (max progress.innerIndent 1) cs)
  return ((cleared.allowKey true).push (.scalar (.ofList text) false), rest)

/-- Add a token, and go on behind it. -/
def andThen (progress : Except Flaw Progress) (rest : List Char) :
    Except Flaw (Progress × List Char) :=
  progress.map fun progress => (progress, rest)

/-- A token with the text behind it. -/
def tokenOf {α : Type} (token : α → Token) (read : Except Flaw (α × List Char)) :
    Except Flaw (Token × List Char) :=
  read.map fun (content, rest) => (token content, rest)

/-- Read the token that starts a text. -/
def readToken (progress : Progress) : List Char → Except Flaw (Progress × List Char)
  | [] => .error .malformed
  | c :: rest =>
      let cs := c :: rest
      let atLineStart := progress.place.column = 0
      if atLineStart && c = '%' then do
        let (directive, rest) ← orMalformed (directive? rest)
        andThen (progress.pushTopLevel (.directive directive)) rest
      else if atLineStart && startsWithMark "---" cs then
        andThen (progress.pushTopLevel .documentStart) (cs.drop 3)
      else if atLineStart && startsWithMark "..." cs then
        andThen (progress.pushTopLevel .documentEnd) (cs.drop 3)
      else if c = '[' then andThen (progress.openBracket .flowSequenceStart) rest
      else if c = '\x7b' then andThen (progress.openBracket .flowMappingStart) rest
      else if c = ']' then andThen (progress.closeBracket .flowSequenceEnd) rest
      else if c = '\x7d' then andThen (progress.closeBracket .flowMappingEnd) rest
      else if c = ',' then andThen progress.pushFlowEntry rest
      else if c = '-' && atWordEnd rest then andThen progress.pushBlockEntry rest
      else if c = '?' && (progress.inFlow || atWordEnd rest) then andThen progress.pushKey rest
      else if c = ':' && (progress.inFlow || atWordEnd rest) then andThen progress.pushValue rest
      else if c = '*' then progress.pushNode (tokenOf .alias (orMalformed (anchorName? rest)))
      else if c = '&' then progress.pushNode (tokenOf .anchor (orMalformed (anchorName? rest)))
      else if c = '!' then progress.pushNode (tokenOf .tag (orMalformed (tagName? rest)))
      else if c = '|' && !progress.inFlow then progress.pushBlock false rest
      else if c = '>' && !progress.inFlow then progress.pushBlock true rest
      else if c = '\'' || c = '"' then
        progress.pushNode (tokenOf (.scalar · false) (quoted c rest))
      else if startsPlain progress.inFlow cs then progress.pushPlain cs
      else .error .malformed

end Progress

/-- The spaces, comments and line breaks in front of the next token, latest first, and the text from
the token on. -/
def skipToToken (skipped : List Char) (inComment : Bool) : List Char → List Char × List Char
  | [] => (skipped, [])
  | c :: rest =>
      if isBreak c then skipToToken (c :: skipped) false rest
      else if inComment then skipToToken (c :: skipped) true rest
      else if c = ' ' then skipToToken (c :: skipped) false rest
      else if c = '#' then skipToToken (c :: skipped) true rest
      else (skipped, c :: rest)

/-- Go on to the next token, behind the given characters.  Behind a line break a key may start,
except inside brackets. -/
def Progress.advance (progress : Progress) (skipped : List Char) : Progress :=
  { progress with
    place := progress.place.behind skipped
    unread := progress.unread - skipped.length
    mayStartKey := progress.mayStartKey || (skipped.any isBreak && !progress.inFlow) }

/-- Read the next token and what stands in front of it, up to the end of the text. -/
def Progress.readNext (progress : Progress) (cs : List Char) :
    Except Flaw ((Progress ⊕ Progress) × List Char) := do
  let (skipped, body) := skipToToken [] false cs
  let arrived ← (progress.advance skipped.reverse).dropStaleKeys
  if body.isEmpty then return (.inr (← (arrived.closeBlocks fun _ => true).giveUpKey), [])
  else
    let unwound := arrived.closeBlocks fun indent => arrived.place.column < indent
    let (read, rest) ← unwound.readToken body
    let unread := rest.length
    let place := arrived.place.behind (body.take (arrived.unread - unread))
    return (.inl { read with place, unread }, rest)

/-- The tokens of a text, up to its end or to its first flaw. -/
structure Tokens where
  tokens : List Token
  flaw : Option Flaw
  deriving Repr, DecidableEq

/-- One step through a text. -/
def tokenStep (progress : Progress) (cs : List Char) :
    Option ((Progress ⊕ Tokens) × List Char) :=
  match progress.readNext cs with
  | .ok (.inl next, rest) => some (.inl next, rest)
  | .ok (.inr last, rest) => some (.inr ⟨last.tokens.reverse, none⟩, rest)
  | .error flaw =>
      some (.inr ⟨progress.tokens.reverse.take progress.settledTokens, some flaw⟩, [])

def Tokens.ofText (cs : List Char) : Tokens :=
  match Text.scan tokenStep (.start cs.length) cs with
  | some (tokens, _) => tokens
  | none => ⟨[], some .malformed⟩

end HomeCatalog.Document.Yaml
