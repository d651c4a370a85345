import HomeCatalog.Decimal.Reading
import HomeCatalog.Document.Yaml.Line
import HomeCatalog.Text.Bytes

/-!
# Anchors, tags and directives

An anchor names a node, so that an alias can stand for the node again.  A tag says of which type
a node is; it is written with a handle that abbreviates its start.  Directives stand in front of
a document, and declare the version of the language and further handles.
-/

namespace HomeCatalog.Document.Yaml

/-- Read the name of an anchor or alias, given what follows its mark. -/
def anchorName? (cs : List Char) : Option (String × List Char) :=
  let name := cs.takeWhile isNameChar
  let rest := cs.dropWhile isNameChar
  if name.isEmpty || !(atWordEnd rest || "?:,]\x7d%@`".toList.contains (rest.headD ' ')) then none
  else some (String.ofList name, rest)

/-- A tag in writing. -/
structure TagName where
  /-- The handle, which is missing if the tag is written in full. -/
  handle : Option String
  suffix : String
  deriving Repr, DecidableEq

/-- Whether a character other than the percent sign may stand in a tag. -/
def isTagChar (c : Char) : Bool :=
  c.isAlphanum || "-;/?:@&=+$,_.!~*'()[]".toList.contains c

/-- The bytes that a run of escapes stands for, and what follows it. -/
def escapedBytes? : List Char → Option (List UInt8 × List Char)
  | '%' :: high :: low :: rest => do
      let byte ← Text.hexNumber? [high, low]
      let (bytes, after) ← escapedBytes? rest
      some (UInt8.ofNat byte :: bytes, after)
  | '%' :: _ => none
  | cs => some ([], cs)

/-- One step through the characters of a tag.  Escapes are bytes of UTF-8. -/
def tagStep (text : List Char) (cs : List Char) :
    Option ((List Char ⊕ List Char) × List Char) :=
  match cs with
  | [] => some (.inr text, [])
  | c :: rest =>
      if c = '%' then do
        let (bytes, after) ← escapedBytes? cs
        let decoded ← Text.decode? bytes
        some (.inl (text ++ decoded.toList), after)
      else if isTagChar c then some (.inl (text ++ [c]), rest)
      else some (.inr text, cs)

/-- Read the characters of a tag, of which there must be one. -/
def tagText? (cs : List Char) : Option (String × List Char) := do
  let (text, rest) ← Text.scan tagStep [] cs
  if text.isEmpty then none else some (String.ofList text, rest)

/-- Read a handle: an exclamation mark, or a name between two of them. -/
def tagHandle? : List Char → Option (String × List Char)
  | '!' :: rest =>
      match rest.dropWhile isNameChar with
      | '!' :: after =>
          some (String.ofList (['!'] ++ rest.takeWhile isNameChar ++ ['!']), after)
      | _ => if rest.head? = some ' ' then some ("!", rest) else none
  | _ => none

/-- Read a tag, given what follows its exclamation mark. -/
def tagName? (cs : List Char) : Option (TagName × List Char) := do
  let (tag, rest) ← match cs with
    | '<' :: body => do
        let (suffix, after) ← tagText? body
        some (⟨none, suffix⟩, ← List.isPrefixOf? ['>'] after)
    | _ =>
        if atWordEnd cs then some (⟨none, "!"⟩, cs)
        else if (cs.takeWhile fun c => c != ' ' && !isBreak c).contains '!' then do
          let (handle, body) ← tagHandle? ('!' :: cs)
          let (suffix, after) ← tagText? body
          some (⟨some handle, suffix⟩, after)
        else do
          let (suffix, after) ← tagText? cs
          some (⟨some "!", suffix⟩, after)
  if atSpace rest then some (tag, rest) else none

/-- A directive. -/
inductive Directive where
  /-- The version of the language; all of major version one are read alike. -/
  | version (major : Nat)
  | handle (name start : String)
  /-- A directive that is passed over. -/
  | reserved
  deriving Repr, DecidableEq

/-- Read a decimal number. -/
def number? (cs : List Char) : Option (Nat × List Char) :=
  let digits := cs.takeWhile Char.isDigit
  if Decimal.longestInteger < digits.length then none
  else (Text.plainNumber? digits).map fun number => (number, cs.dropWhile Char.isDigit)

/-- Read a directive, given what follows its percent sign, up to the next line. -/
def directive? (cs : List Char) : Option (Directive × List Char) := do
  let name := cs.takeWhile isNameChar
  let afterName := cs.dropWhile isNameChar
  if name.isEmpty || !atSpace afterName then none
  let body := afterName.dropWhile (· == ' ')
  let (directive, rest) ← match String.ofList name with
    | "YAML" => do
        let (major, afterMajor) ← number? body
        let (_, rest) ← number? (← List.isPrefixOf? ['.'] afterMajor)
        if atSpace rest then some (Directive.version major, rest) else none
    | "TAG" => do
        let (handle, afterHandle) ← tagHandle? body
        if afterHandle.head? != some ' ' then none
        let (start, rest) ← tagText? (afterHandle.dropWhile (· == ' '))
        if atSpace rest then some (Directive.handle handle start, rest) else none
    | _ => some (.reserved, dropLine afterName)
  some (directive, ← restOfLine? rest)

end HomeCatalog.Document.Yaml
