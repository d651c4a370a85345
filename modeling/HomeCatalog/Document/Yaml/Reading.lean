import HomeCatalog.Document.Yaml.Construction

/-!
# Values of a YAML text

A text holds one document at most, and its value is that of the document's graph.  A text without
a document has the value null.

A text is looked through in parts of equal length before it is read, each when the reader gets
there.  A part with a character that may not stand in a text is not read at all.
-/

namespace HomeCatalog.Document.Yaml

/-- The number of characters that are looked through at once. -/
def partLength : Nat := 4096

/-- The parts of a text in front of the first one that has an improper character, and whether
there is one. -/
def properParts (cs : List Char) : List Char × Bool :=
  match cs.findIdx? fun c => !isYamlChar c with
  | some place => (cs.take (place / partLength * partLength), true)
  | none => (cs, false)

/-- A text without the mark of its encoding. -/
def withoutMark (cs : List Char) : List Char :=
  if cs.head? = some '\ufeff' then cs.drop 1 else cs

/-- The tokens of a text of which all parts are read that can be. -/
def tokensOf (cs : List Char) : Tokens :=
  let (body, isCut) := properParts cs
  let read := Tokens.ofText (withoutMark body)
  if isCut then ⟨read.tokens, some (read.flaw.getD .malformed)⟩ else read

def read (text : String) : Except Flaw Value := do
  let document ← NodeGraph.ofTokens (tokensOf text.toList)
  match document.root with
  | none => return .scalar .null
  | some root => return (← graphOf document.nodes root).value

end HomeCatalog.Document.Yaml
