import HomeCatalog.Text.Basic

/-!
# XML declarations

A document may start with a declaration of its version, its encoding and whether it stands
alone.
-/

namespace HomeCatalog.Document.Xml

/-- Whether a character is white space of XML. -/
def isXmlBlank (c : Char) : Bool :=
  c == ' ' || c == '\t' || c == '\n' || c == '\r'

/-- Whether a character may stand in a document. -/
def isXmlChar (c : Char) : Bool :=
  (0x20 ≤ c.toNat || isXmlBlank c) && c.toNat != 0xFFFE && c.toNat != 0xFFFF

/-- The text after white space. -/
def skipXmlBlanks (cs : List Char) : List Char :=
  cs.dropWhile isXmlBlank

/-- The text after white space, if it starts with some. -/
def xmlBlanks? (cs : List Char) : Option (List Char) :=
  if cs.head?.any isXmlBlank then some (skipXmlBlanks cs) else none

/-- What a declaration says. -/
structure Declaration where
  encoding : Option String
  standsAlone : Bool
  deriving Repr, DecidableEq

/-- What is said when there is no declaration. -/
def Declaration.default : Declaration := ⟨none, false⟩

/-- A text in quotes: the text, and what follows the quotes. -/
def quoted? : List Char → Option (List Char × List Char)
  | [] => none
  | mark :: rest =>
      if mark = '"' || mark = '\'' then
        match Text.cut mark rest with
        | (inner, some after) => some (inner, after)
        | (_, none) => none
      else none

/-- White space, a key, an equals sign and a quoted value: the value, and what follows. -/
def setting? (key : String) (cs : List Char) : Option (List Char × List Char) := do
  let afterKey ← List.isPrefixOf? key.toList (← xmlBlanks? cs)
  let afterSign ← List.isPrefixOf? ['='] (skipXmlBlanks afterKey)
  let (value, after) ← quoted? (skipXmlBlanks afterSign)
  if value.all fun c => c.isAlphanum || c == '.' || c == '-' || c == '_' then some (value, after)
  else none

/-- Read a declaration after its opening: what it says, and what follows it. -/
def declarationBody? (cs : List Char) : Option (Declaration × List Char) := do
  let (_, afterVersion) ← setting? "version" cs
  let (encoding, afterEncoding) ← match setting? "encoding" afterVersion with
    | some (value, after) =>
        if (value.headD ' ').isAlpha then some (some (String.ofList value), after) else none
    | none => some (none, afterVersion)
  let (standsAlone, afterAll) ← match setting? "standalone" afterEncoding with
    | some (value, after) =>
        if value = "yes".toList then some (true, after)
        else if value = "no".toList then some (false, after)
        else none
    | none => some (false, afterEncoding)
  let after ← List.isPrefixOf? "?>".toList (skipXmlBlanks afterAll)
  some (⟨encoding, standsAlone⟩, after)

/-- Read the declaration at the start of a document, if there is one. -/
def declaration? (cs : List Char) : Option (Declaration × List Char) :=
  match List.isPrefixOf? "<?xml".toList cs with
  | some rest =>
      if (rest.headD ' ' |> isXmlBlank) then declarationBody? rest else some (.default, cs)
  | none => some (.default, cs)

end HomeCatalog.Document.Xml
