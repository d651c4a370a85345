import HomeCatalog.Document.Xml.Declaration
import HomeCatalog.Document.Xml.Names
import HomeCatalog.Text.Scan

/-!
# Tokens of a document type

A document type is made of names, texts in quotes and marks, with white space between them.  What
may stand directly behind a token depends on the token.  Comments and instructions, which a document
may hold anywhere else too, must be well-formed and say nothing.
-/

namespace HomeCatalog.Document.Xml

/-- The text after a comment, given what follows its opening.  Two dashes end it. -/
def afterComment? (cs : List Char) : Option (List Char) := do
  let (_, after) ← Text.cutWord ['-', '-'] cs
  List.isPrefixOf? ['>'] after

/-- The text after an instruction, given what follows its opening. -/
def afterInstruction? (cs : List Char) : Option (List Char) := do
  let (name, afterName) ← name? cs
  if (String.ofList name).toLower = "xml" then none
  let (body, after) ← Text.cutWord ['?', '>'] afterName
  if body.isEmpty || isXmlBlank (body.headD ' ') then some after else none

/-- A token of a document type. -/
inductive Token where
  | name (written : List Char)
  /-- A word of the characters of names that does not start like a name. -/
  | nameToken
  /-- A name with a mark for how often it may stand. -/
  | countedName
  /-- A name behind a number sign. -/
  | hashName (written : List Char)
  | literal (text : List Char)
  /-- The opening of a declaration with its keyword. -/
  | opening (keyword : List Char)
  /-- A reference to an outer part. -/
  | reference
  | percent
  | comma
  | bar
  | openBracket
  | closeBracket
  | openParenthesis
  /-- A closing parenthesis, perhaps with a mark for how often the group may stand. -/
  | closeParenthesis (mark : Option Char)
  /-- The end of a declaration. -/
  | close
  /-- A comment or an instruction. -/
  | aside
  deriving Repr, DecidableEq

namespace Token

/-- Whether a text starts with white space or one of some marks. -/
def isFollowedBy (marks : String) (cs : List Char) : Bool :=
  match cs with
  | [] => false
  | c :: _ => isXmlBlank c || marks.toList.contains c

/-- The marks for how often something may stand. -/
def countMarks : List Char := ['?', '*', '+']

/-- What may stand behind a name besides white space. -/
def nameEnds : String := ">),|[%"

/-- Read a text in quotes. -/
def literal? (cs : List Char) : Option (Token × List Char) := do
  let (text, after) ← quoted? cs
  if isFollowedBy ">%[" after then some (.literal text, after) else none

/-- Read a name that may bear a mark. -/
def name? (cs : List Char) : Option (Token × List Char) := do
  let (written, after) ← Xml.name? cs
  match after with
  | [] => none
  | c :: rest =>
      if countMarks.contains c then some (.countedName, rest)
      else if isFollowedBy nameEnds after then some (.name written, after)
      else none

/-- Read a word of the characters of names. -/
def nameToken? (cs : List Char) : Option (Token × List Char) :=
  let after := cs.dropWhile isNameChar
  if after.length < cs.length && isFollowedBy nameEnds after then some (.nameToken, after)
  else none

/-- Read what follows a number sign. -/
def hashName? (cs : List Char) : Option (Token × List Char) := do
  let (written, after) ← Xml.name? cs
  if isFollowedBy ")>%|" after then some (.hashName written, after) else none

/-- Read what follows a percent sign: the name of an outer part, or nothing. -/
def percent? (cs : List Char) : Option (Token × List Char) :=
  if isFollowedBy "%" cs then some (.percent, cs)
  else do
    let (_, after) ← Xml.name? cs
    let rest ← List.isPrefixOf? [';'] after
    some (.reference, rest)

/-- Read what follows the opening of a declaration. -/
def opening? (cs : List Char) : Option (Token × List Char) :=
  let after := cs.dropWhile fun c => c.isAlpha
  if after.length < cs.length && isFollowedBy "" after then
    some (.opening (cs.takeWhile fun c => c.isAlpha), after)
  else none

/-- Read what follows a closing parenthesis. -/
def closeParenthesis? (cs : List Char) : Option (Token × List Char) :=
  match cs with
  | [] => none
  | c :: rest =>
      if countMarks.contains c then some (.closeParenthesis (some c), rest)
      else if isFollowedBy ">,|)" cs then some (.closeParenthesis none, cs)
      else none

/-- Read a token at the start of a text. -/
def atStart? (cs : List Char) : Option (Token × List Char) :=
  match cs with
  | [] => none
  | '<' :: '!' :: '-' :: '-' :: rest => (afterComment? rest).map fun after => (.aside, after)
  | '<' :: '?' :: rest => (afterInstruction? rest).map fun after => (.aside, after)
  | '<' :: '!' :: rest => opening? rest
  | '%' :: rest => percent? rest
  | '#' :: rest => hashName? rest
  | ')' :: rest => closeParenthesis? rest
  | '(' :: rest => some (.openParenthesis, rest)
  | '[' :: rest => some (.openBracket, rest)
  | ']' :: rest => some (.closeBracket, rest)
  | ',' :: rest => some (.comma, rest)
  | '|' :: rest => some (.bar, rest)
  | '>' :: rest => some (.close, rest)
  | c :: _ =>
      if c = '"' || c = '\'' then literal? cs
      else if isNameStart c then name? cs
      else nameToken? cs

/-- Read a token behind white space. -/
def next? (cs : List Char) : Option (Token × List Char) :=
  atStart? (skipXmlBlanks cs)

/-- Read a token that must be a given one. -/
def expect? (token : Token) (cs : List Char) : Option (List Char) := do
  let (found, after) ← next? cs
  if found = token then some after else none

/-- Read a name without a mark. -/
def expectName? (cs : List Char) : Option (String × List Char) := do
  match ← next? cs with
  | (.name written, after) => some (String.ofList written, after)
  | _ => none

/-- Read a text in quotes behind white space. -/
def expectLiteral? (cs : List Char) : Option (List Char × List Char) := do
  match ← next? cs with
  | (.literal text, after) => some (text, after)
  | _ => none

end Token

end HomeCatalog.Document.Xml
