import HomeCatalog.Document.Yaml.Number
import HomeCatalog.Document.Yaml.Timestamp
import HomeCatalog.Text.Wide

/-!
# Types of nodes

A tag says how a node is read.  A plain scalar without a tag has the type that its form shows,
and so has every scalar whose tag is a single exclamation mark; all other scalars are texts.  One
line break at the end of a scalar does not change the form that it shows.
-/

namespace HomeCatalog.Document.Yaml

/-- The types of nodes. -/
inductive Tag where
  | null
  | boolean
  | integer
  | real
  | binary
  | timestamp
  | text
  | sequence
  /-- A sequence of mappings of one entry each. -/
  | pairs
  | set
  | mapping
  /-- The sign that stands for the entries of other mappings. -/
  | merge
  /-- The sign that marks a default value, which stands for nothing by itself. -/
  | default
  /-- A type that nothing is known about. -/
  | unknown
  deriving Repr, DecidableEq

/-- The names of the types. -/
def tagNames : List (String × Tag) :=
  [ ("null", .null), ("bool", .boolean), ("int", .integer), ("float", .real),
    ("binary", .binary), ("timestamp", .timestamp), ("str", .text), ("seq", .sequence),
    ("omap", .pairs), ("pairs", .pairs), ("set", .set), ("map", .mapping), ("merge", .merge),
    ("value", .default) ]

/-- The type with a given tag in full. -/
def Tag.ofName (name : String) : Tag :=
  ((List.isPrefixOf? "tag:yaml.org,2002:".toList name.toList).bind fun short =>
    tagNames.lookup (String.ofList short)).getD unknown

/-- The words for null. -/
def nullWords : List String :=
  ["", "~", "null", "Null", "NULL"]

/-- The words for truth values. -/
def booleanWords : List (String × Bool) :=
  [("yes", true), ("no", false), ("true", true), ("false", false), ("on", true), ("off", false)]

/-- The signs that have a meaning in front of a node and none as a scalar. -/
def propertySigns : List String :=
  ["!", "&", "*"]

/-- Whether a scalar looks like a truth value: all in lower case, with its first letter in upper
case, or all in upper case. -/
def looksBoolean (text : String) : Bool :=
  booleanWords.any fun (word, _) =>
    text == word || text == word.capitalize || text == word.toUpper

/-- A text without the line break at its end, if something stands in front of the break. -/
def withoutFinalBreak (cs : List Char) : List Char :=
  if cs.length ≤ 1 || cs.getLast? != some '\n' then cs else cs.dropLast

/-- The type that the form of a scalar shows. -/
def Tag.ofForm (written : Text.Wide) : Tag :=
  let cs := withoutFinalBreak written.plain
  let text := String.ofList cs
  if nullWords.contains text then null
  else if looksBoolean text then boolean
  else if looksReal cs then real
  else if looksInteger cs then integer
  else if text = "<<" then merge
  else if looksTimestamp cs then timestamp
  else if text = "=" then default
  else if propertySigns.contains text then unknown
  else .text

end HomeCatalog.Document.Yaml
