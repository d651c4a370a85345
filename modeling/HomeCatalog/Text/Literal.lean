import HomeCatalog.Text.Printable

/-!
# Texts and bytes as literals

A literal stands in single quotes, or in double quotes if its content has single quotes and no
double ones.  What cannot be printed is escaped, so a literal is one line.
-/

namespace HomeCatalog.Text

/-- The last `count` hexadecimal digits of a number. -/
def hexDigits (count number : Nat) : List Char :=
  (List.range count).reverse.map fun place => Nat.digitChar (number / Nat.pow 16 place % 16)

/-- The quotes around a content. -/
def quoteMark (hasSingle hasDouble : Bool) : Char :=
  if hasSingle && !hasDouble then '"' else '\''

/-- The escape of a character that every literal escapes alike. -/
def commonEscape? (mark c : Char) : Option (List Char) :=
  if c = mark || c = '\\' then some ['\\', c]
  else if c = '\n' then some ['\\', 'n']
  else if c = '\r' then some ['\\', 'r']
  else if c = '\t' then some ['\\', 't']
  else none

/-- A character of a text inside quotes.  What cannot be printed is written by its code
point. -/
def quotedChar (mark c : Char) : List Char :=
  (commonEscape? mark c).getD
    (if isPrintable c then [c]
      else if c.toNat < 0x100 then ['\\', 'x'] ++ hexDigits 2 c.toNat
      else if c.toNat < 0x10000 then ['\\', 'u'] ++ hexDigits 4 c.toNat
      else ['\\', 'U'] ++ hexDigits 8 c.toNat)

def quoted (text : String) : String :=
  let cs := text.toList
  let mark := quoteMark (cs.contains '\'') (cs.contains '"')
  String.ofList ([mark] ++ cs.flatMap (quotedChar mark) ++ [mark])

/-- A byte inside quotes.  Only printable bytes of ASCII stand for themselves. -/
def quotedByte (mark : Char) (byte : UInt8) : List Char :=
  let c := Char.ofNat byte.toNat
  (commonEscape? mark c).getD
    (if byte < 0x20 || 0x7F ≤ byte then ['\\', 'x'] ++ hexDigits 2 byte.toNat else [c])

def quotedBytes (bytes : List UInt8) : String :=
  let mark := quoteMark (bytes.contains 0x27) (bytes.contains 0x22)
  String.ofList (['b', mark] ++ bytes.flatMap (quotedByte mark) ++ [mark])

end HomeCatalog.Text
