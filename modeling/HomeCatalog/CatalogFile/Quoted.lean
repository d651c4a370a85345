import HomeCatalog.Text.Basic

/-!
# Quoted scalars

In a catalog file a documentation text stands in double quotes.  A backslash escapes itself, a
quote, and the letter that stands for a line feed.  Reading is lenient: an unknown escape stays
as it is written, and a scalar without quotes at both ends is taken as it is.
-/

namespace HomeCatalog.CatalogFile

/-- The form of a character inside quotes. -/
def escapeChar (c : Char) : List Char :=
  if c = '\\' then ['\\', '\\']
  else if c = '"' then ['\\', '"']
  else if c = '\n' then ['\\', 'n']
  else [c]

/-- The text that an escaped character stands for. -/
def escapedChar (c : Char) : List Char :=
  if c = '\\' then ['\\']
  else if c = '"' then ['"']
  else if c = 'n' then ['\n']
  else ['\\', c]

/-- Undo escapes.  A backslash in front of a line feed or at the end escapes nothing. -/
def unescape : List Char → List Char
  | [] => []
  | [c] => [c]
  | c :: next :: rest =>
      if c = '\\' && next != '\n' then escapedChar next ++ unescape rest
      else c :: unescape (next :: rest)

/-- Put a text in quotes. -/
def quote (text : String) : String :=
  String.ofList (['"'] ++ text.toList.flatMap escapeChar ++ ['"'])

/-- The text between quotes at both ends of a scalar. -/
def betweenQuotes? : List Char → Option (List Char)
  | '"' :: rest => if rest.getLast? = some '"' then some rest.dropLast else none
  | _ => none

/-- The text that a scalar stands for. -/
def unquote (scalar : String) : String :=
  match betweenQuotes? scalar.toList with
  | some inner => String.ofList (unescape inner)
  | none => scalar

/-- Escapes are undone. -/
theorem unescape_escape (cs : List Char) : unescape (cs.flatMap escapeChar) = cs := by
  induction cs with
  | nil => rfl
  | cons c rest ih =>
      have keep : ∀ tail : List Char, c ≠ '\\' → unescape (c :: tail) = c :: unescape tail := by
        intro tail plain
        cases tail with
        | nil => rfl
        | cons next tail => simp [unescape, plain]
      rw [List.flatMap_cons]
      by_cases backslash : c = '\\'
      · subst backslash
        simp [escapeChar, unescape, escapedChar, ih]
      by_cases mark : c = '"'
      · subst mark
        simp [escapeChar, unescape, escapedChar, ih]
      by_cases feed : c = '\n'
      · subst feed
        simp [escapeChar, unescape, escapedChar, ih]
      · simp [escapeChar, backslash, mark, feed, keep, ih]

/-- What was quoted is read back. -/
theorem unquote_quote (text : String) : unquote (quote text) = text := by
  simp [unquote, quote, betweenQuotes?, unescape_escape]

end HomeCatalog.CatalogFile
