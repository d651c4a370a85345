import HomeCatalog.Text.Basic
import HomeCatalog.Text.Wide

/-!
# Canonical names

Metadata describes services and characteristics in words, headers name them by identifiers.
Both sides meet in the canonical name: the words of the description run together, each with
its first letter in upper case, with underscores for dots and without any other character that
is no word character.
-/

namespace HomeCatalog.Metadata

/-- What a character of a description becomes in the canonical name. -/
def nameChar? (c : Char) : Option Char :=
  if c = '.' then some '_' else if Text.isWordChar c then some c else none

/-- The canonical name that a description stands for. -/
def canonicalName (description : String) : String :=
  let words := Text.splitOn ' ' (Text.strip description.toList)
  String.ofList ((words.flatMap Text.upperHead).filterMap nameChar?)

/-- The canonical name that a description stands for, in which halves of characters are no word
characters. -/
def canonicalNameOf (description : Text.Wide) : String :=
  canonicalName (String.ofList description.plain)

/-- Drop empty names and repeats, and keep the order of first appearances. -/
def distinctNames (names : List String) : List String :=
  (names.filter fun name => !name.isEmpty).eraseDups

/-- An identifier in the letter case in which identifiers are compared. -/
def foldedId (identifier : Text.Wide) : Text.Wide :=
  identifier.upper

end HomeCatalog.Metadata
