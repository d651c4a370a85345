import HomeCatalog.Document.Xml.Declaration
import HomeCatalog.Document.Xml.Names
import HomeCatalog.Text.Scan

/-!
# References in XML

A reference stands for the character with a given number, or for an entity.  The entities that no
document declares have names too; all others are unknown.
-/

namespace HomeCatalog.Document.Xml

/-- The entities that need no declaration. -/
def knownEntities : List (String × Char) :=
  [("lt", '<'), ("gt", '>'), ("amp", '&'), ("quot", '"'), ("apos", '\'')]

/-- The character with a given number, if a document may hold it. -/
def numbered? (number : Nat) : Option (List Char) :=
  if number.isValidChar && isXmlChar (Char.ofNat number) then some [Char.ofNat number] else none

/-- The text that a reference stands for, given what is between `&` and `;`.  An unknown entity
stands for nothing, if there may be any. -/
def referenceText? (mayBeUnknown : Bool) (body : List Char) : Option (List Char) :=
  match body with
  | '#' :: 'x' :: digits => (Text.hexNumber? digits).bind numbered?
  | '#' :: digits => (Text.plainNumber? digits).bind numbered?
  | _ =>
      match name? body with
      | some (name, []) =>
          match knownEntities.lookup (String.ofList name) with
          | some c => some [c]
          | none => if mayBeUnknown then some [] else none
      | _ => none

/-- Replace the references in a text. -/
def expand? (mayBeUnknown : Bool) (cs : List Char) : Option (List Char) :=
  match Text.splitOn '&' cs with
  | [] => some []
  | literal :: pieces => do
      let expanded ← pieces.mapM fun piece =>
        match Text.cut ';' piece with
        | (body, some after) => (referenceText? mayBeUnknown body).map (· ++ after)
        | (_, none) => none
      some (literal ++ expanded.flatten)

/-- Whether a text may be the value of an attribute. -/
def isAttributeValue (mayBeUnknown : Bool) (value : List Char) : Bool :=
  !value.contains '<' && (expand? mayBeUnknown value).isSome

/-- Whether a text may be the value of an entity.  What its references to entities stand for is
another question. -/
def isEntityValue (value : List Char) : Bool :=
  !value.contains '%' && (expand? true value).isSome

end HomeCatalog.Document.Xml
