import HomeCatalog.Document.Xml.DocumentType.Token
import HomeCatalog.Document.Xml.Reference

/-!
# Declarations of attributes

The attributes of an element are declared with their types and defaults.
-/

namespace HomeCatalog.Document.Xml

/-- The types of attributes that have names. -/
def attributeTypes : List String :=
  ["CDATA", "ID", "IDREF", "IDREFS", "ENTITY", "ENTITIES", "NMTOKEN", "NMTOKENS"]

/-- One step through an enumeration, at one of its members and the mark behind it. -/
def enumerationStep (ofNames : Bool) (cs : List Char) : Option ((Bool ⊕ Unit) × List Char) := do
  let (member, after) ← Token.next? cs
  let isMember := match member with
    | .name _ => true
    | .nameToken => !ofNames
    | _ => false
  if !isMember then none
  match ← Token.next? after with
  | (.bar, rest) => some (.inl ofNames, rest)
  | (.closeParenthesis none, rest) => some (.inr (), rest)
  | _ => none

/-- The text after the type of an attribute. -/
def afterAttributeType? (cs : List Char) : Option (List Char) := do
  match ← Token.next? cs with
  | (.openParenthesis, after) => (Text.scan enumerationStep false after).map (·.2)
  | (.name written, after) =>
      if String.ofList written = "NOTATION" then
        let inner ← Token.expect? .openParenthesis after
        (Text.scan enumerationStep true inner).map (·.2)
      else if attributeTypes.contains (String.ofList written) then some after
      else none
  | _ => none

/-- The text after the default of an attribute.  A value must satisfy `accepts`. -/
def afterDefault? (accepts : List Char → Bool) (cs : List Char) : Option (List Char) := do
  match ← Token.next? cs with
  | (.literal value, after) => if accepts value then some after else none
  | (.hashName written, after) =>
      match String.ofList written with
      | "IMPLIED" | "REQUIRED" => some after
      | "FIXED" => do
          let (value, after) ← Token.expectLiteral? after
          if accepts value then some after else none
      | _ => none
  | _ => none

/-- One step through the declarations of attributes. -/
def attributeDeclarationStep (accepts : List Char → Bool) (_ : Unit) (cs : List Char) :
    Option ((Unit ⊕ Unit) × List Char) := do
  match ← Token.next? cs with
  | (.close, after) => some (.inr (), after)
  | (.name _, after) =>
      let after ← afterDefault? accepts (← afterAttributeType? after)
      some (.inl (), after)
  | _ => none

/-- The text after the declaration of the attributes of an element, given what follows its
keyword. -/
def afterAttributes? (accepts : List Char → Bool) (cs : List Char) : Option (List Char) := do
  let (_, after) ← Token.expectName? cs
  (Text.scan (attributeDeclarationStep accepts) () after).map (·.2)

end HomeCatalog.Document.Xml
