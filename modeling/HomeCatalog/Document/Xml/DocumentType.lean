import HomeCatalog.Document.Xml.DocumentType.Attribute
import HomeCatalog.Document.Xml.DocumentType.Element

/-!
# Document types

A document type names the root element.  It may name an outer subset, and it may have an inner
subset of declarations.

Entities cannot be declared: a document that tries to is refused.  Once a reference to an outer
part was passed, declarations have no effect, unless the document stands alone.
-/

namespace HomeCatalog.Document.Xml

/-- Whether a character may stand in a public identifier. -/
def isPublicChar (c : Char) : Bool :=
  c.isAlphanum || c == '\n' || c == '\r' || " -'()+,./:=?;!*#@$_%".toList.contains c

/-- Read a public identifier: the text after it. -/
def afterPublic? (cs : List Char) : Option (List Char) := do
  let (identifier, after) ← Token.expectLiteral? cs
  if identifier.all isPublicChar then some after else none

/-- Read what follows the keyword of an outer resource: the text after it. -/
def afterOuterId? (keyword : String) (cs : List Char) : Option (List Char) :=
  match keyword with
  | "SYSTEM" => (Token.expectLiteral? cs).map (·.2)
  | "PUBLIC" => do
      let after ← afterPublic? cs
      (Token.expectLiteral? after).map (·.2)
  | _ => none

/-- The text after the declaration of a notation, given what follows its keyword. -/
def afterNotation? (cs : List Char) : Option (List Char) := do
  let (_, after) ← Token.expectName? cs
  let (keyword, after) ← Token.expectName? after
  match keyword with
  | "SYSTEM" => Token.expect? .close (← afterOuterId? keyword after)
  | "PUBLIC" => do
      let after ← afterPublic? after
      match ← Token.next? after with
      | (.close, rest) => some rest
      | (.literal _, rest) => Token.expect? .close rest
      | _ => none
  | _ => none

/-- Read the definition of an entity.  A value must satisfy `accepts`; only a general entity may
be data of a notation. -/
def afterDefinition? (accepts : List Char → Bool) (isGeneral : Bool) (cs : List Char) :
    Option (List Char) := do
  match ← Token.next? cs with
  | (.literal value, after) => if accepts value then Token.expect? .close after else none
  | (.name keyword, after) =>
      let after ← afterOuterId? (String.ofList keyword) after
      match ← Token.next? after with
      | (.close, rest) => some rest
      | (.name word, rest) => do
          if !isGeneral || String.ofList word != "NDATA" then none
          let (_, rest) ← Token.expectName? rest
          Token.expect? .close rest
      | _ => none
  | _ => none

/-- The text after the declaration of an entity, given what follows its keyword.  While
declarations have an effect only an entity that is known anyway may be declared. -/
def afterEntity? (hasEffect : Bool) (cs : List Char) : Option (List Char) := do
  let accepts := fun value => !hasEffect || isEntityValue value
  match ← Token.next? cs with
  | (.percent, after) =>
      let (_, after) ← Token.expectName? after
      if hasEffect then none else afterDefinition? accepts false after
  | (.name name, after) =>
      if hasEffect && (knownEntities.lookup (String.ofList name)).isNone then none
      else afterDefinition? accepts true after
  | _ => none

/-- What is known about the parts of a document type. -/
structure Subsets where
  /-- Whether a part lies outside of the document. -/
  hasOuter : Bool
  /-- Whether a reference to an outer part was passed. -/
  passedReference : Bool
  standsAlone : Bool
  deriving Repr, DecidableEq

namespace Subsets

/-- Whether unknown entities might be declared outside. -/
def mayHideEntities (subsets : Subsets) : Bool :=
  subsets.hasOuter && !subsets.standsAlone

/-- Whether declarations have an effect. -/
def hasEffect (subsets : Subsets) : Bool :=
  !subsets.passedReference || subsets.standsAlone

end Subsets

/-- One step through the inner subset. -/
def subsetStep (subsets : Subsets) (cs : List Char) :
    Option ((Subsets ⊕ Subsets) × List Char) := do
  match ← Token.next? cs with
  | (.closeBracket, after) => some (.inr subsets, after)
  | (.aside, after) => some (.inl subsets, after)
  | (.reference, after) =>
      some (.inl { subsets with hasOuter := true, passedReference := true }, after)
  | (.opening keyword, after) =>
      let rest ← match String.ofList keyword with
        | "ENTITY" => afterEntity? subsets.hasEffect after
        | "ATTLIST" =>
            afterAttributes?
              (fun value => !subsets.hasEffect || isAttributeValue subsets.mayHideEntities value)
              after
        | "ELEMENT" => afterElement? after
        | "NOTATION" => afterNotation? after
        | _ => none
      some (.inl subsets, rest)
  | _ => none

/-- Read a document type after its opening: whether unknown entities might be declared outside,
and what follows. -/
def documentType? (standsAlone : Bool) (cs : List Char) : Option (Bool × List Char) := do
  let (_, afterName) ← Token.expectName? (← xmlBlanks? cs)
  let (subsets, afterOuter) ← match ← Token.next? afterName with
    | (.name keyword, after) => do
        let after ← afterOuterId? (String.ofList keyword) after
        some (⟨true, false, standsAlone⟩, after)
    | _ => some ((⟨false, false, standsAlone⟩ : Subsets), afterName)
  match ← Token.next? afterOuter with
  | (.close, after) => some (subsets.mayHideEntities, after)
  | (.openBracket, inner) => do
      let (subsets, after) ← Text.scan subsetStep subsets inner
      let after ← Token.expect? .close after
      some (subsets.mayHideEntities, after)
  | _ => none

end HomeCatalog.Document.Xml
