import HomeCatalog.Catalog.Basic
import HomeCatalog.Header.Documentation
import HomeCatalog.Identifier.Basic

/-!
# Declarations in a framework header

A header declares one string constant for every service type or characteristic type:

    // Lightbulb service.
    HM_EXTERN NSString * const HMServiceTypeLightbulb API_AVAILABLE(ios(8.0));

White space may stand between the words in any amount, and around the star it may be missing.
The name is the longest run of word characters after the stem, and the annotation is everything
from there to the semicolon.  A search goes on behind the name of the declaration it found.
-/

namespace HomeCatalog.Header

/-- The text after a fixed word, if it stands in front. -/
def word? (word : String) (cs : List Char) : Option (List Char) :=
  List.isPrefixOf? word.toList cs

/-- The text after one or more blanks. -/
def blanks? : List Char → Option (List Char)
  | [] => none
  | c :: rest => if Text.isBlank c then some (rest.dropWhile Text.isBlank) else none

/-- The text after any number of blanks. -/
def skipBlanks (cs : List Char) : List Char :=
  cs.dropWhile Text.isBlank

/-- The text after `HM_EXTERN NSString * const` and the stem of the constants' names. -/
def declarator? (stem : String) (cs : List Char) : Option (List Char) := do
  let afterExtern ← word? "HM_EXTERN" cs
  let beforeType ← blanks? afterExtern
  let afterType ← word? "NSString" beforeType
  let afterStar ← word? "*" (skipBlanks afterType)
  let afterConst ← word? "const" (skipBlanks afterStar)
  let beforeName ← blanks? afterConst
  word? stem beforeName

/-- The name of the declaration that starts a text, and the text after the name. -/
def named? (stem : String) (cs : List Char) : Option (List Char × List Char) := do
  let body ← declarator? stem cs
  let name := body.takeWhile Text.isWordChar
  if name.isEmpty then none else some (name, body.dropWhile Text.isWordChar)

/-- A declared constant. -/
structure Declaration where
  /-- The constant's name without its stem. -/
  name : String
  documentation : Option String
  deprecated : Bool
  deriving Repr, DecidableEq

/-- Whether the annotation in front of a text, which ends at a semicolon, marks a
deprecation. -/
def isDeprecated (after : List Char) : Bool :=
  Text.contains "DEPRECATED".toList (Text.cut ';' after).1

/-- The declarations in `cs`, whose first `skip` characters belong to a declaration already
found.  The text before, in reverse, holds the documentation. -/
def declarationsFrom (stem : String) : (skip : Nat) → (before cs : List Char) → List Declaration
  | _, _, [] => []
  | skip + 1, before, c :: rest => declarationsFrom stem skip (c :: before) rest
  | 0, before, c :: rest =>
      match named? stem (c :: rest) with
      | none => declarationsFrom stem 0 (c :: before) rest
      | some (name, after) =>
          ⟨String.ofList name, documentationAfter before.reverse, isDeprecated after⟩ ::
            declarationsFrom stem (rest.length - after.length) (c :: before) rest

def declarations (stem : String) (header : String) : List Declaration :=
  declarationsFrom stem 0 [] header.toList

def serviceStem : String := "HMServiceType"

def characteristicStem : String := "HMCharacteristicType"

/-- Words in a name that hint at the kind of its value, in order of precedence. -/
def valueKindHints : List (List String × ValueKind) :=
  [ (["on", "active", "enabled", "detected", "muted"], .boolean),
    (["brightness", "hue", "saturation", "level"], .integer),
    (["temperature", "humidity", "pressure"], .floating) ]

/-- Guess the value kind of a characteristic from its name, whatever its letter case. -/
def inferValueKind (name : String) : ValueKind :=
  let lowered := Text.lower name.toList
  match valueKindHints.find? fun hint => hint.1.any fun needle =>
      Text.contains needle.toList lowered with
  | some hint => hint.2
  | none => .text

/-- The service that a declaration stands for. -/
def Declaration.service (declaration : Declaration) : Service where
  identifier := serviceStem ++ declaration.name
  name := declaration.name
  swiftName := Identifier.lowerFirst declaration.name
  documentation := declaration.documentation
  deprecated := declaration.deprecated
  required := []
  optional := []

/-- The characteristic that a declaration stands for. -/
def Declaration.characteristic (declaration : Declaration) : Characteristic where
  identifier := characteristicStem ++ declaration.name
  name := declaration.name
  swiftName := Identifier.lowerFirst declaration.name
  valueKind := inferValueKind declaration.name
  documentation := declaration.documentation
  deprecated := declaration.deprecated

def services (header : String) : List Service :=
  (declarations serviceStem header).map Declaration.service

def characteristics (header : String) : List Characteristic :=
  (declarations characteristicStem header).map Declaration.characteristic

end HomeCatalog.Header
