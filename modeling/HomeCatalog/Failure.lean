import HomeCatalog.Files.Tree
import HomeCatalog.Text.Bytes
import HomeCatalog.Text.Literal

/-!
# Failures

A failure has a kind, a message and, when a file is at fault, its path.  Kinds form a
hierarchy: whoever handles a kind also handles the kinds below it.  The message of every
failure that the library itself raises is fixed here, next to its kind.  What a failure was caused
by is told apart from it, for those who look for details.
-/

namespace HomeCatalog

/-- Which of the two sorts of entries is meant. -/
inductive EntryKind where
  | service
  | characteristic
  deriving Repr, DecidableEq

/-- The word for a sort of entries. -/
def EntryKind.label : EntryKind → String
  | service => "Service"
  | characteristic => "Characteristic"

/-- The languages for which bindings are generated. -/
inductive Target where
  | swift
  | typeScript
  deriving Repr, DecidableEq

/-- The name of a target language. -/
def Target.label : Target → String
  | swift => "Swift"
  | typeScript => "TypeScript"

/-- The kinds of failures. -/
inductive FailureKind where
  /-- Any failure of the library. -/
  | catalog
  /-- The catalog cannot be extracted from its sources. -/
  | extraction
  /-- A header is missing. -/
  | headerNotFound
  /-- The relationship metadata cannot be loaded. -/
  | metadata
  /-- The metadata document is missing. -/
  | metadataMissing
  /-- The metadata document is no mapping. -/
  | metadataRoot
  /-- The metadata document lacks the section that is sought. -/
  | metadataSection
  /-- An entry lacks a field that the catalog file needs. -/
  | encoding
  /-- A catalog file cannot be read. -/
  | reading
  /-- Generated sources cannot be written. -/
  | generation
  deriving Repr, DecidableEq

namespace FailureKind

/-- A kind and all more general ones, the most special first. -/
def lineage : FailureKind → List FailureKind
  | catalog => [catalog]
  | extraction => [extraction, catalog]
  | headerNotFound => [headerNotFound, extraction, catalog]
  | metadata => [metadata, extraction, catalog]
  | metadataMissing => [metadataMissing, metadata, extraction, catalog]
  | metadataRoot => [metadataRoot, metadata, extraction, catalog]
  | metadataSection => [metadataSection, metadata, extraction, catalog]
  | encoding => [encoding, catalog]
  | reading => [reading, catalog]
  | generation => [generation, catalog]

end FailureKind

/-- What may lie behind a failure. -/
inductive Cause where
  /-- The file system refused an operation. -/
  | refused (refusal : Refusal)
  /-- Bytes are no text. -/
  | malformed (malformed : Text.Malformed) (bytes : List UInt8)
  /-- A remark in words. -/
  | remark (text : String)
  deriving Repr, DecidableEq

/-- The name of the sort of errors that a refusal belongs to. -/
def Refusal.errorName : Refusal → String
  | .missing => "FileNotFoundError"
  | .alreadyExists => "FileExistsError"
  | .notDirectory => "NotADirectoryError"
  | .isDirectory => "IsADirectoryError"
  | .noPermission => "PermissionError"
  | .nameTooLong | .busy => "OSError"
  | .nulCharacter => "ValueError"

def Cause.text : Cause → String
  | refused .nulCharacter =>
      "ValueError(" ++ Text.quoted Refusal.nulCharacter.description ++ ")"
  | refused refusal =>
      refusal.errorName ++ "(" ++ toString refusal.number ++ ", " ++
        Text.quoted refusal.description ++ ")"
  | malformed fault bytes =>
      "UnicodeDecodeError('utf-8', " ++ Text.quotedBytes bytes ++ ", " ++
        toString fault.position ++ ", " ++ toString (fault.position + fault.length) ++ ", " ++
        Text.quoted fault.fault.description ++ ")"
  | remark text => "ValueError(" ++ Text.quoted text ++ ")"

/-- A failure of the library. -/
structure Failure where
  kind : FailureKind
  message : String
  path : Option Path
  cause : Option Cause
  deriving Repr, DecidableEq

namespace Failure

def text (failure : Failure) : String :=
  match failure.path with
  | some path => path.toString ++ ": " ++ failure.message
  | none => failure.message

/-- A header does not exist. -/
def headerNotFound (path : Path) : Failure :=
  ⟨.headerNotFound, "Header file not found", some path, none⟩

/-- The metadata document does not exist. -/
def metadataMissing (path : Path) : Failure :=
  ⟨.metadataMissing, "Metadata file not found", some path, none⟩

/-- The metadata document cannot be parsed. -/
def metadataMalformed (path : Path) : Failure :=
  ⟨.metadataRoot, "Unexpected metadata structure", some path, none⟩

/-- The metadata document parses to something that is no mapping. -/
def metadataNoMapping (path : Path) : Failure :=
  ⟨.metadataRoot, "Unexpected metadata plist structure", some path, none⟩

/-- The metadata document lacks the section of services and characteristics. -/
def metadataNoSection (path : Path) : Failure :=
  ⟨.metadataSection, "Metadata plist missing HAP definitions", some path, none⟩

/-- An entry has an empty field.  An entry without identifier is called unnamed. -/
def emptyField (kind : EntryKind) (identifier field : String) : Failure :=
  let label := if identifier.isEmpty then "<unnamed>" else identifier
  ⟨.encoding, kind.label ++ " '" ++ label ++ "' has an empty " ++ field, none, none⟩

/-- The catalog file does not exist. -/
def catalogNotFound (path : Path) : Failure :=
  ⟨.reading, "Catalog file not found", some path, some (.refused .missing)⟩

/-- The catalog file cannot be read or is no text. -/
def catalogUnreadable (path : Path) (cause : Cause) : Failure :=
  ⟨.reading, "Cannot read catalog file", some path, some cause⟩

/-- Generated sources cannot be written. -/
def outputFailed (target : Target) (path : Path) (cause : Cause) : Failure :=
  ⟨.generation, "Cannot write " ++ target.label ++ " output", some path, some cause⟩

end Failure

end HomeCatalog
