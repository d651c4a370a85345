import HomeCatalog.CatalogFile.Storage
import HomeCatalog.Command.Session
import HomeCatalog.Extraction.Reading

/-!
# The command that extracts a catalog

It takes a development kit, or the framework itself, and writes a catalog file.
-/

namespace HomeCatalog.Command

open Terminal

/-- Where the catalog file is written unless stated otherwise. -/
def defaultCatalog : String := "Resources/homekit-services.yaml"

/-- Where the metadata document of the system lies, if it is there. -/
def systemMetadata : Path :=
  Path.ofString ("/System/Library/PrivateFrameworks/HomeKitDaemon.framework/" ++
    "Resources/plain-metadata.config")

def extractRules : List OptionRule :=
  [ ⟨"--output", some 'o', true⟩, ⟨"--metadata", some 'm', true⟩,
    ⟨"--framework-path", none, true⟩ ]

/-- What is asked of the command. -/
structure ExtractRequest where
  layout : Layout
  output : Path
  metadata : Option Path
  deriving Repr, DecidableEq

/-- The metadata document of the system, if there is one. -/
def Session.systemMetadata? (session : Session) : Option Path :=
  match session.node? systemMetadata with
  | some (.file _) => some systemMetadata
  | _ => none

/-- Where the catalog file is to be written. -/
def Session.catalogPath (session : Session) (arguments : Arguments) : Path :=
  Path.ofString (((arguments.value? "--output").or
    (session.environmentValue? "HOMEKIT_CATALOG_OUTPUT")).getD defaultCatalog)

/-- The metadata document that is asked for. -/
def Session.metadataPath? (session : Session) (arguments : Arguments) : Option Path :=
  ((arguments.value? "--metadata").or (session.environmentValue? "HOMEKIT_METADATA_PATH")).map
    Path.ofString

/-- The framework that is asked for in place of the one in the kit. -/
def frameworkPath? (arguments : Arguments) : Option Path :=
  (arguments.value? "--framework-path").map Path.ofString

/-- Check the arguments of the command. -/
def Session.extractRequest (session : Session) (arguments : Arguments) :
    Except UsageError ExtractRequest := do
  let kit ← session.checkExists (Path.ofString (← onlyArgument arguments))
  let kit ← session.checkNoFile kit
  let output ← session.checkNoDirectory (session.catalogPath arguments)
  let metadata ← (session.metadataPath? arguments).mapM session.checkNoDirectory
  let framework ← (frameworkPath? arguments).mapM session.checkNoFile
  return {
    layout := (framework.map Layout.mk).getD (Layout.ofKit kit)
    output
    metadata := metadata.or session.systemMetadata? }

/-- The paths at which the command looks. -/
def Session.extractPaths (session : Session) (arguments : Arguments) : List Path :=
  let kits := arguments.positionals.map fun text =>
    Layout.ofKit (session.absolute (Path.ofString text))
  let layouts := kits ++ (frameworkPath? arguments).toList.map Layout.mk
  layouts.flatMap Layout.files ++ (session.metadataPath? arguments).toList ++
    [systemMetadata, session.catalogPath arguments]

/-- What is shown before the extraction. -/
def ExtractRequest.heading (request : ExtractRequest) : List Block :=
  [ .text "Extracting HomeKit catalog",
    .text ("  Framework: " ++ request.layout.framework.toString),
    .text ("  Metadata: " ++
      (request.metadata.map Path.toString).getD "none (fallback mappings)") ]

/-- What is shown after the catalog was written. -/
def ExtractRequest.outcome (request : ExtractRequest) (extracted : Extraction.Outcome) :
    List Block :=
  [ .text (s!"✓ Extracted {extracted.catalog.services.length} services and " ++
      s!"{extracted.catalog.characteristics.length} characteristics"),
    .text ("  Output written to: " ++ request.output.toString),
    .text ("  Relationships: " ++ extracted.summary.strategy.label) ]

/-- Extract a catalog and write it. -/
def Session.performExtract (session : Session) (style : ReportStyle)
    (request : ExtractRequest) : Ending :=
  match Extraction.run session.tree request.layout request.metadata with
  | .error problem => Session.fail style request.heading problem session.tree
  | .ok extracted =>
      let storage := CatalogFile.store session.now extracted.catalog session.tree request.output
      match storage.result with
      | .error problem => Session.fail style request.heading problem storage.tree
      | .ok _ =>
          { status := 0
            out := request.heading ++ request.outcome extracted
            err := shownFindings style extracted.findings request.layout.framework
            tree := storage.tree }

/-- Run the command with given arguments. -/
def extract (session : Session) (texts : List String) : Ending :=
  run session extractRules texts session.extractRequest session.performExtract

end HomeCatalog.Command
