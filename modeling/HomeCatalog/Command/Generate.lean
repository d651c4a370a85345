import HomeCatalog.Bindings.Generation
import HomeCatalog.CatalogFile.Storage
import HomeCatalog.Command.Session

/-!
# The command that generates bindings

It takes a catalog file, and replaces one output directory for each target language.  When a
target fails, the targets before it stay generated.
-/

namespace HomeCatalog.Command

open Terminal

def generateRules : List OptionRule :=
  [ ⟨"--output", some 'o', true⟩, ⟨"--typescript", some 't', true⟩,
    ⟨"--skip-swift", none, false⟩, ⟨"--skip-typescript", none, false⟩ ]

/-- Where the bindings of a language are written unless stated otherwise. -/
def defaultOutput : Target → String
  | .swift => "Sources/HomeAtlas/Generated"
  | .typeScript => "packages/react-native-homeatlas/src/generated"

/-- What is asked of the command. -/
structure GenerateRequest where
  catalog : Path
  /-- The languages, with the directories to replace. -/
  targets : List (Target × Path)
  deriving Repr, DecidableEq

/-- The option that states the output directory for a language. -/
def outputOption : Target → String
  | .swift => "--output"
  | .typeScript => "--typescript"

/-- The output directory for a language. -/
def outputPath (arguments : Arguments) (target : Target) : Path :=
  Path.ofString ((arguments.value? (outputOption target)).getD (defaultOutput target))

/-- Check the arguments of the command. -/
def Session.generateRequest (session : Session) (arguments : Arguments) :
    Except UsageError GenerateRequest := do
  let catalog ← session.checkExists (Path.ofString (← onlyArgument arguments))
  let catalog ← session.checkNoDirectory catalog
  let swift ← session.checkNoFile (outputPath arguments .swift)
  let typeScript ← session.checkNoFile (outputPath arguments .typeScript)
  return {
    catalog
    targets :=
      (if arguments.has "--skip-swift" then [] else [(.swift, swift)]) ++
        (if arguments.has "--skip-typescript" then [] else [(.typeScript, typeScript)]) }

/-- The directories that the command may replace. -/
def generateOutputs (arguments : Arguments) : List Path :=
  [outputPath arguments .swift, outputPath arguments .typeScript]

/-- The paths at which the command looks. -/
def Session.generatePaths (session : Session) (arguments : Arguments) : List Path :=
  (arguments.positionals.map fun text => session.absolute (Path.ofString text)) ++
    generateOutputs arguments

/-- The state of a generation for several languages. -/
structure Progress where
  tree : FileTree
  findings : List Finding
  /-- For every language so far, its name, the number of files and the directory. -/
  rows : List (List String)

/-- Generate the bindings of one language. -/
def Session.generateTarget (session : Session) (catalog : Catalog) (progress : Progress)
    (target : Target × Path) : Except (Problem × FileTree) Progress :=
  let done := Bindings.generate target.1 session.now catalog progress.tree target.2
  match done.result with
  | .error problem => .error (problem, done.tree)
  | .ok files =>
      .ok {
        tree := done.tree
        findings := progress.findings ++ done.findings
        rows := progress.rows ++
          [[target.1.label, toString files.length, target.2.toString]] }

/-- What is shown before the generation. -/
def GenerateRequest.heading (request : GenerateRequest) : List Block :=
  [.text "Generating HomeKit bindings", .text ("  Catalog: " ++ request.catalog.toString)]

def generatedTable (rows : List (List String)) : List Block :=
  if rows.isEmpty then []
  else
    [.table "Generated Output" [⟨"Target", none⟩, ⟨"Files", none⟩, ⟨"Directory", none⟩] rows]

/-- What is shown after all languages were generated. -/
def outcomeOf (contents : CatalogFile.Contents) (rows : List (List String)) : List Block :=
  [.text (s!"✓ Generated bindings for {contents.catalog.services.length} services and " ++
      s!"{contents.catalog.characteristics.length} characteristics")] ++
    generatedTable rows ++
    if contents.skipped = 0 then []
    else [.text s!"  Skipped {contents.skipped} incomplete catalog records"]

/-- Generate the bindings of a catalog file. -/
def Session.performGenerate (session : Session) (style : ReportStyle)
    (request : GenerateRequest) : Ending :=
  match CatalogFile.load session.tree request.catalog with
  | .error problem => Session.fail style request.heading problem session.tree
  | .ok contents =>
      match request.targets.foldlM (session.generateTarget contents.catalog)
          ⟨session.tree, [], []⟩ with
      | .error (problem, tree) => Session.fail style request.heading problem tree
      | .ok progress =>
          { status := 0
            out := request.heading ++ outcomeOf contents progress.rows
            err := shownFindings style progress.findings request.catalog
            tree := progress.tree }

/-- Run the command with given arguments. -/
def generate (session : Session) (texts : List String) : Ending :=
  run session generateRules texts session.generateRequest session.performGenerate

end HomeCatalog.Command
