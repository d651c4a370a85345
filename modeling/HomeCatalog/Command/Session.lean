import HomeCatalog.Calendar.Moment
import HomeCatalog.Command.Arguments
import HomeCatalog.Terminal.Mishap
import HomeCatalog.Terminal.Report

/-!
# Sessions

A command runs in a session: a file tree, the environment and the time.  It ends with a status,
with what it has shown on the two channels of the terminal, and with a changed tree.  The checks
of paths and the options that all commands share are here.
-/

namespace HomeCatalog.Command

open Terminal

/-- What a command runs in. -/
structure Session where
  tree : FileTree
  environment : List (String × String)
  now : Calendar.Moment

/-- How a command ended. -/
structure Ending where
  status : Nat
  out : List Block
  err : List Block
  tree : FileTree

def version : String := "0.1.0"

/-- The options that all commands know. -/
def commonRules : List OptionRule :=
  [⟨"--verbose", some 'V', false⟩, ⟨"--format", some 'f', true⟩, ⟨"--version", none, false⟩]

/-- The forms in which findings are listed. -/
inductive ReportForm where
  | table
  | text
  deriving Repr, DecidableEq

/-- How findings are shown. -/
structure ReportStyle where
  isVerbose : Bool
  form : ReportForm
  deriving Repr, DecidableEq

def ReportForm.ofName? (name : String) : Option ReportForm :=
  [("table", table), ("text", text)].lookup name

/-- What is shown of a form that is not known. -/
def unknownForm (name : String) : Block :=
  .text ("✗ Invalid format: " ++ name ++ "\nSupported: table, text")

def shownFindings (style : ReportStyle) (findings : List Finding) (source : Path) : List Block :=
  let report := findings.map Finding.issue
  if report.isEmpty then []
  else if !style.isVerbose then countsOf report
  else
    match style.form with
    | .table => [tableOf report]
    | .text => listOf report report.length (some source)

namespace Session

/-- The value of a variable of the environment that is not empty. -/
def environmentValue? (session : Session) (name : String) : Option String :=
  (session.environment.lookup name).filter fun value => !value.isEmpty

/-- The absolute form of a path. -/
def absolute (session : Session) (path : Path) : Path :=
  ⟨.slash, session.tree.resolve path⟩

/-- What lies at a path, if that can be found out. -/
def node? (session : Session) (path : Path) : Option Node :=
  (session.tree.find path).toOption

def checkNoDirectory (session : Session) (path : Path) : Except UsageError Path :=
  match session.node? path with
  | some .directory => .error (.isDirectory path.toString)
  | _ => .ok path

def checkNoFile (session : Session) (path : Path) : Except UsageError Path :=
  match session.node? path with
  | some (.file _) => .error (.notDirectory path.toString)
  | _ => .ok path

/-- Check that something lies at a path, and give its absolute form. -/
def checkExists (session : Session) (path : Path) : Except UsageError Path :=
  if (session.node? (session.absolute path)).isSome then .ok (session.absolute path)
  else .error (.notFound path.toString)

/-- End without having changed anything. -/
def finish (session : Session) (status : Nat) (out err : List Block) : Ending :=
  ⟨status, out, err, session.tree⟩

def refuse (session : Session) (error : UsageError) : Ending :=
  session.finish 2 [] [.panel "Error" error.message]

/-- End early with a problem. -/
def fail (style : ReportStyle) (out : List Block) (problem : Problem) (tree : FileTree) :
    Ending :=
  ⟨1, out, (Mishap.ofProblem problem).blocks style.isVerbose, tree⟩

end Session

def onlyArgument (arguments : Arguments) : Except UsageError String :=
  match arguments.positionals with
  | [] => .error .missingArgument
  | [text] => .ok text
  | _ :: text :: _ => .error (.extraArgument text)

/-- Run a command: read its arguments, check them, and go on with a known report style. -/
def run {α : Type} (session : Session) (rules : List OptionRule) (texts : List String)
    (check : Arguments → Except UsageError α) (body : ReportStyle → α → Ending) : Ending :=
  match Arguments.read (rules ++ commonRules) texts with
  | .error error => session.refuse error
  | .ok arguments =>
      if arguments.has "--version" then
        session.finish 0 [.text ("homekit-catalog version " ++ version)] []
      else
        match check arguments with
        | .error error => session.refuse error
        | .ok request =>
            let name := (arguments.value? "--format").getD "table"
            match ReportForm.ofName? name with
            | none => session.finish 1 [] [unknownForm name]
            | some form => body ⟨arguments.has "--verbose", form⟩ request

end HomeCatalog.Command
