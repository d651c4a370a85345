import HomeCatalog.Command.Extract
import HomeCatalog.Command.Generate

/-!
# The commands of the program

A command is run on a file tree.  Since a tree that is taken from a disk cannot hold everything,
a command also says at which paths it looks, and which directories it may replace as a whole.
-/

namespace HomeCatalog.Command

/-- A command of the program. -/
structure Program where
  rules : List OptionRule
  /-- The paths at which a run with given arguments looks. -/
  paths : Session → Arguments → List Path
  /-- The directories that a run with given arguments may replace. -/
  outputs : Arguments → List Path
  run : Session → List String → Ending

namespace Program

/-- The command that extracts a catalog. -/
def extraction : Program where
  rules := extractRules
  paths := Session.extractPaths
  outputs := fun _ => []
  run := extract

/-- The command that generates bindings. -/
def generation : Program where
  rules := generateRules
  paths := Session.generatePaths
  outputs := generateOutputs
  run := generate

/-- The command of a given name. -/
def ofName? (name : String) : Option Program :=
  [("extract", extraction), ("generate", generation)].lookup name

/-- The arguments of a run, or none if they cannot be read. -/
def arguments (program : Program) (texts : List String) : Arguments :=
  (Arguments.read (program.rules ++ commonRules) texts).toOption.getD .none

/-- The places at which a run looks. -/
def places (program : Program) (session : Session) (texts : List String) : List (List String) :=
  (program.paths session (program.arguments texts)).map session.tree.resolve

/-- The places of the directories that a run has replaced.  The tree before the run does not hold
what lay below them, so one that was replaced has something new below it. -/
def replaced (program : Program) (session : Session) (texts : List String) (ending : Ending) :
    List (List String) :=
  let added := ending.tree.additions session.tree
  ((program.outputs (program.arguments texts)).map session.tree.resolve).filter fun place =>
    added.any fun entry => place.isPrefixOf entry.1 && entry.1 != place

/-- What a run has added outside of the directories that it has replaced. -/
def written (program : Program) (session : Session) (texts : List String) (ending : Ending) :
    List (List String × Node) :=
  (ending.tree.additions session.tree).filter fun entry =>
    !(program.replaced session texts ending).any fun place => place.isPrefixOf entry.1

end Program

end HomeCatalog.Command
