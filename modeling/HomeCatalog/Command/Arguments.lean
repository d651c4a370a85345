/-!
# Arguments of commands

An argument that starts with a dash is an option.  Options have a long name after two dashes, or
a short one of one letter after one dash; short options can be written together.  The value of an
option follows it as the next argument, after an equals sign of a long name, or directly after
the letter of a short one.  Two dashes alone end the options.
-/

namespace HomeCatalog.Command

/-- An option that a command knows. -/
structure OptionRule where
  /-- The name under which a given option is recorded. -/
  long : String
  short : Option Char
  takesValue : Bool
  deriving Repr, DecidableEq

/-- Why the arguments of a command are refused. -/
inductive UsageError where
  | unknownOption (text : String)
  | missingValue (option : String)
  | unexpectedValue (option : String)
  | missingArgument
  | extraArgument (text : String)
  | notFound (path : String)
  | notDirectory (path : String)
  | isDirectory (path : String)
  deriving Repr, DecidableEq

def UsageError.message : UsageError → String
  | unknownOption text => s!"No such option: {text}"
  | missingValue option => s!"Option '{option}' requires a value."
  | unexpectedValue option => s!"Option '{option}' does not take a value."
  | missingArgument => "Missing argument."
  | extraArgument text => s!"Unexpected argument: {text}"
  | notFound path => s!"Path '{path}' does not exist."
  | notDirectory path => s!"Path '{path}' is a file."
  | isDirectory path => s!"Path '{path}' is a directory."

/-- Arguments by their roles. -/
structure Arguments where
  /-- The options without value that were given. -/
  flags : List String
  /-- The values of options, the last given first. -/
  values : List (String × String)
  positionals : List String
  deriving Repr, DecidableEq

namespace Arguments

/-- No arguments. -/
def none : Arguments := ⟨[], [], []⟩

/-- Whether an option without value was given. -/
def has (arguments : Arguments) (flag : String) : Bool :=
  arguments.flags.contains flag

/-- The last value that was given for an option. -/
def value? (arguments : Arguments) (option : String) : Option String :=
  arguments.values.lookup option

/-- Record an option without value. -/
def withFlag (arguments : Arguments) (flag : String) : Arguments :=
  { arguments with flags := arguments.flags ++ [flag] }

def withValue (arguments : Arguments) (option value : String) : Arguments :=
  { arguments with values := (option, value) :: arguments.values }

end Arguments

/-- What has been read of an argument: the arguments so far, and an option that still wants its
value. -/
abbrev Reading := Arguments × Option OptionRule

/-- Read short options written together. -/
def readShort (rules : List OptionRule) (arguments : Arguments) :
    List Char → Except UsageError Reading
  | [] => .ok (arguments, none)
  | c :: rest =>
      match rules.find? fun rule => rule.short == some c with
      | none => .error (.unknownOption (String.ofList ['-', c]))
      | some rule =>
          if !rule.takesValue then readShort rules (arguments.withFlag rule.long) rest
          else if rest.isEmpty then .ok (arguments, some rule)
          else .ok (arguments.withValue rule.long (String.ofList rest), none)

/-- The name and the value of a long option in writing. -/
def splitLong (text : String) : String × Option String :=
  let cs := text.toList
  let name := cs.takeWhile (· != '=')
  match cs.dropWhile (· != '=') with
  | [] => (text, none)
  | _ :: value => (String.ofList name, some (String.ofList value))

def readOption (rules : List OptionRule) (arguments : Arguments) (text : String) :
    Except UsageError Reading :=
  let (name, value?) := splitLong text
  match rules.find? fun rule => rule.long == name with
  | some rule =>
      match rule.takesValue, value? with
      | true, some value => .ok (arguments.withValue rule.long value, none)
      | true, none => .ok (arguments, some rule)
      | false, some _ => .error (.unexpectedValue rule.long)
      | false, none => .ok (arguments.withFlag rule.long, none)
  | none =>
      match text.toList with
      | '-' :: '-' :: _ => .error (.unknownOption text)
      | _ :: letters => readShort rules arguments letters
      | [] => .ok (arguments, none)

def isOption (text : String) : Bool :=
  match text.toList with
  | '-' :: _ :: _ => true
  | _ => false

/-- Sort the arguments of a command by their roles, given those sorted so far. -/
def readFrom (rules : List OptionRule) (arguments : Arguments) :
    List String → Except UsageError Arguments
  | [] => .ok arguments
  | text :: rest =>
      if text = "--" then .ok { arguments with positionals := arguments.positionals ++ rest }
      else if !isOption text then
        readFrom rules { arguments with positionals := arguments.positionals ++ [text] } rest
      else
        match readOption rules arguments text with
        | .error error => .error error
        | .ok (next, none) => readFrom rules next rest
        | .ok (next, some rule) =>
            match rest with
            | [] => .error (.missingValue rule.long)
            | value :: rest => readFrom rules (next.withValue rule.long value) rest

/-- Sort the arguments of a command by their roles. -/
def Arguments.read (rules : List OptionRule) (texts : List String) :
    Except UsageError Arguments :=
  readFrom rules .none texts

end HomeCatalog.Command
