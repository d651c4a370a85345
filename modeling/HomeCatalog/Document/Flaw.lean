import HomeCatalog.Text.Wide

/-!
# Flaws of documents

A document that breaks the rules of its format has no value.  Some documents do worse: their
reader meets something that it makes no provision for, and breaks down.  The first flaw in the
order of reading counts.
-/

namespace HomeCatalog.Document

/-- The parts of a date behind the year. -/
inductive DatePart where
  | month
  | day
  deriving Repr, DecidableEq

/-- What a reader makes no provision for. -/
inductive Breakdown where
  /-- A word is tagged as a truth value and is no word for one. -/
  | unknownTruthWord (word : Text.Wide)
  /-- A number has no characters besides its sign. -/
  | emptyNumber
  /-- A key, or a value with a key, stands outside of all lists and mappings. -/
  | outsideCollections
  /-- A text that should be a date is none. -/
  | noDate
  /-- A mapping should be a date. -/
  | mappingAsDate
  /-- A date lacks a part. -/
  | incompleteDate (missing : DatePart)
  /-- An escape has a number that fits into no 31 bits. -/
  | escapeTooLarge
  /-- A place of a number is worth more than any real number. -/
  | placeTooLarge
  /-- An encoding has a name that nobody knows. -/
  | unknownEncoding (name : String)
  /-- An encoding is one of bytes, and not of texts. -/
  | noTextEncoding (name : String)
  /-- Parts of the document lie too deep inside each other. -/
  | tooDeep
  /-- An integer is too long to be written in decimal notation. -/
  | integerTooLong
  deriving Repr, DecidableEq

def Breakdown.message : Breakdown → String
  | unknownTruthWord word => word.quoted
  | emptyNumber => "string index out of range"
  | outsideCollections => "list index out of range"
  | noDate => "'NoneType' object has no attribute 'groupdict'"
  | mappingAsDate => "expected string or bytes-like object, got 'list'"
  | incompleteDate .month => "function missing required argument 'month' (pos 2)"
  | incompleteDate .day => "function missing required argument 'day' (pos 3)"
  | escapeTooLarge => "Python int too large to convert to C int"
  | placeTooLarge => "int too large to convert to float"
  | unknownEncoding name => "unknown encoding: " ++ name
  | noTextEncoding name =>
      Text.quoted name ++
        " is not a text encoding; use codecs.decode() to handle arbitrary codecs"
  | tooDeep => "maximum recursion depth exceeded"
  | integerTooLong =>
      "Exceeds the limit (4300 digits) for integer string conversion; " ++
        "use sys.set_int_max_str_digits() to increase the limit"

/-- Why a document has no value. -/
inductive Flaw where
  /-- It breaks the rules of its format. -/
  | malformed
  /-- Its reader breaks down. -/
  | breakdown (reason : Breakdown)
  deriving Repr, DecidableEq

/-- A result that is missing only when the document is malformed. -/
def orMalformed {α : Type} : Option α → Except Flaw α
  | some result => .ok result
  | none => .error .malformed

/-- Refuse a document for a breakdown of its reader. -/
def breakDown {α : Type} (reason : Breakdown) : Except Flaw α :=
  .error (.breakdown reason)

end HomeCatalog.Document
