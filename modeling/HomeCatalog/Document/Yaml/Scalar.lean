import HomeCatalog.Document.Base64
import HomeCatalog.Document.Yaml.Tag

/-!
# Scalars of a YAML text

A type turns a text into a scalar.  The types of collections have no scalars, and neither have the
signs for merges and default values.
-/

namespace HomeCatalog.Document.Yaml

/-- The truth value that a word stands for, in any letter case. -/
def truthValue (text : Text.Wide) : Except Flaw Scalar :=
  match booleanWords.lookup (String.ofList text.lower.plain) with
  | some value => .ok (.boolean value)
  | none => breakDown (.unknownTruthWord text.lower)

/-- The bytes that a text in base 64 stands for.  All its characters are of ASCII. -/
def binaryValue (cs : List Char) : Except Flaw Scalar :=
  if cs.all fun c => c.toNat < 0x80 then
    (orMalformed (Base64.decode? cs)).map .bytes
  else .error .malformed

/-- The date or moment that a text stands for. -/
def momentValue (cs : List Char) : Except Flaw Scalar :=
  match Timestamp.ofText? (withoutFinalBreak cs) with
  | some timestamp => orMalformed timestamp.scalar?
  | none => breakDown .noDate

/-- The scalar that the text of a node stands for under a type. -/
def Tag.scalar (tag : Tag) (node : Nat) (written : Text.Wide) : Except Flaw Scalar :=
  match tag with
  | null => .ok .null
  | boolean => truthValue written
  | integer => (integerOf written.plain).map .integer
  | real => realOf node written.plain
  | binary => binaryValue written.plain
  | timestamp => momentValue written.plain
  | text => .ok (.text written)
  | _ => .error .malformed

end HomeCatalog.Document.Yaml
