import HomeCatalog.Text.Basic

/-!
# Charsets

A charset gives every byte its character, or none.  The bytes below 128 stand for the characters
of ASCII.  A charset has several names, and two spellings of a name are the same when they differ
in letter case or in the marks between its parts only.
-/

namespace HomeCatalog.Text

/-- The names of an encoding: those of its own, and the names that it goes by besides. -/
structure Naming where
  names : List String
  aliases : List String
  deriving Repr, DecidableEq

/-- A way to write characters as single bytes. -/
structure Charset where
  naming : Naming
  /-- The characters of the bytes from 128 on.  The replacement character stands for none. -/
  upper : String
  /-- The characters of ASCII that have no byte. -/
  missing : List Char
  deriving Repr, DecidableEq

/-- An encoding of texts. -/
inductive Coding where
  /-- Every character is a byte. -/
  | bytewise (charset : Charset)
  /-- Characters have several bytes, or the bytes of ASCII other characters. -/
  | irregular
  /-- Bytes are encoded, and not characters. -/
  | binary
  deriving Repr, DecidableEq

/-- The spelling of a name that counts: in lower case, with one mark between parts. -/
def foldedName (name : List Char) : List Char :=
  let parts := splitOn '_' (name.map fun c => if c.isAlphanum || c == '.' then c.toLower else '_')
  joinWith ['_'] (parts.filter fun part => !part.isEmpty)

/-- Whether a folded name is among the names that an encoding goes by. -/
def Naming.hasAlias (naming : Naming) (name : List Char) : Bool :=
  naming.aliases.contains (String.ofList name) ||
    naming.aliases.contains (String.ofList (replaceChar '.' ['_'] name))

/-- Whether a folded name is a name of an encoding. -/
def Naming.hasName (naming : Naming) (name : List Char) : Bool :=
  naming.names.contains (String.ofList name)

def Charset.char? (charset : Charset) (byte : UInt8) : Option Char :=
  if byte < 0x80 then
    let c := Char.ofNat byte.toNat
    if charset.missing.contains c then none else some c
  else (charset.upper.toList[byte.toNat - 0x80]?).filter (· != '\ufffd')

/-- The characters of bytes, as far as they have any. -/
def Charset.decode (charset : Charset) (bytes : List UInt8) : List (Option Char) :=
  let table := (List.range 0x100).map fun byte => charset.char? (UInt8.ofNat byte)
  let chars := table.toArray
  bytes.map fun byte => (chars[byte.toNat]?).join

end HomeCatalog.Text
