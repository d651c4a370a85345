import HomeCatalog.Document.Flaw
import HomeCatalog.Document.Xml.Declaration
import HomeCatalog.Text.Bytes
import HomeCatalog.Text.Charset.Tables

/-!
# Encodings of XML documents

A mark of two bytes in front of a document says that its text comes in units of 16 bits.  A text
in bytes is UTF-8 unless the declaration says otherwise.

A document is read up to the first character that it must not have.
-/

namespace HomeCatalog.Document.Xml

/-- The text of a document as far as it can be read. -/
structure Source where
  declaration : Declaration
  /-- The text behind the declaration. -/
  body : List Char
  /-- Whether the text ends where the document does. -/
  isWhole : Bool
  deriving Repr, DecidableEq

/-- The encodings of a text in bytes. -/
inductive ByteEncoding where
  | utf8
  | charset (charset : Text.Charset)
  deriving Repr, DecidableEq

/-- The names of encodings that every reader of XML knows. -/
def commonEncodings : List (String × ByteEncoding) :=
  [("utf-8", .utf8), ("iso-8859-1", .charset .latin), ("us-ascii", .charset .ascii)]

/-- The names of the encodings in units of 16 bits. -/
def unitEncodings : List String :=
  ["utf-16", "utf-16be", "utf-16le"]

/-- The encoding of a text in bytes that its declaration names. -/
def ByteEncoding.ofName (name : String) : Except Flaw ByteEncoding :=
  match commonEncodings.lookup name.toLower with
  | some encoding => .ok encoding
  | none =>
      if unitEncodings.contains name.toLower then .error .malformed
      else
        match Text.Coding.ofName? name with
        | some (.bytewise found) => .ok (.charset found)
        | some .irregular => .error .malformed
        | some .binary => breakDown (.noTextEncoding name)
        | none => breakDown (.unknownEncoding name)

/-- The characters of bytes, up to the first that is no UTF-8. -/
def utf8Chars (bytes : List UInt8) : List (Option Char) :=
  let sound := match Text.firstFault? 0 0 bytes with
    | some fault => bytes.take fault.position
    | none => bytes
  ((Text.decode? sound).getD "").toList.map some ++
    if sound.length < bytes.length then [none] else []

def ByteEncoding.chars (encoding : ByteEncoding) (bytes : List UInt8) : List (Option Char) :=
  match encoding with
  | .utf8 => utf8Chars bytes
  | .charset known => known.decode bytes

/-- The characters of units of 16 bits.  A high surrogate takes the unit behind it for a low
one. -/
def unitChars : List Nat → List (Option Char)
  | [] => []
  | [unit] => [if 0xD800 ≤ unit && unit < 0xE000 then none else some (Char.ofNat unit)]
  | high :: low :: rest =>
      if 0xD800 ≤ high && high < 0xDC00 then
        some (Char.ofNat (0x10000 + high % 0x400 * 0x400 + low % 0x400)) :: unitChars rest
      else if 0xDC00 ≤ high && high < 0xE000 then [none]
      else some (Char.ofNat high) :: unitChars (low :: rest)

/-- The characters of bytes that make up units of 16 bits. -/
def pairChars (bigFirst : Bool) (bytes : List UInt8) : List (Option Char) :=
  let paired := bytes.take (bytes.length - bytes.length % 2)
  unitChars ((Text.units? bigFirst paired).getD []) ++
    if paired.length < bytes.length then [none] else []

/-- The document that has the given characters. -/
def Source.ofChars (declaration : Declaration) (chars : List (Option Char)) : Except Flaw Source := do
  let sound := chars.takeWhile fun c? => c?.any isXmlChar
  let (_, body) ← orMalformed (declaration? (sound.filterMap id))
  return ⟨declaration, body, sound.length == chars.length⟩

/-- Read a document whose text comes in bytes. -/
def Source.ofBytes (bytes : List UInt8) : Except Flaw Source := do
  let (declaration, _) ← orMalformed
    (declaration? (bytes.map fun byte => Char.ofNat byte.toNat))
  let encoding ← match declaration.encoding with
    | some name => ByteEncoding.ofName name
    | none => .ok .utf8
  Source.ofChars declaration (encoding.chars bytes)

/-- Read a document whose text comes in units of 16 bits.  Its declaration must not name an
encoding in bytes. -/
def Source.ofUnits (bigFirst : Bool) (bytes : List UInt8) : Except Flaw Source := do
  let chars := pairChars bigFirst bytes
  let (declaration, _) ← orMalformed
    (declaration? ((chars.takeWhile Option.isSome).filterMap id))
  match declaration.encoding with
  | some name =>
      if name.toLower != "utf-16" &&
          name.toLower != (if bigFirst then "utf-16be" else "utf-16le") then
        let _ ← ByteEncoding.ofName name
        .error .malformed
      else Source.ofChars declaration chars
  | none => Source.ofChars declaration chars

/-- Read a document. -/
def Source.ofFile : List UInt8 → Except Flaw Source
  | 0xEF :: 0xBB :: 0xBF :: rest => ofBytes rest
  | 0xFE :: 0xFF :: rest => ofUnits true rest
  | 0xFF :: 0xFE :: rest => ofUnits false rest
  | bytes => ofBytes bytes

end HomeCatalog.Document.Xml
