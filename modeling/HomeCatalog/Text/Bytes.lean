import HomeCatalog.Text.Basic

/-!
# Texts in bytes

A text file holds the UTF-8 form of its text.  Reading turns every carriage return, with or
without a line feed behind it, into a line feed.  Bytes that are no UTF-8 are described by the
place of the first fault and its nature.

Other texts come in units of 16 bits.  A character beyond the first 65536 takes two units, a high
and a low surrogate, and a surrogate that stands alone is no text.
-/

namespace HomeCatalog.Text

def encode (text : String) : List UInt8 :=
  text.toUTF8.data.toList

/-- The text that bytes stand for, if they are UTF-8. -/
def decode? (bytes : List UInt8) : Option String :=
  String.fromUTF8? ⟨bytes.toArray⟩

/-- What is wrong with a sequence of bytes. -/
inductive Utf8Fault where
  | invalidStart
  | invalidContinuation
  | unexpectedEnd
  deriving Repr, DecidableEq

def Utf8Fault.description : Utf8Fault → String
  | invalidStart => "invalid start byte"
  | invalidContinuation => "invalid continuation byte"
  | unexpectedEnd => "unexpected end of data"

/-- The first place at which bytes are no UTF-8. -/
structure Malformed where
  position : Nat
  /-- The number of bytes at fault. -/
  length : Nat
  /-- The first byte at fault. -/
  byte : UInt8
  fault : Utf8Fault
  deriving Repr, DecidableEq

/-- Whether a byte may follow the first byte of a character. -/
def isContinuation (byte : UInt8) : Bool :=
  0x80 ≤ byte && byte < 0xC0

/-- Whether a byte may follow a given first byte directly.  This excludes overlong forms,
surrogates and numbers beyond the last code point. -/
def isSecond (lead byte : UInt8) : Bool :=
  isContinuation byte &&
    !(lead == 0xE0 && byte < 0xA0) && !(lead == 0xED && 0xA0 ≤ byte) &&
    !(lead == 0xF0 && byte < 0x90) && !(lead == 0xF4 && 0x90 ≤ byte)

/-- The number of bytes of a character with a given first byte. -/
def sequenceLength? (lead : UInt8) : Option Nat :=
  if lead < 0x80 then some 1
  else if lead < 0xC2 then none
  else if lead < 0xE0 then some 2
  else if lead < 0xF0 then some 3
  else if lead < 0xF5 then some 4
  else none

/-- Check the bytes that should continue a character: the count of good bytes so far and the
fault, if there is one. -/
def continuationFault? (lead : UInt8) : (needed good : Nat) → List UInt8 → Option (Nat × Utf8Fault)
  | 0, _, _ => none
  | _ + 1, good, [] => some (good, .unexpectedEnd)
  | needed + 1, good, byte :: rest =>
      if (if good = 1 then isSecond lead byte else isContinuation byte) then
        continuationFault? lead needed (good + 1) rest
      else some (good, .invalidContinuation)

/-- The first fault in bytes, of which the first `skip` belong to a good character. -/
def firstFault? : (skip position : Nat) → List UInt8 → Option Malformed
  | _, _, [] => none
  | skip + 1, position, _ :: rest => firstFault? skip (position + 1) rest
  | 0, position, lead :: rest =>
      match sequenceLength? lead with
      | none => some ⟨position, 1, lead, .invalidStart⟩
      | some length =>
          match continuationFault? lead (length - 1) 1 rest with
          | some (good, fault) => some ⟨position, good, lead, fault⟩
          | none => firstFault? (length - 1) (position + 1) rest

/-- A fault in words. -/
def Malformed.message (malformed : Malformed) : String :=
  let byte := malformed.byte.toNat
  let what :=
    if malformed.length = 1 then
      "byte 0x" ++ String.ofList [Nat.digitChar (byte / 16), Nat.digitChar (byte % 16)] ++
        " in position " ++ toString malformed.position
    else
      "bytes in position " ++ toString malformed.position ++ "-" ++
        toString (malformed.position + malformed.length - 1)
  "'utf-8' codec can't decode " ++ what ++ ": " ++ malformed.fault.description

/-- Turn carriage returns, with or without a line feed, into line feeds. -/
def normalizeNewlines : List Char → List Char
  | [] => []
  | '\r' :: '\n' :: rest => '\n' :: normalizeNewlines rest
  | '\r' :: rest => '\n' :: normalizeNewlines rest
  | c :: rest => c :: normalizeNewlines rest

/-- The text in the bytes of a file. -/
def ofFile? (bytes : List UInt8) : Option String :=
  (decode? bytes).map fun text => String.ofList (normalizeNewlines text.toList)

/-- A text without carriage returns is read back from its own bytes. -/
theorem normalizeNewlines_eq_self {cs : List Char} (plain : '\r' ∉ cs) :
    normalizeNewlines cs = cs := by
  induction cs with
  | nil => rfl
  | cons c rest ih =>
      have apart : c ≠ '\r' := fun same => plain (by simp [same])
      have rest_plain : '\r' ∉ rest := fun member => plain (List.mem_cons_of_mem c member)
      unfold normalizeNewlines
      split <;> simp_all

/-- Pairs of bytes as units of 16 bits. -/
def units? (bigFirst : Bool) : List UInt8 → Option (List Nat)
  | [] => some []
  | [_] => none
  | first :: second :: rest =>
      (units? bigFirst rest).map
        ((if bigFirst then first.toNat * 256 + second.toNat
          else second.toNat * 256 + first.toNat) :: ·)

/-- The text in units of 16 bits. -/
def ofUnits? : List Nat → Option (List Char)
  | [] => some []
  | [unit] => if 0xD800 ≤ unit && unit < 0xE000 then none else some [Char.ofNat unit]
  | high :: low :: rest =>
      if 0xD800 ≤ high && high < 0xDC00 then
        if 0xDC00 ≤ low && low < 0xE000 then
          (ofUnits? rest).map
            (Char.ofNat ((high - 0xD800) * 0x400 + (low - 0xDC00) + 0x10000) :: ·)
        else none
      else if 0xDC00 ≤ high && high < 0xE000 then none
      else (ofUnits? (low :: rest)).map (Char.ofNat high :: ·)

end HomeCatalog.Text
