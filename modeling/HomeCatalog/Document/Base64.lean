import HomeCatalog.Text.Basic

/-!
# Bytes in base 64

Four digits stand for three bytes, and a last group of two or three digits for one or two.
Characters that are no digits are passed over, so the digits may be broken into lines.  Padding
completes the last group and ends the reading.
-/

namespace HomeCatalog.Document.Base64

def digitValue? (c : Char) : Option Nat :=
  if 'A' ≤ c && c ≤ 'Z' then some (c.toNat - 'A'.toNat)
  else if 'a' ≤ c && c ≤ 'z' then some (c.toNat - 'a'.toNat + 26)
  else if '0' ≤ c && c ≤ '9' then some (c.toNat - '0'.toNat + 52)
  else if c = '+' then some 62
  else if c = '/' then some 63
  else none

/-- The whole bytes that a group of up to four digits determines. -/
def groupBytes : List Nat → List UInt8
  | first :: second :: rest =>
      UInt8.ofNat (first * 4 + second / 16) ::
        match rest with
        | [] => []
        | third :: rest =>
            UInt8.ofNat (second % 16 * 16 + third / 4) ::
              match rest with
              | [] => []
              | fourth :: _ => [UInt8.ofNat (third % 4 * 64 + fourth)]
  | _ => []

/-- Decode a text, given the digits of an open group and the padding seen behind them.  An open
group at the end is refused. -/
def decodeFrom (group : List Nat) (pads : Nat) : List Char → Option (List UInt8)
  | [] => if group.isEmpty then some [] else none
  | c :: rest =>
      if c = '=' then
        if group.length < 2 then decodeFrom group pads rest
        else if group.length + pads < 3 then decodeFrom group (pads + 1) rest
        else some (groupBytes group)
      else
        match digitValue? c with
        | none => decodeFrom group pads rest
        | some digit =>
            if group.length < 3 then decodeFrom (group ++ [digit]) 0 rest
            else (decodeFrom [] 0 rest).map (groupBytes (group ++ [digit]) ++ ·)

/-- The bytes that a text stands for. -/
def decode? (cs : List Char) : Option (List UInt8) :=
  decodeFrom [] 0 cs

end HomeCatalog.Document.Base64
