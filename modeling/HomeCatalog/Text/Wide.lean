import HomeCatalog.Text.Casing
import HomeCatalog.Text.Literal

/-!
# Texts with halves of characters

A document may name a character beyond the first 65536 by its two halves, and it may name a half
alone.  Such a text is a list of code points of which some are no characters.  Two halves that
stand next to each other stay two code points and differ from the character that they make up;
only where the text is shown they are joined.
-/

namespace HomeCatalog.Text

/-- A code point: a character, or half of one. -/
abbrev CodePoint := Fin 0x110000

def CodePoint.char? (point : CodePoint) : Option Char :=
  if point.val.isValidChar then some (Char.ofNat point.val) else none

def codePoint (c : Char) : CodePoint :=
  ⟨c.toNat, by
    have valid := c.valid
    simp only [UInt32.isValidChar, Nat.isValidChar] at valid
    have bound : c.toNat = c.val.toNat := rfl
    omega⟩

/-- What stands for half a character where only characters can stand. -/
def replacement : Char := '\ufffd'

/-- A code point as a character. -/
def CodePoint.plain (point : CodePoint) : Char :=
  (CodePoint.char? point).getD replacement

/-- A text that may have halves of characters in it. -/
structure Wide where
  points : List CodePoint
  deriving Repr, DecidableEq

namespace Wide

instance : Inhabited Wide := ⟨⟨[]⟩⟩

/-- Whether a list of code points stands in front of another one, or is the same: at the first
place where they differ its code point is less, or it ends there. -/
def precedes : List CodePoint → List CodePoint → Bool
  | [], _ => true
  | _ :: _, [] => false
  | left :: lefts, right :: rights =>
      if left.val = right.val then precedes lefts rights else decide (left.val < right.val)

/-- Texts are in the order of their code points. -/
instance : LE Wide := ⟨fun left right => precedes left.points right.points = true⟩

instance (left right : Wide) : Decidable (left ≤ right) :=
  inferInstanceAs (Decidable (precedes left.points right.points = true))

/-- Sort texts by code points. -/
def sort (texts : List Wide) : List Wide :=
  texts.mergeSort fun left right => decide (left ≤ right)

/-- The text with the given characters. -/
def ofList (cs : List Char) : Wide :=
  ⟨cs.map codePoint⟩

/-- A text without halves. -/
def ofString (text : String) : Wide :=
  ofList text.toList

/-- The characters of a text, with the replacement character for every half. -/
def plain (text : Wide) : List Char :=
  text.points.map CodePoint.plain

/-- The upper-case form of a text. -/
def upper (text : Wide) : Wide :=
  ⟨text.points.flatMap fun point =>
    match CodePoint.char? point with
    | some c => (upperChar c).map codePoint
    | none => [point]⟩

/-- Lower-case the code points of `points` that follow `before`, which is given nearest first. -/
def lowerAfter : (before : List Char) → (points : List CodePoint) → List CodePoint
  | _, [] => []
  | before, point :: rest =>
      (match CodePoint.char? point with
        | some c =>
            (if c = 'Σ' then [finalOrMedialSigma before (rest.map CodePoint.plain)]
              else lowerChar c).map codePoint
        | none => [point]) ++
        lowerAfter (CodePoint.plain point :: before) rest

/-- The lower-case form of a text. -/
def lower (text : Wide) : Wide :=
  ⟨lowerAfter [] text.points⟩

/-- The character that two halves make up. -/
def joinedPair? (high low : CodePoint) : Option CodePoint :=
  if 0xD800 ≤ high.val && high.val < 0xDC00 && 0xDC00 ≤ low.val && low.val < 0xE000 then
    some (codePoint (Char.ofNat (0x10000 + (high.val - 0xD800) * 0x400 + (low.val - 0xDC00))))
  else none

/-- Code points with every two halves that fit joined. -/
def joinHalves : List CodePoint → List CodePoint
  | [] => []
  | [point] => [point]
  | high :: low :: rest =>
      match joinedPair? high low with
      | some point => point :: joinHalves rest
      | none => high :: joinHalves (low :: rest)

/-- A text as it is shown: with every two halves that fit joined. -/
def joined (text : Wide) : Wide :=
  ⟨joinHalves text.points⟩

/-- A text as a string that shows it. -/
def shown (text : Wide) : String :=
  String.ofList text.joined.plain

/-- A code point inside quotes.  Half a character is written by its number. -/
def quotedPoint (mark : Char) (point : CodePoint) : List Char :=
  match CodePoint.char? point with
  | some c => quotedChar mark c
  | none => ['\\', 'u'] ++ hexDigits 4 point.val

def quoted (text : Wide) : String :=
  let cs := text.plain
  let mark := quoteMark (cs.contains '\'') (cs.contains '"')
  String.ofList ([mark] ++ text.points.flatMap (quotedPoint mark) ++ [mark])

end Wide

/-- A character is the character of its code point. -/
@[simp] theorem char?_codePoint (c : Char) : CodePoint.char? (codePoint c) = some c := by
  have valid : c.toNat.isValidChar := c.valid
  simp [CodePoint.char?, codePoint, valid]

@[simp] theorem plain_codePoint (c : Char) : CodePoint.plain (codePoint c) = c := by
  simp [CodePoint.plain]

namespace Wide

/-- Of two lists of code points one precedes the other. -/
theorem precedes_total (left right : List CodePoint) :
    precedes left right = true ∨ precedes right left = true := by
  induction left generalizing right with
  | nil => exact .inl rfl
  | cons first lefts ih =>
      cases right with
      | nil => exact .inr rfl
      | cons second rights =>
          by_cases same : first.val = second.val
          · simpa [precedes, same] using ih rights
          · have different : second.val ≠ first.val := fun equal => same equal.symm
            simp only [precedes, if_neg same, if_neg different, decide_eq_true_eq]
            omega

/-- A list that precedes one that precedes a third precedes the third. -/
theorem precedes_trans {left middle right : List CodePoint} (first : precedes left middle = true)
    (second : precedes middle right = true) : precedes left right = true := by
  induction left generalizing middle right with
  | nil => rfl
  | cons head lefts ih =>
      cases middle with
      | nil => simp [precedes] at first
      | cons between middles =>
          cases right with
          | nil => simp [precedes] at second
          | cons last rights =>
              simp only [precedes] at first second ⊢
              split at first <;> split at second <;> split
              · exact ih first second
              all_goals simp only [decide_eq_true_eq] at *
              all_goals omega

/-- A text without halves has its own characters. -/
@[simp] theorem plain_ofList (cs : List Char) : (ofList cs).plain = cs := by
  induction cs with
  | nil => rfl
  | cons c rest ih => simpa [ofList, plain] using ih

end Wide

end HomeCatalog.Text
