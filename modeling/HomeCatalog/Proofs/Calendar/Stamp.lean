import HomeCatalog.Calendar.Moment
import HomeCatalog.Proofs.Text.Cutting
import HomeCatalog.Text.Scan

/-!
# What a stamp shows

Whatever moment is written, its stamp holds digits and a few signs.  So a stamp is a single line, and
the fields of the civil time that it shows can be read back from it.
-/

namespace HomeCatalog.Calendar

/-- Whether a character can stand in a stamp. -/
def isStampChar (c : Char) : Bool :=
  c.isDigit || "-T:Z".toList.contains c

theorem toList_toString (number : Nat) : (toString number).toList = Nat.toDigits 10 number :=
  Nat.toList_repr

theorem all_isStampChar_toString (number : Nat) :
    (toString number).toList.all isStampChar = true := by
  rw [toList_toString, List.all_eq_true]
  intro c member
  have digit : c.isDigit = true := Nat.isDigit_of_mem_toDigits (by decide) (by decide) member
  rw [isStampChar, digit, Bool.true_or]

theorem all_isStampChar_padded (width number : Nat) :
    (padded width number).toList.all isStampChar = true := by
  have zero : isStampChar '0' = true := by decide
  rw [padded, String.toList_ofList, List.all_append, all_isStampChar_toString, Bool.and_true,
    List.all_eq_true]
  intro c member
  rw [(List.mem_replicate.mp member).2, zero]

/-- Only such characters stand in the stamp of a moment. -/
theorem all_isStampChar_stamp {moment : Moment} {stamp : String}
    (stamped : moment.stamp? = some stamp) : stamp.toList.all isStampChar = true := by
  obtain ⟨civil, _, rfl⟩ := Option.map_eq_some_iff.mp stamped
  simp only [Civil.stamp, String.toList_append, List.all_append, all_isStampChar_toString,
    all_isStampChar_padded]
  decide

/-! ## Reading a stamp back -/

/-- A number in front of a separator, and what follows it. -/
def numberBefore? (separator : Char) (cs : List Char) : Option (Nat × List Char) := do
  let (digits, rest) := Text.cut separator cs
  some (← Text.plainNumber? digits, ← rest)

/-- The civil time whose fields a stamp shows. -/
def Civil.ofStamp? (stamp : String) : Option Civil := do
  let (year, rest) ← numberBefore? '-' stamp.toList
  let (month, rest) ← numberBefore? '-' rest
  let (day, rest) ← numberBefore? 'T' rest
  let (hour, rest) ← numberBefore? ':' rest
  let (minute, rest) ← numberBefore? ':' rest
  let (second, rest) ← numberBefore? 'Z' rest
  if rest.isEmpty then some ⟨⟨year, month, day⟩, hour, minute, second⟩ else none

/-- Whether a text is a number in decimal digits, with any zeros in front. -/
structure IsNumeral (cs : List Char) (number : Nat) : Prop where
  filled : cs ≠ []
  digits : ∀ c ∈ cs, c.isDigit = true
  value : Nat.ofDigitChars 10 cs 0 = number

theorem isNumeral_toString (number : Nat) : IsNumeral (toString number).toList number := by
  rw [toList_toString]
  constructor
  · exact Nat.toDigits_ne_nil
  · exact fun c member => Nat.isDigit_of_mem_toDigits (by decide) (by decide) member
  · exact Nat.ofDigitChars_toDigits (by decide) (by decide)

/-- A zero in front of a number leaves it. -/
theorem IsNumeral.cons_zero {cs : List Char} {number : Nat} (numeral : IsNumeral cs number) :
    IsNumeral ('0' :: cs) number where
  filled := List.cons_ne_nil _ _
  digits := List.forall_mem_cons.mpr ⟨by decide, numeral.digits⟩
  value := numeral.value

theorem isNumeral_padded (width number : Nat) :
    IsNumeral (padded width number).toList number := by
  rw [padded, String.toList_ofList]
  generalize width - (toString number).toList.length = zeros
  induction zeros with
  | zero => exact isNumeral_toString number
  | succ zeros ih => exact ih.cons_zero

theorem IsNumeral.plainNumber?_eq {cs : List Char} {number : Nat}
    (numeral : IsNumeral cs number) : Text.plainNumber? cs = some number := by
  have every : (cs.isEmpty || cs.any fun c => !c.isDigit) = false := by
    simpa [numeral.filled] using numeral.digits
  have folded : (fun number (c : Char) => number * 10 + (c.toNat - '0'.toNat)) =
      fun number c => 10 * number + (c.toNat - '0'.toNat) := by
    funext number c
    rw [Nat.mul_comm]
  rw [Text.plainNumber?, every, folded]
  exact congrArg some numeral.value

/-- A number is read up to a separator that is no digit. -/
theorem IsNumeral.numberBefore?_append {cs : List Char} {number : Nat}
    (numeral : IsNumeral cs number) {separator : Char} (undigited : separator.isDigit = false)
    (rest : List Char) :
    numberBefore? separator (cs ++ separator :: rest) = some (number, rest) := by
  have absent : separator ∉ cs := by
    intro member
    rw [numeral.digits separator member] at undigited
    cases undigited
  simp [numberBefore?, Text.cut_append_cons absent, numeral.plainNumber?_eq]

/-- The fields that a stamp shows are those of the civil time. -/
theorem Civil.ofStamp?_stamp (civil : Civil) : ofStamp? civil.stamp = some civil := by
  have dash : "-".toList = ['-'] := by decide
  have letter : "T".toList = ['T'] := by decide
  have colon : ":".toList = [':'] := by decide
  have zone : "Z".toList = ['Z'] := by decide
  simp only [ofStamp?, stamp, String.toList_append, dash, letter, colon, zone, List.append_assoc,
    List.cons_append, List.nil_append, Option.bind_eq_bind]
  rw [(isNumeral_toString _).numberBefore?_append (by decide), Option.bind_some,
    (isNumeral_padded _ _).numberBefore?_append (by decide), Option.bind_some,
    (isNumeral_padded _ _).numberBefore?_append (by decide), Option.bind_some,
    (isNumeral_padded _ _).numberBefore?_append (by decide), Option.bind_some,
    (isNumeral_padded _ _).numberBefore?_append (by decide), Option.bind_some,
    (isNumeral_padded _ _).numberBefore?_append (by decide), Option.bind_some]
  rfl

end HomeCatalog.Calendar
