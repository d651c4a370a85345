import HomeCatalog.Text.Basic

/-!
# Scanning a text step by step

A scan repeats a step that reads something off the front of a text and either goes on with a
new state or is done.  Every step but the last should leave less text than it found, so a scan
takes at most one step more than the text has characters.
-/

namespace HomeCatalog.Text

section Scan

variable {σ α : Type} {step : σ → List Char → Option ((σ ⊕ α) × List Char)}

/-- Repeat a step at most once more than `budget` has characters. -/
def scanWithin (step : σ → List Char → Option ((σ ⊕ α) × List Char)) (budget : List Char)
    (state : σ) (cs : List Char) : Option (α × List Char) :=
  match step state cs with
  | none => none
  | some (.inr result, rest) => some (result, rest)
  | some (.inl next, rest) =>
      match budget with
      | [] => none
      | _ :: budget => scanWithin step budget next rest

/-- Repeat a step.  The scan fails when the step does, or when steps read nothing and are not
done. -/
def scan (step : σ → List Char → Option ((σ ⊕ α) × List Char)) (state : σ) (cs : List Char) :
    Option (α × List Char) :=
  scanWithin step cs state cs

end Scan

/-- The text before the first occurrence of a word, and the text after it. -/
def cutWord (word : List Char) : List Char → Option (List Char × List Char)
  | [] => if word.isEmpty then some ([], []) else none
  | c :: rest =>
      match word.isPrefixOf? (c :: rest) with
      | some after => some ([], after)
      | none => (cutWord word rest).map fun (before, after) => (c :: before, after)

/-- The number with the given hexadecimal digits, if all are digits and there is one. -/
def hexNumber? (cs : List Char) : Option Nat :=
  if cs.isEmpty then none
  else cs.foldl (fun number c => do
    let digit ← hexDigit? c
    some ((← number) * 16 + digit)) (some 0)
where
  /-- The value of a hexadecimal digit. -/
  hexDigit? (c : Char) : Option Nat :=
    if '0' ≤ c && c ≤ '9' then some (c.toNat - '0'.toNat)
    else if 'a' ≤ c && c ≤ 'f' then some (c.toNat - 'a'.toNat + 10)
    else if 'A' ≤ c && c ≤ 'F' then some (c.toNat - 'A'.toNat + 10)
    else none

/-- The number with the given decimal digits, if all are digits and there is one. -/
def plainNumber? (cs : List Char) : Option Nat :=
  if cs.isEmpty || cs.any fun c => !c.isDigit then none
  else some (cs.foldl (fun number c => number * 10 + (c.toNat - '0'.toNat)) 0)

end HomeCatalog.Text
