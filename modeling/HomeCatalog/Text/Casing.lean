import HomeCatalog.Text.CaseTables

/-!
# Upper and lower case

Case mapping is the full one: a character may become several, and a capital sigma at the end
of a word becomes a final sigma.  Upper-casing looks at one character at a time; lower-casing
also looks at the neighbours of a sigma.
-/

namespace HomeCatalog.Text

/-- The image of a character under a table of shifts. -/
def shift? (table : List Shift) (c : Char) : Option Char :=
  (findRun Shift.run table c.toNat).map fun shift =>
    Char.ofNat ((c.toNat : Int) + shift.distance).toNat

/-- The image of one character under a table of shifts and a list of expansions. -/
def mapCase (table : List Shift) (expansions : List (Char × List Char)) (c : Char) : List Char :=
  match shift? table c with
  | some image => [image]
  | none => (expansions.lookup c).getD [c]

/-- The upper-case form of one character. -/
def upperChar (c : Char) : List Char :=
  mapCase upperShifts upperExpansions c

/-- The lower-case form of one character that stands alone. -/
def lowerChar (c : Char) : List Char :=
  mapCase lowerShifts lowerExpansions c

def isCased (c : Char) : Bool :=
  covers casedRanges c.toNat

/-- Whether a character is passed over when the neighbours of a sigma are looked at. -/
def isCaseIgnorable (c : Char) : Bool :=
  covers caseIgnorableRanges c.toNat

/-- Whether the first character that is not case-ignorable is cased. -/
def meetsCased (cs : List Char) : Bool :=
  match cs.dropWhile isCaseIgnorable with
  | [] => false
  | c :: _ => isCased c

/-- The lower-case form of a capital sigma, which is final when a cased character comes before
it and none after it. -/
def finalOrMedialSigma (before rest : List Char) : Char :=
  if meetsCased before && !meetsCased rest then 'ς' else 'σ'

/-- Lower-case the characters `cs` that follow `before`, which is given nearest first. -/
def lowerAfter : (before cs : List Char) → List Char
  | _, [] => []
  | before, c :: rest =>
      (if c = 'Σ' then [finalOrMedialSigma before rest] else lowerChar c) ++
        lowerAfter (c :: before) rest

/-- The lower-case form of a text. -/
def lower (cs : List Char) : List Char :=
  lowerAfter [] cs

/-- The upper-case form of a text. -/
def upper (cs : List Char) : List Char :=
  cs.flatMap upperChar

/-- Lower-case the first character only. -/
def lowerHead : List Char → List Char
  | [] => []
  | c :: rest => lowerChar c ++ rest

/-- Upper-case the first character only. -/
def upperHead : List Char → List Char
  | [] => []
  | c :: rest => upperChar c ++ rest

end HomeCatalog.Text
