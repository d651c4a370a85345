import HomeCatalog.Proofs.Text.Words

/-!
# Capitals

What upper-casing makes of a letter or a number starts with a letter or a number that upper-casing
leaves as it is.  The tables of case mappings move whole runs of code points, so this is looked up
run by run.
-/

namespace HomeCatalog.Text

/-! ## Runs -/

/-- The code points of a run, in order. -/
def Run.points (run : Run) : List Nat :=
  (List.range ((run.last - run.first) / run.step + 1)).map fun index =>
    run.first + index * run.step

theorem Run.contains_iff {run : Run} {point : Nat} :
    run.contains point = true ↔
      run.first ≤ point ∧ point ≤ run.last ∧ (point - run.first) % run.step = 0 := by
  simp only [contains, Bool.and_eq_true, decide_eq_true_eq, beq_iff_eq, and_assoc]

theorem Run.mem_points {run : Run} {point : Nat} (contained : run.contains point = true) :
    point ∈ run.points := by
  obtain ⟨low, high, divided⟩ := contains_iff.mp contained
  have distance := Nat.div_mul_cancel (Nat.dvd_of_mod_eq_zero divided)
  refine List.mem_map.mpr ⟨(point - run.first) / run.step, ?_, by omega⟩
  rw [List.mem_range, Nat.lt_succ_iff]
  exact Nat.div_le_div_right (by omega)

/-- The code points of a run leave one remainder by its step. -/
theorem Run.mod_eq_of_contains {run : Run} {point : Nat} (contained : run.contains point = true) :
    point % run.step = run.first % run.step := by
  obtain ⟨low, _, divided⟩ := contains_iff.mp contained
  have distance := Nat.div_mul_cancel (Nat.dvd_of_mod_eq_zero divided)
  rw [show point = run.first + (point - run.first) / run.step * run.step by omega,
    Nat.add_mul_mod_self_right]

/-! ## Looking up runs -/

/-- Whether one of the ascending `ranges` holds all code points from `first` to `last`. -/
def coversBetween (first last : Nat) : (ranges : List (Nat × Nat)) → Bool
  | [] => false
  | range :: rest =>
      -- Boolean comparisons keep it cheap to look through whole tables.
      bif Nat.ble last range.2 then Nat.ble range.1 first
      else bif Nat.ble first range.2 then false else coversBetween first last rest

theorem covers_of_coversBetween {first last point : Nat} {ranges : List (Nat × Nat)}
    (low : first ≤ point) (high : point ≤ last) (covered : coversBetween first last ranges = true) :
    covers ranges point = true := by
  induction ranges with
  | nil => cases covered
  | cons range rest ih =>
      obtain ⟨start, stop⟩ := range
      simp only [coversBetween, cond_eq_ite, Nat.ble_eq] at covered
      rw [covers]
      split at covered
      · rw [Nat.ble_eq] at covered
        rw [if_pos (by omega), decide_eq_true_eq]
        omega
      · split at covered
        · cases covered
        · rw [if_neg (by omega)]
          exact ih covered

/-- Whether two runs take turns: one is a single code point between those of the other, or they go
by the same step from different remainders. -/
def Run.takesTurns (one other : Run) : Bool :=
  (one.first == one.last && !other.contains one.first) ||
    (one.step == other.step && one.first % one.step != other.first % one.step)

theorem Run.contains_eq_false_of_takesTurns {one other : Run} (turns : one.takesTurns other = true)
    {point : Nat} (contained : one.contains point = true) : other.contains point = false := by
  simp only [takesTurns, Bool.or_eq_true, Bool.and_eq_true, beq_iff_eq, bne_iff_ne,
    Bool.not_eq_true'] at turns
  rcases turns with ⟨single, missed⟩ | ⟨step, apart⟩
  · obtain ⟨low, high, _⟩ := contains_iff.mp contained
    rwa [show point = one.first by omega]
  · by_contra met
    rw [Bool.not_eq_false] at met
    apply apart
    rw [← mod_eq_of_contains contained, step, mod_eq_of_contains met]

/-- Whether none of the ascending `entries` has a code point in common with a run. -/
def Run.isApartFrom {α : Type} (run : Run) (runOf : α → Run) : (entries : List α) → Bool
  | [] => true
  | entry :: rest =>
      bif Nat.blt (runOf entry).last run.first then run.isApartFrom runOf rest
      else Nat.blt run.last (runOf entry).first && Nat.ble run.last (runOf entry).last ||
        run.takesTurns (runOf entry) && run.isApartFrom runOf rest

theorem Run.findRun_of_isApartFrom {α : Type} {runOf : α → Run} {entries : List α} {run : Run}
    {point : Nat} (apart : run.isApartFrom runOf entries = true)
    (contained : run.contains point = true) : findRun runOf entries point = none := by
  obtain ⟨low, high, _⟩ := contains_iff.mp contained
  induction entries with
  | nil => rfl
  | cons entry rest ih =>
      simp only [isApartFrom, cond_eq_ite, Nat.blt_eq] at apart
      rw [findRun]
      split at apart
      · rw [if_neg (by omega)]
        exact ih apart
      · simp only [Bool.or_eq_true, Bool.and_eq_true, Nat.blt_eq, Nat.ble_eq] at apart
        rcases apart with ⟨behind, stop⟩ | ⟨turns, apart⟩
        · have outside : (runOf entry).contains point = false := by
            rw [Bool.eq_false_iff, ne_eq, contains_iff]
            omega
          rw [if_pos (by omega), outside]
          rfl
        · rw [contains_eq_false_of_takesTurns turns contained, ih apart]
          simp

/-! ## Runs of capitals -/

/-- Whether upper-casing leaves every code point of a run as it is, and all are letters or
numbers. -/
def Run.isCapital (run : Run) : Bool :=
  (coversBetween run.first run.last alphanumericRanges ||
      run.points.all (covers alphanumericRanges)) &&
    run.isApartFrom Shift.run upperShifts &&
    upperExpansions.all fun entry =>
      Nat.blt entry.1.toNat run.first || Nat.blt run.last entry.1.toNat

/-- The run to which a shift leads. -/
def Shift.image (shift : Shift) : Run :=
  ⟨(shift.run.first + shift.distance).toNat, (shift.run.last + shift.distance).toNat,
    shift.run.step⟩

theorem Shift.contains_image {shift : Shift} {point : Nat}
    (whole : 0 ≤ shift.run.first + shift.distance)
    (contained : shift.run.contains point = true) :
    shift.image.contains (point + shift.distance).toNat = true := by
  rw [Run.contains_iff] at contained ⊢
  obtain ⟨low, high, divided⟩ := contained
  have distance : (point + shift.distance).toNat - (shift.run.first + shift.distance).toNat =
      point - shift.run.first := by omega
  dsimp only [image]
  rw [distance]
  exact ⟨by omega, by omega, divided⟩

/-- A shift either leads to a run of capitals, or its own run has no letters or numbers. -/
theorem isCapital_image : (upperShifts.all fun shift =>
    decide (0 ≤ shift.run.first + shift.distance) &&
      (shift.image.isCapital ||
        areApart [(shift.run.first, shift.run.last)] alphanumericRanges)) = true := by
  decide +kernel

/-- An expansion starts with a capital. -/
theorem isCapital_expansion : (upperExpansions.all fun entry =>
    entry.2.head?.any fun c => Run.isCapital ⟨c.toNat, c.toNat, 1⟩) = true := by
  decide +kernel

/-- Every letter or number is a character. -/
theorem isValidChar_of_covers {point : Nat} (covered : covers alphanumericRanges point = true) :
    point.isValidChar := by
  have valid : ∀ range ∈ alphanumericRanges,
      range.2 < 0xD800 ∨ 0xDFFF < range.1 ∧ range.2 < 0x110000 := by decide +kernel
  obtain ⟨range, member, low, high⟩ := exists_range_of_covers covered
  have inRange := valid range member
  rw [Nat.isValidChar]
  omega

theorem Run.covers_of_isCapital {run : Run} (capital : run.isCapital = true) {point : Nat}
    (contained : run.contains point = true) : covers alphanumericRanges point = true := by
  simp only [isCapital, Bool.and_eq_true, Bool.or_eq_true] at capital
  obtain ⟨low, high, _⟩ := contains_iff.mp contained
  rcases capital.1.1 with whole | every
  · exact covers_of_coversBetween low high whole
  · exact List.all_eq_true.mp every point (mem_points contained)

/-- The characters of a run of capitals are their own upper-case forms. -/
theorem Run.upperChar_of_isCapital {run : Run} (capital : run.isCapital = true) {c : Char}
    (contained : run.contains c.toNat = true) : upperChar c = [c] := by
  simp only [isCapital, Bool.and_eq_true] at capital
  have shifted : shift? upperShifts c = none := by
    rw [shift?, findRun_of_isApartFrom capital.1.2 contained, Option.map_none]
  have expanded : upperExpansions.lookup c = none := by
    rw [List.lookup_eq_none_iff]
    intro entry member
    have outside := List.all_eq_true.mp capital.2 entry member
    simp only [Bool.or_eq_true, Nat.blt_eq] at outside
    rw [bne_iff_ne]
    rintro rfl
    obtain ⟨low, high, _⟩ := contains_iff.mp contained
    omega
  rw [upperChar, mapCase, shifted, expanded, Option.getD_none]

/-- A shift leads a letter or a number to a capital. -/
theorem isCapital_of_shift? {c image : Char} (alphanumeric : isAlphanumeric c = true)
    (shifted : shift? upperShifts c = some image) :
    isAlphanumeric image = true ∧ upperChar image = [image] := by
  obtain ⟨shift, found, rfl⟩ := Option.map_eq_some_iff.mp shifted
  obtain ⟨member, contained⟩ := mem_of_findRun found
  have led := List.all_eq_true.mp isCapital_image shift member
  simp only [Bool.and_eq_true, decide_eq_true_eq, Bool.or_eq_true] at led
  obtain ⟨whole, capital | apart⟩ := led
  · have inImage := shift.contains_image whole contained
    have covered := Run.covers_of_isCapital capital inImage
    have code := toNat_ofNat_of_isValidChar (isValidChar_of_covers covered)
    constructor
    · rwa [isAlphanumeric, code]
    · exact Run.upperChar_of_isCapital capital (by rwa [code])
  · have inRun : covers [(shift.run.first, shift.run.last)] c.toNat = true := by
      obtain ⟨low, high, _⟩ := Run.contains_iff.mp contained
      rw [covers, if_pos high, decide_eq_true low]
    have outside := covers_eq_false_of_areApart apart inRun
    rw [isAlphanumeric, outside] at alphanumeric
    cases alphanumeric

/-- What upper-casing makes of a letter or a number starts with a letter or a number that is its own
upper-case form. -/
theorem exists_cons_of_upperChar {c : Char} (alphanumeric : isAlphanumeric c = true) :
    ∃ d rest, upperChar c = d :: rest ∧ isAlphanumeric d = true ∧ upperChar d = [d] := by
  rcases mapCase_cases upperShifts upperExpansions c with
    ⟨image, shifted, upper⟩ | ⟨images, listed, upper⟩ | same
  · exact ⟨image, [], upper, isCapital_of_shift? alphanumeric shifted⟩
  · have started := List.all_eq_true.mp isCapital_expansion _ listed
    obtain ⟨d, head, capital⟩ := Option.any_eq_true _ _ |>.mp started
    obtain ⟨rest, rfl⟩ := List.head?_eq_some_iff.mp head
    have inRun : (⟨d.toNat, d.toNat, 1⟩ : Run).contains d.toNat = true := by
      simp [Run.contains]
    exact ⟨d, rest, upper, Run.covers_of_isCapital capital inRun,
      Run.upperChar_of_isCapital capital inRun⟩
  · exact ⟨c, [], same, alphanumeric, same⟩

/-- What upper-casing makes of a word character starts with a word character that is its own
upper-case form. -/
theorem exists_cons_of_isWordChar {c : Char} (word : isWordChar c = true) :
    ∃ d rest, upperChar c = d :: rest ∧ isWordChar d = true ∧ upperChar d = [d] := by
  rw [isWordChar, Bool.or_eq_true] at word
  rcases word with alphanumeric | underscore
  · obtain ⟨d, rest, upper, isAlphanumeric_d, settled⟩ := exists_cons_of_upperChar alphanumeric
    have isWordChar_d : isWordChar d = true := by rw [isWordChar, isAlphanumeric_d, Bool.true_or]
    exact ⟨d, rest, upper, isWordChar_d, settled⟩
  · obtain rfl := eq_of_beq underscore
    have same : upperChar '_' = ['_'] := by decide +kernel
    exact ⟨'_', [], same, by decide, same⟩

end HomeCatalog.Text
