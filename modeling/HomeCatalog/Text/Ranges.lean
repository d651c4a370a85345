/-!
# Sets of code points given by runs

Character properties are tables of runs of code points.  A run is written by its two ends,
or by its two ends and a step when only every second code point belongs to it.  Every table
is in ascending order and its runs do not overlap, so a search stops at the first run that
ends at or after the code point sought.
-/

namespace HomeCatalog.Text

/-- Whether `point` lies in one of the ascending `ranges`. -/
def covers : (ranges : List (Nat × Nat)) → (point : Nat) → Bool
  | [], _ => false
  | (first, last) :: rest, point =>
      if point ≤ last then decide (first ≤ point) else covers rest point

/-- The code points `first`, `first + step`, …, `last`. -/
structure Run where
  first : Nat
  last : Nat
  step : Nat
  deriving Repr, DecidableEq

/-- Whether `point` is one of the run's code points. -/
def Run.contains (run : Run) (point : Nat) : Bool :=
  run.first ≤ point && point ≤ run.last && (point - run.first) % run.step == 0

/-- The first of the ascending `entries` whose run ends at or after `point`, if that run
contains `point`. -/
def findRun {α : Type} (runOf : α → Run) : (entries : List α) → (point : Nat) → Option α
  | [], _ => none
  | entry :: rest, point =>
      if point ≤ (runOf entry).last then
        if (runOf entry).contains point then some entry else none
      else findRun runOf rest point

/-- What `findRun` finds is an entry of the table whose run contains the code point. -/
theorem mem_of_findRun {α : Type} {runOf : α → Run} {entries : List α} {point : Nat} {entry : α}
    (found : findRun runOf entries point = some entry) :
    entry ∈ entries ∧ (runOf entry).contains point = true := by
  induction entries with
  | nil => simp [findRun] at found
  | cons head rest ih =>
      rw [findRun] at found
      split at found
      · split at found
        · cases found
          exact ⟨by simp, by assumption⟩
        · cases found
      · exact ⟨List.mem_cons_of_mem _ (ih found).1, (ih found).2⟩

/-- A covered code point lies between the ends of one of the ranges. -/
theorem exists_range_of_covers {ranges : List (Nat × Nat)} {point : Nat}
    (covered : covers ranges point = true) :
    ∃ range ∈ ranges, range.1 ≤ point ∧ point ≤ range.2 := by
  induction ranges with
  | nil => simp [covers] at covered
  | cons head rest ih =>
      obtain ⟨first, last⟩ := head
      rw [covers] at covered
      split at covered
      · exact ⟨(first, last), by simp, by simpa using covered, by assumption⟩
      · obtain ⟨range, member, bounds⟩ := ih covered
        exact ⟨range, List.mem_cons_of_mem _ member, bounds⟩

end HomeCatalog.Text
