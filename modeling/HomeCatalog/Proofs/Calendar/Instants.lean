import HomeCatalog.Proofs.Calendar.Dates
import HomeCatalog.Proofs.Calendar.Stamp

/-!
# Stamps of instants

An instant is written as the civil time in universal time at the start of its second.  Every second
of the years 1 to 9999 is that of one civil time of the calendar, so a stamp tells the second, and the
instants outside of these years are just those without a stamp.  A local time without an offset has
no instant and is written as it stands.
-/

namespace HomeCatalog.Calendar

/-! ## Seconds and civil times -/

theorem Civil.isValid_iff {civil : Civil} :
    civil.isValid = true ↔ civil.date.IsProper ∧ civil.date.year ≤ 9999 ∧ civil.hour < 24 ∧
      civil.minute < 60 ∧ civil.second < 60 := by
  simp only [isValid, Bool.and_eq_true, decide_eq_true_eq]
  constructor
  · rintro ⟨⟨⟨⟨⟨⟨⟨year, upTo⟩, month⟩, day⟩, day_le⟩, hour⟩, minute⟩, second⟩
    exact ⟨⟨year, month, day, day_le⟩, upTo, hour, minute, second⟩
  · rintro ⟨⟨year, month, day, day_le⟩, upTo, hour, minute, second⟩
    exact ⟨⟨⟨⟨⟨⟨⟨year, upTo⟩, month⟩, day⟩, day_le⟩, hour⟩, minute⟩, second⟩

/-- The last day of the year 9999 is the one before the next year. -/
theorem daysBeforeYear_lastYear : daysBeforeYear (9999 + 1) = lastOrdinal := by
  decide

/-- A number of seconds from the first day on is that of a civil time. -/
theorem Civil.seconds_ofSeconds {seconds : Nat} (fromFirst : 86400 ≤ seconds) :
    (ofSeconds seconds).seconds = seconds := by
  have positive : 1 ≤ seconds / 86400 := by omega
  obtain ⟨_, ordinal⟩ := Date.isProper_ofOrdinal positive
  simp only [Civil.seconds, ofSeconds, ordinal]
  omega

theorem Civil.isValid_ofSeconds {seconds : Nat} (fromFirst : 86400 ≤ seconds)
    (upToLast : seconds < (lastOrdinal + 1) * 86400) : (ofSeconds seconds).isValid = true := by
  have positive : 1 ≤ seconds / 86400 := by omega
  obtain ⟨proper, ordinal⟩ := Date.isProper_ofOrdinal positive
  have year : (Date.ofOrdinal (seconds / 86400)).year ≤ 9999 := by
    rw [proper.year_le_iff, ordinal, daysBeforeYear_lastYear]
    omega
  rw [isValid_iff]
  refine ⟨proper, year, ?_, ?_, ?_⟩
  · exact Nat.div_lt_of_lt_mul (Nat.mod_lt _ (by decide))
  · exact Nat.div_lt_of_lt_mul (Nat.mod_lt _ (by decide))
  · exact Nat.mod_lt _ (by decide)

/-- The seconds of a civil time lie in the years 1 to 9999, and the civil time is found again from
them. -/
theorem Civil.ofSeconds_seconds {civil : Civil} (valid : civil.isValid = true) :
    86400 ≤ civil.seconds ∧ civil.seconds < (lastOrdinal + 1) * 86400 ∧
      ofSeconds civil.seconds = civil := by
  obtain ⟨proper, year, hour, minute, second⟩ := isValid_iff.mp valid
  have positive : 1 ≤ civil.date.ordinal := by
    rw [proper.ordinal_eq]
    exact Nat.le_add_left 1 _
  have last : civil.date.ordinal ≤ lastOrdinal := by
    rwa [proper.year_le_iff, daysBeforeYear_lastYear] at year
  have days : civil.seconds / 86400 = civil.date.ordinal := by
    rw [Civil.seconds]
    omega
  have inDay : civil.seconds % 86400 = civil.hour * 3600 + civil.minute * 60 + civil.second := by
    rw [Civil.seconds]
    omega
  refine ⟨by omega, by omega, ?_⟩
  rw [ofSeconds, days, inDay, proper.ofOrdinal_ordinal]
  obtain ⟨date, _, _, _⟩ := civil
  simp only [mk.injEq, true_and] at hour minute second ⊢
  omega

/-! ## Instants -/

/-- The instant at which a year starts in universal time. -/
def yearStart (year : Nat) : Int :=
  Civil.instant ⟨⟨year, 1, 1⟩, 0, 0, 0⟩ 0 0

/-- The civil time at an instant is the one of the calendar with as many seconds, rounded down. -/
theorem universalAt?_eq_some_iff {instant : Int} {civil : Civil} :
    universalAt? instant = some civil ↔
      civil.isValid = true ∧ (civil.seconds : Int) = instant / 1000000 := by
  simp only [universalAt?, Bool.and_eq_true, decide_eq_true_eq]
  constructor
  · intro found
    obtain ⟨⟨fromFirst, upToLast⟩, same⟩ := Option.ite_none_right_eq_some.mp found
    obtain ⟨seconds, shape⟩ := Int.eq_ofNat_of_zero_le (a := instant / 1000000) (by omega)
    rw [shape, Int.toNat_natCast] at same
    obtain rfl := Option.some.inj same
    rw [shape, Civil.seconds_ofSeconds (by omega)]
    exact ⟨Civil.isValid_ofSeconds (by omega) (by omega), rfl⟩
  · rintro ⟨valid, seconds⟩
    obtain ⟨fromFirst, upToLast, found⟩ := Civil.ofSeconds_seconds valid
    rw [← seconds, if_pos ⟨by omega, by omega⟩, Int.toNat_natCast, found]

/-- An instant has no civil time exactly outside the years 1 to 9999. -/
theorem universalAt?_eq_none_iff {instant : Int} :
    universalAt? instant = none ↔ instant < yearStart 1 ∨ yearStart 10000 ≤ instant := by
  have first : yearStart 1 = 86400 * 1000000 := by decide
  have last : yearStart 10000 = (lastOrdinal + 1) * 86400 * 1000000 := by decide
  simp only [universalAt?, Bool.and_eq_true, decide_eq_true_eq, ite_eq_right_iff, reduceCtorEq,
    imp_false, first, last]
  omega

/-- Whether the instant of a moment lies in the years 1 to 9999. -/
def Moment.IsInRange (moment : Moment) : Prop :=
  ∀ instant ∈ moment.instant?, yearStart 1 ≤ instant ∧ instant < yearStart 10000

instance (moment : Moment) : Decidable moment.IsInRange :=
  inferInstanceAs (Decidable (∀ instant ∈ moment.instant?, _))

/-! ## Stamps -/

/-- Whether a stamp shows the second of an instant: the fields that are read back from it are a civil
time of the calendar, which has as many seconds in universal time as the instant, rounded down. -/
def Shows (stamp : String) (instant : Int) : Prop :=
  ∃ civil : Civil, Civil.ofStamp? stamp = some civil ∧ civil.stamp = stamp ∧
    civil.isValid = true ∧ (civil.seconds : Int) = instant / 1000000

theorem stampAt?_eq_some_iff {instant : Int} {stamp : String} :
    stampAt? instant = some stamp ↔ Shows stamp instant := by
  rw [stampAt?, Option.map_eq_some_iff]
  constructor
  · rintro ⟨civil, found, rfl⟩
    obtain ⟨valid, seconds⟩ := universalAt?_eq_some_iff.mp found
    exact ⟨civil, civil.ofStamp?_stamp, rfl, valid, seconds⟩
  · rintro ⟨civil, _, written, valid, seconds⟩
    exact ⟨civil, universalAt?_eq_some_iff.mpr ⟨valid, seconds⟩, written⟩

/-- Instants have one stamp exactly if they fall in one second. -/
theorem stampAt?_eq_iff {instant other : Int} {stamp : String}
    (stamped : stampAt? instant = some stamp) :
    stampAt? other = some stamp ↔ other / 1000000 = instant / 1000000 := by
  obtain ⟨civil, read, written, valid, seconds⟩ := stampAt?_eq_some_iff.mp stamped
  rw [stampAt?_eq_some_iff]
  constructor
  · rintro ⟨civil', read', _, _, seconds'⟩
    obtain rfl : civil = civil' := Option.some.inj (read.symm.trans read')
    rw [← seconds, ← seconds']
  · intro sameSecond
    exact ⟨civil, read, written, valid, seconds.trans sameSecond.symm⟩

theorem Moment.stamp?_eq (moment : Moment) :
    moment.stamp? = match moment.instant? with
      | none => some moment.civil.stamp
      | some instant => stampAt? instant := by
  rw [stamp?, universal?]
  cases moment.instant? with
  | none => rfl
  | some instant => rfl

theorem stampAt?_eq_none_iff {instant : Int} :
    stampAt? instant = none ↔ instant < yearStart 1 ∨ yearStart 10000 ≤ instant := by
  rw [stampAt?, Option.map_eq_none_iff, universalAt?_eq_none_iff]

/-- A moment whose instant lies in the years 1 to 9999 has a stamp. -/
theorem Moment.IsInRange.exists_stamp {moment : Moment} (inRange : moment.IsInRange) :
    ∃ stamp, moment.stamp? = some stamp := by
  rw [← Option.ne_none_iff_exists', moment.stamp?_eq]
  cases found : moment.instant? with
  | none => exact Option.some_ne_none _
  | some instant =>
      obtain ⟨fromFirst, upToLast⟩ := inRange instant found
      dsimp only
      rw [ne_eq, stampAt?_eq_none_iff]
      omega

/-- A moment without an offset is written as it stands, and one with an offset has the stamp of its
instant.  Whatever a local time and its offset are, to the microsecond: its instant has no stamp
exactly outside the years 1 to 9999, its stamp shows its second, and the instants with the same stamp
are those of the same second. -/
theorem stamp_tells_second :
    (∀ moment : Moment, moment.stamp? =
      match moment.instant? with
      | none => some moment.civil.stamp
      | some instant => stampAt? instant) ∧
    ∀ (civil : Civil) (microsecond : Nat) (offset : Int),
      let instant := civil.instant microsecond offset
      (stampAt? instant = none ↔ instant < yearStart 1 ∨ yearStart 10000 ≤ instant) ∧
      ∀ stamp ∈ stampAt? instant, Shows stamp instant ∧
        ∀ other, stampAt? other = some stamp ↔ other / 1000000 = instant / 1000000 := by
  constructor
  · exact Moment.stamp?_eq
  · intro civil microsecond offset instant
    refine ⟨stampAt?_eq_none_iff, ?_⟩
    intro stamp stamped
    exact ⟨stampAt?_eq_some_iff.mp stamped, fun other => stampAt?_eq_iff stamped⟩

/-- Half an hour behind universal time the leap day starts early, and a microsecond ahead of it the
calendar has not started yet. -/
theorem stamp_leapDay_and_firstDay :
    let moment : Moment := ⟨⟨⟨2024, 2, 28⟩, 23, 30, 0⟩, 999999, some (-1800)⟩
    let instant := moment.civil.instant 999999 (-1800 * 1000000)
    let first : Civil := ⟨⟨1, 1, 1⟩, 0, 0, 0⟩
    moment.stamp? = some "2024-02-29T00:00:00Z" ∧ Shows "2024-02-29T00:00:00Z" instant ∧
      stampAt? (instant + 1) ≠ some "2024-02-29T00:00:00Z" ∧
      stampAt? (first.instant 0 0) = some "1-01-01T00:00:00Z" ∧
      stampAt? (first.instant 0 1) = none := by
  intro moment instant first
  have stamped : stampAt? instant = some "2024-02-29T00:00:00Z" := by decide +kernel
  obtain ⟨written, told⟩ := stamp_tells_second
  obtain ⟨_, shown⟩ := told moment.civil 999999 (-1800 * 1000000)
  obtain ⟨visible, same⟩ := shown _ stamped
  refine ⟨(written moment).trans stamped, visible, ?_, by decide +kernel, ?_⟩
  · rw [ne_eq, same]
    decide +kernel
  · exact (told first 0 1).1.mpr (Or.inl (by decide))

end HomeCatalog.Calendar
