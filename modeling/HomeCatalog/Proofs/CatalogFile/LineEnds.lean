import HomeCatalog.CatalogFile.Writer
import HomeCatalog.Proofs.Calendar.Stamp
import HomeCatalog.Proofs.Catalog.Texts

/-!
# Line ends in a written file

A line of a catalog file is a line as long as the names and references that go into it are: stamps
hold no line ends, and a quoted text holds no line feed.
-/

namespace HomeCatalog.CatalogFile

/-- Whether a character ends lines. -/
def IsLineEnd (c : Char) : Prop :=
  c = '\n' ∨ c = '\r'

/-- Whether a character stands in none of some texts. -/
def IsAbsent (c : Char) (texts : List String) : Prop :=
  ∀ text ∈ texts, c ∉ text.toList

instance (c : Char) (texts : List String) : Decidable (IsAbsent c texts) :=
  inferInstanceAs (Decidable (∀ text ∈ texts, c ∉ text.toList))

theorem isAbsent_append {c : Char} {left right : List String} :
    IsAbsent c (left ++ right) ↔ IsAbsent c left ∧ IsAbsent c right :=
  List.forall_mem_append

/-- A quoted text is one line. -/
theorem feed_notMem_quote (text : String) : '\n' ∉ (quote text).toList := by
  have escaped : ∀ c, '\n' ∉ escapeChar c := by
    intro c
    rw [escapeChar]
    split
    · decide
    · split
      · decide
      · split
        · decide
        · next apart => simpa using Ne.symm apart
  simp [quote, escaped]

theorem return_notMem_quote {text : String} (plain : '\r' ∉ text.toList) :
    '\r' ∉ (quote text).toList := by
  have escaped : ∀ c ∈ text.toList, '\r' ∉ escapeChar c := by
    intro c member
    have apart : '\r' ≠ c := fun same => plain (same ▸ member)
    rw [escapeChar]
    split
    · decide
    · split
      · decide
      · split
        · decide
        · simpa using apart
  simpa [quote] using escaped

variable {ending : Char}

theorem notMem_stamp (isEnding : IsLineEnd ending) {moment : Calendar.Moment} {stamp : String}
    (stamped : moment.stamp? = some stamp) : ending ∉ stamp.toList := by
  have unstampable : Calendar.isStampChar ending = false := by
    rcases isEnding with rfl | rfl <;> decide
  intro member
  have stampable := List.all_eq_true.mp (Calendar.all_isStampChar_stamp stamped) ending member
  rw [unstampable] at stampable
  cases stampable

theorem isAbsent_namingLines (isEnding : IsLineEnd ending) {identifier name swiftName : String}
    (plain : IsAbsent ending [identifier, name, swiftName]) :
    IsAbsent ending (namingLines identifier name swiftName) := by
  rcases isEnding with rfl | rfl <;>
    simpa [IsAbsent, namingLines] using plain

theorem isAbsent_remarkLines (isEnding : IsLineEnd ending) {documentation : Option String}
    (plain : ∀ text ∈ documentation, ending ∉ (quote text).toList) (deprecated : Bool) :
    IsAbsent ending (remarkLines documentation deprecated) := by
  unfold remarkLines
  rw [isAbsent_append]
  constructor
  · cases documentation with
    | none =>
        intro line member
        cases member
    | some text =>
        have quoted := plain text rfl
        rcases isEnding with rfl | rfl <;> simpa [IsAbsent] using quoted
  · rcases isEnding with rfl | rfl <;> cases deprecated <;> simp [IsAbsent]

theorem isAbsent_listLines (isEnding : IsLineEnd ending) {key : String} {names : List String}
    (keyPlain : ending ∉ key.toList) (plain : IsAbsent ending names) :
    IsAbsent ending (listLines key names) := by
  rw [listLines]
  split
  · intro line member
    cases member
  · rcases isEnding with rfl | rfl <;>
      simpa [IsAbsent, keyPlain] using plain

theorem isAbsent_serviceLines (isEnding : IsLineEnd ending) {service : Service}
    (names : IsAbsent ending service.names) (references : IsAbsent ending service.references)
    (documented : ∀ text ∈ service.documentation, ending ∉ (quote text).toList) :
    IsAbsent ending (serviceLines service) := by
  obtain ⟨required, optional⟩ : ending ∉ "requiredCharacteristics".toList ∧
      ending ∉ "optionalCharacteristics".toList := by
    rcases isEnding with rfl | rfl <;> decide
  obtain ⟨requiredPlain, optionalPlain⟩ := isAbsent_append.mp references
  simp only [serviceLines, isAbsent_append]
  exact ⟨⟨⟨⟨isAbsent_namingLines isEnding names,
    isAbsent_remarkLines isEnding documented service.deprecated⟩,
    isAbsent_listLines isEnding required requiredPlain⟩,
    isAbsent_listLines isEnding optional optionalPlain⟩, by simp [IsAbsent]⟩

theorem isAbsent_characteristicLines (isEnding : IsLineEnd ending)
    {characteristic : Characteristic} (names : IsAbsent ending characteristic.names)
    (documented : ∀ text ∈ characteristic.documentation, ending ∉ (quote text).toList) :
    IsAbsent ending (characteristicLines characteristic) := by
  have token : ending ∉ ("    valueType: " ++ characteristic.valueKind.token).toList := by
    rcases isEnding with rfl | rfl <;> cases characteristic.valueKind <;> decide
  simp only [characteristicLines, isAbsent_append]
  exact ⟨⟨⟨isAbsent_namingLines isEnding names, by simpa [IsAbsent] using token⟩,
    isAbsent_remarkLines isEnding documented characteristic.deprecated⟩, by simp [IsAbsent]⟩

/-- A character that ends lines stands in no line of a catalog file, if it stands in none of the
texts that go into it. -/
theorem isAbsent_linesOf (isEnding : IsLineEnd ending) {catalog : Catalog}
    {moment : Calendar.Moment} {stamp : String} (stamped : moment.stamp? = some stamp)
    (plain : IsAbsent ending (catalog.names ++ catalog.references))
    (documented : ∀ text ∈ catalog.documentations, ending ∉ (quote text).toList) :
    IsAbsent ending (linesOf stamp catalog) := by
  obtain ⟨names, references⟩ := isAbsent_append.mp plain
  obtain ⟨serviceNames, characteristicNames⟩ := Catalog.forall_mem_names.mp names
  have serviceReferences := Catalog.forall_mem_references.mp references
  obtain ⟨serviceTexts, characteristicTexts⟩ := List.forall_mem_append.mp documented
  have stampPlain := notMem_stamp isEnding stamped
  have header : IsAbsent ending (headerLines stamp) := by
      rcases isEnding with rfl | rfl <;> simpa [IsAbsent, headerLines] using stampPlain
  obtain ⟨first, second⟩ : IsAbsent ending ["", "services:"] ∧
      IsAbsent ending ["characteristics:"] := by
    rcases isEnding with rfl | rfl <;> decide
  simp only [linesOf, isAbsent_append]
  refine ⟨⟨⟨⟨header, first⟩, ?_⟩, second⟩, ?_⟩
  · refine List.forall_mem_flatMap.mpr ?_
    intro service member
    have known := Catalog.mem_sortedServices.mp member
    exact isAbsent_serviceLines isEnding (serviceNames service known)
      (serviceReferences service known)
      fun text described => serviceTexts text (List.mem_filterMap.mpr ⟨service, known, described⟩)
  · refine List.forall_mem_flatMap.mpr ?_
    intro characteristic member
    have known := Catalog.mem_sortedCharacteristics.mp member
    exact isAbsent_characteristicLines isEnding (characteristicNames characteristic known)
      fun text described =>
        characteristicTexts text (List.mem_filterMap.mpr ⟨characteristic, known, described⟩)

end HomeCatalog.CatalogFile
