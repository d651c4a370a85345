import HomeCatalog.Bindings.Generation
import HomeCatalog.Proofs.CatalogFile.Reading
import HomeCatalog.Proofs.CatalogFile.Storage
import HomeCatalog.Proofs.Calendar.Instants
import HomeCatalog.Proofs.Entries
import HomeCatalog.Proofs.Text.Spacing

/-!
# The line of the stamp

The moment at which a catalog is written or rendered shows in one line of each text, behind a label.
No name, no path and no finding depends on it, and neither does any other line, whatever texts the
catalog holds.
-/

namespace HomeCatalog

/-- Whether two texts have the same lines, apart from the one behind a number of lines. -/
def AgreeApartFromLine (number : Nat) (left right : String) : Prop :=
  ∃ before line line' after, before.length = number ∧
    Text.lines left.toList = before ++ line :: after ∧
    Text.lines right.toList = before ++ line' :: after

/-- Two texts without line feeds, between the same texts, show in one line. -/
theorem exists_lines_around {piece piece' : List Char} (oneLine : '\n' ∉ piece)
    (oneLine' : '\n' ∉ piece') (before after : List Char) :
    ∃ earlier line line' later, earlier.length = before.count '\n' ∧
      Text.lines (before ++ (piece ++ after)) = earlier ++ line :: later ∧
      Text.lines (before ++ (piece' ++ after)) = earlier ++ line' :: later := by
  obtain ⟨earlier, last, _, _, above, behind, whole⟩ := Text.lines_append before (piece ++ after)
  obtain ⟨_, _, _, _, above', behind', whole'⟩ := Text.lines_append before (piece' ++ after)
  obtain ⟨_, later, closing, head⟩ := Text.splitOn_append_of_absent_left oneLine after
  obtain ⟨_, _, closing', head'⟩ := Text.splitOn_append_of_absent_left oneLine' after
  -- The lines above the two are the same, and so are the lines below.
  obtain ⟨rfl, _⟩ := List.append_inj' (above.symm.trans above') rfl
  obtain ⟨_, rfl⟩ := List.cons.inj (closing.symm.trans closing')
  obtain ⟨_, rfl⟩ := List.cons.inj (behind.symm.trans head)
  obtain ⟨_, rfl⟩ := List.cons.inj (behind'.symm.trans head')
  have count := Text.length_splitOn '\n' before
  rw [← Text.lines, above, List.length_append, List.length_singleton] at count
  exact ⟨earlier, _, _, _, Nat.succ.inj count, whole, whole'⟩

section

variable {first second : Calendar.Moment} {stamp stamp' : String}

/-- Texts with their stamps at one place agree apart from the line of that place. -/
theorem agreeApartFromLine (stamped : first.stamp? = some stamp)
    (stamped' : second.stamp? = some stamp') {number : Nat} {before : String}
    (place : before.toList.count '\n' = number) (after : String) :
    AgreeApartFromLine number (before ++ stamp ++ after) (before ++ stamp' ++ after) := by
  have oneLine : ∀ {moment : Calendar.Moment} {stamp : String}, moment.stamp? = some stamp →
      '\n' ∉ stamp.toList := by
    intro moment stamp stamped member
    exact absurd (List.all_eq_true.mp (Calendar.all_isStampChar_stamp stamped) _ member) (by decide)
  simp only [AgreeApartFromLine, String.toList_append, List.append_assoc, ← place]
  exact exists_lines_around (oneLine stamped) (oneLine stamped') before.toList after.toList

/-- The lines of a catalog file agree apart from the third. -/
theorem CatalogFile.agreeApartFromLine_linesOf (stamped : first.stamp? = some stamp)
    (stamped' : second.stamp? = some stamp') (catalog : Catalog) :
    AgreeApartFromLine 2 (unlines (linesOf stamp catalog)) (unlines (linesOf stamp' catalog)) := by
  have shape : ∀ stamp, unlines (linesOf stamp catalog) =
      ("# HomeKit Services and Characteristics Catalog" ++ "\n" ++
        ("# Auto-generated from iOS SDK headers" ++ "\n") ++ "# Generated: ") ++ stamp ++
        ("\n" ++ unlines (["", "services:"] ++ catalog.sortedServices.flatMap serviceLines ++
          ["characteristics:"] ++ catalog.sortedCharacteristics.flatMap characteristicLines)) := by
    intro stamp
    apply String.toList_injective
    simp only [linesOf, headerLines, toList_unlines, String.toList_append, List.append_assoc,
      List.cons_append, List.nil_append, List.flatMap_cons]
    rfl
  rw [shape, shape]
  exact agreeApartFromLine stamped stamped' (by decide) _

namespace Bindings

theorem Swift.agreeApartFromLine_text (stamped : first.stamp? = some stamp)
    (stamped' : second.stamp? = some stamp') (source : Swift.Source) :
    AgreeApartFromLine 1 (source.text stamp) (source.text stamp') := by
  have shape : ∀ stamp, source.text stamp =
      "// AUTO-GENERATED BY HomeKitServiceGenerator -- DO NOT EDIT\n" ++ "// Generated on " ++ stamp ++
        ("\n\nimport Foundation\n\n" ++ frameworkImport ++ source.body) := by
    intro stamp
    delta Swift.Source.text Swift.header
    simp only [String.append_assoc]
  rw [shape, shape]
  exact agreeApartFromLine stamped stamped' (by decide) _

theorem TypeScript.agreeApartFromLine_text (stamped : first.stamp? = some stamp)
    (stamped' : second.stamp? = some stamp') (source : TypeScript.Source) :
    AgreeApartFromLine 1 (source.text stamp) (source.text stamp') := by
  have shape : ∀ stamp, source.text stamp =
      "// This file is auto-generated. Do not edit manually.\n" ++ "// Generated: " ++ stamp ++
        ("\n" ++ "// Generator: HomeKitServiceGenerator (TypeScript)\n\n" ++ source.body) := by
    intro stamp
    delta TypeScript.Source.text TypeScript.header
    simp only [String.append_assoc]
  rw [shape, shape]
  exact agreeApartFromLine stamped stamped' (by decide) _

/-- Two files that were made at different moments: they have one path, and their texts agree apart
from the second line. -/
def IsSameFile (left right : String × String) : Prop :=
  left.1 = right.1 ∧ AgreeApartFromLine 1 left.2 right.2

/-- Sources that are written with either stamp are the same files if their texts agree. -/
theorem forall₂_isSameFile {α : Type} (sources : List (String × α)) {text text' : α → String}
    (agree : ∀ source, AgreeApartFromLine 1 (text source) (text' source)) :
    List.Forall₂ IsSameFile (Entries.ofPairs (sources.map (Prod.map id text)))
      (Entries.ofPairs (sources.map (Prod.map id text'))) := by
  rw [Entries.ofPairs_map, Entries.ofPairs_map, List.forall₂_map_left_iff,
    List.forall₂_map_right_iff, List.forall₂_same]
  exact fun entry _ => ⟨rfl, agree entry.2⟩

/-- The files of a target language, at whatever moment, are the same sources under the same paths. -/
theorem forall₂_files (stamped : first.stamp? = some stamp)
    (stamped' : second.stamp? = some stamp') (target : Target) (catalog : Catalog) :
    List.Forall₂ IsSameFile (files target stamp catalog) (files target stamp' catalog) := by
  cases target with
  | swift => exact forall₂_isSameFile _ (Swift.agreeApartFromLine_text stamped stamped')
  | typeScript => exact forall₂_isSameFile _ (TypeScript.agreeApartFromLine_text stamped stamped')

end Bindings

end

/-- At two moments whose instants lie in the years 1 to 9999 a catalog is written to texts that agree
apart from the third line, unless it cannot be written, which then fails alike.  In either language
the same files are rendered, in the same order, and their texts agree apart from the second line; the
findings are the same. -/
theorem stamp_shows_in_one_line {first second : Calendar.Moment} (inRange : first.IsInRange)
    (inRange' : second.IsInRange) (catalog : Catalog) :
    ((∃ failure, CatalogFile.write first catalog = .error (.failure failure) ∧
        CatalogFile.write second catalog = .error (.failure failure)) ∨
      ∃ left right, CatalogFile.write first catalog = .ok left ∧
        CatalogFile.write second catalog = .ok right ∧ AgreeApartFromLine 2 left right) ∧
    ∀ target, ∃ left right, Bindings.render target first catalog = .ok left ∧
      Bindings.render target second catalog = .ok right ∧
      List.Forall₂ Bindings.IsSameFile left.files right.files ∧ left.findings = right.findings := by
  obtain ⟨stamp, stamped⟩ := inRange.exists_stamp
  obtain ⟨stamp', stamped'⟩ := inRange'.exists_stamp
  constructor
  · rw [CatalogFile.write_eq_of_stamp stamped, CatalogFile.write_eq_of_stamp stamped']
    cases CatalogFile.failure? catalog with
    | some failure => exact Or.inl ⟨failure, rfl, rfl⟩
    | none =>
        refine Or.inr ⟨_, _, rfl, rfl, ?_⟩
        exact CatalogFile.agreeApartFromLine_linesOf stamped stamped' catalog
  · intro target
    simp only [Bindings.render, stamped, stamped']
    exact ⟨_, _, rfl, rfl, Bindings.forall₂_files stamped stamped' target catalog, rfl⟩

/-- A catalog whose texts run over several lines. -/
def unfoldedCatalog : Catalog where
  services := [
    ⟨"HMServiceTypeFan", "Fan\n# Generated: never", "fan", some "Turns\nand turns.", false,
      ["Speed\n"], []⟩]
  characteristics := [
    ⟨"HMCharacteristicTypeSpeed", "Speed\n", "speed", .floating, some "In\npercent.", true⟩]

/-- Its texts from the last second of one year and the second hour of the next differ in the line of
the stamp. -/
theorem unfoldedCatalog_stamp_lines :
    let eve : Calendar.Moment := ⟨⟨⟨2023, 12, 31⟩, 23, 59, 59⟩, 999999, none⟩
    let day : Calendar.Moment := ⟨⟨⟨2024, 1, 1⟩, 1, 0, 0⟩, 0, some (-3600)⟩
    eve.stamp? ≠ day.stamp? ∧
      (∃ left right, CatalogFile.write eve unfoldedCatalog = .ok left ∧
        CatalogFile.write day unfoldedCatalog = .ok right ∧ AgreeApartFromLine 2 left right) ∧
      ∀ target, ∃ left right, Bindings.render target eve unfoldedCatalog = .ok left ∧
        Bindings.render target day unfoldedCatalog = .ok right ∧
        List.Forall₂ Bindings.IsSameFile left.files right.files ∧
        left.findings = right.findings := by
  intro eve day
  have inRange : eve.IsInRange := by decide
  have inRange' : day.IsInRange := by decide
  obtain ⟨written, rendered⟩ := stamp_shows_in_one_line inRange inRange' unfoldedCatalog
  refine ⟨by decide +kernel, ?_, rendered⟩
  rcases written with ⟨failure, failed, _⟩ | written
  · obtain ⟨stamp, stamped⟩ := inRange.exists_stamp
    rw [CatalogFile.write_eq_of_stamp stamped,
      show CatalogFile.failure? unfoldedCatalog = none by decide +kernel] at failed
    cases failed
  · exact written

end HomeCatalog
