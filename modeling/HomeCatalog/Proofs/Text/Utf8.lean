import HomeCatalog.Text.Bytes

/-!
# Texts in files are read back

The bytes of a text stand for that text.  Reading a file changes only carriage returns.
-/

namespace HomeCatalog.Text

theorem decode?_encode (text : String) : decode? (encode text) = some text := by
  have same : (⟨(encode text).toArray⟩ : ByteArray) = text.toUTF8 := by
    simp [encode]
  have valid : text.toUTF8.IsValidUTF8 := text.isValidUTF8
  rw [decode?, same, String.fromUTF8?, dif_pos valid]
  rfl

/-- A text without carriage returns is read back from its file. -/
theorem ofFile?_encode {text : String} (plain : '\r' ∉ text.toList) :
    ofFile? (encode text) = some text := by
  rw [ofFile?, decode?_encode, Option.map_some, normalizeNewlines_eq_self plain,
    String.ofList_toList]

theorem return_notMem_normalizeNewlines (cs : List Char) : '\r' ∉ normalizeNewlines cs := by
  induction cs using normalizeNewlines.induct with
  | case1 => simp [normalizeNewlines]
  | case2 rest ih => simp [normalizeNewlines, ih]
  | case3 rest apart ih => simp [normalizeNewlines, ih]
  | case4 c rest _ apart ih =>
      rw [normalizeNewlines]
      · simp [ih, Ne.symm apart]
      all_goals assumption

/-- No carriage return is read from a file. -/
theorem return_notMem_ofFile? {bytes : List UInt8} {text : String}
    (found : ofFile? bytes = some text) : '\r' ∉ text.toList := by
  obtain ⟨raw, _, rfl⟩ := Option.map_eq_some_iff.mp found
  rw [String.toList_ofList]
  exact return_notMem_normalizeNewlines raw.toList

end HomeCatalog.Text
