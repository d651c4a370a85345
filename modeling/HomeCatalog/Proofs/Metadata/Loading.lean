import HomeCatalog.Extraction.Reading

/-!
# What loading metadata comes to

Metadata is loaded, or cannot be loaded for a reason that a catalog can do without, or breaks down.
The reader of a document may break down, on a well-formed one too.  Where it does not, there is one
reason left for a breakdown: a valid record of a characteristic under an integer that is too long to
be written.
-/

namespace HomeCatalog.Metadata

open Document

/-! ## Keys that cannot be written -/

/-- Whether a key is an integer with more digits than can be written. -/
def IsTooLong (key : Scalar) : Prop :=
  ∃ value, key = .integer value ∧
    Decimal.longestInteger < (Nat.toDigits 10 value.natAbs).length

theorem isTooLong_iff {key : Scalar} : IsTooLong key ↔ key.written? = none := by
  constructor
  · rintro ⟨value, rfl, long⟩
    simp [Scalar.written?, integerText?, long]
  · intro unwritten
    cases key with
    | integer value =>
        rw [Scalar.written?, Option.map_eq_none_iff, integerText?] at unwritten
        split at unwritten
        · next long => exact ⟨value, rfl, long⟩
        · cases unwritten
    | _ => simp [Scalar.written?] at unwritten

/-- The keys of all valid records can be written, or reading them breaks down for that reason. -/
theorem keyedRecords_cases (characteristics : List (Scalar × Value)) :
    (∃ records, keyedRecords characteristics = .ok records ∧
        ∀ entry ∈ validRecords characteristics, ¬IsTooLong entry.1) ∨
      (keyedRecords characteristics = .error .integerTooLong ∧
        ∃ entry ∈ validRecords characteristics, IsTooLong entry.1) := by
  rw [keyedRecords]
  induction validRecords characteristics with
  | nil => exact Or.inl ⟨[], rfl, by simp⟩
  | cons entry rest ih =>
      obtain ⟨key, record⟩ := entry
      cases written : key.written? with
      -- The first key that cannot be written ends the reading, whatever the rest is.
      | none =>
          right
          refine ⟨?_, _, List.mem_cons_self, isTooLong_iff.mpr written⟩
          simp only [List.mapM_cons, written]
          rfl
      | some text =>
          have short : ¬IsTooLong key := by
            rw [isTooLong_iff, written]
            simp
          rcases ih with ⟨records, read, every⟩ | ⟨broken, entry, member, long⟩
          · left
            refine ⟨⟨text, record⟩ :: records, ?_, List.forall_mem_cons.mpr ⟨short, every⟩⟩
            simp only [List.mapM_cons, written, read]
            rfl
          · right
            refine ⟨?_, entry, List.mem_cons_of_mem _ member, long⟩
            simp only [List.mapM_cons, written, broken]
            rfl

/-! ## Documents -/

variable {tree : FileTree} {path : Path}

/-- Whether the file at a path is no document, or one that is parsed or found malformed: its reader
does not break down. -/
def IsReadOrRefused (tree : FileTree) (path : Path) : Prop :=
  ∀ bytes reason, tree.readBytes path = .ok bytes → parse path bytes ≠ .error (.breakdown reason)

/-- Whether a document is well-formed, but one of its valid records of characteristics has a key
that is too long. -/
inductive HasLongKey (tree : FileTree) (path : Path) : Prop where
  | intro {bytes : List UInt8} {root : Value} {services characteristics : List (Scalar × Value)}
      {entry : Scalar × CharacteristicRecord} (read : tree.readBytes path = .ok bytes)
      (parsed : parse path bytes = .ok root)
      (sections : sections? root = some (services, characteristics))
      (valid : entry ∈ validRecords characteristics) (long : IsTooLong entry.1) :
      HasLongKey tree path

theorem isFile_of_readBytes {bytes : List UInt8} (read : tree.readBytes path = .ok bytes) :
    tree.isFile path = .ok true := by
  rw [FileTree.readBytes] at read
  split at read
  · next found => simp [FileTree.isFile, FileTree.answer, found]
  · cases read
  · cases read

theorem load_of_readBytes {bytes : List UInt8} (read : tree.readBytes path = .ok bytes) :
    load tree path = ((parse path bytes).mapError (problemOf path) >>= ofValue path) := by
  have known : ∀ next : List UInt8 → Except Problem Relationships,
      ((Except.ok bytes : Except FileError (List UInt8)).mapError Problem.file >>= next) =
        next bytes :=
    fun _ => rfl
  rw [load, isFile_of_readBytes read, read]
  exact known _

/-- Only a mapping has sections. -/
theorem isSome_entries?_of_sections? {root : Value}
    {sections : List (Scalar × Value) × List (Scalar × Value)}
    (found : sections? root = some sections) : root.entries?.isNone = false := by
  cases entries : root.entries? with
  | none =>
      have absent : root.get? "PlistDictionary" = none := by
        rw [Value.get?, entries]
        rfl
      rw [sections?, sectionPath, List.foldlM_cons, absent] at found
      cases found
  | some _ => rfl

/-- The sections of a document are read whole, or a key breaks them down. -/
theorem ofValue_of_sections? {root : Value} {services characteristics : List (Scalar × Value)}
    (found : sections? root = some (services, characteristics)) :
    ofValue path root =
      (Relationships.ofSections services characteristics).mapError .breakdown := by
  rw [ofValue, isSome_entries?_of_sections? found, found]
  rfl

/-- A document with a key that is too long breaks down. -/
theorem HasLongKey.load_eq (long : HasLongKey tree path) :
    load tree path = .error (.breakdown .integerTooLong) := by
  obtain ⟨read, parsed, sections, valid, long⟩ := long
  rw [load_of_readBytes read, parsed]
  change ofValue path _ = _
  rw [ofValue_of_sections? sections, Relationships.ofSections]
  rcases keyedRecords_cases _ with ⟨_, _, every⟩ | ⟨broken, _⟩
  · exact absurd long (every _ valid)
  · rw [broken]
    rfl

/-- Where the document is read without a breakdown, a catalog can do without metadata that is not
loaded, unless one of its keys is too long. -/
theorem isDispensable_of_load (sound : IsReadOrRefused tree path) {problem : Problem}
    (failed : load tree path = .error problem) :
    Extraction.isDispensable problem = true ∨ HasLongKey tree path := by
  cases read : tree.readBytes path with
  | error error =>
      left
      rw [load, read] at failed
      cases asked : tree.isFile path with
      | error refused =>
          rw [asked] at failed
          cases failed
          rfl
      | ok isFile =>
          rw [asked] at failed
          cases isFile with
          | false =>
              cases failed
              rfl
          | true =>
              cases failed
              rfl
  | ok bytes =>
      rw [load_of_readBytes read] at failed
      cases parsed : parse path bytes with
      | error flaw =>
          cases flaw with
          | breakdown reason => exact absurd parsed (sound bytes reason read)
          | malformed =>
              rw [parsed] at failed
              cases failed
              exact Or.inl rfl
      | ok root =>
          rw [parsed] at failed
          change ofValue path root = _ at failed
          cases found : sections? root with
          | none =>
              left
              rw [ofValue, found] at failed
              split at failed
              · cases failed
                rfl
              · cases failed
                rfl
          | some sections =>
              obtain ⟨services, characteristics⟩ := sections
              rw [ofValue_of_sections? found, Relationships.ofSections] at failed
              rcases keyedRecords_cases characteristics with ⟨_, loaded, _⟩ | ⟨_, _, valid, long⟩
              · rw [loaded] at failed
                cases failed
              · exact Or.inr ⟨read, parsed, found, valid, long⟩

end HomeCatalog.Metadata
