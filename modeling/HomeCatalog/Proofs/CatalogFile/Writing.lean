import HomeCatalog.Proofs.CatalogFile.Reading
import HomeCatalog.Proofs.Entries

/-!
# What is read of a written entry

The lines that are written for an entry are read one after the other, and the record that results
is computed here field by field.  Names are written as they are, so what is read of one may differ
from it: white space around it is lost, and so are quotes at both ends.  A documentation text is
quoted and comes back whole.  The items of the lists must be such that a line with one of them is
an item.
-/

namespace HomeCatalog.CatalogFile

/-- The written lines that the reader sees, as it sees them. -/
def seenLines (lines : List String) : List (List Char) :=
  (lines.map fun line => Text.strip line.toList).filter isSignificant

@[simp] theorem seenLines_nil : seenLines [] = [] := rfl

theorem seenLines_append (left right : List String) :
    seenLines (left ++ right) = seenLines left ++ seenLines right := by
  simp [seenLines]

theorem seenLines_cons (line : String) (rest : List String) :
    seenLines (line :: rest) = seenLines [line] ++ seenLines rest :=
  seenLines_append [line] rest

/-- A key with what stands in front of it in a written line, such that its line is no comment, no
marker, and not blank. -/
structure IsKey (indent key : List Char) : Prop where
  blank : indent.all Text.isBlank = true
  trimmed : Text.IsTrimmed key
  colonless : ':' ∉ key
  first : key.head?.any (· != '#') = true
  unmarked : key ≠ "services".toList ∧ key ≠ "characteristics".toList

instance (indent key : List Char) : Decidable (IsKey indent key) :=
  decidable_of_iff
    (indent.all Text.isBlank = true ∧ Text.IsTrimmed key ∧ ':' ∉ key ∧
      key.head?.any (· != '#') = true ∧
        key ≠ "services".toList ∧ key ≠ "characteristics".toList)
    ⟨fun ⟨blank, trimmed, colonless, first, unmarked⟩ =>
      ⟨blank, trimmed, colonless, first, unmarked⟩,
      fun isKey => ⟨isKey.blank, isKey.trimmed, isKey.colonless, isKey.first, isKey.unmarked⟩⟩

/-- The content of a line with a key and a value. -/
def keyContent (key value : List Char) : LineContent :=
  if (Text.strip value).isEmpty then .listKey (String.ofList (bareKey key))
  else .field (String.ofList (bareKey key)) (unquote (String.ofList (Text.strip value)))

/-- Trimming a line with a key takes away the indentation and the end of the value. -/
theorem strip_keyLine {indent key : List Char} (isKey : IsKey indent key) (value : List Char) :
    Text.strip (indent ++ (key ++ ':' :: value)) =
      key ++ ':' :: value.rdropWhile Text.isBlank := by
  have colon : Text.isBlank ':' = false := by decide
  rw [Text.strip_append_of_blank isKey.blank]
  obtain ⟨first, rest, rfl⟩ : ∃ first rest, key = first :: rest := by
    cases key with
    | nil => cases isKey.first
    | cons first rest => exact ⟨first, rest, rfl⟩
  rw [List.cons_append, Text.strip_of_solid_head isKey.trimmed.solid_head, ← List.cons_append,
    Text.rdropWhile_append_cons colon]

theorem lineContent_keyLine {key : List Char} (trimmed : Text.IsTrimmed key)
    (colonless : ':' ∉ key) (value : List Char) :
    lineContent (key ++ ':' :: value.rdropWhile Text.isBlank) = keyContent key value := by
  have key_eq : Text.strip key = key := trimmed
  rw [lineContent_of_colon colonless, Text.strip_rdropWhile, key_eq]
  rfl

/-- A line with a key starts a record only when its key says so, and it is no marker. -/
theorem startsPiece_keyLine {indent key : List Char} (isKey : IsKey indent key)
    (value : List Char) :
    sectionMarker? (key ++ ':' :: value) = none ∧
      (startsRecord (key ++ ':' :: value) = true → key = "- identifier".toList) := by
  have sameKey : ∀ other rest : List Char, ':' ∉ other →
      key ++ ':' :: value = other ++ ':' :: rest → key = other := by
    intro other rest absent same
    have cutKey := Text.cut_append_cons isKey.colonless value
    rw [same, Text.cut_append_cons absent] at cutKey
    exact (congrArg Prod.fst cutKey).symm
  constructor
  · rw [sectionMarker?, if_neg, if_neg]
    · exact fun same => isKey.unmarked.2 (sameKey _ [] (by decide) same)
    · exact fun same => isKey.unmarked.1 (sameKey _ [] (by decide) same)
  · intro starts
    rw [startsRecord, List.isPrefixOf_iff_prefix] at starts
    obtain ⟨rest, shape⟩ := starts
    exact sameKey _ rest (by decide) shape.symm

/-- The reader sees the line of a key without indentation and without white space at the end. -/
theorem seenLines_keyLine {line : String} {indent key value : List Char}
    (shape : line.toList = indent ++ (key ++ ':' :: value)) (isKey : IsKey indent key) :
    seenLines [line] = [key ++ ':' :: value.rdropWhile Text.isBlank] := by
  have significant : isSignificant (key ++ ':' :: value.rdropWhile Text.isBlank) = true := by
    have first := isKey.first
    cases key with
    | nil => cases first
    | cons head rest => simpa [isSignificant] using first
  rw [seenLines, List.map_singleton, shape, strip_keyLine isKey]
  simp [significant]

/-- Reading a written line with a key takes up what it says.  Only the first line of an entry starts
a record, and then nothing is pending. -/
theorem foldl_keyLine {line : String} {indent key value : List Char}
    (shape : line.toList = indent ++ (key ++ ':' :: value)) (isKey : IsKey indent key)
    {progress : Progress}
    (inside : key ≠ "- identifier".toList ∨ progress.record = .empty) :
    (seenLines [line]).foldl readLine progress = takeUp progress (keyContent key value) := by
  obtain ⟨unmarked, record⟩ := startsPiece_keyLine isKey (value.rdropWhile Text.isBlank)
  have outside : startsRecord (key ++ ':' :: value.rdropWhile Text.isBlank) = false ∨
      progress.record = .empty := by
    rcases inside with other | unread
    · left
      by_contra starts
      exact other (record (by simpa using starts))
    · exact Or.inr unread
  rw [seenLines_keyLine shape isKey, List.foldl_cons, List.foldl_nil,
    readLine_of_inside unmarked outside, lineContent_keyLine isKey.trimmed isKey.colonless]

/-! ## Scalars -/

/-- What is read back of a scalar that was written as it is.  A blank one opens a list instead. -/
def restored? (scalar : String) : Option String :=
  if (Text.strip scalar.toList).isEmpty then none
  else some (unquote (String.ofList (Text.strip scalar.toList)))

/-- A record with a scalar, or with the list that a blank scalar opens. -/
def Record.note (record : Record) (key : String) : Option String → Record
  | some value => record.setField key value
  | none => record.openList key

/-- The content of a line with a scalar. -/
def scalarContent (key : String) : Option String → LineContent
  | some value => .field key value
  | none => .listKey key

theorem keyContent_scalar (key : List Char) (scalar : String) :
    keyContent key (' ' :: scalar.toList) =
      scalarContent (String.ofList (bareKey key)) (restored? scalar) := by
  have trimmed : Text.strip (' ' :: scalar.toList) = Text.strip scalar.toList :=
    Text.strip_cons_of_blank (by decide) _
  rw [keyContent, restored?, trimmed]
  split <;> rfl

/-- A scalar as it counts for an entry: present and not empty. -/
def restoredName? (scalar : String) : Option String :=
  (restored? scalar).filter fun value => !value.isEmpty

@[simp] theorem restored?_quote (text : String) : restored? (quote text) = some text := by
  have trimmed : Text.strip (quote text).toList = (quote text).toList := by
    apply Text.isTrimmed_of_ends
    · intro c first
      have mark : c = '"' := by simpa [quote] using first.symm
      rw [mark]
      decide
    · intro c last
      rw [quote, String.toList_ofList, List.getLast?_concat, Option.some.injEq] at last
      rw [← last]
      decide
  have filled : (quote text).toList.isEmpty = false := by simp [quote]
  simp [restored?, trimmed, filled, unquote_quote]

@[simp] theorem restored?_token (kind : ValueKind) :
    restored? kind.token = some kind.token := by
  cases kind <;> decide

/-! ## Records -/

namespace Record

variable (record : Record) (key other value : String) (scalar : Option String)

theorem isEmpty_note : (record.note key scalar).isEmpty = false := by
  cases scalar with
  | none => exact isEmpty_of_put key _
  | some value => exact isEmpty_setField record key value

theorem lookup_fields_note :
    (record.note key scalar).fields.lookup other =
      (if other == key then scalar else none).or (record.fields.lookup other) := by
  cases scalar with
  | none => simp [note, openList]
  | some value =>
      rw [note, setField, Entries.lookup_put]
      split <;> rfl

/-- Opening a list leaves the items of every list as they are. -/
theorem items_openList : (record.openList key).items other = record.items other := by
  rw [items, openList, Entries.lookup_put]
  split
  · next same => rw [eq_of_beq same]; rfl
  · rfl

theorem items_addItem (item : String) :
    (record.addItem key item).items other =
      if other = key then record.items key ++ [item] else record.items other := by
  rw [items, addItem, Entries.lookup_put]
  by_cases same : other = key <;> simp [same, items]

theorem items_note : (record.note key scalar).items other = record.items other := by
  cases scalar with
  | none => exact items_openList record key other
  | some value => rfl

/-- A record with a field, if there is a value for it. -/
def set? : Option String → Record
  | some value => record.setField key value
  | none => record

/-- A record with a documentation text and a mark of deprecation, if there are such. -/
def remark (documentation : Option String) (deprecated : Bool) : Record :=
  (record.set? "documentation" documentation).set? "deprecated"
    (if deprecated then some "true" else none)

theorem lookup_fields_set? :
    (record.set? key scalar).fields.lookup other =
      (if other == key then scalar else none).or (record.fields.lookup other) := by
  cases scalar with
  | none => simp [set?]
  | some value => exact lookup_fields_note record key other (some value)

theorem items_set? : (record.set? key scalar).items other = record.items other := by
  cases scalar <;> rfl

/-- A record with a list of names, if there are any. -/
def putList (names : List String) : Record :=
  if names.isEmpty then record
  else names.foldl (fun filled name => filled.addItem key name) (record.openList key)

theorem fields_foldl_addItem (names : List String) :
    (names.foldl (fun filled name => filled.addItem key name) record).fields =
      record.fields := by
  induction names generalizing record with
  | nil => rfl
  | cons name rest ih => exact ih (record.addItem key name)

theorem items_foldl_addItem (names : List String) :
    (names.foldl (fun filled name => filled.addItem key name) record).items other =
      if other = key then record.items key ++ names else record.items other := by
  induction names generalizing record with
  | nil =>
      by_cases same : other = key <;> simp [same]
  | cons name rest ih =>
      rw [List.foldl_cons, ih, items_addItem, items_addItem]
      by_cases same : other = key <;> simp [same]

@[simp] theorem fields_putList (names : List String) :
    (record.putList key names).fields = record.fields := by
  rw [putList]
  split
  · rfl
  · exact fields_foldl_addItem (record.openList key) key names

theorem items_putList (names : List String) :
    (record.putList key names).items other =
      if other = key then record.items key ++ names else record.items other := by
  rw [putList]
  split
  · next none => by_cases same : other = key <;> simp_all
  · rw [items_foldl_addItem, items_openList, items_openList]

variable {record}

theorem isEmpty_remark (filled : record.isEmpty = false) (documentation : Option String)
    (deprecated : Bool) : (record.remark documentation deprecated).isEmpty = false := by
  cases documentation <;> cases deprecated <;>
    simp [remark, set?, isEmpty_setField, filled]

theorem isEmpty_putList (filled : record.isEmpty = false) (names : List String) :
    (record.putList key names).isEmpty = false := by
  rw [putList]
  split
  · exact filled
  · rcases List.eq_nil_or_concat names with rfl | ⟨before, last, rfl⟩
    · exact isEmpty_of_put key _
    · rw [List.concat_eq_append, List.foldl_append]
      exact isEmpty_of_put key _

end Record

/-- The record that is read of the lines that every entry starts with. -/
def namingRecord (identifier name swiftName : String) : Record :=
  ((Record.empty.note "identifier" (restored? identifier)).note "name" (restored? name)).note
    "swiftName" (restored? swiftName)

/-- The record that is read of a written service. -/
def serviceRecord (service : Service) : Record :=
  (((namingRecord service.identifier service.name service.swiftName).remark
    service.documentation service.deprecated).putList "requiredCharacteristics"
      service.required).putList "optionalCharacteristics" service.optional

/-- The record that is read of a written characteristic. -/
def characteristicRecord (characteristic : Characteristic) : Record :=
  ((namingRecord characteristic.identifier characteristic.name characteristic.swiftName).note
    "valueType" (some characteristic.valueKind.token)).remark
      characteristic.documentation characteristic.deprecated

/-- What is read of a written service, unless one of its names is lost. -/
def restoredService? (service : Service) : Option Service := do
  let identifier ← restoredName? service.identifier
  let name ← restoredName? service.name
  let swiftName ← restoredName? service.swiftName
  some { service with identifier, name, swiftName }

/-- What is read of a written characteristic, unless one of its names is lost. -/
def restoredCharacteristic? (characteristic : Characteristic) : Option Characteristic := do
  let identifier ← restoredName? characteristic.identifier
  let name ← restoredName? characteristic.name
  let swiftName ← restoredName? characteristic.swiftName
  some { characteristic with identifier, name, swiftName }

theorem items_namingRecord (identifier name swiftName key : String) :
    (namingRecord identifier name swiftName).items key = [] := by
  simp only [namingRecord, Record.items_note]
  rfl

/-- The record of a written service describes the service, unless one of its names is lost. -/
theorem service?_serviceRecord (service : Service) :
    (serviceRecord service).service? = restoredService? service := by
  have required : (serviceRecord service).items "requiredCharacteristics" =
      service.required := by
    simp [serviceRecord, Record.items_putList, Record.remark,
      Record.items_set?, items_namingRecord]
  have optional : (serviceRecord service).items "optionalCharacteristics" =
      service.optional := by
    simp [serviceRecord, Record.items_putList, Record.remark,
      Record.items_set?, items_namingRecord]
  have field : ∀ key, (serviceRecord service).fields.lookup key =
      ((namingRecord service.identifier service.name service.swiftName).remark
        service.documentation service.deprecated).fields.lookup key := by
    simp [serviceRecord]
  obtain ⟨identifier, name, swiftName, documentation, deprecated, _, _⟩ := service
  rw [Record.service?, required, optional]
  simp only [Record.needed?, Record.isDeprecated, field, Record.remark,
    Record.lookup_fields_set?, namingRecord,
    Record.lookup_fields_note, restoredService?, restoredName?, Record.empty]
  cases deprecated <;> cases documentation <;> simp

theorem characteristic?_characteristicRecord (characteristic : Characteristic) :
    (characteristicRecord characteristic).characteristic? =
      restoredCharacteristic? characteristic := by
  have token : ∀ kind : ValueKind, (some kind.token).filter (fun value => !value.isEmpty) =
      some kind.token := by
    intro kind
    cases kind <;> rfl
  obtain ⟨identifier, name, swiftName, kind, documentation, deprecated⟩ := characteristic
  simp only [Record.characteristic?, Record.needed?, Record.isDeprecated,
    characteristicRecord, Record.remark, Record.lookup_fields_set?, namingRecord,
    Record.lookup_fields_note, restoredCharacteristic?, restoredName?, Record.empty]
  cases deprecated <;> cases documentation <;> simp [token, ValueKind.ofToken_token]

end HomeCatalog.CatalogFile
