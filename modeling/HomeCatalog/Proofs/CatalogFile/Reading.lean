import HomeCatalog.CatalogFile.Reader
import HomeCatalog.CatalogFile.Writer
import HomeCatalog.Proofs.Text.Cutting
import HomeCatalog.Proofs.Text.Trimming
import Mathlib.Algebra.GroupWithZero.Nat

/-!
# How a catalog file is read line by line

The reader carries a section, a record, the list that is open, and what was read so far.  These
are the facts on one step from which all that is known about whole files follows: what was read
so far is only added to, a line that starts a section or a record forgets the record before it,
and the open list always belongs to the record.
-/

namespace HomeCatalog.CatalogFile

/-! ## Contents -/

namespace Contents

variable (left middle right contents : Contents)

@[simp] theorem services_append :
    (left ++ right).catalog.services = left.catalog.services ++ right.catalog.services := rfl

@[simp] theorem characteristics_append :
    (left ++ right).catalog.characteristics =
      left.catalog.characteristics ++ right.catalog.characteristics := rfl

@[simp] theorem skipped_append : (left ++ right).skipped = left.skipped + right.skipped := rfl

/-- Two contents with the same parts are the same. -/
theorem eq_of_parts {left right : Contents}
    (services : left.catalog.services = right.catalog.services)
    (characteristics : left.catalog.characteristics = right.catalog.characteristics)
    (skipped : left.skipped = right.skipped) : left = right := by
  obtain ⟨⟨_, _⟩, _⟩ := left
  obtain ⟨⟨_, _⟩, _⟩ := right
  simp_all

@[simp] theorem empty_append : empty ++ contents = contents := by
  apply eq_of_parts <;> simp [empty, Catalog.empty]

@[simp] theorem append_empty : contents ++ empty = contents := by
  apply eq_of_parts <;> simp [empty, Catalog.empty]

theorem append_assoc : left ++ middle ++ right = left ++ (middle ++ right) := by
  apply eq_of_parts <;> simp [Nat.add_assoc]

/-- Several contents together. -/
def concat (parts : List Contents) : Contents :=
  parts.foldr (· ++ ·) empty

@[simp] theorem concat_nil : concat [] = empty := rfl

@[simp] theorem concat_cons (part : Contents) (rest : List Contents) :
    concat (part :: rest) = part ++ concat rest := rfl

theorem services_concat (parts : List Contents) :
    (concat parts).catalog.services = parts.flatMap fun part => part.catalog.services := by
  induction parts with
  | nil => rfl
  | cons part rest ih => simp [ih]

theorem characteristics_concat (parts : List Contents) :
    (concat parts).catalog.characteristics =
      parts.flatMap fun part => part.catalog.characteristics := by
  induction parts with
  | nil => rfl
  | cons part rest ih => simp [ih]

theorem skipped_concat (parts : List Contents) :
    (concat parts).skipped = (parts.map Contents.skipped).sum := by
  induction parts with
  | nil => rfl
  | cons part rest ih => simp [ih]

/-- The number of records behind some contents, entries and skipped ones. -/
def total (contents : Contents) : Nat :=
  contents.catalog.services.length + contents.catalog.characteristics.length + contents.skipped

@[simp] theorem total_append : (left ++ right).total = left.total + right.total := by
  simp only [total, services_append, characteristics_append, skipped_append, List.length_append]
  omega

@[simp] theorem total_empty : empty.total = 0 := rfl

end Contents

/-- A record counts once, as an entry of its section or as skipped. -/
@[simp] theorem Record.total_contents (record : Record) (fileSection : FileSection) :
    (record.contents fileSection).total = 1 := by
  cases fileSection with
  | services =>
      rw [Record.contents]
      split <;> rfl
  | characteristics =>
      rw [Record.contents]
      split <;> rfl

namespace Record

theorem isEmpty_setField (record : Record) (key value : String) :
    (record.setField key value).isEmpty = false := by
  obtain ⟨fields, lists⟩ := record
  cases fields with
  | nil => rfl
  | cons head rest =>
      rw [isEmpty, setField, Entries.put]
      split <;> rfl

theorem isEmpty_of_put {record : Record} (key : String) (items : List String) :
    ({ record with lists := Entries.put key items record.lists } : Record).isEmpty = false := by
  obtain ⟨fields, lists⟩ := record
  cases lists with
  | nil => simp [isEmpty, Entries.put]
  | cons head rest =>
      rw [isEmpty, Entries.put]
      split <;> simp

end Record

/-! ## Lines that count -/

/-- Whether a trimmed line counts: it is not empty and no comment. -/
def isSignificant (line : List Char) : Bool :=
  !line.isEmpty && line.head? != some '#'

theorem significantLines_eq_filter (text : String) :
    significantLines text = ((Text.lines text.toList).map Text.strip).filter isSignificant := rfl

/-- Whether the reader can see a line as it stands: trimmed, not empty, no comment, and without
a line feed. -/
structure IsSeen (line : List Char) : Prop where
  trimmed : Text.IsTrimmed line
  significant : isSignificant line = true
  oneLine : '\n' ∉ line

theorem isSeen_of_mem_significantLines {text : String} {line : List Char}
    (member : line ∈ significantLines text) : IsSeen line := by
  rw [significantLines_eq_filter, List.mem_filter, List.mem_map] at member
  obtain ⟨⟨raw, rawMember, rfl⟩, significant⟩ := member
  refine ⟨Text.isTrimmed_strip raw, significant, ?_⟩
  intro feed
  exact Text.absent_of_mem_splitOn rawMember ((Text.strip_sublist raw).subset feed)

theorem toList_unlines (lines : List String) :
    (unlines lines).toList = lines.flatMap fun line => line.toList ++ ['\n'] := by
  simp [unlines, List.flatMap_map]

/-- Written lines are cut apart again, with an empty one behind the last line feed. -/
theorem lines_unlines {lines : List String} (plain : ∀ line ∈ lines, '\n' ∉ line.toList) :
    Text.lines (unlines lines).toList = lines.map String.toList ++ [[]] := by
  rw [toList_unlines]
  induction lines with
  | nil => rfl
  | cons line rest ih =>
      have linePlain : '\n' ∉ line.toList := plain line (by simp)
      have restPlain : ∀ line ∈ rest, '\n' ∉ line.toList :=
        fun line member => plain line (List.mem_cons_of_mem _ member)
      rw [List.flatMap_cons, List.append_assoc, List.singleton_append, Text.lines,
        Text.splitOn_append_cons linePlain]
      exact congrArg (line.toList :: ·) (ih restPlain)

/-- Of written lines the reader sees those that count. -/
theorem significantLines_unlines {lines : List String}
    (plain : ∀ line ∈ lines, '\n' ∉ line.toList) :
    significantLines (unlines lines) =
      (lines.map fun line => Text.strip line.toList).filter isSignificant := by
  rw [significantLines_eq_filter, lines_unlines plain, List.map_append, List.filter_append,
    List.map_map]
  have dropped : ([[]].map Text.strip).filter isSignificant = [] := rfl
  rw [dropped, List.append_nil]
  rfl

/-! ## What a line says -/

/-- A line without a colon is an item or says nothing. -/
theorem lineContent_of_no_colon {line : List Char} (absent : ':' ∉ line) :
    lineContent line =
      if "- ".toList.isPrefixOf line then .item (String.ofList (Text.strip (line.drop 2)))
      else .other := by
  rw [lineContent, Text.cut_of_absent absent]

/-- A line with a colon is a key, with a value or without. -/
theorem lineContent_of_colon {key : List Char} (absent : ':' ∉ key) (value : List Char) :
    lineContent (key ++ ':' :: value) =
      if (Text.strip value).isEmpty then
        .listKey (String.ofList (bareKey (Text.strip key)))
      else
        .field (String.ofList (bareKey (Text.strip key)))
          (unquote (String.ofList (Text.strip value))) := by
  rw [lineContent, Text.cut_append_cons absent]

/-- Only a line without a colon can be an item. -/
theorem no_colon_of_item {line : List Char} {value : String}
    (item : lineContent line = .item value) : ':' ∉ line := by
  intro colon
  obtain ⟨key, rest, rfl, absent⟩ := List.eq_append_cons_of_mem colon
  rw [lineContent_of_colon absent] at item
  split at item <;> cases item

/-- A line that starts a record holds a colon. -/
theorem colon_of_startsRecord {line : List Char} (starts : startsRecord line = true) :
    ':' ∈ line := by
  rw [startsRecord, List.isPrefixOf_iff_prefix] at starts
  exact starts.subset (by decide)

/-- Whether a piece of a file starts at a line: a section, or a record. -/
def startsPiece (line : List Char) : Bool :=
  (sectionMarker? line).isSome || startsRecord line

theorem startsPiece_eq_false_iff {line : List Char} :
    startsPiece line = false ↔ sectionMarker? line = none ∧ startsRecord line = false := by
  simp [startsPiece]

/-- So does a line that starts a piece. -/
theorem colon_of_startsPiece {line : List Char} (starts : startsPiece line = true) :
    ':' ∈ line := by
  rw [startsPiece, Bool.or_eq_true] at starts
  rcases starts with marker | record
  · rw [sectionMarker?] at marker
    split at marker
    · next same => rw [same]; decide
    · split at marker
      · next same => rw [same]; decide
      · cases marker
  · exact colon_of_startsRecord record

/-! ## One step -/

namespace Progress

/-- The state in a section in which nothing else has been read. -/
def fresh (fileSection : Option FileSection) : Progress :=
  ⟨fileSection, .empty, none, .empty⟩

/-- The same state after some contents in front. -/
def after (progress : Progress) (contents : Contents) : Progress :=
  { progress with contents := contents ++ progress.contents }

theorem flush_eq (progress : Progress) :
    progress.flush =
      ⟨progress.fileSection, .empty, progress.activeList, progress.flush.contents⟩ := by
  obtain ⟨fileSection, record, activeList, contents⟩ := progress
  cases fileSection with
  | none => rfl
  | some fileSection =>
      by_cases unread : record.isEmpty = true
      · have blank : record = .empty := by
          obtain ⟨fields, lists⟩ := record
          simp only [Record.isEmpty, Bool.and_eq_true, List.isEmpty_iff] at unread
          rw [unread.1, unread.2]
          rfl
        subst blank
        rfl
      · simp [flush, unread]

theorem flush_contents_of_empty {progress : Progress} (unread : progress.record = .empty) :
    progress.flush.contents = progress.contents := by
  obtain ⟨fileSection, record, activeList, contents⟩ := progress
  cases unread
  cases fileSection <;> rfl

theorem flush_of_empty {progress : Progress} (unread : progress.record = .empty) :
    progress.flush = progress := by
  rw [flush_eq, flush_contents_of_empty unread, ← unread]

@[simp] theorem flush_after (progress : Progress) (contents : Contents) :
    (progress.after contents).flush = progress.flush.after contents := by
  obtain ⟨fileSection, record, activeList, before⟩ := progress
  cases fileSection with
  | none => rfl
  | some fileSection =>
      by_cases unread : record.isEmpty = true
      · simp [flush, after, unread]
      · simp [flush, after, unread, Contents.append_assoc]

end Progress

@[simp] theorem takeUp_after (progress : Progress) (contents : Contents)
    (content : LineContent) :
    takeUp (progress.after contents) content = (takeUp progress content).after contents := by
  obtain ⟨fileSection, record, activeList, before⟩ := progress
  cases content with
  | item value => cases activeList <;> rfl
  | listKey key => rfl
  | field key value => cases fileSection <;> rfl
  | other => rfl

/-- What was read so far is only added to. -/
@[simp] theorem readLine_after (progress : Progress) (contents : Contents)
    (line : List Char) :
    readLine (progress.after contents) line = (readLine progress line).after contents := by
  rw [readLine, readLine]
  split
  · rw [Progress.flush_after]
    rfl
  · split
    · rw [Progress.flush_after, takeUp_after]
    · rw [takeUp_after]

theorem fileSection_flush (progress : Progress) :
    progress.flush.fileSection = progress.fileSection := by
  rw [Progress.flush_eq]

/-- Taking up a line changes nothing but the record and the list that is filled. -/
theorem exists_takeUp_eq (progress : Progress) (content : LineContent) :
    ∃ record activeList, takeUp progress content = { progress with record, activeList } := by
  obtain ⟨fileSection, record, activeList, contents⟩ := progress
  cases content with
  | item value => cases activeList <;> exact ⟨_, _, rfl⟩
  | listKey key => exact ⟨_, _, rfl⟩
  | field key value => cases fileSection <;> exact ⟨_, _, rfl⟩
  | other => exact ⟨_, _, rfl⟩

theorem fileSection_takeUp (progress : Progress) (content : LineContent) :
    (takeUp progress content).fileSection = progress.fileSection := by
  obtain ⟨_, _, taken⟩ := exists_takeUp_eq progress content
  rw [taken]

theorem contents_takeUp (progress : Progress) (content : LineContent) :
    (takeUp progress content).contents = progress.contents := by
  obtain ⟨_, _, taken⟩ := exists_takeUp_eq progress content
  rw [taken]

/-- Only a marker changes the section. -/
theorem fileSection_readLine (progress : Progress) (line : List Char) :
    (readLine progress line).fileSection =
      (sectionMarker? line).or progress.fileSection := by
  rw [readLine]
  split
  · next marker => rw [marker]; rfl
  · next unmarked =>
      rw [unmarked, fileSection_takeUp]
      split
      · exact fileSection_flush progress
      · rfl

/-- A line that starts a piece forgets the record before it. -/
theorem readLine_of_startsPiece {line : List Char} (starts : startsPiece line = true)
    (progress : Progress) :
    readLine progress line =
      (readLine (.fresh progress.fileSection) line).after progress.flush.contents := by
  have forgotten : (Progress.fresh progress.fileSection).flush =
      Progress.fresh progress.fileSection := by
    cases progress.fileSection <;> rfl
  rw [readLine, readLine, forgotten]
  cases marker : sectionMarker? line with
  | some fileSection =>
      simp only
      rw [Progress.flush_eq]
      simp [Progress.after, Progress.fresh]
  | none =>
      have record : startsRecord line = true := by simpa [startsPiece, marker] using starts
      simp only [record, if_true]
      obtain ⟨key, value, rfl, absent⟩ :=
        List.eq_append_cons_of_mem (colon_of_startsRecord record)
      -- The rest of the line sets the open list anew, whatever it was before.
      rw [lineContent_of_colon absent, Progress.flush_eq]
      obtain ⟨fileSection, _, _, _⟩ := progress
      split
      · simp [takeUp, Progress.after, Progress.fresh]
      · cases fileSection <;> simp [takeUp, Progress.after, Progress.fresh]

/-- Inside a piece, what a line says is taken up and nothing is finished. -/
theorem readLine_of_inside {progress : Progress} {line : List Char}
    (unmarked : sectionMarker? line = none)
    (inside : startsRecord line = false ∨ progress.record = .empty) :
    readLine progress line = takeUp progress (lineContent line) := by
  rw [readLine, unmarked]
  rcases inside with inside | unread
  · simp [inside]
  · rw [Progress.flush_of_empty unread]
    simp

/-! ## Many steps -/

theorem foldl_readLine_after (progress : Progress) (contents : Contents)
    (lines : List (List Char)) :
    lines.foldl readLine (progress.after contents) =
      (lines.foldl readLine progress).after contents := by
  induction lines generalizing progress with
  | nil => rfl
  | cons line rest ih => rw [List.foldl_cons, List.foldl_cons, readLine_after, ih]

/-- A file may be cut in front of a line that starts a piece: what is read from there on depends
on nothing before but the section. -/
theorem readLines_append (progress : Progress) (left : List (List Char))
    {right : List (List Char)}
    (starts : ∀ line, right.head? = some line → startsPiece line = true) :
    readLines progress (left ++ right) =
      readLines progress left ++
        readLines (.fresh (left.foldl readLine progress).fileSection) right := by
  cases right with
  | nil =>
      have nothing : readLines (.fresh (left.foldl readLine progress).fileSection) [] =
          Contents.empty := Progress.flush_contents_of_empty rfl
      rw [nothing, List.append_nil, Contents.append_empty]
  | cons next rest =>
      have cut := readLine_of_startsPiece (starts next rfl) (left.foldl readLine progress)
      rw [readLines, List.foldl_append, List.foldl_cons, cut, foldl_readLine_after,
        Progress.flush_after]
      rfl

/-- The section after some lines of which only the first can be a marker. -/
theorem fileSection_foldl {rest : List (List Char)}
    (unmarked : ∀ line ∈ rest, sectionMarker? line = none) (progress : Progress) :
    (rest.foldl readLine progress).fileSection = progress.fileSection := by
  induction rest generalizing progress with
  | nil => rfl
  | cons line rest ih =>
      have lineUnmarked : sectionMarker? line = none := unmarked line (by simp)
      rw [List.foldl_cons, ih fun line member => unmarked line (List.mem_cons_of_mem _ member),
        fileSection_readLine, lineUnmarked]
      rfl

/-! ## The open list -/

/-- Whether the list to which items belong, if there is one, is a list of the record. -/
def Progress.ListIsOpen (progress : Progress) : Prop :=
  ∀ key, progress.activeList = some key → (progress.record.lists.lookup key).isSome = true

theorem listIsOpen_takeUp {progress : Progress} (isOpen : progress.ListIsOpen)
    (content : LineContent) : (takeUp progress content).ListIsOpen := by
  obtain ⟨fileSection, record, activeList, contents⟩ := progress
  cases content with
  | item value =>
      cases activeList with
      | none => exact isOpen
      | some active =>
          intro key active_eq
          cases active_eq
          simp [takeUp, Record.addItem, Entries.lookup_put_self]
  | listKey opened =>
      intro key active_eq
      cases active_eq
      simp [takeUp, Record.openList, Entries.lookup_put_self]
  | field key value =>
      intro other active_eq
      cases fileSection <;> simp [takeUp] at active_eq
  | other => exact isOpen

/-- The open list stays a list of the record from line to line. -/
theorem listIsOpen_readLine {progress : Progress} (isOpen : progress.ListIsOpen)
    (line : List Char) : (readLine progress line).ListIsOpen := by
  by_cases starts : startsPiece line = true
  · rw [readLine_of_startsPiece starts, readLine]
    split
    · intro key active_eq
      cases active_eq
    · have freshOpen : (Progress.fresh progress.fileSection).ListIsOpen := by
        intro key active_eq
        cases active_eq
      have flushedOpen : (Progress.fresh progress.fileSection).flush.ListIsOpen := by
        rw [Progress.flush_eq]
        intro key active_eq
        cases active_eq
      split
      · exact listIsOpen_takeUp flushedOpen _
      · exact listIsOpen_takeUp freshOpen _
  · have inside := startsPiece_eq_false_iff.mp (by simpa using starts)
    rw [readLine, inside.1, inside.2]
    exact listIsOpen_takeUp isOpen _

theorem listIsOpen_foldl {progress : Progress} (isOpen : progress.ListIsOpen)
    (lines : List (List Char)) : (lines.foldl readLine progress).ListIsOpen := by
  induction lines generalizing progress with
  | nil => exact isOpen
  | cons line rest ih => exact ih (listIsOpen_readLine isOpen line)

end HomeCatalog.CatalogFile
