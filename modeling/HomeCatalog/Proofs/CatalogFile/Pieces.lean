import HomeCatalog.Proofs.CatalogFile.Reading
import Mathlib.Data.List.SplitBy

/-!
# Catalog files piece by piece

A catalog file is cut in front of every line that starts a section or a record.  What the reader
makes of the whole file is what it makes of the pieces, each as a file of its own under the marker
of its section.  So no record leaks into another one, however malformed the lines are, and every
piece that says anything counts once.
-/

namespace HomeCatalog.CatalogFile

/-- The line that starts a section. -/
def FileSection.marker : FileSection → String
  | services => "services:"
  | characteristics => "characteristics:"

/-- A part of a file with the section in which it lies. -/
structure Piece where
  /-- The section that was started last, if there was one. -/
  fileSection : Option FileSection
  /-- The lines of the piece without the marker of its section. -/
  body : List (List Char)
  deriving Repr, DecidableEq

namespace Piece

/-- A piece as a file of its own, under the marker of its section. -/
def text (piece : Piece) : String :=
  unlines ((piece.fileSection.map FileSection.marker).toList ++ piece.body.map String.ofList)

/-- What a piece yields when it is read alone. -/
def contents (piece : Piece) : Contents :=
  read piece.text

/-- Whether a piece lies in a section and one of its lines holds a colon. -/
def SaysSomething (piece : Piece) : Prop :=
  piece.fileSection.isSome = true ∧ ∃ line ∈ piece.body, ':' ∈ line

instance (piece : Piece) : Decidable piece.SaysSomething :=
  inferInstanceAs (Decidable (_ ∧ _))

/-- The piece that some lines are behind a given section. -/
def ofLines (current : Option FileSection) (lines : List (List Char)) : Piece :=
  match lines.head?.bind sectionMarker? with
  | some started => ⟨some started, lines.tail⟩
  | none => ⟨current, lines⟩

/-- Give each of several cuttings its section, the one that was started last. -/
def ofCuttings (current : Option FileSection) : List (List (List Char)) → List Piece
  | [] => []
  | lines :: rest =>
      let piece := ofLines current lines
      piece :: ofCuttings piece.fileSection rest

end Piece

/-- The lines of a file that count, cut in front of every line that starts a section or a
record. -/
def cuttings (text : String) : List (List (List Char)) :=
  (significantLines text).splitBy fun _ next => !startsPiece next

/-- The pieces of a file. -/
def pieces (text : String) : List Piece :=
  Piece.ofCuttings none (cuttings text)

/-! ## Where cuttings start -/

private theorem tail_of_isChain {lines : List (List Char)}
    (chain : lines.IsChain fun _ next => (!startsPiece next) = true) :
    ∀ line ∈ lines.tail, startsPiece line = false := by
  induction chain with
  | nil => simp
  | singleton => simp
  | cons_cons inside _ ih =>
      intro line member
      rcases List.mem_cons.mp member with rfl | later
      · simpa using inside
      · exact ih line later

/-- Inside a cutting no piece starts. -/
theorem inside_of_mem_cuttings {text : String} {lines : List (List Char)}
    (member : lines ∈ cuttings text) : ∀ line ∈ lines.tail, startsPiece line = false :=
  tail_of_isChain (List.isChain_of_mem_splitBy member)

/-- Every cutting but the first starts with a line that starts a piece. -/
theorem cuttings_isChain (text : String) :
    (cuttings text).IsChain fun _ next =>
      ∀ line, next.head? = some line → startsPiece line = true := by
  refine (List.isChain_getLast_head_splitBy _ (significantLines text)).imp ?_
  intro lines next meeting line first
  obtain ⟨_, nonempty, starts⟩ := meeting
  rw [List.head?_eq_some_head nonempty, Option.some.injEq] at first
  simpa [first] using starts

/-! ## A piece read alone -/

/-- A marker in front of everything else only sets the section. -/
theorem readLine_marker {line : List Char} {fileSection : FileSection}
    (marker : sectionMarker? line = some fileSection) (current : Option FileSection) :
    readLine (.fresh current) line = .fresh (some fileSection) := by
  rw [readLine, marker, Progress.flush_of_empty rfl]
  rfl

@[simp] theorem sectionMarker?_marker (fileSection : FileSection) :
    sectionMarker? fileSection.marker.toList = some fileSection := by
  cases fileSection <;> decide

theorem strip_marker (fileSection : FileSection) :
    Text.strip fileSection.marker.toList = fileSection.marker.toList := by
  cases fileSection <;> decide

/-- The lines of a piece's own file that count, if those of its body do. -/
theorem significantLines_text {piece : Piece}
    (seen : ∀ line ∈ piece.body, IsSeen line) :
    significantLines piece.text =
      (piece.fileSection.map fun fileSection => fileSection.marker.toList).toList ++
        piece.body := by
  obtain ⟨fileSection, body⟩ := piece
  have kept : ((body.map String.ofList).map fun line => Text.strip line.toList).filter
      isSignificant = body := by
    rw [List.map_map, List.filter_eq_self.mpr]
    · calc body.map _ = body.map id := by
            refine List.map_congr_left fun line member => ?_
            have trimmed : Text.strip line = line := (seen line member).trimmed
            simpa using trimmed
        _ = body := List.map_id body
    · intro line member
      obtain ⟨raw, rawMember, rfl⟩ := List.mem_map.mp member
      have trimmed : Text.strip raw = raw := (seen raw rawMember).trimmed
      simpa [trimmed] using (seen raw rawMember).significant
  have plain : ∀ line ∈ (fileSection.map FileSection.marker).toList ++
      body.map String.ofList, '\n' ∉ line.toList := by
    intro line member
    rcases List.mem_append.mp member with front | back
    · cases fileSection with
      | none => cases front
      | some fileSection =>
          rw [Option.map_some, Option.toList_some, List.mem_singleton] at front
          subst front
          cases fileSection <;> decide
    · obtain ⟨raw, rawMember, rfl⟩ := List.mem_map.mp back
      simpa using (seen raw rawMember).oneLine
  rw [Piece.text, significantLines_unlines plain, List.map_append, List.filter_append, kept]
  cases fileSection with
  | none => rfl
  | some fileSection =>
      have marked : isSignificant fileSection.marker.toList = true := by
        cases fileSection <;> decide
      simp [strip_marker, marked]

/-- A piece yields what its lines yield from the start of its section on. -/
theorem Piece.contents_eq_readLines {piece : Piece} (seen : ∀ line ∈ piece.body, IsSeen line) :
    piece.contents = readLines (.fresh piece.fileSection) piece.body := by
  obtain ⟨fileSection, body⟩ := piece
  rw [contents, read, significantLines_text seen, readLines, readLines, List.foldl_append]
  cases fileSection with
  | none => rfl
  | some fileSection =>
      have started : readLine .start fileSection.marker.toList = .fresh (some fileSection) :=
        readLine_marker (sectionMarker?_marker fileSection) none
      simp only [Option.map_some, Option.toList_some, List.foldl_cons, List.foldl_nil]
      rw [started]

/-- Lines that are read from a given section on are read as their piece. -/
theorem readLines_ofLines (current : Option FileSection) (lines : List (List Char)) :
    readLines (.fresh current) lines =
      readLines (.fresh (Piece.ofLines current lines).fileSection)
        (Piece.ofLines current lines).body := by
  cases lines with
  | nil => rfl
  | cons first rest =>
      cases marker : sectionMarker? first with
      | none => simp [Piece.ofLines, marker]
      | some started =>
          rw [readLines, List.foldl_cons, readLine_marker marker]
          simp [Piece.ofLines, marker, readLines]

theorem body_ofLines_subset (current : Option FileSection) (lines : List (List Char)) :
    (Piece.ofLines current lines).body ⊆ lines := by
  rw [Piece.ofLines]
  split
  · exact fun _ => List.mem_of_mem_tail
  · exact fun _ member => member

/-- No line of a piece's body is a marker, and only the first one can start a record. -/
theorem inside_body_ofLines {lines : List (List Char)}
    (inside : ∀ line ∈ lines.tail, startsPiece line = false) (current : Option FileSection) :
    (∀ line ∈ (Piece.ofLines current lines).body, sectionMarker? line = none) ∧
      ∀ line ∈ (Piece.ofLines current lines).body.tail, startsPiece line = false := by
  have unmarkedTail : ∀ line ∈ lines.tail, sectionMarker? line = none := fun line member =>
    (startsPiece_eq_false_iff.mp (inside line member)).1
  rw [Piece.ofLines]
  split
  · exact ⟨unmarkedTail, fun line member => inside line (List.mem_of_mem_tail member)⟩
  · next unmarked =>
      refine ⟨?_, inside⟩
      cases lines with
      | nil => simp
      | cons first rest =>
          intro line member
          rcases List.mem_cons.mp member with rfl | later
          · exact unmarked
          · exact unmarkedTail line later

/-- The section behind the lines of one piece. -/
theorem fileSection_ofLines {lines : List (List Char)}
    (inside : ∀ line ∈ lines.tail, startsPiece line = false) (current : Option FileSection) :
    (Piece.ofLines current lines).fileSection =
      (lines.foldl readLine (.fresh current)).fileSection := by
  cases lines with
  | nil => rfl
  | cons first rest =>
      have unmarked : ∀ line ∈ rest, sectionMarker? line = none := fun line member =>
        (startsPiece_eq_false_iff.mp (inside line member)).1
      rw [List.foldl_cons, fileSection_foldl unmarked, fileSection_readLine]
      cases marker : sectionMarker? first <;> simp [Piece.ofLines, marker, Progress.fresh]

/-! ## What a piece counts for -/

/-- In a section a record holds something as soon as a line holds a colon.  An item can only be
added to a list that such a line has opened. -/
theorem isEmpty_takeUp {progress : Progress} {fileSection : FileSection}
    (inSection : progress.fileSection = some fileSection) (isOpen : progress.ListIsOpen)
    (line : List Char) :
    (takeUp progress (lineContent line)).record.isEmpty =
      (progress.record.isEmpty && !line.contains ':') := by
  obtain ⟨current, record, activeList, contents⟩ := progress
  cases inSection
  by_cases colon : ':' ∈ line
  · have holds : line.contains ':' = true := by simpa using colon
    obtain ⟨key, value, rfl, absent⟩ := List.eq_append_cons_of_mem colon
    rw [lineContent_of_colon absent, holds]
    split
    · simp [takeUp, Record.openList, Record.isEmpty_of_put]
    · simp [takeUp, Record.isEmpty_setField]
  · have lacks : line.contains ':' = false := by simpa using colon
    rw [lineContent_of_no_colon colon, lacks]
    split
    · cases activeList with
      | none => simp [takeUp]
      | some active =>
          have present := isOpen active rfl
          have filled : record.isEmpty = false := by
            obtain ⟨fields, lists⟩ := record
            cases lists with
            | nil => cases present
            | cons head rest => simp [Record.isEmpty]
          simp [takeUp, Record.addItem, Record.isEmpty_of_put, filled]
    · simp [takeUp]

/-- Take up the content of a line, whatever the line may start. -/
def takeUpLine (progress : Progress) (line : List Char) : Progress :=
  takeUp progress (lineContent line)

/-- Inside a piece lines are only taken up: none of them is a marker, and only the first one, before
which there is no record, can start a record. -/
theorem foldl_readLine_fresh {body : List (List Char)} (current : Option FileSection)
    (unmarked : ∀ line ∈ body, sectionMarker? line = none)
    (inside : ∀ line ∈ body.tail, startsPiece line = false) :
    body.foldl readLine (.fresh current) = body.foldl takeUpLine (.fresh current) := by
  cases body with
  | nil => rfl
  | cons first rest =>
      have start : readLine (.fresh current) first = takeUpLine (.fresh current) first :=
        readLine_of_inside (unmarked first List.mem_cons_self) (.inr rfl)
      rw [List.foldl_cons, List.foldl_cons, start]
      refine List.foldl_ext _ _ _ fun progress line member => ?_
      obtain ⟨lineUnmarked, noRecord⟩ := startsPiece_eq_false_iff.mp (inside line member)
      exact readLine_of_inside lineUnmarked (.inl noRecord)

theorem contents_foldl_takeUpLine (progress : Progress) (lines : List (List Char)) :
    (lines.foldl takeUpLine progress).contents = progress.contents := by
  induction lines generalizing progress with
  | nil => rfl
  | cons line rest ih => rw [List.foldl_cons, ih, takeUpLine, contents_takeUp]

theorem isEmpty_foldl_takeUpLine {progress : Progress} {fileSection : FileSection}
    (inSection : progress.fileSection = some fileSection) (isOpen : progress.ListIsOpen)
    (lines : List (List Char)) :
    (lines.foldl takeUpLine progress).record.isEmpty =
      (progress.record.isEmpty && !lines.any fun line => line.contains ':') := by
  induction lines generalizing progress with
  | nil => simp
  | cons line rest ih =>
      have stays : (takeUpLine progress line).fileSection = some fileSection :=
        (fileSection_takeUp progress _).trans inSection
      rw [List.foldl_cons, ih stays (listIsOpen_takeUp isOpen _), takeUpLine,
        isEmpty_takeUp inSection isOpen, List.any_cons, Bool.not_or, Bool.and_assoc]

/-- A piece in a section yields nothing before its end, and its record holds something if one of its
lines holds a colon. -/
theorem foldl_readLine_of_inside {body : List (List Char)} (fileSection : FileSection)
    (unmarked : ∀ line ∈ body, sectionMarker? line = none)
    (inside : ∀ line ∈ body.tail, startsPiece line = false) :
    (body.foldl readLine (.fresh (some fileSection))).contents = .empty ∧
      (body.foldl readLine (.fresh (some fileSection))).record.isEmpty =
        !body.any fun line => line.contains ':' := by
  have freshOpen : (Progress.fresh (some fileSection)).ListIsOpen := by
    intro key active
    cases active
  rw [foldl_readLine_fresh _ unmarked inside]
  constructor
  · exact contents_foldl_takeUpLine _ body
  · exact isEmpty_foldl_takeUpLine rfl freshOpen body

/-- A piece in a section counts once if one of its lines holds a colon, and else not at all. -/
theorem total_readLines_of_inside {body : List (List Char)} (fileSection : FileSection)
    (unmarked : ∀ line ∈ body, sectionMarker? line = none)
    (inside : ∀ line ∈ body.tail, startsPiece line = false) :
    (readLines (.fresh (some fileSection)) body).total =
      if body.any (fun line => line.contains ':') then 1 else 0 := by
  obtain ⟨unchanged, filled⟩ := foldl_readLine_of_inside fileSection unmarked inside
  have stays : (body.foldl readLine (.fresh (some fileSection))).fileSection =
      some fileSection := fileSection_foldl unmarked _
  rw [readLines, Progress.flush, stays]
  simp only [filled]
  split
  · next nothing => simp_all
  · next something =>
      rw [Contents.total_append, unchanged, Record.total_contents]
      simp_all

/-- Outside all sections a line without a marker leaves what was read as it was. -/
theorem contents_readLine_of_no_section {progress : Progress} {line : List Char}
    (outside : progress.fileSection = none) (unmarked : sectionMarker? line = none) :
    (readLine progress line).contents = progress.contents := by
  have unfinished : progress.flush.contents = progress.contents := by
    rw [Progress.flush, outside]
  rw [readLine, unmarked]
  simp only [contents_takeUp]
  split
  · exact unfinished
  · rfl

theorem readLines_of_outside {body : List (List Char)}
    (unmarked : ∀ line ∈ body, sectionMarker? line = none) {progress : Progress}
    (outside : progress.fileSection = none) : readLines progress body = progress.contents := by
  induction body generalizing progress with
  | nil => rw [readLines, List.foldl_nil, Progress.flush, outside]
  | cons line rest ih =>
      have lineUnmarked : sectionMarker? line = none := unmarked line (by simp)
      have stays : (readLine progress line).fileSection = none := by
        rw [fileSection_readLine, lineUnmarked, outside]
        rfl
      have later : readLines (readLine progress line) rest = (readLine progress line).contents := by
        apply ih
        · intro line member
          exact unmarked line (List.mem_cons_of_mem _ member)
        · exact stays
      rw [← contents_readLine_of_no_section outside lineUnmarked, ← later]
      rfl

/-- Outside all sections nothing counts. -/
theorem readLines_of_no_section {body : List (List Char)}
    (unmarked : ∀ line ∈ body, sectionMarker? line = none) :
    readLines (.fresh none) body = .empty :=
  readLines_of_outside unmarked rfl

/-! ## All pieces -/

/-- Reading cuttings one after the other is reading each piece alone. -/
theorem readLines_flatten {parts : List (List (List Char))}
    (seen : ∀ lines ∈ parts, ∀ line ∈ lines, IsSeen line) (nonempty : [] ∉ parts)
    (inside : ∀ lines ∈ parts, ∀ line ∈ lines.tail, startsPiece line = false)
    (starts : parts.IsChain fun _ next =>
      ∀ line, next.head? = some line → startsPiece line = true)
    (current : Option FileSection) :
    readLines (.fresh current) parts.flatten =
      .concat ((Piece.ofCuttings current parts).map Piece.contents) := by
  induction parts generalizing current with
  | nil => exact Progress.flush_contents_of_empty rfl
  | cons lines rest ih =>
      have nextStarts : ∀ line, rest.flatten.head? = some line → startsPiece line = true := by
        intro line first
        cases rest with
        | nil => cases first
        | cons next others =>
            have filled : next ≠ [] := by
              rintro rfl
              exact nonempty (by simp)
            obtain ⟨head, tail, rfl⟩ := List.exists_cons_of_ne_nil filled
            exact (List.isChain_cons_cons.mp starts).1 line first
      have later := ih (fun part member => seen part (List.mem_cons_of_mem _ member))
        (fun member => nonempty (List.mem_cons_of_mem _ member))
        (fun part member => inside part (List.mem_cons_of_mem _ member)) starts.tail
        (Piece.ofLines current lines).fileSection
      have bodySeen : ∀ line ∈ (Piece.ofLines current lines).body, IsSeen line :=
        fun line member => seen lines (by simp) line (body_ofLines_subset _ _ member)
      rw [List.flatten_cons, readLines_append _ _ nextStarts, readLines_ofLines,
        ← Piece.contents_eq_readLines bodySeen,
        ← fileSection_ofLines (inside lines (by simp)) current, later]
      rfl

theorem isSeen_of_mem_cuttings {text : String} {lines : List (List Char)}
    (part : lines ∈ cuttings text) : ∀ line ∈ lines, IsSeen line := by
  intro line member
  suffices line ∈ significantLines text from isSeen_of_mem_significantLines this
  rw [← List.flatten_splitBy (fun _ next => !startsPiece next) (significantLines text)]
  exact List.mem_flatten_of_mem part member

/-- Reading a file is reading its pieces alone and putting together what they yield. -/
theorem read_eq_concat_pieces (text : String) :
    read text = .concat ((pieces text).map Piece.contents) := by
  have whole : (cuttings text).flatten = significantLines text := List.flatten_splitBy _ _
  rw [read, ← whole]
  exact readLines_flatten (fun _ => isSeen_of_mem_cuttings) (List.nil_notMem_splitBy _ _)
    (fun _ => inside_of_mem_cuttings) (cuttings_isChain text) none

theorem exists_ofLines_of_mem_ofCuttings {current : Option FileSection}
    {parts : List (List (List Char))} {piece : Piece}
    (member : piece ∈ Piece.ofCuttings current parts) :
    ∃ before, ∃ lines ∈ parts, piece = Piece.ofLines before lines := by
  induction parts generalizing current with
  | nil => cases member
  | cons lines rest ih =>
      rw [Piece.ofCuttings, List.mem_cons] at member
      rcases member with first | later
      · exact ⟨current, lines, by simp, first⟩
      · obtain ⟨before, found, foundMember, shape⟩ := ih later
        exact ⟨before, found, List.mem_cons_of_mem _ foundMember, shape⟩

/-- A piece counts once if it says something, and else not at all. -/
theorem total_contents_of_mem_pieces {text : String} {piece : Piece}
    (member : piece ∈ pieces text) :
    (piece.fileSection = none → piece.contents = .empty) ∧
      piece.contents.total = if piece.SaysSomething then 1 else 0 := by
  obtain ⟨before, lines, part, rfl⟩ := exists_ofLines_of_mem_ofCuttings member
  obtain ⟨unmarked, inside⟩ := inside_body_ofLines (inside_of_mem_cuttings part) before
  have seen : ∀ line ∈ (Piece.ofLines before lines).body, IsSeen line := fun line member =>
    isSeen_of_mem_cuttings part line (body_ofLines_subset _ _ member)
  rw [Piece.contents_eq_readLines seen]
  cases current : (Piece.ofLines before lines).fileSection with
  | none => simp [readLines_of_no_section unmarked, Piece.SaysSomething, current]
  | some fileSection =>
      rw [total_readLines_of_inside fileSection unmarked inside]
      simp [Piece.SaysSomething, current]

/-- Reading never adds an item to a list that is not open, and what a text yields is put together
from what its pieces yield alone.  Pieces in front of the first section yield nothing; every piece
in a section counts once if one of its lines holds a colon, and else not at all. -/
theorem read_eq_pieces_alone (text : String) :
    (∀ before line after item, significantLines text = before ++ line :: after →
      lineContent line = .item item →
        startsPiece line = false ∧ (before.foldl readLine .start).ListIsOpen) ∧
    (read text).catalog.services =
      (pieces text).flatMap (fun piece => piece.contents.catalog.services) ∧
    (read text).catalog.characteristics =
      (pieces text).flatMap (fun piece => piece.contents.catalog.characteristics) ∧
    (read text).skipped = ((pieces text).map fun piece => piece.contents.skipped).sum ∧
    ∀ piece ∈ pieces text,
      (piece.fileSection = none → piece.contents = .empty) ∧
        piece.contents.total = if piece.SaysSomething then 1 else 0 := by
  refine ⟨?_, ?_, ?_, ?_, fun piece => total_contents_of_mem_pieces⟩
  · intro before line after item _ isItem
    refine ⟨?_, listIsOpen_foldl (by intro key active; cases active) before⟩
    by_contra starts
    exact no_colon_of_item isItem (colon_of_startsPiece (by simpa using starts))
  · rw [read_eq_concat_pieces, Contents.services_concat, List.flatMap_map]
  · rw [read_eq_concat_pieces, Contents.characteristics_concat, List.flatMap_map]
  · rw [read_eq_concat_pieces, Contents.skipped_concat, List.map_map]
    rfl

/-- An item behind a record that has no list yet, though the record before it had one: the list
was closed with its record. -/
theorem read_eq_pieces_alone_of_stray_item :
    let text := "services:\n- identifier: A\nlist:\n- x\n- identifier: B\n- y\n"
    (((significantLines text).take 5).foldl readLine .start).ListIsOpen ∧
      ((pieces text).map fun piece => piece.contents.total) = [0, 1, 1] := by
  intro text
  obtain ⟨opened, _, _, _, alone⟩ := read_eq_pieces_alone text
  have shape : significantLines text =
      (significantLines text).take 5 ++ "- y".toList :: [] := by decide
  refine ⟨(opened _ _ _ "y" shape (by decide)).2, ?_⟩
  rw [List.map_congr_left fun piece member => (alone piece member).2]
  decide

end HomeCatalog.CatalogFile
