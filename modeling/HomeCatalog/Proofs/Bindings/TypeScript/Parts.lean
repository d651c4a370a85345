import Mathlib.Data.List.Infix

/-!
# Code and comments

A source is code and block comments in turn.  Whoever reads it takes the first closing mark after an
opening one for the end of a comment, so a text that is inserted into a comment must not hold one.
-/

namespace HomeCatalog.Bindings.TypeScript

/-! ## Finding comments -/

/-- The block comments of a text, without the marks around them.  An open comment is given by what
it holds so far. -/
def blockCommentsFrom : (inside : Option (List Char)) → List Char → List (List Char)
  | _, [] => []
  | none, '/' :: '*' :: rest => blockCommentsFrom (some []) rest
  | none, _ :: rest => blockCommentsFrom none rest
  | some held, '*' :: '/' :: rest => held :: blockCommentsFrom none rest
  | some held, c :: rest => blockCommentsFrom (some (held ++ [c])) rest

def blockComments (text : String) : List String :=
  (blockCommentsFrom none text.toList).map String.ofList

/-- Whether a text closes the comment in which it stands. -/
def Closes (text : String) : Prop :=
  ['*', '/'] <:+: text.toList

instance (text : String) : Decidable (Closes text) :=
  inferInstanceAs (Decidable (_ <:+: _))

/-- What stands on both sides of a character that is no part of a closing mark holds no mark unless
one of the sides does. -/
theorem infix_append_cons_iff {separator : Char} (star : separator ≠ '*') (slash : separator ≠ '/')
    (left right : List Char) :
    ['*', '/'] <:+: left ++ separator :: right ↔
      ['*', '/'] <:+: left ∨ ['*', '/'] <:+: right := by
  induction left with
  | nil => simp [List.infix_cons_iff, star.symm]
  | cons c rest ih =>
      rw [List.cons_append, List.infix_cons_iff, ih, List.infix_cons_iff, or_assoc]
      cases rest with
      | nil => simp [slash.symm]
      | cons d rest => simp

/-- Code without stars is passed over, up to what opens a comment behind it. -/
theorem blockCommentsFrom_code {code rest : List Char} (starless : '*' ∉ code)
    (opening : rest.head? ≠ some '*') :
    blockCommentsFrom none (code ++ rest) = blockCommentsFrom none rest := by
  induction code with
  | nil => rfl
  | cons c code ih =>
      rw [List.mem_cons, not_or] at starless
      rw [List.cons_append, blockCommentsFrom, ih starless.2]
      intro others _ same
      cases code with
      | nil =>
          rw [List.nil_append] at same
          exact opening (by rw [same]; rfl)
      | cons d code =>
          cases same
          exact starless.2 List.mem_cons_self

/-- A comment whose text holds no closing mark ends at the one behind it. -/
theorem blockCommentsFrom_closed {body : List Char} (kept : ¬['*', '/'] <:+: body)
    (held rest : List Char) :
    blockCommentsFrom (some held) (body ++ '*' :: '/' :: rest) =
      (held ++ body) :: blockCommentsFrom none rest := by
  induction body generalizing held with
  | nil => rw [List.nil_append, blockCommentsFrom, List.append_nil]
  | cons c body ih =>
      rw [List.infix_cons_iff, not_or] at kept
      rw [List.cons_append, blockCommentsFrom, ih kept.2, List.append_assoc, List.singleton_append]
      intro others star same
      subst star
      cases body with
      | nil => cases same
      | cons d body =>
          cases same
          exact kept.1 (by simp)

/-- A comment whose text holds a closing mark ends before the whole text was read. -/
theorem blockCommentsFrom_broken {body : List Char} (broken : ['*', '/'] <:+: body)
    (held rest : List Char) :
    ∃ first others, blockCommentsFrom (some held) (body ++ rest) = first :: others ∧
      first.length < held.length + body.length := by
  induction body generalizing held with
  | nil => simp at broken
  | cons c body ih =>
      by_cases mark : ['*', '/'] <+: c :: body
      · obtain ⟨behind, same⟩ := mark
        rw [← same]
        refine ⟨held, blockCommentsFrom none (behind ++ rest), ?_, by simp⟩
        simp [blockCommentsFrom]
      · have later := (List.infix_cons_iff.mp broken).resolve_left mark
        obtain ⟨first, others, found, shorter⟩ := ih later (held ++ [c])
        refine ⟨first, others, ?_, ?_⟩
        · rw [List.cons_append, blockCommentsFrom, found]
          intro others star same
          subst star
          cases body with
          | nil => simp at later
          | cons d body =>
              cases same
              exact mark (by simp)
        · simp only [List.length_append, List.length_cons, List.length_nil] at shorter ⊢
          omega

/-! ## Code and comments -/

/-- A block comment with a text inserted, without the marks around it. -/
structure Comment where
  before : String
  inserted : String
  after : String
  deriving Repr, DecidableEq

def Comment.text (comment : Comment) : String :=
  comment.before ++ comment.inserted ++ comment.after

/-- A part of a source. -/
inductive Part where
  | code (text : String)
  | comment (block : Comment)
  deriving Repr, DecidableEq

namespace Part

def text : Part → String
  | code text => text
  | comment block => "/*" ++ block.text ++ "*/"

def comment? : Part → Option Comment
  | code _ => none
  | comment block => some block

end Part

def textOf (parts : List Part) : String :=
  String.join (parts.map Part.text)

def commentsOf (parts : List Part) : List Comment :=
  parts.filterMap Part.comment?

@[simp] theorem commentsOf_nil : commentsOf [] = [] :=
  rfl

@[simp] theorem commentsOf_code (text : String) (rest : List Part) :
    commentsOf (.code text :: rest) = commentsOf rest :=
  rfl

@[simp] theorem commentsOf_comment (block : Comment) (rest : List Part) :
    commentsOf (.comment block :: rest) = block :: commentsOf rest :=
  rfl

@[simp] theorem commentsOf_append (left right : List Part) :
    commentsOf (left ++ right) = commentsOf left ++ commentsOf right :=
  List.filterMap_append

theorem toList_textOf (parts : List Part) :
    (textOf parts).toList = parts.flatMap fun part => part.text.toList := by
  rw [textOf, String.toList_join, List.flatMap_map]

@[simp] theorem textOf_nil : textOf [] = "" :=
  rfl

@[simp] theorem textOf_cons (part : Part) (rest : List Part) :
    textOf (part :: rest) = part.text ++ textOf rest := by
  apply String.toList_inj.mp
  rw [String.toList_append, toList_textOf, toList_textOf, List.flatMap_cons]

@[simp] theorem textOf_append (left right : List Part) :
    textOf (left ++ right) = textOf left ++ textOf right := by
  apply String.toList_inj.mp
  rw [String.toList_append, toList_textOf, toList_textOf, toList_textOf, List.flatMap_append]

/-- Whether nothing but the text inserted between two others can close a comment: a space and a
space or a line feed set it off, and the others hold no closing mark. -/
structure IsFrame (before after : String) : Prop where
  space : before.toList.getLast? = some ' '
  blank : after.toList.head? = some ' ' ∨ after.toList.head? = some '\n'
  before : ¬Closes before
  after : ¬Closes after

instance (before after : String) : Decidable (IsFrame before after) :=
  decidable_of_iff
    (before.toList.getLast? = some ' ' ∧
      (after.toList.head? = some ' ' ∨ after.toList.head? = some '\n') ∧
      ¬Closes before ∧ ¬Closes after)
    ⟨fun ⟨space, blank, before, after⟩ => ⟨space, blank, before, after⟩,
      fun frame => ⟨frame.space, frame.blank, frame.before, frame.after⟩⟩

/-- Texts without slashes close nothing. -/
theorem isFrame_of_absent {before after : String} (space : before.toList.getLast? = some ' ')
    (blank : after.toList.head? = some ' ' ∨ after.toList.head? = some '\n')
    (opening : '/' ∉ before.toList) (closing : '/' ∉ after.toList) : IsFrame before after where
  space := space
  blank := blank
  before := fun closes => opening (closes.subset (by simp))
  after := fun closes => closing (closes.subset (by simp))

/-- A text that is written out shows its characters without being decoded. -/
theorem isFrame_ofList {before after : List Char}
    (framed : before.getLast? = some ' ' ∧
      (after.head? = some ' ' ∨ after.head? = some '\n') ∧ '/' ∉ before ∧ '/' ∉ after) :
    IsFrame (String.ofList before) (String.ofList after) := by
  obtain ⟨space, blank, opening, closing⟩ := framed
  apply isFrame_of_absent
  · rwa [String.toList_ofList]
  · rwa [String.toList_ofList]
  · rwa [String.toList_ofList]
  · rwa [String.toList_ofList]

/-- A label that ends in a space closes no comment with the text behind it unless that text does. -/
theorem closes_append_iff {label text : String} (space : label.toList.getLast? = some ' ')
    (plain : ¬Closes label) : Closes (label ++ text) ↔ Closes text := by
  obtain ⟨start, ends⟩ := List.getLast?_eq_some_iff.mp space
  rw [Closes, ends, infix_append_cons_iff (by decide) (by decide), not_or] at plain
  rw [Closes, String.toList_append, ends, List.append_assoc, List.singleton_append,
    infix_append_cons_iff (by decide) (by decide)]
  simp only [plain.1, false_or]
  rfl

/-- A comment with a frame closes itself exactly if the text inserted into it does. -/
theorem closes_text_iff {comment : Comment} (frame : IsFrame comment.before comment.after) :
    Closes comment.text ↔ Closes comment.inserted := by
  have behind : ∃ c rest, comment.after.toList = c :: rest ∧ c ≠ '*' ∧ c ≠ '/' := by
    rcases frame.blank with space | feed
    · obtain ⟨rest, starts⟩ := List.head?_eq_some_iff.mp space
      exact ⟨' ', rest, starts, by decide, by decide⟩
    · obtain ⟨rest, starts⟩ := List.head?_eq_some_iff.mp feed
      exact ⟨'\n', rest, starts, by decide, by decide⟩
  obtain ⟨c, rest, starts, star, slash⟩ := behind
  have after := frame.after
  rw [Closes, starts, ← List.nil_append (c :: rest), infix_append_cons_iff star slash, not_or]
    at after
  have opened : Closes (comment.before ++ comment.inserted) ↔ Closes comment.inserted :=
    closes_append_iff frame.space frame.before
  rw [← opened, Comment.text, Closes, String.toList_append, starts,
    infix_append_cons_iff star slash]
  simp only [after.2, or_false]
  rfl

/-- Whether a text neither opens nor closes a comment by itself. -/
def IsStarless (text : String) : Prop :=
  '*' ∉ text.toList

instance (text : String) : Decidable (IsStarless text) :=
  inferInstanceAs (Decidable (_ ∉ _))

theorem isStarless_ofList {chars : List Char} (absent : '*' ∉ chars) :
    IsStarless (String.ofList chars) := by
  rw [IsStarless, String.toList_ofList]
  exact absent

theorem isStarless_append {left right : String} :
    IsStarless (left ++ right) ↔ IsStarless left ∧ IsStarless right := by
  simp [IsStarless]

theorem isStarless_join {texts : List String} :
    IsStarless (String.join texts) ↔ ∀ text ∈ texts, IsStarless text := by
  simp [IsStarless, String.toList_join]

/-- A text without stars closes no comment. -/
theorem not_closes_of_isStarless {text : String} (starless : IsStarless text) : ¬Closes text := by
  intro closes
  exact starless (closes.subset List.mem_cons_self)

/-- Whether all code is without stars, and all comments have frames. -/
def AreSound (parts : List Part) : Prop :=
  ∀ part ∈ parts, match part with
    | .code text => IsStarless text
    | .comment block => IsFrame block.before block.after

section

variable {rest : List Part}

theorem areSound_nil : AreSound [] ↔ True := by
  simp [AreSound]

theorem areSound_code {text : String} :
    AreSound (.code text :: rest) ↔ IsStarless text ∧ AreSound rest :=
  List.forall_mem_cons

theorem areSound_comment {block : Comment} :
    AreSound (.comment block :: rest) ↔ IsFrame block.before block.after ∧ AreSound rest :=
  List.forall_mem_cons

theorem areSound_append {left right : List Part} :
    AreSound (left ++ right) ↔ AreSound left ∧ AreSound right :=
  List.forall_mem_append

theorem areSound_flatMap {α : Type} {values : List α} {parts : α → List Part} :
    AreSound (values.flatMap parts) ↔ ∀ value ∈ values, AreSound (parts value) :=
  List.forall_mem_flatMap

end

theorem head?_ne_star_of_areSound {parts : List Part} (sound : AreSound parts) :
    (textOf parts).toList.head? ≠ some '*' := by
  induction parts with
  | nil => simp
  | cons part rest ih =>
      rw [textOf_cons, String.toList_append]
      cases part with
      | comment block => simp [Part.text]
      | code text =>
          obtain ⟨first, later⟩ := areSound_code.mp sound
          cases shape : text.toList with
          | nil => simpa [Part.text, shape] using ih later
          | cons c cs =>
              have other : c ≠ '*' := by
                rintro rfl
                exact first (by simp [shape])
              simpa [Part.text, shape] using other

theorem blockCommentsFrom_parts_iff {parts : List Part} (sound : AreSound parts) :
    blockCommentsFrom none (textOf parts).toList =
        (commentsOf parts).map (fun comment => comment.text.toList) ↔
      ∀ comment ∈ commentsOf parts, ¬Closes comment.inserted := by
  induction parts with
  | nil => simp [commentsOf, blockCommentsFrom]
  | cons part rest ih =>
      rw [textOf_cons, String.toList_append]
      cases part with
      | code text =>
          obtain ⟨first, later⟩ := areSound_code.mp sound
          rw [Part.text, blockCommentsFrom_code first (head?_ne_star_of_areSound later)]
          exact ih later
      | comment block =>
          obtain ⟨frame, later⟩ := areSound_comment.mp sound
          have others := ih later
          have text : (Part.comment block).text.toList ++ (textOf rest).toList =
              '/' :: '*' :: (block.text.toList ++ '*' :: '/' :: (textOf rest).toList) := by
            simp [Part.text]
          rw [text, blockCommentsFrom, commentsOf_comment, List.map_cons, List.forall_mem_cons,
            ← others, ← closes_text_iff frame]
          by_cases closes : Closes block.text
          · obtain ⟨found, more, broken, shorter⟩ := blockCommentsFrom_broken closes []
              ('*' :: '/' :: (textOf rest).toList)
            rw [broken]
            constructor
            · intro same
              obtain ⟨rfl, _⟩ := List.cons.inj same
              simp at shorter
            · exact fun kept => absurd closes kept.1
          · rw [blockCommentsFrom_closed closes, List.nil_append, List.cons.injEq]
            simp [closes]

/-- The comments that are found behind a text without stars are those of the sound parts there
exactly if no text that is inserted closes its comment. -/
theorem blockComments_append_textOf_iff {start : String} {parts : List Part}
    (starless : IsStarless start) (sound : AreSound parts) :
    blockComments (start ++ textOf parts) = (commentsOf parts).map Comment.text ↔
      ∀ comment ∈ commentsOf parts, ¬Closes comment.inserted := by
  rw [← blockCommentsFrom_parts_iff sound, blockComments, String.toList_append,
    blockCommentsFrom_code starless (head?_ne_star_of_areSound sound)]
  constructor
  · intro same
    have chars := congrArg (List.map String.toList) same
    simpa [Function.comp_def] using chars
  · intro same
    rw [same, List.map_map]
    simp [Function.comp_def]

end HomeCatalog.Bindings.TypeScript
