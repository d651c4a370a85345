import HomeCatalog.Proofs.Header.Declared
import HomeCatalog.Proofs.Text.Spacing

/-!
# Headers put together from statements

A declaration reaches from `HM_EXTERN` to the semicolon, and its comments stand directly above it.
So nothing of a declaration reaches over a semicolon, and no comment reaches over a line of code.  A
header that is put together from two parts, the first of which ends with a whole statement, declares
what the first part declares and then what the second one does.
-/

namespace HomeCatalog.Header

/-! ## Reading that stops -/

/-- Whether what is read off the front of a text ends in front of a character, and does not depend
on what stands behind it. -/
def StopsAt (stop : Char) (read : List Char → Option (List Char)) : Prop :=
  ∀ cs rest, read (cs ++ stop :: rest) = (read cs).map (· ++ stop :: rest)

variable {stop : Char}

theorem StopsAt.bind {first next : List Char → Option (List Char)} (firstStops : StopsAt stop first)
    (nextStops : StopsAt stop next) : StopsAt stop fun cs => (first cs).bind next := by
  intro cs rest
  beta_reduce
  rw [firstStops, Option.bind_map, Option.map_bind]
  exact congrArg (first cs).bind (funext fun middle => nextStops middle rest)

theorem StopsAt.skipBlanks {next : List Char → Option (List Char)}
    (nextStops : StopsAt stop next) (solid : Text.isBlank stop = false) :
    StopsAt stop fun cs => next (skipBlanks cs) := by
  intro cs rest
  have skipped : Header.skipBlanks (cs ++ stop :: rest) = Header.skipBlanks cs ++ stop :: rest :=
    Text.dropWhile_append_cons solid cs rest
  beta_reduce
  rw [skipped, nextStops]

/-- A word stands in front of a character that is none of its own, or not at all. -/
theorem stopsAt_word {word : String} (apart : stop ∉ word.toList) : StopsAt stop (word? word) := by
  intro cs rest
  rw [word?, word?]
  generalize word.toList = letters at apart
  induction letters generalizing cs with
  | nil => rfl
  | cons letter letters ih =>
      rw [List.mem_cons, not_or] at apart
      cases cs with
      | nil => simp [List.isPrefixOf?, Ne.symm apart.1]
      | cons c cs =>
          rw [List.cons_append, List.isPrefixOf?, List.isPrefixOf?]
          split
          · exact ih cs apart.2
          · rfl

theorem stopsAt_blanks (solid : Text.isBlank stop = false) : StopsAt stop blanks? := by
  intro cs rest
  cases cs with
  | nil => simp [blanks?, solid]
  | cons c cs =>
      rw [List.cons_append, blanks?, blanks?, Text.dropWhile_append_cons solid]
      split <;> rfl

/-! ## Declarations stop at a semicolon -/

variable {stem : String}

theorem stopsAt_declarator (stemWord : Text.IsWord stem.toList) :
    StopsAt ';' (declarator? stem) := by
  have stemStops : StopsAt ';' (word? stem) :=
    stopsAt_word fun member => absurd (stemWord.chars _ member) (by decide)
  have blanksStop : StopsAt ';' blanks? := stopsAt_blanks (by decide)
  have starStops : StopsAt ';' fun cs => word? "*" (skipBlanks cs) :=
    (stopsAt_word (by decide)).skipBlanks (by decide)
  have constStops : StopsAt ';' fun cs => word? "const" (skipBlanks cs) :=
    (stopsAt_word (by decide)).skipBlanks (by decide)
  have externStops : StopsAt ';' (word? "HM_EXTERN") := stopsAt_word (by decide)
  have typeStops : StopsAt ';' (word? "NSString") := stopsAt_word (by decide)
  exact externStops.bind (blanksStop.bind (typeStops.bind (starStops.bind (constStops.bind
    (blanksStop.bind stemStops)))))

/-- The name of a declaration stands in front of a semicolon, with the text after it. -/
theorem named?_append (stemWord : Text.IsWord stem.toList) (cs rest : List Char) :
    named? stem (cs ++ ';' :: rest) =
      (named? stem cs).map fun found => (found.1, found.2 ++ ';' :: rest) := by
  have ends : Text.isWordChar ';' = false := by decide
  simp only [named?, Option.bind_eq_bind, stopsAt_declarator stemWord cs rest, Option.bind_map,
    Option.map_bind]
  refine congrArg (declarator? stem cs).bind (funext fun body => ?_)
  simp only [Function.comp_apply, Text.takeWhile_append_cons ends, Text.dropWhile_append_cons ends]
  split <;> rfl

theorem isDeprecated_append (cs rest : List Char) :
    isDeprecated (cs ++ ';' :: rest) = isDeprecated cs := by
  have same : (Text.cut ';' (cs ++ ';' :: rest)).1 = (Text.cut ';' cs).1 := by
    induction cs with
    | nil => rfl
    | cons c cs ih =>
        rw [List.cons_append, Text.cut, Text.cut, ih]
        split <;> rfl
  rw [isDeprecated, isDeprecated, same]

/-- What is declared in front of a semicolon and behind it is declared apart. -/
theorem declarationsFrom_append (stemWord : Text.IsWord stem.toList) {skip : Nat}
    {before cs : List Char} (within : skip ≤ cs.length) (rest : List Char) :
    declarationsFrom stem skip before (cs ++ ';' :: rest) =
      declarationsFrom stem skip before cs ++
        declarationsFrom stem 0 (';' :: (cs.reverse ++ before)) rest := by
  induction skip, before, cs using declarationsFrom.induct stem with
  | case1 skip before =>
      obtain rfl : skip = 0 := Nat.le_zero.mp within
      have absent : named? stem (';' :: rest) = none := named?_append stemWord [] rest
      have passed : declarationsFrom stem 0 before (';' :: rest) =
          declarationsFrom stem 0 (';' :: before) rest := by
        rw [declarationsFrom, absent]
      exact passed
  | case2 skip before c cs ih =>
      rw [List.cons_append, declarationsFrom, ih (Nat.le_of_succ_le_succ within), declarationsFrom]
      simp
  | case3 before c cs absent ih =>
      have absent' : named? stem (c :: (cs ++ ';' :: rest)) = none := by
        rw [← List.cons_append, named?_append stemWord, absent]
        rfl
      rw [List.cons_append, declarationsFrom, absent', declarationsFrom, absent]
      dsimp only
      rw [ih (Nat.zero_le _)]
      simp
  | case4 before c cs name after found ih =>
      have found' : named? stem (c :: (cs ++ ';' :: rest)) = some (name, after ++ ';' :: rest) := by
        rw [← List.cons_append, named?_append stemWord, found]
        rfl
      have skipped : (cs ++ ';' :: rest).length - (after ++ ';' :: rest).length =
          cs.length - after.length := by
        simp only [List.length_append]
        omega
      rw [List.cons_append, declarationsFrom, found', declarationsFrom, found]
      dsimp only
      rw [isDeprecated_append, skipped, ih (Nat.sub_le _ _)]
      simp

/-! ## Text without declarations -/

/-- Where the first word of a declaration is missing there is none. -/
theorem named?_of_word? {cs : List Char} (absent : word? "HM_EXTERN" cs = none) :
    named? stem cs = none := by
  rw [named?, declarator?, absent]
  rfl

/-- Text in which no declaration starts is passed over, up to a character that is no part of the
first word. -/
theorem declarationsFrom_of_silent {text : List Char} (silent : ¬"HM_EXTERN".toList <:+: text)
    (apart : stop ∉ "HM_EXTERN".toList) (before rest : List Char) :
    declarationsFrom stem 0 before (text ++ stop :: rest) =
      declarationsFrom stem 0 (stop :: (text.reverse ++ before)) rest := by
  induction text generalizing before with
  | nil =>
      have absent : word? "HM_EXTERN" (stop :: rest) = none := stopsAt_word apart [] rest
      rw [List.nil_append, declarationsFrom, named?_of_word? absent]
      rfl
  | cons c text ih =>
      rw [List.infix_cons_iff, not_or] at silent
      have absent : word? "HM_EXTERN" (c :: (text ++ stop :: rest)) = none := by
        rw [← List.cons_append, stopsAt_word apart, Option.map_eq_none_iff, word?,
          Option.eq_none_iff_forall_ne_some]
        intro after found
        exact silent.1 ⟨after, List.isPrefixOf?_eq_some_iff_append_eq.mp found⟩
      rw [List.cons_append, declarationsFrom, named?_of_word? absent]
      dsimp only
      rw [ih silent.2]
      simp

theorem notMem_extern_of_blank {spaces : List Char} (blank : ∀ c ∈ spaces, Text.isBlank c = true) :
    ∀ c ∈ spaces, c ∉ "HM_EXTERN".toList := by
  have solid : ∀ letter ∈ "HM_EXTERN".toList, Text.isBlank letter = false :=
    Text.isBlank_eq_false_of_all_isInk (by decide)
  intro c inSpaces inWord
  exact Text.notMem_of_blank blank (solid c inWord) inSpaces

theorem declarationsFrom_of_blank {spaces : List Char} (blank : ∀ c ∈ spaces, Text.isBlank c = true)
    (before rest : List Char) :
    declarationsFrom stem 0 before (spaces ++ rest) =
      declarationsFrom stem 0 (spaces.reverse ++ before) rest := by
  induction spaces generalizing before with
  | nil => rfl
  | cons c spaces ih =>
      have apart := notMem_extern_of_blank blank c List.mem_cons_self
      have passed : declarationsFrom stem 0 before ([] ++ c :: (spaces ++ rest)) =
          declarationsFrom stem 0 (c :: before) (spaces ++ rest) :=
        declarationsFrom_of_silent (by decide) apart before (spaces ++ rest)
      rw [List.nil_append] at passed
      rw [List.cons_append, passed, ih (List.forall_mem_cons.mp blank).2]
      simp

/-! ## Whole statements -/

/-- Whether a text ends with a whole statement: in code that is closed by a semicolon, and with
nothing that documents what follows. -/
structure IsClosed (text : List Char) : Prop where
  feed : text.getLast? = some '\n'
  code : ∃ code spaces, text = code ++ ';' :: spaces ∧ ∀ c ∈ spaces, Text.isBlank c = true
  undocumented : commentsAbove (Text.lines text).reverse = []

/-- Comments above a line that ends the run are not reached. -/
theorem commentsAbove_append {far : List (List Char)} (ended : commentsAbove far = [])
    (near : List (List Char)) : commentsAbove (near ++ far) = commentsAbove near := by
  induction near with
  | nil => exact ended
  | cons line near ih =>
      rw [List.cons_append, commentsAbove, commentsAbove, ih]

theorem IsClosed.documentationAfter_append {text : List Char} (closed : IsClosed text)
    (before : List Char) : documentationAfter (text ++ before) = documentationAfter before := by
  obtain ⟨init, rfl⟩ : ∃ init, text = init ++ ['\n'] := by
    obtain ⟨init, shape⟩ := List.getLast?_eq_some_iff.mp closed.feed
    exact ⟨init, shape⟩
  have undocumented : commentsAbove (Text.lines init).reverse = [] := by
    have whole := closed.undocumented
    rw [Text.lines_append_feed, List.reverse_append] at whole
    exact whole
  rw [documentationAfter, documentationAfter, List.append_assoc, List.singleton_append,
    Text.lines_append_feed, List.reverse_append, commentsAbove_append undocumented]

/-- A whole statement in front of a text documents nothing in it. -/
theorem IsClosed.declarationsFrom_reverse {text : List Char} (closed : IsClosed text) (skip : Nat)
    (before cs : List Char) :
    declarationsFrom stem skip (before ++ text.reverse) cs =
      declarationsFrom stem skip before cs := by
  induction skip, before, cs using declarationsFrom.induct stem with
  | case1 skip before => rfl
  | case2 skip before c rest ih => exact ih
  | case3 before c rest absent ih =>
      rw [declarationsFrom, declarationsFrom, absent]
      exact ih
  | case4 before c rest name after found ih =>
      rw [declarationsFrom, declarationsFrom, found]
      dsimp only
      rw [List.reverse_append, List.reverse_reverse, closed.documentationAfter_append]
      exact congrArg _ ih

/-- What follows a whole statement is declared as if it stood alone. -/
theorem IsClosed.declarationsFrom_append (stemWord : Text.IsWord stem.toList) {first : List Char}
    (closed : IsClosed first) (second : List Char) :
    declarationsFrom stem 0 [] (first ++ second) =
      declarationsFrom stem 0 [] first ++ declarationsFrom stem 0 [] second := by
  obtain ⟨code, spaces, shape, blank⟩ := closed.code
  have alone : declarationsFrom stem 0 [] first = declarationsFrom stem 0 [] code := by
    have passed : declarationsFrom stem 0 (';' :: (code.reverse ++ [])) (spaces ++ []) =
        declarationsFrom stem 0 (spaces.reverse ++ ';' :: (code.reverse ++ [])) [] :=
      declarationsFrom_of_blank blank _ []
    rw [List.append_nil spaces] at passed
    rw [shape, Header.declarationsFrom_append stemWord (Nat.zero_le _), passed, declarationsFrom,
      List.append_nil]
  have reversed : spaces.reverse ++ ';' :: (code.reverse ++ []) = [] ++ first.reverse := by
    simp [shape]
  have whole : first ++ second = code ++ ';' :: (spaces ++ second) := by simp [shape]
  rw [alone, whole, Header.declarationsFrom_append stemWord (Nat.zero_le _),
    declarationsFrom_of_blank blank, reversed, closed.declarationsFrom_reverse]

/-! ## The last line -/

/-- The last line of a text that is not blank, trimmed. -/
def lastLine? (text : List Char) : Option (List Char) :=
  (((Text.lines text).map Text.strip).filter fun line => !line.isEmpty).getLast?

/-- Whether a text ends with a line feed, and its last line that is not blank ends with a semicolon
and is no comment. -/
structure EndsStatement (text : List Char) : Prop where
  feed : text.getLast? = some '\n'
  line : ∃ line ∈ lastLine? text, line.getLast? = some ';' ∧ ¬['/', '/'] <+: line

theorem lastLine?_eq_find? (text : List Char) :
    lastLine? text =
      ((Text.lines text).reverse.map Text.strip).find? fun line => !line.isEmpty := by
  rw [lastLine?, List.getLast?_eq_head?_reverse, ← List.filter_reverse, List.head?_filter,
    List.map_reverse]

/-- The last character of a text that is no white space is that of the last line that has one. -/
theorem find?_isInk_reverse (text : List Char) :
    text.reverse.find? Text.isInk =
      (Text.lines text).reverse.findSome? fun line => line.reverse.find? Text.isInk := by
  induction text with
  | nil => rfl
  | cons c rest ih =>
      rw [List.reverse_cons, List.find?_append, ih, Text.lines, Text.lines, Text.splitOn_cons]
      split
      · next same =>
          have blank : [c].find? Text.isInk = none := by
            rw [same]
            decide
          rw [blank, List.reverse_cons, List.findSome?_append]
          rfl
      · cases pieces : Text.splitOn '\n' rest with
        | nil => exact absurd pieces (Text.splitOn_ne_nil '\n' rest)
        | cons line lines =>
            simp [Text.consHead, List.findSome?_append, List.find?_append, Option.or_assoc]

/-- A text ends with the last character of its last line, but for white space. -/
theorem find?_isInk_of_lastLine? {text line : List Char} (last : lastLine? text = some line) :
    text.reverse.find? Text.isInk = line.getLast? := by
  rw [lastLine?_eq_find?, List.find?_eq_some_iff_append] at last
  obtain ⟨filled, near, far, shape, blank⟩ := last
  have trimmed : (fun line : List Char => line.reverse.find? Text.isInk) =
      List.getLast? ∘ Text.strip := funext fun line => (Text.getLast?_strip line).symm
  have skipped : near.findSome? List.getLast? = none := by
    rw [List.findSome?_eq_none_iff]
    intro other member
    have empty := blank other member
    simp only [Bool.not_not, List.isEmpty_iff] at empty
    rw [empty]
    rfl
  rw [find?_isInk_reverse, trimmed, ← List.findSome?_map, shape, List.findSome?_append, skipped,
    List.findSome?_cons]
  cases ending : line.getLast? with
  | none =>
      rw [List.getLast?_eq_none_iff] at ending
      rw [ending] at filled
      cases filled
  | some c => rfl

/-- A last line that is no comment ends the run of comments. -/
theorem commentsAbove_of_find? {above : List (List Char)} {line : List Char}
    (last : (above.map Text.strip).find? (fun line => !line.isEmpty) = some line)
    (code : commentBody? line = none) : commentsAbove above = [] := by
  induction above with
  | nil => cases last
  | cons first above ih =>
      rw [List.map_cons, List.find?_cons] at last
      rw [commentsAbove]
      cases blank : (Text.strip first).isEmpty with
      | true =>
          rw [blank] at last
          rw [List.isEmpty_iff.mp blank]
          exact ih last
      | false =>
          rw [blank] at last
          cases last
          rw [code]
          rfl

theorem commentBody?_eq_none_iff {line : List Char} :
    commentBody? line = none ↔ ¬['/', '/'] <+: line := by
  rw [commentBody?, ← List.isPrefixOf_iff_prefix]
  split <;> simp_all

theorem EndsStatement.isClosed {text : List Char} (ends : EndsStatement text) : IsClosed text := by
  obtain ⟨line, last, semicolon, code⟩ := ends.line
  constructor
  case feed => exact ends.feed
  case code =>
    have found := (find?_isInk_of_lastLine? last).trans semicolon
    rw [List.find?_eq_some_iff_append] at found
    obtain ⟨_, spaces, reversed, shape, blank⟩ := found
    refine ⟨reversed.reverse, spaces.reverse, ?_, ?_⟩
    · rw [← List.reverse_reverse text, shape]
      simp
    · intro c member
      simpa [Text.isInk] using blank c (List.mem_reverse.mp member)
  case undocumented =>
    rw [Option.mem_def, lastLine?_eq_find?] at last
    exact commentsAbove_of_find? last (commentBody?_eq_none_iff.mpr code)

/-- A header whose first part ends with a statement declares what its two parts declare. -/
theorem declarations_append {stem : String} (stemWord : Text.IsWord stem.toList) {first : String}
    (closed : IsClosed first.toList) (second : String) :
    declarations stem (first ++ second) = declarations stem first ++ declarations stem second := by
  rw [declarations, declarations, declarations, String.toList_append]
  exact closed.declarationsFrom_append stemWord second.toList

/-- Services and characteristics of a header whose first part ends with a statement are those of
its two parts, one after the other. -/
theorem entries_append_of_endsStatement {first : String} (ends : EndsStatement first.toList)
    (second : String) :
    services (first ++ second) = services first ++ services second ∧
      characteristics (first ++ second) = characteristics first ++ characteristics second := by
  have closed := ends.isClosed
  constructor
  · rw [services, declarations_append isWord_serviceStem closed, List.map_append]
    rfl
  · rw [characteristics, declarations_append isWord_characteristicStem closed, List.map_append]
    rfl

/-- A header that breaks off inside a declaration, and goes on behind a semicolon. -/
def brokenHeader : String :=
  "// A fan.\nHM_EXTERN NSString * const HMServiceTypeFan;\nHM_EXTERN NSString * ;\n\n"

/-- The end of a declaration, and another one without an end. -/
def strayHeader : String :=
  "const HMServiceTypeLost\n// A switch.\nHM_EXTERN NSString * const HMServiceTypeSwitch"

/-- The broken declaration is not completed by what follows it. -/
theorem entries_append_strayHeader :
    EndsStatement brokenHeader.toList ∧
    (services (brokenHeader ++ strayHeader) = services brokenHeader ++ services strayHeader ∧
      characteristics (brokenHeader ++ strayHeader) =
        characteristics brokenHeader ++ characteristics strayHeader) ∧
    (services (brokenHeader ++ strayHeader)).map Service.name = ["Fan", "Switch"] := by
  have ends : EndsStatement brokenHeader.toList :=
    ⟨by decide +kernel, "HM_EXTERN NSString * ;".toList, by decide +kernel, by decide, by decide⟩
  have joined := entries_append_of_endsStatement ends strayHeader
  refine ⟨ends, joined, ?_⟩
  rw [joined.1]
  decide +kernel

end HomeCatalog.Header
