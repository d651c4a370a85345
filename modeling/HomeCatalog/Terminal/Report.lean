import HomeCatalog.Diagnostic
import HomeCatalog.Terminal.Screen

/-!
# Showing reports

A report is shown as a count of its warnings and notes, as a list under a summary, or as a table.
-/

namespace HomeCatalog.Terminal

variable {δ : Type}

/-- The warnings and notes of a report in one line, if there are any. -/
def countsOf (report : List (Issue δ)) : List Block :=
  let warnings := (Issue.warnings report).length
  let infos := (Issue.infos report).length
  let parts :=
    (if warnings = 0 then [] else [s!"{warnings} warning(s)"]) ++
      (if infos = 0 then [] else [s!"{infos} note(s)"])
  if parts.isEmpty then []
  else [.text (String.intercalate ", " parts ++ " (use --verbose for details)")]

/-- The summary of a report on a file or directory. -/
def summaryOf (report : List (Issue δ)) (source : Option Path) : Block :=
  .panel "Diagnostics"
    (((source.map fun path => s!"File: {path.toString}\n").getD "") ++
      s!"Warnings: {(Issue.warnings report).length}  Notes: {(Issue.infos report).length}")

def issueLine (issue : Issue δ) : Block :=
  .text (issue.severity.label ++ " [" ++ issue.code ++ "] " ++ issue.message)

/-- A report as a list, of which the first `limit` issues are shown.  A negative limit leaves out
as many at the end. -/
def listOf (report : List (Issue δ)) (limit : Int) (source : Option Path) : List Block :=
  if report.isEmpty then []
  else
    let shown := if limit < 0 then report.length - limit.natAbs else limit.toNat
    let hidden := (report.length : Int) - limit
    [summaryOf report source] ++ (report.take shown).map issueLine ++
      if 0 < hidden then [.text s!"  ... and {hidden} more"] else []

def tableOf (report : List (Issue δ)) : Block :=
  .table "Diagnostics" [⟨"Code", some 6⟩, ⟨"Severity", some 8⟩, ⟨"Message", none⟩]
    (report.map fun issue => [issue.code, issue.severity.label, issue.message])

end HomeCatalog.Terminal
