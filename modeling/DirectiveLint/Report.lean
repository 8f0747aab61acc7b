import DirectiveLint.Linter
import DirectiveLint.Text.ControlSequence

/-!
# Reports

What a lint run has to say once every file has been analysed.

* `Report` — all issues, and the lowest rank that is shown.
* `Report.shown` — the issues of that rank or above, in the order of `Report.entries`: by file,
  then by line.  Issues of one line keep the order in which they were found.
* `Report.text` — one entry for each shown issue, and a line with the totals.
* `Report.exitCode` — whether something shown calls for action: a warning, or worse.
-/

namespace DirectiveLint

def Issue.entry (issue : Issue) : String :=
  issue.severity.label ++ ": " ++ issue.position.filename ++ ":" ++ toString issue.position.line ++
    ":" ++ toString issue.position.column ++ " [" ++ issue.ruleId ++ "] - " ++ issue.details

/-- The issues of a run, and the lowest rank that is shown. -/
structure Report where
  issues : List Issue
  threshold : Nat
  deriving DecidableEq, Repr

namespace Report

def shown (report : Report) : List Issue :=
  report.issues.filter fun issue => report.threshold ≤ issue.severity.rank

/-- The order of entries: by the text of the path, then by line. -/
def entryLe (a b : Issue) : Bool :=
  if a.position.filename == b.position.filename then a.position.line ≤ b.position.line
  else decide (a.position.filename < b.position.filename)

/-- **The issues in the order of their entries.** -/
def entries (report : Report) : List Issue :=
  report.shown.mergeSort entryLe

def totals (report : Report) : String :=
  "Total issues found: " ++ toString report.issues.length ++ " (" ++
    toString report.shown.length ++ " reported)"

/-- The lines of a report: the entries, an empty line, and the totals. -/
def lines (report : Report) : List String :=
  report.entries.map Issue.entry ++ ["", report.totals]

def text (report : Report) : String :=
  Text.printed report.lines

def callsForAction (report : Report) : Bool :=
  report.shown.any fun issue => Severity.warning.rank ≤ issue.severity.rank

def exitCode (report : Report) : Nat :=
  if report.callsForAction then 1 else 0

/-- **Every issue that is shown has an entry, and nothing else has.** -/
theorem entries_perm_shown (report : Report) : report.entries.Perm report.shown :=
  List.mergeSort_perm _ _

theorem length_shown_le (report : Report) : report.shown.length ≤ report.issues.length :=
  List.length_filter_le _ _

end Report

end DirectiveLint
