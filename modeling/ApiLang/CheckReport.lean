/-
Checks: a file passes if nothing is wrong with it that the settings care about.
-/
import ApiLang.Report
import ApiLang.Validation

namespace ApiLang

/-- The outcome of checking one document. -/
structure CheckReport where
  document : Document
  diagnostics : List Diagnostic
  denyWarnings : Bool

namespace CheckReport

def errors (report : CheckReport) : Nat :=
  Diagnostic.errorCount report.diagnostics

def warnings (report : CheckReport) : Nat :=
  report.diagnostics.length - report.errors

/-- A check passes without errors, and without warnings if they are denied. -/
def passed (report : CheckReport) : Bool :=
  report.errors == 0 && !(report.denyWarnings && 0 < report.warnings)

/-- The failure that a check stands for, if it did not pass. -/
def failure? (report : CheckReport) : Option Failure :=
  if report.passed then none
  else some (.rejected report.document.path report.diagnostics)

/-- The counts in one line. -/
def summary (report : CheckReport) : String :=
  s!"{report.document.path}: {report.errors} error(s), {report.warnings} warning(s)"

end CheckReport

/-- Reads and parses a file.  Faults of the text are no failure. -/
def openDocument (files : Files) (path : String) : Except Failure Document :=
  match files.read path with
  | .ok source => .ok (Document.parse source path)
  | .error fault => .error (.unreadable path fault)

/-- Checks a document, with imports read from files. -/
def checkDocument (files : Files) (denyWarnings : Bool) (document : Document) : CheckReport :=
  { document
    diagnostics := validate files.loader document
    denyWarnings }

/-- Reads, parses and checks a file. -/
def checkFile (files : Files) (denyWarnings : Bool) (path : String) :
    Except Failure CheckReport :=
  return checkDocument files denyWarnings (← openDocument files path)

end ApiLang
