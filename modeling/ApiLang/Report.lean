/-
What goes wrong in a run, and how it is reported: a rejected file with one report
for each of its diagnostics, and anything else with a single one.
-/
import ApiLang.Diagnostic
import ApiLang.Settings

namespace ApiLang

/-- Why a run fails. -/
inductive Failure where
  | unreadable (path : String) (fault : FileFault)
  | rejected (path : String) (diagnostics : List Diagnostic)
  | settings (fault : SettingsFault)
  | checkFailed (failed total : Nat)

namespace Failure

def message : Failure → String
  | .unreadable path fault => s!"cannot read `{path}`: {fault.text}"
  | .rejected path diagnostics => s!"{path}: {Diagnostic.summary diagnostics}"
  | .settings fault => fault.message
  | .checkFailed failed total => s!"{failed} of {total} file(s) failed the check"

/-- The code of a failure that is no matter of single diagnostics. -/
def code? : Failure → Option String
  | .unreadable .. => some "zeroapi::io"
  | .rejected .. => none
  | .settings _ => some "zeroapi::config"
  | .checkFailed .. => some "zeroapi::check"

end Failure

/-- A place in a report, by offset and length. -/
structure ReportLabel where
  offset : Nat
  length : Nat
  message : String
  primary : Bool
deriving DecidableEq

/-- A single report.  Only those on diagnostics have a severity, and a source to
point into. -/
structure Report where
  message : String
  code : Option String
  severity : Option Severity
  help : Option String
  hasSource : Bool
  labels : List ReportLabel
deriving DecidableEq

def Label.report (label : Label) : ReportLabel :=
  { offset := label.span.start
    length := label.span.length
    message := label.message
    primary := label.primary }

def Diagnostic.report (diagnostic : Diagnostic) : Report :=
  { message := diagnostic.message
    code := diagnostic.code.map DiagnosticCode.text
    severity := some diagnostic.severity
    help := diagnostic.help
    hasSource := true
    labels := diagnostic.labels.map Label.report }

/-- The reports on a failure. -/
def Failure.reports (failure : Failure) : List Report :=
  match failure with
  | .rejected _ diagnostics => diagnostics.map Diagnostic.report
  | _ =>
    [{ message := failure.message
       code := failure.code?
       severity := none
       help := none
       hasSource := false
       labels := [] }]

end ApiLang
