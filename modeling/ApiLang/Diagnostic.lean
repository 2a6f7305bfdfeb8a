/-
Diagnostics: what the analysis has to say about a source text.  A diagnostic
has a severity, a code that names its kind, labelled places and sometimes a
hint.
-/
import ApiLang.Span

namespace ApiLang

/-- An error fails a check; a warning fails it only when warnings are denied. -/
inductive Severity where
  | error
  | warning
deriving DecidableEq

def Severity.text : Severity → String
  | .error => "error"
  | .warning => "warning"

/-- The kinds of diagnostics. -/
inductive DiagnosticCode where
  | unterminatedString
  | unexpectedCharacter
  | unterminatedComment
  | unterminatedRawString
  | unexpectedToken
  | incompleteInput
  | duplicateStruct
  | duplicateHandler
  | duplicateRoute
  | duplicateField
  | unresolvedReference
  | ambiguousReference
  | unresolvedImport
  | invalidAnnotationValue
deriving DecidableEq

namespace DiagnosticCode

/-- Every code: first those of words, then those of grammar, then those of
meaning. -/
def all : List DiagnosticCode :=
  [.unterminatedString, .unexpectedCharacter, .unterminatedComment, .unterminatedRawString,
    .unexpectedToken, .incompleteInput, .duplicateStruct, .duplicateHandler, .duplicateRoute,
    .duplicateField, .unresolvedReference, .ambiguousReference, .unresolvedImport,
    .invalidAnnotationValue]

/-- The number shown to users. -/
def text : DiagnosticCode → String
  | .unterminatedString => "E001"
  | .unexpectedCharacter => "E002"
  | .unterminatedComment => "E003"
  | .unterminatedRawString => "E004"
  | .unexpectedToken => "E100"
  | .incompleteInput => "E101"
  | .duplicateStruct => "E200"
  | .duplicateHandler => "E201"
  | .duplicateRoute => "E202"
  | .duplicateField => "E203"
  | .unresolvedReference => "E204"
  | .ambiguousReference => "E205"
  | .unresolvedImport => "E206"
  | .invalidAnnotationValue => "E207"

def ofText? (text : String) : Option DiagnosticCode :=
  all.find? fun code => code.text == text

def description : DiagnosticCode → String
  | .unterminatedString => "unterminated string literal"
  | .unexpectedCharacter => "unexpected character"
  | .unterminatedComment => "unterminated block comment"
  | .unterminatedRawString => "unterminated raw string"
  | .unexpectedToken => "unexpected token"
  | .incompleteInput => "incomplete input"
  | .duplicateStruct => "duplicate struct"
  | .duplicateHandler => "duplicate handler"
  | .duplicateRoute => "duplicate route"
  | .duplicateField => "duplicate field"
  | .unresolvedReference => "unresolved reference"
  | .ambiguousReference => "ambiguous reference"
  | .unresolvedImport => "unresolved import"
  | .invalidAnnotationValue => "invalid annotation value"

/-- Whether the code is about words or grammar rather than meaning. -/
def isSyntactic : DiagnosticCode → Bool
  | .unterminatedString | .unexpectedCharacter | .unterminatedComment
  | .unterminatedRawString | .unexpectedToken | .incompleteInput => true
  | _ => false

end DiagnosticCode

/-- A remark at a place.  The primary label is the fault itself, the others are
places it is related to. -/
structure Label where
  span : Span
  message : String
  primary : Bool
deriving DecidableEq

structure Diagnostic where
  severity : Severity
  code : Option DiagnosticCode
  message : String
  labels : List Label
  help : Option String
deriving DecidableEq

namespace Diagnostic

/-- A diagnostic with one primary label and no hint. -/
def located (severity : Severity) (code : DiagnosticCode) (message : String) (span : Span)
    (remark : String) : Diagnostic :=
  { severity
    code := some code
    message
    labels := [{ span, message := remark, primary := true }]
    help := none }

/-- The same diagnostic with secondary labels after those it has. -/
def alsoAt (diagnostic : Diagnostic) (spans : List Span) (remark : String) : Diagnostic :=
  { diagnostic with
    labels := diagnostic.labels ++
      spans.map fun span => { span, message := remark, primary := false } }

def withHelp (diagnostic : Diagnostic) (help : String) : Diagnostic :=
  { diagnostic with help := some help }

/-- The place of a diagnostic: its first primary label, else its first label,
else the beginning of the text. -/
def span (diagnostic : Diagnostic) : Span :=
  match diagnostic.labels.find? (·.primary) with
  | some label => label.span
  | none =>
    match diagnostic.labels with
    | label :: _ => label.span
    | [] => Span.empty 0

def isError (diagnostic : Diagnostic) : Bool :=
  diagnostic.severity == .error

/-- The one-line form, `error[E100]: message`. -/
def render (diagnostic : Diagnostic) : String :=
  let code := match diagnostic.code with
    | some code => "[" ++ code.text ++ "]"
    | none => ""
  diagnostic.severity.text ++ code ++ ": " ++ diagnostic.message

/-- Diagnostics in the order of their places; those of one place keep their
order. -/
def sortByPlace (diagnostics : List Diagnostic) : List Diagnostic :=
  diagnostics.mergeSort fun left right => left.span.start ≤ right.span.start

/-- The number of errors among the diagnostics. -/
def errorCount (diagnostics : List Diagnostic) : Nat :=
  diagnostics.countP isError

/-- Several diagnostics in one line: the first, and how many follow it. -/
def summary : List Diagnostic → String
  | [] => ""
  | [diagnostic] => diagnostic.render
  | diagnostic :: others => s!"{diagnostic.render} (+{others.length} more)"

end Diagnostic

end ApiLang
