/-
Runs: what a command prints and whether it fails.
-/
import ApiLang.CheckReport
import ApiLang.CommandLine
import ApiLang.Location

namespace ApiLang

/-- A piece of output: a line of text, or a diagnostic. -/
inductive Printed where
  | line (text : String)
  | diagnostic (diagnostic : Diagnostic)
deriving DecidableEq

def Printed.render : Printed → String
  | .line text => text
  | .diagnostic found => found.render

/-- What was printed before the run ended, and why it failed if it did. -/
structure Outcome where
  printed : List Printed
  failure : Option Failure

namespace Outcome

def failed (failure : Failure) : Outcome :=
  ⟨[], some failure⟩

/-- The lines of text among the output. -/
def lines (outcome : Outcome) : List String :=
  outcome.printed.filterMap fun
    | .line text => some text
    | .diagnostic _ => none

/-- The same outcome with more output in front. -/
def after (earlier : List Printed) (outcome : Outcome) : Outcome :=
  { outcome with printed := earlier ++ outcome.printed }

def exitCode (outcome : Outcome) : Nat :=
  if outcome.failure.isSome then 1 else 0

end Outcome

/-- A checked file is printed only if there is something to say about it. -/
def CheckReport.printed (report : CheckReport) : List Printed :=
  if report.diagnostics.isEmpty then []
  else .line report.summary :: report.diagnostics.map .diagnostic

/-- Checks one file after the other, `failed` of `total` having failed before.  A
file that cannot be read ends the run. -/
def runCheck (files : Files) (denyWarnings : Bool) (failed total : Nat) :
    List String → Outcome
  | [] => ⟨[], if 0 < failed then some (.checkFailed failed total) else none⟩
  | path :: paths =>
    match checkFile files denyWarnings path with
    | .error failure => .failed failure
    | .ok report =>
      (runCheck files denyWarnings (if report.passed then failed else failed + 1) total
        paths).after report.printed

/-- A symbol in one line: where it stands, its kind and name, and the file that is
generated for it. -/
def Symbol.render (path : String) (symbol : Symbol) : String :=
  let place := s!"{path}:{symbol.position.line}:{symbol.position.column}"
  let generated := match symbol.fileStem with
    | some stem => "\t" ++ stem ++ ".go"
    | none => ""
  place ++ "\t" ++ symbol.kind.text ++ "\t" ++ symbol.name ++ generated

def runSymbols (files : Files) (style : NamingStyle) (path : String)
    (kind : Option SymbolKind) : Outcome :=
  match openDocument files path with
  | .error failure => .failed failure
  | .ok document =>
    ⟨(symbols style document kind).map fun symbol => .line (symbol.render path), none⟩

def runGoto (files : Files) (path : String) (offset : Nat) : Outcome :=
  match openDocument files path with
  | .error failure => .failed failure
  | .ok document =>
    match locate? files.loader document offset with
    | some location => ⟨[.line location.render], none⟩
    | none => ⟨[], none⟩

/-- Runs a command with the given settings. -/
def Command.run (files : Files) (settings : Settings) : Command → Outcome
  | .check paths => runCheck files settings.denyWarnings 0 paths.length paths
  | .symbols path kind => runSymbols files settings.style path kind
  | .goto path offset => runGoto files path offset

/-- Loads the settings and runs the command.  `places` are the usual places of a
settings file. -/
def Arguments.run (files : Files) (places : List String) (arguments : Arguments) : Outcome :=
  match Settings.load files places arguments.config with
  | .error fault => .failed (.settings fault)
  | .ok settings => arguments.command.run files settings

/-- The files that a command is about. -/
def Command.paths : Command → List String
  | .check paths => paths
  | .symbols path _ | .goto path _ => [path]

/-- The files that a document imports, by the spelling under which they are
read. -/
def Document.importedPaths (document : Document) : List String :=
  (document.index.entries .importPath).map fun (written, _) =>
    (document.importTarget written).render

/-- The levels at which the program can log. -/
def logLevels : List String :=
  ["off", "error", "warn", "info", "debug", "trace"]

/-- What is said about a log level that does not exist. -/
def logLevelNote? (level : String) : Option String :=
  if logLevels.contains level.toLower then none
  else some s!"Invalid log level: {level}. Using 'warn' instead."

end ApiLang
