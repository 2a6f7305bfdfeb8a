/-
The program.  Everything a command can ask for is read beforehand, so that the
run itself is a function of what was read.
-/
import ApiLang.Run

namespace ApiLang

/-- The texts that were read, by path. -/
abbrev Snapshot : Type :=
  List (String × Except FileFault String)

def Snapshot.files (snapshot : Snapshot) : Files where
  read path := ((snapshot.find? fun entry => entry.1 == path).map Prod.snd).getD (.error .notFound)
  present path := snapshot.any fun entry =>
    entry.1 == path &&
      match entry.2 with
      | .error .notFound | .error .notDirectory => false
      | .error .nameTooLong | .error .zeroInName => false
      | _ => true

/-- The fault behind an error of the operating system, whose number may come with
either sign. -/
def FileFault.ofError : IO.Error → FileFault
  | .permissionDenied .. => .permissionDenied
  | .inappropriateType _ code _ =>
    if code == 20 || code + 20 == 0 then .notDirectory else .isDirectory
  | .invalidArgument _ code _ =>
    if code == 36 || code + 36 == 0 then .nameTooLong else .notFound
  | _ => .notFound

def readText (path : String) : IO (Except FileFault String) := do
  if path.toList.contains '\x00' then return .error .zeroInName
  try
    match String.fromUTF8? (← IO.FS.readBinFile path) with
    | some text => return .ok text
    | none => return .error .notText
  catch fault => return .error (.ofError fault)

def readAll (paths : List String) : IO Snapshot :=
  paths.mapM fun path => return (path, ← readText path)

/-- The places of a settings file: the working directory, and the directory for
settings of the user. -/
def usualPlaces : IO (List String) := do
  let shared ← match ← IO.getEnv "XDG_CONFIG_HOME", ← IO.getEnv "HOME" with
    | some directory, _ => pure [directory ++ "/zeroapi/config.toml"]
    | none, some home => pure [home ++ "/.config/zeroapi/config.toml"]
    | none, none => pure []
  return localSettingsPath :: shared

def usage : String :=
  "Usage: zeroapi [--config FILE] [--log-level LEVEL] " ++
    "(check FILE... | symbols FILE [--kind KIND] | goto FILE OFFSET)"

/-- What is read for a run: settings, the files of the command and what they
import. -/
def takeSnapshot (places : List String) (arguments : Arguments) : IO Snapshot := do
  let settings ← readAll (places ++ arguments.config.toList)
  let sources ← readAll arguments.command.paths
  let imported := sources.flatMap fun
    | (path, .ok source) => (Document.parse source path).importedPaths
    | _ => []
  return settings ++ sources ++ (← readAll imported)

/-- Runs a command line and returns its exit code. -/
def runProgram (commandLine : List String) : IO UInt32 := do
  match parseArguments commandLine with
  | .error fault =>
    if fault.exitCode == 0 then IO.println usage else IO.eprintln usage
    return fault.exitCode.toUInt32
  | .ok arguments =>
    if let some note := logLevelNote? arguments.logLevel then IO.eprintln note
    let places ← usualPlaces
    let snapshot ← takeSnapshot places arguments
    let outcome := arguments.run snapshot.files places
    for printed in outcome.printed do
      IO.println printed.render
    if let some failure := outcome.failure then
      if arguments.logLevel.toLower != "off" then
        for report in failure.reports do
          IO.eprintln report.message
    return outcome.exitCode.toUInt32

end ApiLang

def main (commandLine : List String) : IO UInt32 :=
  ApiLang.runProgram commandLine
