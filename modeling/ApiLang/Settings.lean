/-
Settings: how generated files are named and how strict a check is.  They come
from the first settings file that is found, and what a file leaves out has a
default.
-/
import ApiLang.Files
import ApiLang.Naming
import ApiLang.Toml.Range
import ApiLang.Toml.Reader

namespace ApiLang

structure Settings where
  style : NamingStyle := .lower
  denyWarnings : Bool := false
deriving DecidableEq

/-- Why there are no settings. -/
inductive SettingsFault where
  | missingFile (path : String)
  | unreadable (path : String) (fault : FileFault)
  | malformed (path : String)
deriving DecidableEq

def SettingsFault.message : SettingsFault → String
  | .missingFile path => s!"missing configuration file: {path}"
  | .unreadable path fault => s!"cannot read configuration `{path}`: {fault.text}"
  | .malformed path => s!"failed to parse TOML configuration `{path}`"

/-- Entries that settings do not know are passed over, but their numbers must be
in range. -/
def unknownFit (known : List String) (entries : TomlEntries) : Bool :=
  entriesFit (entries.filter fun entry => !known.contains entry.1)

/-- What a section with a single key says about the key.  The section is a table,
or an array that begins with the value, of which nothing else is looked at.  A
date is a section without keys. -/
def sectionValue? (key : String) : Option TomlValue → Option (Option TomlValue)
  | none | some (.date _) => some none
  | some (.table _ entries) =>
    if unknownFit [key] entries then some (TomlEntries.find? entries key) else none
  | some (.array items) => some items.head?
  | some (.tables (element :: _)) => some (some (.table .header element))
  | some _ => none

/-- The naming style that a value names. -/
def styleOf? : Option TomlValue → Option NamingStyle
  | none => some .lower
  | some (.string text) => some (.ofText text)
  | some _ => none

/-- The truth value that a value is. -/
def flagOf? : Option TomlValue → Option Bool
  | none => some false
  | some (.boolean value) => some value
  | some _ => none

/-- The settings in a table. -/
def Settings.ofTable? (entries : TomlEntries) : Option Settings := do
  let style ← styleOf? (← sectionValue? "style" (TomlEntries.find? entries "gen"))
  let denyWarnings ←
    flagOf? (← sectionValue? "deny_warnings" (TomlEntries.find? entries "check"))
  if unknownFit ["gen", "check"] entries then return { style, denyWarnings } else none

/-- The settings in a file, which must be there. -/
def Settings.ofFile (files : Files) (path : String) : Except SettingsFault Settings :=
  if files.present path then
    match files.read path with
    | .error fault => .error (.unreadable path fault)
    | .ok text =>
      match (parseToml text).bind Settings.ofTable? with
      | some settings => .ok settings
      | none => .error (.malformed path)
  else .error (.missingFile path)

/-- The settings file in the working directory. -/
def localSettingsPath : String :=
  ".zeroapi.toml"

/-- The settings from the file that is asked for, or else from the first of the
usual `places` that exists, or else the defaults. -/
def Settings.load (files : Files) (places : List String) (asked : Option String) :
    Except SettingsFault Settings :=
  match asked with
  | some path => Settings.ofFile files path
  | none =>
    match places.find? files.present with
    | some path => Settings.ofFile files path
    | none => .ok {}

end ApiLang
