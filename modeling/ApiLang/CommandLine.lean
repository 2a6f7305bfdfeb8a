/-
The command line.  Options and positional values are collected level by level,
first before the command and then behind it.  A value counts when it is settled,
which happens as soon as something else follows it, so of two faults the one that
is met first on this way is reported.
-/
import ApiLang.Symbol

namespace ApiLang

/-- Why a command line asks for nothing that can be run. -/
inductive UsageFault where
  | help
  | version
  | nothingGiven
  | missingCommand
  | unknownCommand
  | unknownArgument
  | missingArgument
  | invalidValue
  | valueOutOfRange
  | repeatedOption
  | unwantedValue
deriving DecidableEq

/-- To be shown the help or the version is no error. -/
def UsageFault.exitCode : UsageFault → Nat
  | .help | .version => 0
  | _ => 2

/-- What a value can be given for. -/
inductive Slot where
  | config
  | logLevel
  | kind
  | file
  | files
  | offset
deriving DecidableEq

namespace Slot

/-- Whether values add up.  All others can be given once on a level. -/
def isRepeatable (slot : Slot) : Bool :=
  slot == .files

/-- The byte offset that a text spells: digits, perhaps behind a plus sign, for a
number of 64 bits. -/
def offset? (text : String) : Option Nat :=
  let digits := match text.toList with
    | '+' :: rest => rest
    | cs => cs
  if digits.isEmpty || !digits.all Char.isDigit then none
  else
    let value := digits.foldl (fun value c => value * 10 + (c.toNat - '0'.toNat)) 0
    if value < Nat.pow 2 64 then some value else none

/-- Whether a text can be the value. -/
def accept (slot : Slot) (value : String) : Except UsageFault Unit :=
  match slot with
  | .config | .logLevel => .ok ()
  | .file | .files => if value.isEmpty then .error .invalidValue else .ok ()
  | .kind => if (SymbolKind.ofText? value).isNone then .error .invalidValue else .ok ()
  | .offset => if (offset? value).isNone then .error .valueOutOfRange else .ok ()

end Slot

/-- The names of the commands. -/
inductive CommandName where
  | check
  | symbols
  | goto
deriving DecidableEq

def CommandName.ofText? : String → Option CommandName
  | "check" => some .check
  | "symbols" => some .symbols
  | "goto" => some .goto
  | _ => none

/-- The part of the command line behind a command, or the part before it. -/
abbrev Level : Type :=
  Option CommandName

namespace Level

/-- What the value of a long option is given for. -/
def option? (level : Level) : String → Option Slot
  | "config" => some .config
  | "log-level" => some .logLevel
  | "kind" => if level = some .symbols then some .kind else none
  | _ => none

/-- The positional values, in order.  The last one may be repeatable. -/
def positionals : Level → List Slot
  | none => []
  | some .check => [.files]
  | some .symbols => [.file]
  | some .goto => [.file, .offset]

/-- The request that a flag stands for. -/
def flag? (level : Level) : String → Option UsageFault
  | "help" => some .help
  | "version" => if level = none then some .version else none
  | _ => none

end Level

/-- What has been read on one level: settled values, the values still waiting to
be settled, and the positional slots that are not filled yet. -/
structure LevelValues where
  settled : List (Slot × String) := []
  waiting : Option (Slot × List String) := none
  free : List Slot

namespace LevelValues

def values (level : LevelValues) (slot : Slot) : List String :=
  level.settled.filterMap fun (other, value) => if other = slot then some value else none

def value? (level : LevelValues) (slot : Slot) : Option String :=
  (level.values slot).head?

/-- Settles the waiting values: there must be one, a slot must not be filled
twice, and each value must be acceptable. -/
def settle (level : LevelValues) : Except UsageFault LevelValues :=
  match level.waiting with
  | none => .ok level
  | some (_, []) => .error .invalidValue
  | some (slot, given) => do
    if !slot.isRepeatable && !(level.values slot).isEmpty then throw .repeatedOption
    given.forM slot.accept
    return { level with
      settled := level.settled ++ given.map fun value => (slot, value)
      waiting := none }

/-- An option whose value is still to come. -/
def await (level : LevelValues) (slot : Slot) : Except UsageFault LevelValues :=
  return { ← level.settle with waiting := some (slot, []) }

/-- An option with its value attached, which is settled at once. -/
def attach (level : LevelValues) (slot : Slot) (value : String) :
    Except UsageFault LevelValues := do
  let level ← level.settle
  { level with waiting := some (slot, [value]) }.settle

/-- The value that a waiting option has been waiting for. -/
def deliver (level : LevelValues) (value : String) : LevelValues :=
  { level with waiting := level.waiting.map fun (slot, given) => (slot, given ++ [value]) }

/-- A positional value, for the next free slot. -/
def place (level : LevelValues) (value : String) : Except UsageFault LevelValues :=
  match level.free with
  | [] => .error .unknownArgument
  | slot :: others =>
    if slot.isRepeatable then
      match level.waiting with
      | some (.files, _) => .ok (level.deliver value)
      | _ => return { ← level.settle with waiting := some (slot, [value]) }
    else return { ← level.settle with waiting := some (slot, [value]), free := others }

end LevelValues

/-- What an argument looks like. -/
inductive ArgumentShape where
  | endOfOptions
  | long (name : String) (attached : Option String)
  | short (letter : Char) (behind : List Char)
  | plain
deriving DecidableEq

/-- A single dash is a plain value. -/
def ArgumentShape.ofText (text : String) : ArgumentShape :=
  match text.toList with
  | ['-', '-'] => .endOfOptions
  | '-' :: '-' :: word =>
    let name := String.ofList (word.takeWhile (· != '='))
    match word.dropWhile (· != '=') with
    | [] => .long name none
    | _ :: value => .long name (some (String.ofList value))
  | '-' :: letter :: behind => .short letter behind
  | _ => .plain

/-- A request is answered once what was read before it is settled. -/
def LevelValues.request (level : LevelValues) (fault : UsageFault) :
    Except UsageFault (LevelValues × Bool) := do
  let _ ← level.settle
  throw fault

/-- Reads a long option or flag.  The answer tells whether a value is to come. -/
def readLong (name : Level) (level : LevelValues) (word : String) (attached : Option String) :
    Except UsageFault (LevelValues × Bool) :=
  match name.option? word, name.flag? word, attached with
  | some slot, _, some value => return (← level.attach slot value, false)
  | some slot, _, none => return (← level.await slot, true)
  | none, some _, some _ => throw .unwantedValue
  | none, some fault, none => level.request fault
  | none, none, _ => throw .unknownArgument

/-- Reads a short option or flag.  The value of an option may follow its letter,
with or without an equals sign. -/
def readShort (name : Level) (level : LevelValues) (letter : Char) (behind : List Char) :
    Except UsageFault (LevelValues × Bool) :=
  match letter, behind with
  | 'c', [] => return (← level.await .config, true)
  | 'c', '=' :: value => return (← level.attach .config (String.ofList value), false)
  | 'c', value => return (← level.attach .config (String.ofList value), false)
  | 'h', _ => level.request .help
  | 'V', _ => if name = none then level.request .version else throw .unknownArgument
  | _, _ => throw .unknownArgument

/-- Reads the arguments behind a command.  `expectsValue` tells that an option
waits for its value, and `onlyPlain` that the options have ended. -/
def readCommandArguments (command : CommandName) (level : LevelValues)
    (expectsValue onlyPlain : Bool) : List String → Except UsageFault LevelValues
  | [] => level.settle
  | argument :: rest => do
    if onlyPlain then
      readCommandArguments command (← level.place argument) false true rest
    else
      match ArgumentShape.ofText argument with
      | .endOfOptions => readCommandArguments command level false true rest
      | .long word attached =>
        let (level, expects) ← readLong (some command) level word attached
        readCommandArguments command level expects false rest
      | .short letter behind =>
        let (level, expects) ← readShort (some command) level letter behind
        readCommandArguments command level expects false rest
      | .plain =>
        if expectsValue then
          readCommandArguments command (level.deliver argument) false false rest
        else readCommandArguments command (← level.place argument) false false rest

/-- What the command `help` answers: help on the program or on one command. -/
def helpAnswer : List String → UsageFault
  | [] => .help
  | [name] =>
    if name == "help" || (CommandName.ofText? name).isSome then .help else .unknownCommand
  | _ => .unknownCommand

/-- What stands before the command and the command itself with what stands behind
it. -/
structure CommandSplit where
  before : LevelValues
  command : Option (CommandName × LevelValues)

/-- Reads the arguments from the beginning.  The first plain one that is not the
value of an option must name a command, and the arguments behind it are read
before those in front of it are settled. -/
def readArguments (level : LevelValues) (expectsValue : Bool) :
    List String → Except UsageFault CommandSplit
  | [] => return { before := ← level.settle, command := none }
  | argument :: rest => do
    match ArgumentShape.ofText argument with
    | .endOfOptions =>
      match rest with
      | [] => return { before := ← level.settle, command := none }
      | word :: _ =>
        if word == "help" || (CommandName.ofText? word).isSome then throw .unknownArgument
        else throw .unknownCommand
    | .long word attached =>
      let (level, expects) ← readLong none level word attached
      readArguments level expects rest
    | .short letter behind =>
      let (level, expects) ← readShort none level letter behind
      readArguments level expects rest
    | .plain =>
      if expectsValue then readArguments (level.deliver argument) false rest
      else if argument == "help" then throw (helpAnswer rest)
      else
        match CommandName.ofText? argument with
        | none => throw .unknownCommand
        | some command =>
          let inner ← readCommandArguments command
            { free := Level.positionals (some command) } false false rest
          let inner ← requireAll inner
          return { before := ← level.settle, command := some (command, inner) }
where
  /-- Every positional slot must be filled. -/
  requireAll (level : LevelValues) : Except UsageFault LevelValues :=
    if level.free.any fun slot => (level.values slot).isEmpty then throw .missingArgument
    else return level

/-- What the program is asked to do. -/
inductive Command where
  | check (files : List String)
  | symbols (file : String) (kind : Option SymbolKind)
  | goto (file : String) (offset : Nat)
deriving DecidableEq

structure Arguments where
  config : Option String
  logLevel : String
  command : Command
deriving DecidableEq

/-- The command with its values. -/
def commandOf? (level : LevelValues) : CommandName → Option Command
  | .check => some (.check (level.values .files))
  | .symbols => do
    return .symbols (← level.value? .file) ((level.value? .kind).bind SymbolKind.ofText?)
  | .goto => do
    return .goto (← level.value? .file) (← (← level.value? .offset) |> Slot.offset?)

/-- Reads a command line, without the name of the program.  An option given on
both sides of the command counts as given behind it. -/
def parseArguments (arguments : List String) : Except UsageFault Arguments := do
  let split ← readArguments { free := Level.positionals none } false arguments
  match split.command with
  | none =>
    if split.before.settled.isEmpty then throw .nothingGiven else throw .missingCommand
  | some (name, inner) =>
    let value? (slot : Slot) := (inner.value? slot).or (split.before.value? slot)
    match commandOf? inner name with
    | none => throw .missingArgument
    | some command =>
      return {
        config := value? .config
        logLevel := (value? .logLevel).getD "warn"
        command }

end ApiLang
