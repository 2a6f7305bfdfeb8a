/-
Files as the program sees them, and a table of files that answers like a
directory tree.
-/
import ApiLang.Loader

namespace ApiLang

/-- Why a file cannot be read as text. -/
inductive FileFault where
  | notFound
  | isDirectory
  | notDirectory
  | notText
  | permissionDenied
  | nameTooLong
  | zeroInName
deriving DecidableEq

namespace FileFault

def text : FileFault → String
  | .notFound => "No such file or directory (os error 2)"
  | .isDirectory => "Is a directory (os error 21)"
  | .notDirectory => "Not a directory (os error 20)"
  | .notText => "stream did not contain valid UTF-8"
  | .permissionDenied => "Permission denied (os error 13)"
  | .nameTooLong => "File name too long (os error 36)"
  | .zeroInName => "file name contained an unexpected NUL byte"

/-- The fault as an import reports it. -/
def readFault : FileFault → ReadFault
  | .notFound => .notFound
  | .isDirectory => .isDirectory
  | .notDirectory => .notDirectory
  | .notText => .invalidData
  | .permissionDenied => .permissionDenied
  | .nameTooLong => .invalidName
  | .zeroInName => .invalidInput

end FileFault

/-- What can be asked about the spelling of a path: the text of the file there,
and whether there is anything. -/
structure Files where
  read : String → Except FileFault String
  present : String → Bool

/-- Imports read from files. -/
def Files.loader (files : Files) : Loader := fun path =>
  match files.read path.render with
  | .ok source => .ok source
  | .error fault => .error fault.readFault

inductive FileEntry where
  | file (bytes : ByteArray)
  | directory

/-- Files and directories below a working directory, by the names that lead to
them.  The directories on the way to an entry need no entry of their own. -/
structure FileTable where
  entries : OrderedMap (List String) FileEntry

namespace FileTable

def ofList (files : List (String × FileEntry)) : FileTable :=
  ⟨.ofList (files.map fun (path, entry) =>
    ((Path.ofText path).parts.map PathPart.text, entry))⟩

/-- What is found at the end of the names. -/
def entryAt? (table : FileTable) (names : List String) : Option FileEntry :=
  match table.entries.find? names with
  | some entry => some entry
  | none =>
    if names.isEmpty || table.entries.entries.any (fun (other, _) => names.isPrefixOf other)
    then some .directory
    else none

/-- A place in the tree: below the working directory, or in one of the
directories above it, which hold nothing else. -/
inductive Place where
  | below (names : List String)
  | above
deriving DecidableEq

def atPlace (table : FileTable) : Place → Option FileEntry
  | .below names => table.entryAt? names
  | .above => some .directory

/-- One step from a directory.  Going up from the working directory leaves the
table, and no name leads back. -/
def step : Place → String → Option Place
  | place, "" | place, "." => some place
  | .below [], ".." | .above, ".." => some .above
  | .below names, ".." => some (.below names.dropLast)
  | .below names, name => some (.below (names ++ [name]))
  | .above, _ => none

/-- How many bytes a name may have, and how many a whole path. -/
def nameLimit : Nat :=
  255

def pathLimit : Nat :=
  4095

/-- Follows the steps of a path.  Every step starts from a directory, where names
beyond the limit are not even looked up. -/
def walk (table : FileTable) (place : Place) : List String → Except FileFault FileEntry
  | [] =>
    match table.atPlace place with
    | some entry => .ok entry
    | none => .error .notFound
  | name :: rest =>
    match table.atPlace place with
    | none => .error .notFound
    | some (.file _) => .error .notDirectory
    | some .directory =>
      if nameLimit < name.utf8ByteSize then .error .nameTooLong
      else
        match step place name with
        | some next => table.walk next rest
        | none => .error .notFound

/-- What the spelling of a path leads to. -/
def find (table : FileTable) (path : String) : Except FileFault FileEntry :=
  let steps := (path.toList.splitOn '/').map String.ofList
  if path.toList.contains '\x00' then .error .zeroInName
  else if pathLimit < path.utf8ByteSize then .error .nameTooLong
  else
    match path.toList with
    | [] => .error .notFound
    | '/' :: _ => table.walk .above steps
    | _ => table.walk (.below []) steps

/-- The text of the file to which a path leads. -/
def read (table : FileTable) (path : String) : Except FileFault String :=
  match table.find path with
  | .error fault => .error fault
  | .ok .directory => .error .isDirectory
  | .ok (.file bytes) =>
    match String.fromUTF8? bytes with
    | some text => .ok text
    | none => .error .notText

def files (table : FileTable) : Files where
  read := table.read
  present path := (table.find path).toBool

end FileTable

end ApiLang
