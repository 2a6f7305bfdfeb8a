/-
Paths of files, taken apart at the slashes.  Paths are compared and joined part
by part and never looked up, so the normal form of a path folds `..` by its
spelling alone.
-/

namespace ApiLang

/-- One step of a path: stay, go up, or go down to a name. -/
inductive PathPart where
  | here
  | up
  | name (text : String)
deriving DecidableEq

def PathPart.text : PathPart → String
  | .here => "."
  | .up => ".."
  | .name word => word

def PathPart.ofText : String → PathPart
  | "." => .here
  | ".." => .up
  | text => .name text

/-- The steps of a path, from the root if it is absolute. -/
structure Path where
  absolute : Bool
  parts : List PathPart
deriving DecidableEq

namespace Path

/-- The relative path without a step. -/
def empty : Path :=
  ⟨false, []⟩

def isEmpty (path : Path) : Bool :=
  !path.absolute && path.parts.isEmpty

/-- Steps that stay are dropped. -/
def dropHere (parts : List PathPart) : List PathPart :=
  parts.filter (· != .here)

/-- The path that a text spells.  Repeated slashes count once, and a `.` counts
only at the beginning of a relative path. -/
def ofText (text : String) : Path :=
  let segments := (text.toList.splitOn '/').filter fun segment => !segment.isEmpty
  let parts := segments.map fun segment => PathPart.ofText (String.ofList segment)
  match text.toList, parts with
  | '/' :: _, _ => ⟨true, dropHere parts⟩
  | _, .here :: others => ⟨false, .here :: dropHere others⟩
  | _, _ => ⟨false, dropHere parts⟩

def render (path : Path) : String :=
  (if path.absolute then "/" else "") ++ "/".intercalate (path.parts.map PathPart.text)

/-- The path that `next` names when it starts at `base`.  An absolute path does
not care where it starts. -/
def join (base next : Path) : Path :=
  if next.absolute || base.isEmpty then next
  else ⟨base.absolute, base.parts ++ dropHere next.parts⟩

/-- The path without its last step. -/
def parent? (path : Path) : Option Path :=
  if path.parts.isEmpty then none else some ⟨path.absolute, path.parts.dropLast⟩

/-- Takes a step from the place reached by `done`, whose last step comes first.
Going up undoes a step down to a name. -/
def takeStep (done : List PathPart) : PathPart → List PathPart
  | .here => done
  | .name text => .name text :: done
  | .up =>
    match done with
    | .name _ :: earlier => earlier
    | _ => .up :: done

/-- The normal form: no step stays, and all steps up come first. -/
def normalize (path : Path) : Path :=
  ⟨path.absolute, (path.parts.foldl takeStep []).reverse⟩

/-- The name at the end of the path. -/
def fileName? (path : Path) : Option String :=
  match path.parts.getLast? with
  | some (.name text) => some text
  | _ => none

/-- A file name cut at its last dot.  A dot at the beginning does not count. -/
def cutExtension (name : String) : String × Option String :=
  let behind := (name.toList.reverse.takeWhile (· != '.')).reverse
  match (name.toList.reverse.dropWhile (· != '.')).reverse.dropLast with
  | [] => (name, none)
  | stem => (String.ofList stem, some (String.ofList behind))

def fileStem? (path : Path) : Option String :=
  path.fileName?.map fun name => (cutExtension name).1

def extension? (path : Path) : Option String :=
  path.fileName?.bind fun name => (cutExtension name).2

end Path

end ApiLang
