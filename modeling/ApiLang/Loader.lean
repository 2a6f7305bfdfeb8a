/-
Where imported sources come from.  A loader answers each path with a source or
with the reason there is none.
-/
import ApiLang.OrderedMap
import ApiLang.Path

namespace ApiLang

/-- Why a source cannot be read. -/
inductive ReadFault where
  | notFound
  | permissionDenied
  | invalidData
  | timedOut
  | unexpectedEnd
  | isDirectory
  | notDirectory
  | invalidInput
  | invalidName
  | other
deriving DecidableEq

def ReadFault.text : ReadFault → String
  | .notFound => "entity not found"
  | .permissionDenied => "permission denied"
  | .invalidData => "invalid data"
  | .timedOut => "timed out"
  | .unexpectedEnd => "unexpected end of file"
  | .isDirectory => "is a directory"
  | .notDirectory => "not a directory"
  | .invalidInput => "invalid input parameter"
  | .invalidName => "invalid filename"
  | .other => "other error"

abbrev Loader : Type :=
  Path → Except ReadFault String

/-- Sources held in memory under the normal form of their paths, for editors with
unsaved buffers. -/
structure MemoryFiles where
  sources : OrderedMap Path String := .empty

namespace MemoryFiles

/-- A source replaces an earlier one with the same normal form of the path. -/
def put (files : MemoryFiles) (path : Path) (source : String) : MemoryFiles :=
  ⟨files.sources.set path.normalize source⟩

def ofList (files : List (Path × String)) : MemoryFiles :=
  files.foldl (fun kept file => kept.put file.1 file.2) {}

def loader (files : MemoryFiles) : Loader := fun path =>
  match files.sources.find? path.normalize with
  | some source => .ok source
  | none => .error .notFound

end MemoryFiles

end ApiLang
