/-
Locations: where the declaration behind a reference stands.
-/
import ApiLang.Validation

namespace ApiLang

/-- A span of some file with the position of its start. -/
structure Location where
  path : String
  span : Span
  position : Position
deriving DecidableEq

def Location.render (location : Location) : String :=
  s!"{location.path}:{location.position.line}:{location.position.column}"

/-- The location of a span in a document. -/
def Document.locate (document : Document) (span : Span) : Location :=
  { path := document.path
    span
    position := document.position span.start }

/-- A node is found at its name and a document at its beginning. -/
def Target.location (home : Document) (target : Target) : Location :=
  let document := target.documentFrom home
  match target.node? with
  | some node => document.locate (document.nameSpanOf node)
  | none => document.locate (Span.empty 0)

/-- The location of what the reference at a byte offset points at.  There is none
without a reference, and none for one that is unresolved or ambiguous. -/
def locate? (loader : Loader) (document : Document) (offset : Nat) : Option Location := do
  let reference ← document.referenceAt? offset
  let resolution := (resolve loader document reference |>.run {}).1
  let target ← resolution.target?
  return target.location document

end ApiLang
