/-
Spans: half-open ranges of byte offsets into a source text, and values that
remember where they stand.
-/

namespace ApiLang

/-- The bytes from `start` up to, and not including, `stop`. -/
structure Span where
  start : Nat
  stop : Nat
deriving DecidableEq, Inhabited

namespace Span

/-- The span that holds no byte and stands at `offset`. -/
def empty (offset : Nat) : Span :=
  ⟨offset, offset⟩

def length (span : Span) : Nat :=
  span.stop - span.start

def isEmpty (span : Span) : Bool :=
  span.start == span.stop

/-- The least span that covers both. -/
def union (left right : Span) : Span :=
  ⟨min left.start right.start, max left.stop right.stop⟩

/-- Whether `inner` lies entirely within `outer`. -/
def contains (outer inner : Span) : Bool :=
  outer.start ≤ inner.start && inner.stop ≤ outer.stop

/-- Whether a cursor at `offset` touches the span.  The end counts as inside, so
that a cursor right after a name still hits it. -/
def touches (span : Span) (offset : Nat) : Bool :=
  span.start ≤ offset && offset ≤ span.stop

/-- Whether the spans share at least one byte. -/
def overlaps (left right : Span) : Bool :=
  left.start < right.stop && right.start < left.stop

/-- Spans are ordered by start, then by end. -/
def order (left right : Span) : Ordering :=
  (compare left.start right.start).then (compare left.stop right.stop)

/-- The span moved to the right. -/
def shift (distance : Nat) (span : Span) : Span :=
  ⟨span.start + distance, span.stop + distance⟩

def render (span : Span) : String :=
  s!"{span.start}..{span.stop}"

end Span

/-- A value with the place it was read from. -/
structure Spanned (α : Type) where
  val : α
  span : Span
deriving DecidableEq

end ApiLang
