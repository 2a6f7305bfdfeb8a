/-
Byte offsets into a text.  A text is a list of characters and an offset counts
the bytes of their UTF-8 encoding, so only some offsets fall between two
characters.
-/
import ApiLang.Span

namespace ApiLang

/-- The number of bytes that encode the characters. -/
def byteWidth : (text : List Char) → Nat
  | [] => 0
  | c :: cs => c.utf8Size + byteWidth cs

/-- The characters before byte `offset`, or nothing when the offset lies beyond
the end or inside a character. -/
def takeBytes : (text : List Char) → (offset : Nat) → Option (List Char)
  | _, 0 => some []
  | [], _ + 1 => none
  | c :: cs, offset + 1 =>
    if c.utf8Size ≤ offset + 1 then
      (takeBytes cs (offset + 1 - c.utf8Size)).map (c :: ·)
    else none

/-- The characters from byte `offset` on, under the same condition. -/
def dropBytes : (text : List Char) → (offset : Nat) → Option (List Char)
  | text, 0 => some text
  | [], _ + 1 => none
  | c :: cs, offset + 1 =>
    if c.utf8Size ≤ offset + 1 then dropBytes cs (offset + 1 - c.utf8Size) else none

/-- The text under a span, or nothing when the span is not a slice of the text. -/
def slice? (text : List Char) (span : Span) : Option (List Char) :=
  if span.start ≤ span.stop then
    (dropBytes text span.start).bind fun rest => takeBytes rest (span.stop - span.start)
  else none

/-- The text under a span, empty when the span is not a slice of the text. -/
def sliceText (text : List Char) (span : Span) : String :=
  String.ofList ((slice? text span).getD [])

/-- A place for a reader: line and column count from one, columns in
characters. -/
structure Position where
  line : Nat
  column : Nat
deriving DecidableEq

/-- Where the text ends that starts at line one, column one. -/
def positionAfter (before : List Char) : Position :=
  { line := before.count '\n' + 1
    column := (before.reverse.takeWhile (· != '\n')).length + 1 }

/-- The position of byte `offset`.  An offset beyond the end has the position of
the end, and one inside a character that of the beginning. -/
def positionAt (text : List Char) (offset : Nat) : Position :=
  positionAfter ((takeBytes text (min offset (byteWidth text))).getD [])

end ApiLang
