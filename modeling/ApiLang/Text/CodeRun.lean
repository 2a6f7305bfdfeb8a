/-
Tables of code points.  A character property is a sorted list of runs, each an
arithmetic progression of code points, and a character has the property when
some run holds its code.
-/

namespace ApiLang

/-- The code points `first`, `first + stride`, up to `last`.  A stride of two
covers scripts in which upper and lower case letters alternate. -/
structure CodeRun where
  first : Nat
  last : Nat
  stride : Nat

/-- Membership in a table whose runs are sorted and do not interleave: a code
below the first run lies in no later one, so the search may stop there. -/
def inCodeRuns (code : Nat) : List CodeRun → Bool
  | [] => false
  | run :: runs =>
    if code < run.first then false
    else if code ≤ run.last then (code - run.first) % run.stride == 0
    else inCodeRuns code runs

end ApiLang
