/-
White space: the characters of the White_Space property.
-/
import ApiLang.Text.CodeRun

namespace ApiLang

def blankRuns : List CodeRun := [
  ⟨0x9, 0xD, 1⟩, ⟨0x20, 0x20, 1⟩, ⟨0x85, 0x85, 1⟩, ⟨0xA0, 0xA0, 1⟩,
  ⟨0x1680, 0x1680, 1⟩, ⟨0x2000, 0x200A, 1⟩, ⟨0x2028, 0x2029, 1⟩, ⟨0x202F, 0x202F, 1⟩,
  ⟨0x205F, 0x205F, 1⟩, ⟨0x3000, 0x3000, 1⟩]

/-- White space of any script, line breaks and no-break spaces included.  Zero
width format characters are not blank. -/
def isBlank (c : Char) : Bool :=
  inCodeRuns c.toNat blankRuns

end ApiLang
