/-
Values whose numbers are all in range.  A value that is passed over unread may
hold any number that is well written; one that is read may not.
-/
import ApiLang.Toml
import ApiLang.Toml.Number

namespace ApiLang

mutual

/-- Every number in a value is in range. -/
def TomlValue.fits : TomlValue → Bool
  | .number text => numberFits text.toList
  | .array items => itemsFit items
  | .table _ entries => entriesFit entries
  | .tables elements => elementsFit elements
  | .string _ | .boolean _ | .date _ => true

def itemsFit : List TomlValue → Bool
  | [] => true
  | item :: items => item.fits && itemsFit items

def entriesFit : List (String × TomlValue) → Bool
  | [] => true
  | (_, value) :: entries => value.fits && entriesFit entries

def elementsFit : List (List (String × TomlValue)) → Bool
  | [] => true
  | element :: elements => entriesFit element && elementsFit elements

end

end ApiLang
