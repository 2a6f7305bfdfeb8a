/-
Naming styles for generated files.  A name is cut into words at separators and
where a capital follows a small letter or a digit, and a style puts the words
together again.
-/
import ApiLang.Text.Blank
import ApiLang.Text.Case

namespace ApiLang

/-- How file names are spelled: all in lower case, or as words with inner
capitals, underscores or hyphens. -/
inductive NamingStyle where
  | lower
  | camel
  | snake
  | kebab
deriving DecidableEq

def isNameSeparator (c : Char) : Bool :=
  c == '_' || c == '-' || isBlank c

/-- Characters after which a capital begins a word. -/
def endsSmall (c : Char) : Bool :=
  isLowercase c || c.isDigit

/-- A name read from the front: the words that are finished, the word at hand in
lower case, and whether a capital would begin another one. -/
structure WordScan where
  finished : List (List Char) := []
  current : List Char := []
  small : Bool := false

namespace WordScan

/-- The word at hand is finished. -/
def cut (scan : WordScan) : WordScan :=
  { scan with finished := scan.finished ++ [scan.current], current := [] }

def step (scan : WordScan) (c : Char) : WordScan :=
  if isNameSeparator c then
    { (if scan.current.isEmpty then scan else scan.cut) with small := false }
  else
    let scan := if isUppercase c && scan.small then scan.cut else scan
    { scan with current := scan.current ++ lowerChar c, small := endsSmall c }

/-- The words at the end of the name. -/
def words (scan : WordScan) : List (List Char) :=
  if scan.current.isEmpty then scan.finished else scan.cut.finished

end WordScan

/-- The words of a name in lower case, without the separators. -/
def nameWords (name : List Char) : List (List Char) :=
  (name.foldl WordScan.step {}).words

/-- A word with its first character in upper case. -/
def capitalize : List Char → List Char
  | [] => []
  | c :: rest => upperChar c ++ rest

/-- Words written together, each but the first with a capital. -/
def camelWords : List (List Char) → List Char
  | [] => []
  | first :: others => first ++ others.flatMap capitalize

namespace NamingStyle

def text : NamingStyle → String
  | .lower => "gozero"
  | .camel => "goZero"
  | .snake => "go_zero"
  | .kebab => "go-zero"

/-- The style that a text names, blanks around it aside.  Any other text stands
for lower case. -/
def ofText (text : String) : NamingStyle :=
  let cut (cs : List Char) := (cs.dropWhile isBlank).reverse
  match String.ofList (cut (cut text.toList)) with
  | "goZero" => .camel
  | "go_zero" => .snake
  | "go-zero" => .kebab
  | _ => .lower

/-- A name in the given style.  Lower case keeps the separators. -/
def format (style : NamingStyle) (name : String) : String :=
  match style with
  | .lower => lowerText name
  | .camel => String.ofList (camelWords (nameWords name.toList))
  | .snake => String.ofList (['_'].intercalate (nameWords name.toList))
  | .kebab => String.ofList (['-'].intercalate (nameWords name.toList))

end NamingStyle

end ApiLang
