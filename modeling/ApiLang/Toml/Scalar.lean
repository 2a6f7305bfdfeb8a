/-
The scalars of TOML: quoted texts with their escapes, dates, and the choice among
all that stands without quotes.  Line breaks are single line feeds here.
-/
import ApiLang.Toml
import ApiLang.Toml.Number

namespace ApiLang

/-- Characters that stand for themselves in comments and quoted texts.  Control
characters other than the tab do not. -/
def isTomlPlain (c : Char) : Bool :=
  c == '\t' || (0x20 ≤ c.toNat && c.toNat != 0x7f)

/-- The character that a letter stands for behind a backslash. -/
def escapedChar? : Char → Option Char
  | 'b' => some '\x08'
  | 't' => some '\t'
  | 'n' => some '\n'
  | 'f' => some '\x0c'
  | 'r' => some '\r'
  | 'e' => some '\x1b'
  | '"' => some '"'
  | '\\' => some '\\'
  | _ => none

/-- The number of hexadecimal digits that follow a letter behind a backslash. -/
def escapeDigits? : Char → Option Nat
  | 'x' => some 2
  | 'u' => some 4
  | 'U' => some 8
  | _ => none

/-- Where the reading of a quoted text stands: between characters, behind a
backslash, inside a character code with `left` digits to come, or inside the
blanks behind a backslash at the end of a line. -/
inductive EscapeState where
  | plain
  | slash
  | code (left value : Nat)
  | folding (broken : Bool)

/-- The character with a given code, unless it is a surrogate or no code. -/
def charOfCode? (code : Nat) : Option Char :=
  if code.isValidChar then some (Char.ofNat code) else none

/-- The next state behind a backslash, and the character it stands for.  Blanks
are folded only in texts of several lines. -/
def afterSlash (multiline : Bool) (c : Char) : Option (List Char × EscapeState) :=
  match escapedChar? c, escapeDigits? c with
  | some d, _ => some ([d], .plain)
  | none, some digits => some ([], .code digits 0)
  | none, none =>
    if multiline && (c == ' ' || c == '\t' || c == '\n') then some ([], .folding (c == '\n'))
    else none

/-- The step from character to character of a quoted text: what is added, and
where the reading stands then. -/
def escapeStep (multiline : Bool) (c : Char) :
    EscapeState → Option (List Char × EscapeState)
  | .slash => afterSlash multiline c
  | .code left value => do
    let code := value * 16 + (← hexDigit? c)
    if 1 < left then return ([], .code (left - 1) code)
    else return ([← charOfCode? code], .plain)
  | .folding broken =>
    if c == ' ' || c == '\t' then some ([], .folding broken)
    else if c == '\n' then some ([], .folding true)
    else if broken then plainStep
    else none
  | .plain => plainStep
where
  plainStep : Option (List Char × EscapeState) :=
    if c == '\\' then some ([], .slash)
    else if isTomlPlain c || (multiline && c == '\n') then some ([c], .plain)
    else none

/-- The text that is written between quotes. -/
def unescape (multiline : Bool) : EscapeState → List Char → Option (List Char)
  | .plain, [] | .folding true, [] => some []
  | _, [] => none
  | state, c :: rest => do
    let (added, next) ← escapeStep multiline c state
    return added ++ (← unescape multiline next rest)

/-- What stands before the closing quote, and what follows it.  A backslash
protects the next character. -/
def cutQuoted : List Char → Option (List Char × List Char)
  | [] => none
  | '"' :: rest => some ([], rest)
  | '\n' :: _ => none
  | '\\' :: c :: rest => (cutQuoted rest).map fun (body, rest) => ('\\' :: c :: body, rest)
  | c :: rest => (cutQuoted rest).map fun (body, rest) => (c :: body, rest)

/-- Behind three closing quotes, up to two more quotes belong to the text. -/
def spareQuotes (quote : Char) : List Char → List Char × List Char
  | first :: second :: rest =>
    if first == quote && second == quote then ([quote, quote], rest)
    else if first == quote then ([quote], second :: rest)
    else ([], first :: second :: rest)
  | [first] => if first == quote then ([quote], []) else ([], [first])
  | [] => ([], [])

/-- What stands before three closing quotes, and what follows them. -/
def cutTripleQuoted : List Char → Option (List Char × List Char)
  | [] => none
  | '"' :: '"' :: '"' :: rest => some (spareQuotes '"' rest)
  | '\\' :: c :: rest =>
    (cutTripleQuoted rest).map fun (body, rest) => ('\\' :: c :: body, rest)
  | c :: rest => (cutTripleQuoted rest).map fun (body, rest) => (c :: body, rest)

/-- What stands before three closing apostrophes, and what follows them. -/
def cutTripleLiteral : List Char → Option (List Char × List Char)
  | [] => none
  | '\'' :: '\'' :: '\'' :: rest => some (spareQuotes '\'' rest)
  | c :: rest => (cutTripleLiteral rest).map fun (body, rest) => (c :: body, rest)

/-- A line break right behind the opening quotes does not count. -/
def dropFirstBreak : List Char → List Char
  | '\n' :: rest => rest
  | text => text

/-- A text between apostrophes stands as it is. -/
def literalText (multiline : Bool) (body : List Char) : Option String :=
  if body.all fun c => isTomlPlain c || (multiline && c == '\n') then
    some (String.ofList body)
  else none

/-- A quoted text on one line, from behind its first quote on. -/
def quotedText (rest : List Char) : Option (String × List Char) := do
  let (body, rest) ← cutQuoted rest
  return (String.ofList (← unescape false .plain body), rest)

/-- A literal text on one line, from behind its first apostrophe on. -/
def apostropheText (rest : List Char) : Option (String × List Char) :=
  match rest.dropWhile (· != '\'') with
  | _ :: behind => (literalText false (rest.takeWhile (· != '\''))).map (·, behind)
  | [] => none

/-- Any quoted text, from its first character on. -/
def tomlText : List Char → Option (String × List Char)
  | '"' :: '"' :: '"' :: rest => do
    let (body, rest) ← cutTripleQuoted (dropFirstBreak rest)
    return (String.ofList (← unescape true .plain body), rest)
  | '\'' :: '\'' :: '\'' :: rest => do
    let (body, rest) ← cutTripleLiteral (dropFirstBreak rest)
    return (← literalText true body, rest)
  | '"' :: rest => quotedText rest
  | '\'' :: rest => apostropheText rest
  | _ => none

/-- A number of a fixed count of digits within bounds. -/
def isField (count low high : Nat) (text : List Char) : Bool :=
  text.length == count && text.all Char.isDigit &&
    low ≤ digitsValue 10 text && digitsValue 10 text ≤ high

def daysInMonth (year month : Nat) : Nat :=
  if month == 2 then
    if year % 4 == 0 && (year % 100 != 0 || year % 400 == 0) then 29 else 28
  else if [4, 6, 9, 11].contains month then 30
  else 31

/-- A day, `2024-02-29`. -/
def isTomlDay (text : List Char) : Bool :=
  match text.splitOn '-' with
  | [year, month, day] =>
    isField 4 0 9999 year && isField 2 1 12 month &&
      isField 2 1 (daysInMonth (digitsValue 10 year) (digitsValue 10 month)) day
  | _ => false

/-- Seconds with an optional fraction.  A leap second may follow the others. -/
def isTomlSeconds (text : List Char) : Bool :=
  match text.splitOn '.' with
  | [seconds] => isField 2 0 60 seconds
  | [seconds, fraction] =>
    isField 2 0 60 seconds && !fraction.isEmpty && fraction.all Char.isDigit
  | _ => false

/-- A time of day, `07:32` or `07:32:00.5`. -/
def isTomlTime (text : List Char) : Bool :=
  match text.splitOn ':' with
  | [hour, minute] => isField 2 0 23 hour && isField 2 0 59 minute
  | [hour, minute, seconds] =>
    isField 2 0 23 hour && isField 2 0 59 minute && isTomlSeconds seconds
  | _ => false

/-- A distance from the common time, `07:00`. -/
def isTomlZone (text : List Char) : Bool :=
  match text.splitOn ':' with
  | [hour, minute] => isField 2 0 23 hour && isField 2 0 59 minute
  | _ => false

/-- A time of day that may name its distance from the common time. -/
def isZonedTime (text : List Char) : Bool :=
  let marksZone (c : Char) := c == 'Z' || c == 'z' || c == '+' || c == '-'
  let time := text.takeWhile fun c => !marksZone c
  isTomlTime time &&
    match text.dropWhile fun c => !marksZone c with
    | [] => true
    | mark :: zone =>
      if mark == 'Z' || mark == 'z' then zone.isEmpty else isTomlZone zone

/-- A day, a time of day, or both. -/
def isTomlDate (text : List Char) : Bool :=
  isTomlTime text || isTomlDay text ||
    (isTomlDay (text.take 10) &&
      match text.drop 10 with
      | mark :: time => (mark == 'T' || mark == 't' || mark == ' ') && isZonedTime time
      | [] => false)

/-- Characters of an unquoted scalar: all but blanks, line breaks and the marks
that divide a document. -/
def isScalarChar (c : Char) : Bool :=
  !" \t\n\r#=,[]\x7b\x7d\"'".toList.contains c

/-- An unquoted scalar and what follows it.  A blank between day and time is part
of it. -/
def cutScalar (text : List Char) : List Char × List Char :=
  let run := text.takeWhile isScalarChar
  match text.dropWhile isScalarChar with
  | ' ' :: c :: rest =>
    if isTomlDay run && c.isDigit then
      (run ++ ' ' :: (c :: rest).takeWhile isScalarChar, (c :: rest).dropWhile isScalarChar)
    else (run, ' ' :: c :: rest)
  | rest => (run, rest)

/-- The value of an unquoted scalar. -/
def tomlScalar? (text : List Char) : Option TomlValue :=
  if text == "true".toList then some (.boolean true)
  else if text == "false".toList then some (.boolean false)
  else if isNumberShape text then some (.number (String.ofList text))
  else if isTomlDate text then some (.date (String.ofList text))
  else none

end ApiLang
