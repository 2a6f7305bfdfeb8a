/-
Reading TOML.  Values nest in arrays and inline tables up to a fixed depth, and
statements follow each other line by line.
-/
import ApiLang.Toml.Scalar

namespace ApiLang

/-- A part of a text and what follows it, or nothing if the text does not fit. -/
abbrev TomlReader (α : Type) : Type :=
  List Char → Option (α × List Char)

def isTomlBlank (c : Char) : Bool :=
  c == ' ' || c == '\t'

def skipBlanks (text : List Char) : List Char :=
  text.dropWhile isTomlBlank

/-- Drops a comment.  The line break that ends it stays. -/
def skipComment : List Char → Option (List Char)
  | '#' :: text =>
    if (text.takeWhile (· != '\n')).all isTomlPlain then some (text.dropWhile (· != '\n'))
    else none
  | text => some text

/-- Drops blanks, comments and line breaks.  `fuel` bounds the number of lines. -/
def skipLines : (fuel : Nat) → List Char → Option (List Char)
  | 0, _ => none
  | fuel + 1, text => do
    match ← skipComment (skipBlanks text) with
    | '\n' :: rest => skipLines fuel rest
    | rest => return rest

/-- Drops everything between two items of an array or an inline table. -/
def skipGap (text : List Char) : Option (List Char) :=
  skipLines (text.length + 1) text

def isBareKeyChar (c : Char) : Bool :=
  c.isAlphanum || c == '_' || c == '-'

/-- One step of a key: bare, quoted or literal. -/
def tomlKeyStep : TomlReader String
  | '"' :: rest => quotedText rest
  | '\'' :: rest => apostropheText rest
  | text =>
    let bare := text.takeWhile isBareKeyChar
    if bare.isEmpty then none else some (String.ofList bare, text.dropWhile isBareKeyChar)

/-- Steps divided by dots, with blanks around them.  Behind a key no blank is
left. -/
def tomlKeySteps : (fuel : Nat) → TomlReader TomlKey
  | 0, _ => none
  | fuel + 1, text => do
    let (step, rest) ← tomlKeyStep (skipBlanks text)
    match skipBlanks rest with
    | '.' :: rest =>
      let (key, rest) ← tomlKeySteps fuel rest
      return ({ key with path := step :: key.path }, rest)
    | rest => return ({ path := [], name := step }, rest)

/-- How deep arrays and inline tables may nest, and how many steps may lead to a
key. -/
def tomlNestingLimit : Nat :=
  80

def tomlKey (text : List Char) : Option (TomlKey × List Char) := do
  let (key, rest) ← tomlKeySteps (text.length + 1) text
  if key.path.length < tomlNestingLimit then return (key, rest) else none

mutual

/-- A value.  `depth` is how much deeper values may nest, and `fuel` exceeds the
length of the text. -/
def tomlValue (depth : Nat) : (fuel : Nat) → TomlReader TomlValue
  | 0, _ => none
  | fuel + 1, text =>
    match text, depth with
    | '[' :: rest, depth + 1 => do
      let (items, rest) ← tomlItems depth fuel rest
      return (.array items, rest)
    | '\x7b' :: rest, depth + 1 => do
      let (entries, rest) ← tomlInlineEntries depth fuel [] rest
      return (.table .braces entries, rest)
    | '"' :: _, _ | '\'' :: _, _ => do
      let (content, rest) ← tomlText text
      return (.string content, rest)
    | _, _ => do
      let (scalar, rest) := cutScalar text
      return (← tomlScalar? scalar, rest)

/-- The items of an array up to its closing bracket.  A comma may follow the last
one. -/
def tomlItems (depth : Nat) : (fuel : Nat) → TomlReader (List TomlValue)
  | 0, _ => none
  | fuel + 1, text => do
    match ← skipGap text with
    | ']' :: rest => return ([], rest)
    | rest =>
      let (item, rest) ← tomlValue depth fuel rest
      match ← skipGap rest with
      | ',' :: rest =>
        let (items, rest) ← tomlItems depth fuel rest
        return (item :: items, rest)
      | ']' :: rest => return ([item], rest)
      | _ => none

/-- The entries of an inline table up to its closing brace, behind those that are
already `known`.  A comma may follow the last one, and lines may break around
keys and values. -/
def tomlInlineEntries (depth : Nat) : (fuel : Nat) → TomlEntries → TomlReader TomlEntries
  | 0, _, _ => none
  | fuel + 1, known, text => do
    match ← skipGap text with
    | '\x7d' :: rest => return (known, rest)
    | rest =>
      let (key, rest) ← tomlKey rest
      match ← skipGap rest with
      | '=' :: rest =>
        let (value, rest) ← tomlValue depth fuel (← skipGap rest)
        let known ← TomlEntries.assign key.name value key.path true known
        match ← skipGap rest with
        | ',' :: rest => tomlInlineEntries depth fuel known rest
        | '\x7d' :: rest => return (known, rest)
        | _ => none
      | _ => none

end

/-- A statement from its first character on: a header or an assignment. -/
def tomlStatement : TomlReader TomlStatement
  | '[' :: '[' :: rest => do
    match ← tomlKey rest with
    | (key, ']' :: ']' :: rest) => return (.elementHeader key, rest)
    | _ => none
  | '[' :: rest => do
    match ← tomlKey rest with
    | (key, ']' :: rest) => return (.header key, rest)
    | _ => none
  | text => do
    match ← tomlKey text with
    | (key, '=' :: rest) =>
      let (value, rest) ← tomlValue tomlNestingLimit (rest.length + 1) (skipBlanks rest)
      return (.assign key value, rest)
    | _ => none

/-- Statements, each on a line of its own.  `fuel` exceeds the length of the
text. -/
def tomlStatements : (fuel : Nat) → List Char → Option (List TomlStatement)
  | 0, _ => none
  | fuel + 1, text => do
    match ← skipGap text with
    | [] => return []
    | rest =>
      let (statement, rest) ← tomlStatement rest
      match ← skipComment (skipBlanks rest) with
      | [] => return [statement]
      | '\n' :: rest => return statement :: (← tomlStatements fuel rest)
      | _ => none

/-- Line breaks of two characters become one. -/
def unifyBreaks : List Char → List Char
  | '\r' :: '\n' :: rest => '\n' :: unifyBreaks rest
  | c :: rest => c :: unifyBreaks rest
  | [] => []

/-- A byte order mark at the beginning of a text does not count. -/
def dropByteOrderMark : List Char → List Char
  | '\ufeff' :: rest => rest
  | text => text

/-- The root table of a TOML document, or nothing if the text is not one. -/
def parseToml (text : String) : Option TomlEntries := do
  let lines := unifyBreaks (dropByteOrderMark text.toList)
  tomlTable (← tomlStatements (lines.length + 1) lines)

end ApiLang
