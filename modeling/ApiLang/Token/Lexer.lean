/-
Reading tokens.  Every character belongs to exactly one lexeme, trivia
included; what starts no token becomes an invalid one, with a diagnostic of its
own, and reading goes on behind it.
-/
import ApiLang.Diagnostic
import ApiLang.Text.Blank
import ApiLang.Text.Escape
import ApiLang.Text.Letter
import ApiLang.Text.Offset
import ApiLang.Token

namespace ApiLang

/-- A token with the characters it was read from. -/
structure Lexeme where
  token : Token
  text : List Char
deriving DecidableEq

def startsWord (c : Char) : Bool :=
  isLetter c || c == '_'

def continuesWord (c : Char) : Bool :=
  isLetterOrNumeral c || c == '_'

/-- White space within a line; a carriage return counts, a line break does
not. -/
def isInlineBlank (c : Char) : Bool :=
  isBlank c && c != '\n'

/-- The body of a string literal: anything up to a quote or the end of the line,
where a backslash takes the next character with it. -/
def quotedBody : List Char → List Char
  | '\\' :: c :: cs =>
    if c = '\n' ∨ c = '\r' then [] else '\\' :: c :: quotedBody cs
  | c :: cs =>
    if c = '"' ∨ c = '\\' ∨ c = '\n' ∨ c = '\r' then [] else c :: quotedBody cs
  | [] => []

/-- The text before the first `*/`, if there is one. -/
def commentBody? : List Char → Option (List Char)
  | '*' :: '/' :: _ => some []
  | c :: cs => (commentBody? cs).map (c :: ·)
  | [] => none

/-- A word is a keyword or an identifier, decided after the whole word is
read. -/
def Token.ofWord (word : String) : Token :=
  match Keyword.ofText? word with
  | some reserved => .keyword reserved
  | none => .identifier word

/-- A literal that ends with the mark `close`: what `make` says if the mark
follows the body, and invalid input up to the end of the body otherwise. -/
def delimited (opener close : Char) (make : String → Token) (body rest : List Char) : Lexeme :=
  if rest.head? = some close then
    ⟨make (String.ofList body), opener :: body ++ [close]⟩
  else
    ⟨.invalid (String.ofList (opener :: body)), opener :: body⟩

/-- A comment that starts with `/*`.  Without its end it is invalid and takes the
rest of the text. -/
def blockComment (cs : List Char) : Lexeme :=
  match commentBody? cs with
  | some body => ⟨.blockComment (String.ofList body), '/' :: '*' :: body ++ ['*', '/']⟩
  | none => ⟨.invalid (String.ofList ('/' :: '*' :: cs)), '/' :: '*' :: cs⟩

/-- A lexeme of one character: punctuation, or an invalid character. -/
def markOrInvalid (c : Char) : Lexeme :=
  match Punct.ofChar? c with
  | some mark => ⟨.punct mark, [c]⟩
  | none => ⟨.invalid (String.ofList [c]), [c]⟩

/-- The lexeme at the front of `c :: cs`. -/
def firstLexeme (c : Char) (cs : List Char) : Lexeme :=
  if c = '\n' then ⟨.newline, [c]⟩
  else if isBlank c then ⟨.whitespace, c :: cs.takeWhile isInlineBlank⟩
  else if c = '/' ∧ cs.head? = some '/' then
    let body := cs.tail.takeWhile (· != '\n')
    ⟨.lineComment (String.ofList body), '/' :: '/' :: body⟩
  else if c = '/' ∧ cs.head? = some '*' then blockComment cs.tail
  else if c = '"' then
    let body := quotedBody cs
    delimited '"' '"' .string body (cs.drop body.length)
  else if c = '`' then
    let body := cs.takeWhile fun d => d != '`' && d != '\n'
    delimited '`' '`' .rawString body (cs.drop body.length)
  else if startsWord c then
    let word := c :: cs.takeWhile continuesWord
    ⟨.ofWord (String.ofList word), word⟩
  else if c.isDigit then
    let digits := c :: cs.takeWhile Char.isDigit
    ⟨.number (String.ofList digits), digits⟩
  else markOrInvalid c

/-- The lexemes of a text, from left to right. -/
def lexemes : List Char → List Lexeme
  | [] => []
  | c :: cs =>
    let lexeme := firstLexeme c cs
    lexeme :: lexemes (cs.drop (lexeme.text.length - 1))
termination_by text => text.length
decreasing_by simp only [List.length_drop, List.length_cons]; omega

/-- Lexemes in a row, the first at byte `offset`. -/
def placeLexemes (offset : Nat) : List Lexeme → List PlacedToken
  | [] => []
  | lexeme :: rest =>
    let stop := offset + byteWidth lexeme.text
    ⟨lexeme.token, ⟨offset, stop⟩⟩ :: placeLexemes stop rest

/-- The tokens of a source text. -/
def tokenize (source : List Char) : List PlacedToken :=
  placeLexemes 0 (lexemes source)

/-- What an invalid token was meant to be, by its first characters. -/
def invalidTokenDiagnostic (text : String) (span : Span) : Diagnostic :=
  let report (code : DiagnosticCode) (message : String) :=
    Diagnostic.located .error code message span code.description
  match text.toList with
  | '"' :: _ =>
    (report .unterminatedString "unterminated string literal").withHelp "add closing `\"`"
  | '`' :: _ =>
    (report .unterminatedRawString "unterminated raw string").withHelp "add closing backtick"
  | '/' :: '*' :: _ =>
    (report .unterminatedComment "unterminated block comment").withHelp "add closing `*/`"
  | cs =>
    report .unexpectedCharacter
      ("unexpected character `" ++ String.join (cs.map escapeChar) ++ "`")

/-- One diagnostic for each invalid token, in order. -/
def tokenDiagnostics (tokens : List PlacedToken) : List Diagnostic :=
  tokens.filterMap fun placed =>
    match placed.token with
    | .invalid text => some (invalidTokenDiagnostic text placed.span)
    | _ => none

end ApiLang
