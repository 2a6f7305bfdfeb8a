/-
Tokens: the words of the language, their classes, and the text each was read
from.
-/
import ApiLang.Span

namespace ApiLang

/-- The reserved words. -/
inductive Keyword where
  | syntaxWord
  | infoWord
  | importWord
  | typeWord
  | serviceWord
  | returnsWord
deriving DecidableEq

namespace Keyword

def all : List Keyword :=
  [.syntaxWord, .infoWord, .importWord, .typeWord, .serviceWord, .returnsWord]

def text : Keyword → String
  | .syntaxWord => "syntax"
  | .infoWord => "info"
  | .importWord => "import"
  | .typeWord => "type"
  | .serviceWord => "service"
  | .returnsWord => "returns"

def ofText? (word : String) : Option Keyword :=
  all.find? fun keyword => keyword.text == word

/-- Every reserved word opens a declaration, `returns` excepted. -/
def opensDeclaration : Keyword → Bool
  | .returnsWord => false
  | _ => true

end Keyword

/-- The punctuation marks. -/
inductive Punct where
  | leftParen
  | rightParen
  | leftBrace
  | rightBrace
  | leftBracket
  | rightBracket
  | colon
  | comma
  | dot
  | slash
  | star
  | minus
  | atSign
  | equals
deriving DecidableEq

namespace Punct

def all : List Punct :=
  [.leftParen, .rightParen, .leftBrace, .rightBrace, .leftBracket, .rightBracket, .colon,
    .comma, .dot, .slash, .star, .minus, .atSign, .equals]

def char : Punct → Char
  | .leftParen => '('
  | .rightParen => ')'
  | .leftBrace => '\x7b'
  | .rightBrace => '\x7d'
  | .leftBracket => '['
  | .rightBracket => ']'
  | .colon => ':'
  | .comma => ','
  | .dot => '.'
  | .slash => '/'
  | .star => '*'
  | .minus => '-'
  | .atSign => '@'
  | .equals => '='

def ofChar? (c : Char) : Option Punct :=
  all.find? fun punct => punct.char == c

end Punct

/-- One token.  String literals, raw strings and comments hold their text
without delimiters; escapes in string literals are kept as written. -/
inductive Token where
  | keyword (word : Keyword)
  | identifier (name : String)
  | number (digits : String)
  | string (text : String)
  | rawString (text : String)
  | punct (mark : Punct)
  | lineComment (text : String)
  | blockComment (text : String)
  | whitespace
  | newline
  | invalid (text : String)
deriving DecidableEq

namespace Token

/-- Tokens without meaning for the grammar. -/
def isTrivia : Token → Bool
  | .whitespace | .newline | .lineComment _ | .blockComment _ => true
  | _ => false

/-- Whether the text spans more than one line. -/
def breaksLine (text : String) : Bool :=
  text.toList.contains '\n'

/-- Trivia that stays on its line. -/
def isInlineTrivia : Token → Bool
  | .whitespace | .lineComment _ => true
  | .blockComment text => !breaksLine text
  | _ => false

def isPunct (token : Token) (mark : Punct) : Bool :=
  token == .punct mark

def isKeyword (token : Token) (word : Keyword) : Bool :=
  token == .keyword word

def isInvalid : Token → Bool
  | .invalid _ => true
  | _ => false

/-- The text of an identifier or of a reserved word. -/
def word? : Token → Option String
  | .identifier name => some name
  | .keyword word => some word.text
  | _ => none

/-- How a message names the token. -/
def describe : Token → String
  | .keyword word => "keyword `" ++ word.text ++ "`"
  | .identifier name => "identifier `" ++ name ++ "`"
  | .number digits => "number `" ++ digits ++ "`"
  | .string _ => "string literal"
  | .rawString _ => "tag"
  | .punct mark => "`" ++ mark.char.toString ++ "`"
  | .lineComment _ | .blockComment _ => "comment"
  | .whitespace => "whitespace"
  | .newline => "line break"
  | .invalid text => "invalid input `" ++ text ++ "`"

/-- The characters the token is written with.  White space does not remember its
characters; every other token is determined by its payload. -/
def written? : Token → Option (List Char)
  | .keyword word => some word.text.toList
  | .identifier name => some name.toList
  | .number digits => some digits.toList
  | .string text => some ('"' :: text.toList ++ ['"'])
  | .rawString text => some ('`' :: text.toList ++ ['`'])
  | .punct mark => some [mark.char]
  | .lineComment text => some ('/' :: '/' :: text.toList)
  | .blockComment text => some ('/' :: '*' :: text.toList ++ ['*', '/'])
  | .whitespace => none
  | .newline => some ['\n']
  | .invalid text => some text.toList

end Token

/-- A token and the bytes it covers. -/
structure PlacedToken where
  token : Token
  span : Span
deriving DecidableEq

end ApiLang
