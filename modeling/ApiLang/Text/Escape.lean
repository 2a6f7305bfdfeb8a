/-
Escaped characters: how a single character is shown inside a message.
-/
import ApiLang.Text.Printable

namespace ApiLang

/-- The code of a character in lower case hexadecimal digits. -/
def hexCode (c : Char) : String :=
  String.ofList (Nat.toDigits 16 c.toNat)

/-- Quotes and the backslash are escaped by a backslash, the common controls have
a letter of their own, and what could not be seen is given by its code. -/
def escapeChar (c : Char) : String :=
  match c with
  | '\x00' => "\\0"
  | '\t' => "\\t"
  | '\r' => "\\r"
  | '\n' => "\\n"
  | '\'' => "\\'"
  | '"' => "\\\""
  | '\\' => "\\\\"
  | _ =>
    if extendsGrapheme c || !isPrintable c then "\\u\x7b" ++ hexCode c ++ "\x7d"
    else c.toString

end ApiLang
