/-
Numbers of TOML.  Whether a number is well written is told when it is read;
whether its value is in range is told when the value is asked for.  Whole numbers
have 128 bits, the others are doubles.
-/

namespace ApiLang

def hexDigit? (c : Char) : Option Nat :=
  if '0' ≤ c ∧ c ≤ '9' then some (c.toNat - '0'.toNat)
  else if 'a' ≤ c ∧ c ≤ 'f' then some (c.toNat - 'a'.toNat + 10)
  else if 'A' ≤ c ∧ c ≤ 'F' then some (c.toNat - 'A'.toNat + 10)
  else none

def isHexDigit (c : Char) : Bool :=
  (hexDigit? c).isSome

/-- Digits of a base up to sixteen. -/
def isDigitOf (base : Nat) (c : Char) : Bool :=
  (hexDigit? c).any (· < base)

/-- Digits of a base, with single underscores between them. -/
def digitsOnly (isDigit : Char → Bool) (text : List Char) : Bool :=
  (text.splitOn '_').all fun group => !group.isEmpty && group.all isDigit

/-- The value of digits, underscores aside. -/
def digitsValue (base : Nat) (text : List Char) : Nat :=
  (text.filterMap hexDigit?).foldl (fun value digit => value * base + digit) 0

def dropSign : List Char → List Char
  | '+' :: rest | '-' :: rest => rest
  | text => text

/-- A number has no leading zero, unless it is zero. -/
def leadsWell (text : List Char) : Bool :=
  text == ['0'] || text.head? != some '0'

/-- A decimal without sign. -/
def isPlainDecimal (text : List Char) : Bool :=
  digitsOnly Char.isDigit text && leadsWell text

/-- Every underscore stands between two digits, of whatever base. -/
def joinsDigits (text : List Char) : Bool :=
  let groups := text.splitOn '_'
  (groups.drop 1).all (fun group => group.head?.any isHexDigit) &&
    groups.dropLast.all (fun group => group.getLast?.any isHexDigit)

/-- The base that a letter stands for behind a zero. -/
def markedBase? : Char → Option Nat
  | 'x' => some 16
  | 'o' => some 8
  | 'b' => some 2
  | _ => none

/-- The base and the digits of a whole number, if a mark names its base. -/
def cutBase? : List Char → Option (Nat × List Char)
  | '0' :: mark :: digits => (markedBase? mark).map (·, digits)
  | _ => none

def isExponentMark (c : Char) : Bool :=
  c == 'e' || c == 'E'

/-- A whole number as it may be written.  Behind a mark stand digits of its base,
or nothing yet.  A decimal begins with digits, and its first underscore leaves
open what the later groups hold beyond the digits next to the underscores. -/
def isIntegerShape (text : List Char) : Bool :=
  match cutBase? text with
  | some (base, digits) => digits.all (fun c => isDigitOf base c || c == '_') && joinsDigits digits
  | none =>
    let unsigned := dropSign text
    let behind := unsigned.dropWhile Char.isDigit
    unsigned.head?.any Char.isDigit && leadsWell unsigned && joinsDigits unsigned &&
      (behind.isEmpty || behind.head? == some '_') &&
      !behind.any fun c => c == '.' || isExponentMark c

/-- A whole number in range: below 2 ^ 128, and with a minus sign at most
2 ^ 127. -/
def isTomlInteger (text : List Char) : Bool :=
  match cutBase? text, text with
  | some (base, digits), _ =>
    digitsOnly (isDigitOf base) digits && digitsValue base digits < Nat.pow 2 128
  | none, '-' :: digits => isPlainDecimal digits && digitsValue 10 digits ≤ Nat.pow 2 127
  | none, _ => isPlainDecimal (dropSign text) && digitsValue 10 (dropSign text) < Nat.pow 2 128

/-- A decimal number, sign aside: its digits from the first that is not zero on,
times a power of ten. -/
structure Scientific where
  digits : List Char
  exponent : Int
deriving DecidableEq

namespace Scientific

/-- The number with a whole part, a fraction and an exponent. -/
def ofParts (whole fraction : List Char) (exponent : Int) : Scientific where
  digits := ((whole ++ fraction).filter Char.isDigit).dropWhile (· == '0')
  exponent := exponent - Int.ofNat (fraction.filter Char.isDigit).length

/-- The exponent behind its mark. -/
def exponent? (text : List Char) : Option Int :=
  if digitsOnly Char.isDigit (dropSign text) then
    let value := Int.ofNat (digitsValue 10 (dropSign text))
    some (if text.head? == some '-' then -value else value)
  else none

/-- A number that is written with a fraction, an exponent or both. -/
def ofText? (text : List Char) : Option Scientific := do
  let unsigned := dropSign text
  let mantissa := unsigned.takeWhile fun c => !isExponentMark c
  let exponent ← match unsigned.dropWhile fun c => !isExponentMark c with
    | [] => some none
    | _ :: exponent => (exponent? exponent).map some
  match mantissa.splitOn '.', exponent with
  | [whole], some exponent =>
    if isPlainDecimal whole then some (ofParts whole [] exponent) else none
  | [whole, fraction], exponent =>
    if isPlainDecimal whole && digitsOnly Char.isDigit fraction then
      some (ofParts whole fraction (exponent.getD 0))
    else none
  | _, _ => none

/-- The least number that is rounded away from all doubles: it lies halfway
between the greatest of them and 2 ^ 1024. -/
def overflow : Nat :=
  Nat.pow 2 1024 - Nat.pow 2 970

/-- Numbers below `overflow`, which has 309 digits before its point. -/
def inRange (number : Scientific) : Bool :=
  let places := Int.ofNat number.digits.length + number.exponent
  if number.digits.isEmpty || places < 309 then true
  else if 309 < places then false
  else
    match number.exponent with
    | .ofNat exponent => digitsValue 10 number.digits * Nat.pow 10 exponent < overflow
    | .negSucc exponent => digitsValue 10 number.digits < overflow * Nat.pow 10 (exponent + 1)

end Scientific

/-- The numbers that have only a name. -/
def isNamedNumber (text : List Char) : Bool :=
  dropSign text == "inf".toList || dropSign text == "nan".toList

/-- A number as it may be written. -/
def isNumberShape (text : List Char) : Bool :=
  isNamedNumber text || isIntegerShape text || (Scientific.ofText? text).isSome

/-- A number with a value in range. -/
def numberFits (text : List Char) : Bool :=
  isNamedNumber text || isTomlInteger text || (Scientific.ofText? text).any Scientific.inRange

end ApiLang
