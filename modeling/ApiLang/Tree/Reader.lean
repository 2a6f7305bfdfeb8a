/-
Readers: steps that take tokens from the front of the input.  A step answers
with what it read and the tokens left over, or with what it expected and the
tokens it could not use.  Main statement: a step never leaves more than it was
given, and steps in a row inherit this, so every loop over a step that takes a
token comes to an end.
-/
import ApiLang.Text.Offset
import ApiLang.Tree

namespace ApiLang

/-- A failed step: what it expected, and the input from the offending token on. -/
structure Mismatch where
  expected : Expected
  rest : List PlacedToken

def Reader (α : Type) : Type :=
  List PlacedToken → Except Mismatch (α × List PlacedToken)

namespace Reader

variable {α β : Type}

/-- Steps in a row: the second continues with what the first left. -/
def andThen (first : Reader α) (next : α → Reader β) : Reader β := fun tokens =>
  match first tokens with
  | .ok (a, rest) => next a rest
  | .error mismatch => .error mismatch

instance : Monad Reader where
  pure a := fun tokens => .ok (a, tokens)
  bind := andThen

/-- The step that fails at the next token. -/
def fail (expected : Expected) : Reader α := fun tokens =>
  .error ⟨expected, tokens⟩

/-- Looks at the next token without taking it. -/
def peek : Reader (Option PlacedToken) := fun tokens =>
  .ok (tokens.head?, tokens)

/-- Takes the next token if `accept` makes something of it. -/
def expect (expected : Expected) (accept : PlacedToken → Option α) : Reader α
  | [] => .error ⟨expected, []⟩
  | token :: rest =>
    match accept token with
    | some a => .ok (a, rest)
    | none => .error ⟨expected, token :: rest⟩

/-- Takes the next token if `accept` makes something of it, and nothing
otherwise. -/
def optional (accept : PlacedToken → Option α) : Reader (Option α)
  | [] => .ok (none, [])
  | token :: rest =>
    match accept token with
    | some a => .ok (some a, rest)
    | none => .ok (none, token :: rest)

/-- Drops tokens while `test` holds. -/
def skipWhile (test : Token → Bool) : Reader Unit := fun tokens =>
  .ok ((), tokens.dropWhile fun placed => test placed.token)

/-- Drops white space, line breaks and comments. -/
def skipTrivia : Reader Unit :=
  skipWhile Token.isTrivia

/-- Drops trivia up to the end of the line. -/
def skipInline : Reader Unit :=
  skipWhile Token.isInlineTrivia

/-- A step leaves a rest of its input, whether it succeeds or fails. -/
def Keeps (reader : Reader α) : Prop :=
  ∀ tokens,
    (∀ a rest, reader tokens = .ok (a, rest) → rest <:+ tokens) ∧
    (∀ mismatch, reader tokens = .error mismatch → mismatch.rest <:+ tokens)

/-- A step takes at least one token when it succeeds. -/
def Advances (reader : Reader α) : Prop :=
  ∀ tokens a rest, reader tokens = .ok (a, rest) → rest.length < tokens.length

theorem pure_keeps (a : α) : (pure a : Reader α).Keeps := by
  intro tokens
  constructor
  · rintro _ rest ⟨⟩
    exact List.suffix_refl _
  · rintro _ ⟨⟩

theorem fail_keeps (expected : Expected) : (fail expected : Reader α).Keeps := by
  intro tokens
  constructor
  · rintro _ _ ⟨⟩
  · rintro _ ⟨⟩
    exact List.suffix_refl _

theorem fail_advances (expected : Expected) : (fail expected : Reader α).Advances := by
  rintro _ _ _ ⟨⟩

theorem peek_keeps : peek.Keeps := by
  intro tokens
  constructor
  · rintro _ _ ⟨⟩
    exact List.suffix_refl _
  · rintro _ ⟨⟩

theorem expect_keeps (expected : Expected) (accept : PlacedToken → Option α) :
    (expect expected accept).Keeps := by
  intro tokens
  cases tokens with
  | nil =>
    constructor
    · rintro _ _ ⟨⟩
    · rintro _ ⟨⟩
      exact List.suffix_refl _
  | cons token rest =>
    cases taken : accept token with
    | none => simp [expect, taken]
    | some a =>
      simp only [expect, taken, Except.ok.injEq, Prod.mk.injEq, and_imp, reduceCtorEq,
        false_implies, implies_true, and_true]
      rintro _ _ rfl rfl
      exact List.suffix_cons _ _

theorem expect_advances (expected : Expected) (accept : PlacedToken → Option α) :
    (expect expected accept).Advances := by
  intro tokens a rest
  cases tokens with
  | nil => rintro ⟨⟩
  | cons token tail =>
    cases taken : accept token with
    | none => simp [expect, taken]
    | some b =>
      simp only [expect, taken, Except.ok.injEq, Prod.mk.injEq, and_imp]
      rintro rfl rfl
      simp

theorem optional_keeps (accept : PlacedToken → Option α) : (optional accept).Keeps := by
  intro tokens
  cases tokens with
  | nil =>
    constructor
    · rintro _ _ ⟨⟩
      exact List.suffix_refl _
    · rintro _ ⟨⟩
  | cons token rest =>
    cases taken : accept token with
    | none => simp [optional, taken]
    | some a =>
      simp only [optional, taken, Except.ok.injEq, Prod.mk.injEq, and_imp, reduceCtorEq,
        false_implies, implies_true, and_true]
      rintro _ _ rfl rfl
      exact List.suffix_cons _ _

theorem skipWhile_keeps (test : Token → Bool) : (skipWhile test).Keeps := by
  intro tokens
  constructor
  · rintro _ _ ⟨⟩
    exact List.dropWhile_suffix _
  · rintro _ ⟨⟩

theorem skipTrivia_keeps : skipTrivia.Keeps :=
  skipWhile_keeps _

theorem skipInline_keeps : skipInline.Keeps :=
  skipWhile_keeps _

theorem bind_keeps {first : Reader α} {next : α → Reader β} (keeps : first.Keeps)
    (nextKeeps : ∀ a, (next a).Keeps) : (first >>= next).Keeps := by
  intro tokens
  change (∀ b rest, andThen first next tokens = .ok (b, rest) → _) ∧
    (∀ mismatch, andThen first next tokens = .error mismatch → _)
  unfold andThen
  cases read : first tokens with
  | error mismatch =>
    constructor
    · rintro _ _ ⟨⟩
    · rintro _ ⟨⟩
      exact (keeps tokens).2 _ read
  | ok found =>
    obtain ⟨a, left⟩ := found
    have suffix := (keeps tokens).1 a left read
    exact ⟨fun b rest h => ((nextKeeps a left).1 b rest h).trans suffix,
      fun mismatch h => ((nextKeeps a left).2 mismatch h).trans suffix⟩

/-- A row of steps takes a token if its first step does. -/
theorem bind_advances_of_first {first : Reader α} {next : α → Reader β}
    (advances : first.Advances) (nextKeeps : ∀ a, (next a).Keeps) :
    (first >>= next).Advances := by
  intro tokens b rest
  change andThen first next tokens = .ok (b, rest) → _
  unfold andThen
  cases read : first tokens with
  | error mismatch => rintro ⟨⟩
  | ok found =>
    obtain ⟨a, left⟩ := found
    intro h
    have shorter := advances tokens a left read
    have within := ((nextKeeps a left).1 b rest h).length_le
    omega

/-- A row of steps takes a token if every continuation does. -/
theorem bind_advances_of_next {first : Reader α} {next : α → Reader β}
    (keeps : first.Keeps) (nextAdvances : ∀ a, (next a).Advances) :
    (first >>= next).Advances := by
  intro tokens b rest
  change andThen first next tokens = .ok (b, rest) → _
  unfold andThen
  cases read : first tokens with
  | error mismatch => rintro ⟨⟩
  | ok found =>
    obtain ⟨a, left⟩ := found
    intro h
    have shorter := nextAdvances a left b rest h
    have within := ((keeps tokens).1 a left read).length_le
    omega

end Reader

/-- A step that a loop may repeat: it takes a token whenever it succeeds. -/
structure ItemReader (α : Type) where
  read : Reader α
  keeps : read.Keeps
  advances : read.Advances

namespace Reader

/-- Takes the punctuation mark, or fails. -/
def punct (mark : Punct) (expected : Expected) : Reader Span :=
  expect expected fun placed => if placed.token.isPunct mark then some placed.span else none

/-- Takes the punctuation mark if it is next. -/
def eatPunct (mark : Punct) : Reader (Option Span) :=
  optional fun placed => if placed.token.isPunct mark then some placed.span else none

/-- Takes the reserved word, or fails. -/
def keyword (word : Keyword) (expected : Expected) : Reader Span :=
  expect expected fun placed => if placed.token.isKeyword word then some placed.span else none

/-- Takes an identifier or a reserved word. -/
def word (expected : Expected) : Reader (Spanned String) :=
  expect expected fun placed => placed.token.word?.map fun text => ⟨text, placed.span⟩

/-- Takes an identifier. -/
def identifier (expected : Expected) : Reader (Spanned String) :=
  expect expected fun placed =>
    match placed.token with
    | .identifier name => some ⟨name, placed.span⟩
    | _ => none

/-- Takes a string literal.  The text is without its quotes and the span with
them. -/
def stringLiteral (expected : Expected) : Reader (Spanned String) :=
  expect expected fun placed =>
    match placed.token with
    | .string text => some ⟨text, placed.span⟩
    | _ => none

end Reader

/-- Whether the next token is this mark. -/
def atPunct (mark : Punct) (next : Option PlacedToken) : Bool :=
  next.any fun placed => placed.token.isPunct mark

/-- Tokens after which nothing may follow on the line: a line break, a comment
that holds one, and the mark that closes a body. -/
def endsLine : Token → Bool
  | .newline => true
  | .blockComment text => Token.breaksLine text
  | .punct mark => mark == .rightBrace
  | _ => false

/-- Whether the line is over, by its end or by the end of the input. -/
def atLineEnd (next : Option PlacedToken) : Bool :=
  next.all fun placed => endsLine placed.token

/-- A reserved word that opens a declaration. -/
def isDeclarationKeyword : Token → Bool
  | .keyword word => word.opensDeclaration
  | _ => false

/-- A token at which a declaration may start: its keyword, or the sign of an
annotation. -/
def opensDeclaration (token : Token) : Bool :=
  isDeclarationKeyword token || token.isPunct .atSign

/-- Drops what remains on the line and fails if that is more than trivia. -/
def Reader.endOfLine : Reader Unit := do
  Reader.skipInline
  let next ← Reader.peek
  if atLineEnd next then pure () else Reader.fail .endOfLine

theorem Reader.endOfLine_keeps : Reader.endOfLine.Keeps := by
  refine Reader.bind_keeps Reader.skipInline_keeps fun _ =>
    Reader.bind_keeps Reader.peek_keeps fun next => ?_
  split
  · exact Reader.pure_keeps _
  · exact Reader.fail_keeps _

/-- The byte at which the input starts: that of its first token, or the end of
the source. -/
def startOffset (source : List Char) : List PlacedToken → Nat
  | placed :: _ => placed.span.start
  | [] => byteWidth source

/-- The span from the first to the last token that is not trivia, and the empty
span at `offset` if there is none. -/
def coveredSpan (offset : Nat) (tokens : List PlacedToken) : Span :=
  let solid := tokens.filter fun placed => !placed.token.isTrivia
  match solid.head?, solid.getLast? with
  | some first, some last => first.span.union last.span
  | _, _ => Span.empty offset

end ApiLang
