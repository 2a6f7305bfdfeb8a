/-
Invalid tokens and the complaints about them.  There are four ways for a text to be no
word of the language, and each says where the text starts and why it ends; a complaint
finds the way back from the first characters of the token alone.  Main statement: the
complaints about a source are those about its invalid tokens, one each and in order, with
the code that tells what is wrong.
-/
import ApiLang.Proofs.Token.Tiling
import Mathlib.Data.List.Forall2

namespace ApiLang

/-- The input is over, or the line ends. -/
def EndsHere (rest : List Char) : Prop :=
  ∀ c ∈ rest.head?, c = '\n' ∨ c = '\r'

/-- Where a string literal cannot go on: at the end of the input or of the line, also
behind a backslash, which then has nothing to escape. -/
def StopsString (rest : List Char) : Prop :=
  EndsHere rest ∨ ∃ behind, rest = '\\' :: behind ∧ EndsHere behind

@[simp] theorem endsHere_nil : EndsHere [] := by
  simp [EndsHere]

@[simp] theorem endsHere_cons {c : Char} {cs : List Char} :
    EndsHere (c :: cs) ↔ c = '\n' ∨ c = '\r' := by
  simp [EndsHere]

@[simp] theorem stopsString_backslash {cs : List Char} :
    StopsString ('\\' :: cs) ↔ EndsHere cs := by
  simp [StopsString]

theorem stopsString_of_ne {c : Char} (hslash : c ≠ '\\') (cs : List Char) :
    StopsString (c :: cs) ↔ c = '\n' ∨ c = '\r' := by
  simp [StopsString, hslash]

/-- What is wrong with `text` in front of `rest`, by the code of the complaint. -/
def Misspelled (text rest : List Char) : DiagnosticCode → Prop
  | .unterminatedString => ∃ body, text = '"' :: body ∧ QuotedText body ∧ StopsString rest
  | .unterminatedRawString =>
      ∃ body, text = '`' :: body ∧ '`' ∉ body ∧ '\n' ∉ body ∧ ∀ c ∈ rest.head?, c = '\n'
  | .unterminatedComment => ∃ body, text = '/' :: '*' :: body ∧ ¬['*', '/'] <:+: body ∧ rest = []
  | .unexpectedCharacter =>
      ∃ c, text = [c] ∧ isBlank c = false ∧ c ≠ '"' ∧ c ≠ '`' ∧ isLetter c = false ∧ c ≠ '_' ∧
        c.isDigit = false ∧ ∀ mark : Punct, mark.char ≠ c
  | _ => False

/-- No body of a string literal starts with a character that stands for itself exactly if
the character ends the literal. -/
theorem quotedBody_cons_eq_nil_iff {c : Char} (hslash : c ≠ '\\') (cs : List Char) :
    quotedBody (c :: cs) = [] ↔ c = '"' ∨ c = '\n' ∨ c = '\r' := by
  rw [quotedBody]
  · grind
  · exact fun _ _ heq _ => hslash heq

/-- No body of a string literal starts where a string literal cannot go on, and no quote
ends it. -/
theorem stopsString_iff {rest : List Char} :
    quotedBody rest = [] ∧ rest.head? ≠ some '"' ↔ StopsString rest := by
  cases rest with
  | nil => simp [StopsString, quotedBody]
  | cons c cs =>
      by_cases hslash : c = '\\'
      · subst hslash
        cases cs with
        | nil => simp [quotedBody]
        | cons d ds => simp [quotedBody, or_iff_not_imp_left]
      · rw [quotedBody_cons_eq_nil_iff hslash, stopsString_of_ne hslash]
        grind

/-- A comment has no body exactly if its end mark is missing. -/
theorem commentBody?_eq_none_iff {cs : List Char} :
    commentBody? cs = none ↔ ¬['*', '/'] <:+: cs := by
  fun_induction commentBody? cs with
  | case1 rest => simpa using (List.prefix_append ['*', '/'] rest).isInfix
  | case2 c cs hnot ih =>
      have hfront : ¬['*', '/'] <+: c :: cs := by
        rintro ⟨rest, hrest⟩
        obtain ⟨rfl, rfl⟩ := List.cons.inj hrest
        exact hnot rest rfl rfl
      simp [List.infix_cons_iff, hfront, ih]
  | case3 => simp

theorem Punct.ofChar?_eq_none_iff {c : Char} :
    Punct.ofChar? c = none ↔ ∀ mark : Punct, mark.char ≠ c := by
  constructor
  · rintro hnone mark rfl
    rw [Punct.ofChar?_char] at hnone
    cases hnone
  · intro hother
    cases hmark : Punct.ofChar? c with
    | none => rfl
    | some mark => exact absurd (Punct.char_of_ofChar? hmark) (hother mark)

theorem startsWord_eq_false_iff {c : Char} :
    startsWord c = false ↔ isLetter c = false ∧ c ≠ '_' := by
  simp [startsWord]

/-- An invalid lexeme is misspelled in one of the four ways. -/
theorem StandsBefore.misspelled {lexeme : Lexeme} {rest : List Char}
    (hstands : StandsBefore lexeme rest) (hinvalid : lexeme.token.isInvalid = true) :
    ∃ code, Misspelled lexeme.text rest code := by
  cases hstands with
  | openString hbody hend hnext =>
      exact ⟨.unterminatedString, _, rfl, hbody, stopsString_iff.mp ⟨hend, hnext⟩⟩
  | openRawString hbody hnext =>
      refine ⟨.unterminatedRawString, _, rfl, fun htick => ?_, fun hbreak => ?_, hnext⟩
      · simpa using hbody _ htick
      · simpa using hbody _ hbreak
  | openComment hbody =>
      exact ⟨.unterminatedComment, _, rfl, commentBody?_eq_none_iff.mp hbody, rfl⟩
  | stray hblank hquote htick hword hdigit hmark =>
      obtain ⟨hletter, hunderscore⟩ := startsWord_eq_false_iff.mp hword
      exact ⟨.unexpectedCharacter, _, rfl, hblank, hquote, htick, hletter, hunderscore, hdigit,
        Punct.ofChar?_eq_none_iff.mp hmark⟩
  | word =>
      unfold Token.ofWord at hinvalid
      split at hinvalid <;> cases hinvalid
  | newline | whitespace | lineComment | blockComment | string | rawString | number | punct =>
      cases hinvalid

/-- What is misspelled stands there as an invalid lexeme. -/
theorem Misspelled.standsBefore {text rest : List Char} {code : DiagnosticCode}
    (hwrong : Misspelled text rest code) :
    StandsBefore ⟨.invalid (String.ofList text), text⟩ rest := by
  cases code with
  | unterminatedString =>
      obtain ⟨body, rfl, hbody, hstops⟩ := hwrong
      obtain ⟨hend, hnext⟩ := stopsString_iff.mpr hstops
      exact .openString hbody hend hnext
  | unterminatedRawString =>
      obtain ⟨body, rfl, htick, hbreak, hnext⟩ := hwrong
      refine .openRawString (fun c hc => ?_) hnext
      have hother : c ≠ '`' := fun heq => htick (heq ▸ hc)
      have hinline : c ≠ '\n' := fun heq => hbreak (heq ▸ hc)
      simp [hother, hinline]
  | unterminatedComment =>
      obtain ⟨body, rfl, hbody, rfl⟩ := hwrong
      exact .openComment (commentBody?_eq_none_iff.mpr hbody)
  | unexpectedCharacter =>
      obtain ⟨c, rfl, hblank, hquote, htick, hletter, hunderscore, hdigit, hmark⟩ := hwrong
      exact .stray hblank hquote htick (startsWord_eq_false_iff.mpr ⟨hletter, hunderscore⟩) hdigit
        (Punct.ofChar?_eq_none_iff.mpr hmark)
  | _ => exact hwrong.elim

/-- A text in front of another is one lexeme at most. -/
theorem StandsBefore.unique {left right : Lexeme} {rest : List Char}
    (hleft : StandsBefore left rest) (hright : StandsBefore right rest)
    (htext : left.text = right.text) : left = right := by
  have hread := lexemes_of_standsBefore hleft
  rw [htext, lexemes_of_standsBefore hright] at hread
  exact (List.cons.inj hread).1.symm

/-- A lexeme is invalid exactly if its text is misspelled where it stands. -/
theorem StandsBefore.isInvalid_iff {lexeme : Lexeme} {rest : List Char}
    (hstands : StandsBefore lexeme rest) :
    lexeme.token.isInvalid = true ↔ ∃ code, Misspelled lexeme.text rest code := by
  constructor
  · exact hstands.misspelled
  · rintro ⟨code, hwrong⟩
    rw [hstands.unique hwrong.standsBefore rfl]
    rfl

/-- The first characters of what is misspelled tell in which way it is. -/
theorem Misspelled.code_eq {text rest : List Char} {code : DiagnosticCode}
    (hwrong : Misspelled text rest code) (span : Span) :
    (invalidTokenDiagnostic (String.ofList text) span).code = some code := by
  rw [invalidTokenDiagnostic, String.toList_ofList]
  cases code with
  | unterminatedString | unterminatedRawString | unterminatedComment =>
      obtain ⟨body, rfl, _⟩ := hwrong
      rfl
  | unexpectedCharacter =>
      obtain ⟨c, rfl, _, hquote, htick, _⟩ := hwrong
      split
      · rename_i heq
        exact absurd (List.cons.inj heq).1 hquote
      · rename_i heq
        exact absurd (List.cons.inj heq).1 htick
      · rename_i heq
        cases (List.cons.inj heq).2
      · rfl
  | _ => exact hwrong.elim

/-- The complaint about an invalid token: it stands at the token, and its code is the one
way in which the token is misspelled. -/
structure Explains (source : List Char) (placed : PlacedToken) (report : Diagnostic) : Prop where
  error : report.severity = .error
  labels : ∃ remark, report.labels = [⟨placed.span, remark, true⟩]
  fault : ∃ text rest, slice? source placed.span = some text ∧
    dropBytes source placed.span.stop = some rest ∧ placed.token = .invalid (String.ofList text) ∧
    (∃ code, report.code = some code) ∧
      ∀ code, report.code = some code ↔ Misspelled text rest code

theorem invalidTokenDiagnostic_located (text : String) (span : Span) :
    (invalidTokenDiagnostic text span).severity = .error ∧
      ∃ remark, (invalidTokenDiagnostic text span).labels = [⟨span, remark, true⟩] := by
  unfold invalidTokenDiagnostic
  split <;> exact ⟨rfl, _, rfl⟩

/-- The text under a token of a source, the text behind it, and the lexeme between. -/
theorem exists_standsBefore {source : List Char} {placed : PlacedToken}
    (hplaced : placed ∈ tokenize source) :
    ∃ lexeme rest, StandsBefore lexeme rest ∧ placed.token = lexeme.token ∧
      slice? source placed.span = some lexeme.text ∧
        dropBytes source placed.span.stop = some rest := by
  obtain ⟨earlier, lexeme, later, hsplit, htoken, hspan⟩ := mem_placeLexemes hplaced
  have hread : lexemes (textOf (earlier ++ lexeme :: later)) = earlier ++ lexeme :: later := by
    rw [← hsplit, textOf_lexemes]
  have hsource : source = textOf earlier ++ (lexeme.text ++ textOf later) := by
    rw [← textOf_lexemes source, hsplit, textOf_append, textOf_cons]
  refine ⟨lexeme, textOf later, standsBefore_of_lexemes (lexemes_textOf_right earlier hread),
    htoken, ?_, ?_⟩
  · rw [hspan, hsource, Nat.zero_add, slice?_append]
  · rw [hspan, hsource, Nat.zero_add, ← byteWidth_append, ← List.append_assoc, dropBytes_append]

/-- One complaint for each invalid token, in order. -/
theorem forall₂_tokenDiagnostics {Fits : PlacedToken → Diagnostic → Prop}
    {tokens : List PlacedToken}
    (hfits : ∀ placed ∈ tokens, ∀ text, placed.token = .invalid text →
      Fits placed (invalidTokenDiagnostic text placed.span)) :
    List.Forall₂ Fits (tokens.filter fun placed => placed.token.isInvalid)
      (tokenDiagnostics tokens) := by
  induction tokens with
  | nil => exact .nil
  | cons placed others ih =>
      obtain ⟨hfirst, hothers⟩ := List.forall_mem_cons.mp hfits
      obtain ⟨token, span⟩ := placed
      cases token with
      | invalid text => exact .cons (hfirst text rfl) (ih hothers)
      | _ => exact ih hothers

/-- Complaints about words mirror the invalid tokens: one for each, in order, at its span,
with the code of the way in which it is misspelled; and the invalid tokens are those that
are misspelled in one of these ways. -/
theorem tokenDiagnostics_mirror (source : List Char) :
    List.Forall₂ (Explains source) ((tokenize source).filter fun placed => placed.token.isInvalid)
        (tokenDiagnostics (tokenize source)) ∧
      ∀ placed ∈ tokenize source, ∃ text rest, slice? source placed.span = some text ∧
        dropBytes source placed.span.stop = some rest ∧
          (placed.token.isInvalid = true ↔ ∃ code, Misspelled text rest code) := by
  constructor
  · refine forall₂_tokenDiagnostics fun placed hplaced spelled hspelled => ?_
    obtain ⟨lexeme, rest, hstands, htoken, htext, hrest⟩ := exists_standsBefore hplaced
    have hinvalid : lexeme.token.isInvalid = true := by
      rw [← htoken, hspelled]
      rfl
    obtain ⟨code, hwrong⟩ := hstands.isInvalid_iff.mp hinvalid
    have hlexeme : lexeme.token = .invalid (String.ofList lexeme.text) :=
      congrArg Lexeme.token (hstands.unique hwrong.standsBefore rfl)
    obtain rfl : spelled = String.ofList lexeme.text :=
      Token.invalid.inj (hspelled.symm.trans (htoken.trans hlexeme))
    obtain ⟨herror, hlabels⟩ :=
      invalidTokenDiagnostic_located (String.ofList lexeme.text) placed.span
    have hcode := hwrong.code_eq placed.span
    refine ⟨herror, hlabels, lexeme.text, rest, htext, hrest, hspelled, ⟨code, hcode⟩, ?_⟩
    intro other
    constructor
    · intro hother
      rwa [← Option.some.inj (hcode.symm.trans hother)]
    · exact fun hother => hother.code_eq placed.span
  · intro placed hplaced
    obtain ⟨lexeme, rest, hstands, htoken, htext, hrest⟩ := exists_standsBefore hplaced
    exact ⟨lexeme.text, rest, htext, hrest, htoken ▸ hstands.isInvalid_iff⟩

example :
    (tokenDiagnostics (tokenize "\"a\\\n`b\n# /* c".toList)).map Diagnostic.code =
      [some .unterminatedString, some .unexpectedCharacter, some .unterminatedRawString,
        some .unexpectedCharacter, some .unterminatedComment] := by
  decide +kernel

end ApiLang
