/-
Reading restarts at a line break.  In front of a line break every lexeme comes to its end,
a block comment excepted, and a block comment that reaches a line break goes on behind it.
So where reading finds a line break it starts afresh: a text that ends with one has the
tokens and the complaints it has alone, whatever follows, and so has what follows.
-/
import ApiLang.Proofs.Token.Placing

namespace ApiLang

/-- The beginning of a comment that does not end. -/
def Token.isOpenComment : Token → Bool
  | .invalid text => ['/', '*'].isPrefixOf text.toList
  | _ => false

/-- Behind the body of a string literal none starts again with the end of the line. -/
theorem quotedBody_append_break {rest : List Char} (hend : quotedBody rest = [])
    (behind : List Char) : quotedBody (rest ++ '\n' :: behind) = [] := by
  match rest with
  | [] => simp [quotedBody]
  | [c] =>
      by_cases hslash : c = '\\'
      · subst hslash
        simp [quotedBody]
      · simp_all [quotedBody]
  | c :: d :: cs =>
      by_cases hslash : c = '\\'
      · subst hslash
        simp_all [quotedBody]
      · simp_all [quotedBody]

/-- Whatever stands in front of the rest of a line stands in front of the rest and the
line break, comments without their end excepted. -/
theorem StandsBefore.append_break {lexeme : Lexeme} {rest : List Char}
    (hstands : StandsBefore lexeme rest) (hclosed : lexeme.token.isOpenComment = false)
    (behind : List Char) : StandsBefore lexeme (rest ++ '\n' :: behind) := by
  have hhead : ∀ {p : Char → Prop}, (∀ c ∈ rest.head?, p c) → p '\n' →
      ∀ c ∈ (rest ++ '\n' :: behind).head?, p c := by
    intro p hrest hbreak c hc
    cases rest with
    | nil =>
        cases hc
        exact hbreak
    | cons first others =>
        cases hc
        exact hrest _ rfl
  cases hstands with
  | newline => exact .newline
  | whitespace hfirst hothers hnext => exact .whitespace hfirst hothers (hhead hnext rfl)
  | lineComment hbody hnext => exact .lineComment hbody (hhead hnext rfl)
  | blockComment hbody => exact .blockComment hbody
  | openComment hbody => simp [Token.isOpenComment] at hclosed
  | string hbody => exact .string hbody
  | openString hbody hend hnext =>
      refine .openString hbody (quotedBody_append_break hend behind) ?_
      intro hquote
      exact hhead (p := fun c => c ≠ '"') (fun c hc hc' => hnext (hc' ▸ hc)) (by decide) _
        hquote rfl
  | rawString hbody => exact .rawString hbody
  | openRawString hbody hnext => exact .openRawString hbody (hhead hnext rfl)
  | word hfirst hothers hnext =>
      exact .word hfirst hothers (hhead hnext (continuesWord_of_isBlank (by decide)))
  | number hfirst hothers hnext => exact .number hfirst hothers (hhead hnext rfl)
  | punct hnext => exact .punct fun hslash => hhead (hnext hslash) (by decide)
  | stray hblank hquote htick hword hdigit hmark =>
      exact .stray hblank hquote htick hword hdigit hmark

/-- In front of a line break a line is read as it is alone. -/
theorem lexemes_append_break {run : List Lexeme} (hread : lexemes (textOf run) = run)
    (hclosed : ∀ lexeme ∈ run, lexeme.token.isOpenComment = false) (behind : List Char) :
    lexemes (textOf run ++ '\n' :: behind) = run ++ lineBreak :: lexemes behind := by
  induction run with
  | nil => exact lexemes_of_standsBefore .newline
  | cons lexeme others ih =>
      have hstands := (standsBefore_of_lexemes hread).append_break
        (hclosed lexeme List.mem_cons_self) behind
      have hothers := ih (lexemes_textOf_right [lexeme] hread)
        fun other hother => hclosed other (List.mem_cons_of_mem lexeme hother)
      rw [textOf_cons, List.append_assoc, lexemes_of_standsBefore hstands, hothers,
        List.cons_append]

/-- Where no body of a string literal starts in front of a line break, none starts without
the line break. -/
theorem quotedBody_of_append_break {rest behind : List Char}
    (hend : quotedBody (rest ++ '\n' :: behind) = []) : quotedBody rest = [] := by
  match rest with
  | [] => rfl
  | [c] =>
      by_cases hslash : c = '\\'
      · subst hslash
        rfl
      · simp_all [quotedBody]
  | c :: d :: cs =>
      by_cases hslash : c = '\\'
      · subst hslash
        simp_all [quotedBody]
      · simp_all [quotedBody]

/-- What stands in front of a line and its line break stands in front of the line alone, and
is no comment without its end. -/
theorem StandsBefore.of_append_break {lexeme : Lexeme} {rest behind : List Char}
    (hstands : StandsBefore lexeme (rest ++ '\n' :: behind)) :
    StandsBefore lexeme rest ∧ lexeme.token.isOpenComment = false := by
  have hhead : ∀ {p : Char → Prop}, (∀ c ∈ (rest ++ '\n' :: behind).head?, p c) →
      ∀ c ∈ rest.head?, p c := by
    intro p hfull c hc
    cases rest with
    | nil => cases hc
    | cons first others => exact hfull c hc
  generalize hfull : rest ++ '\n' :: behind = full at hstands hhead
  cases hstands with
  | newline => exact ⟨.newline, rfl⟩
  | whitespace hfirst hothers hnext => exact ⟨.whitespace hfirst hothers (hhead hnext), rfl⟩
  | lineComment hbody hnext => exact ⟨.lineComment hbody (hhead hnext), rfl⟩
  | blockComment hbody => exact ⟨.blockComment hbody, rfl⟩
  | openComment => simp at hfull
  | string hbody => exact ⟨.string hbody, rfl⟩
  | openString hbody hend hnext =>
      subst hfull
      have hopen := hhead (p := fun c => c ≠ '"') fun c hc hquote => hnext (hquote ▸ hc)
      refine ⟨.openString hbody (quotedBody_of_append_break hend) ?_, ?_⟩
      · exact fun hquote => hopen _ hquote rfl
      · simp [Token.isOpenComment, List.isPrefixOf]
  | rawString hbody => exact ⟨.rawString hbody, rfl⟩
  | openRawString hbody hnext =>
      exact ⟨.openRawString hbody (hhead hnext), by simp [Token.isOpenComment, List.isPrefixOf]⟩
  | word hfirst hothers hnext =>
      refine ⟨.word hfirst hothers (hhead hnext), ?_⟩
      unfold Token.ofWord
      split <;> rfl
  | number hfirst hothers hnext => exact ⟨.number hfirst hothers (hhead hnext), rfl⟩
  | punct hnext => exact ⟨.punct fun hslash => hhead (hnext hslash), rfl⟩
  | stray hblank hquote htick hword hdigit hmark =>
      exact ⟨.stray hblank hquote htick hword hdigit hmark,
        by simp [Token.isOpenComment, List.isPrefixOf]⟩

/-- The lexemes in front of a line break are those that the text before it has alone, and
none of them is a comment without its end. -/
theorem lexemes_of_append_break {run later : List Lexeme} {behind : List Char}
    (hread : lexemes (textOf run ++ '\n' :: behind) = run ++ later) :
    lexemes (textOf run) = run ∧ ∀ lexeme ∈ run, lexeme.token.isOpenComment = false := by
  induction run with
  | nil => exact ⟨lexemes_eq_nil_iff.mpr rfl, by simp⟩
  | cons lexeme others ih =>
      obtain ⟨rest, htext, hstands, hrest⟩ := lexemes_eq_cons hread
      rw [textOf_cons, List.append_assoc, List.append_cancel_left_eq] at htext
      subst htext
      obtain ⟨hbefore, hclosed⟩ := hstands.of_append_break
      obtain ⟨hothers, hall⟩ := ih hrest
      refine ⟨?_, List.forall_mem_cons.mpr ⟨hclosed, hall⟩⟩
      rw [textOf_cons, lexemes_of_standsBefore hbefore, hothers]

theorem StandsBefore.eq_lineBreak {lexeme : Lexeme} {rest : List Char}
    (hstands : StandsBefore lexeme rest) (htoken : lexeme.token = .newline) :
    lexeme = lineBreak := by
  cases hstands with
  | newline => rfl
  | word =>
      simp only [Token.ofWord] at htoken
      split at htoken <;> cases htoken
  | whitespace | lineComment | blockComment | openComment | string | openString | rawString
  | openRawString | number | punct | stray => cases htoken

/-- The source ends with a line break, or is empty. -/
def EndsWithBreak (source : List Char) : Prop :=
  source = [] ∨ ∃ last ∈ (tokenize source).getLast?, last.token = .newline

instance (source : List Char) : Decidable (EndsWithBreak source) :=
  decidable_of_iff
    (source = [] ∨ ((tokenize source).getLast?.any fun last => last.token = .newline) = true) (by
      cases hlast : (tokenize source).getLast? <;> simp [EndsWithBreak, hlast])

/-- A source that ends with a line break is the text of its other lexemes and the break. -/
theorem EndsWithBreak.lexemes_eq {source : List Char} (hbreak : EndsWithBreak source) :
    source = [] ∨ ∃ run, source = textOf run ++ ['\n'] ∧ lexemes source = run ++ [lineBreak] := by
  rcases hbreak with hempty | ⟨last, hlast, hnewline⟩
  · exact .inl hempty
  · obtain ⟨final, hfinal⟩ : ∃ final, final ∈ (lexemes source).getLast? := by
      rcases List.eq_nil_or_concat (lexemes source) with hnone | ⟨run, final, hrun⟩
      · rw [tokenize, hnone] at hlast
        cases hlast
      · exact ⟨final, by simp [hrun]⟩
    obtain ⟨placed, hplaced, htoken⟩ := getLast?_placeLexemes 0 hfinal
    obtain rfl : placed = last := Option.some.inj (hplaced.symm.trans hlast)
    obtain ⟨rest, hstands⟩ := standsBefore_of_mem_lexemes (List.mem_of_getLast? hfinal)
    obtain rfl := hstands.eq_lineBreak (htoken.symm.trans hnewline)
    obtain ⟨run, hrun⟩ := List.getLast?_eq_some_iff.mp hfinal
    refine .inr ⟨run, ?_, hrun⟩
    rw [← textOf_lexemes source, hrun, textOf_append]
    rfl

/-- Behind a source that ends with a line break reading starts afresh. -/
theorem EndsWithBreak.lexemes_append {source : List Char} (hbreak : EndsWithBreak source)
    (more : List Char) : lexemes (source ++ more) = lexemes source ++ lexemes more := by
  rcases hbreak.lexemes_eq with rfl | ⟨run, hsource, hlexemes⟩
  · rw [lexemes_eq_nil_iff.mpr rfl]
    rfl
  · obtain ⟨hread, hclosed⟩ := lexemes_of_append_break (hsource ▸ hlexemes)
    have happend := lexemes_append_break hread hclosed more
    rw [hlexemes, hsource, List.append_assoc, List.append_assoc]
    exact happend

/-- Lexing restarts at a line break.  The tokens of two texts in a row, the first of which
is empty or ends with a line break token, are those of the first and those of the second
moved behind it, and so are the complaints. -/
theorem tokenize_restarts (first second : List Char) (hbreak : EndsWithBreak first) :
    tokenize (first ++ second) =
        tokenize first ++ (tokenize second).map (PlacedToken.shift (byteWidth first)) ∧
      tokenDiagnostics (tokenize (first ++ second)) =
        tokenDiagnostics (tokenize first) ++
          (tokenDiagnostics (tokenize second)).map (Diagnostic.shift (byteWidth first)) := by
  have htokens : tokenize (first ++ second) =
      tokenize first ++ (tokenize second).map (PlacedToken.shift (byteWidth first)) := by
    rw [tokenize, hbreak.lexemes_append, placeLexemes_append, widthOf, textOf_lexemes,
      placeLexemes_shift]
    rfl
  refine ⟨htokens, ?_⟩
  rw [htokens, tokenDiagnostics_append, tokenDiagnostics_shift]

/-- A string, a tag and a backslash without their ends in front of the line break, and behind
it what would close them, had they been left open. -/
theorem tokenize_restarts_openLiterals :
    let first := "/*\n*/ \"a\\\n`b\n\\\n".toList
    let second := "n\" ` */ /* \"\n".toList
    EndsWithBreak first ∧
      tokenize (first ++ second) =
          tokenize first ++ (tokenize second).map (PlacedToken.shift 15) ∧
        tokenDiagnostics (tokenize (first ++ second)) =
          tokenDiagnostics (tokenize first) ++
            (tokenDiagnostics (tokenize second)).map (Diagnostic.shift 15) := by
  intro first second
  have hbreak : EndsWithBreak first := by decide +kernel
  have hwidth : byteWidth first = 15 := by decide
  exact ⟨hbreak, hwidth ▸ tokenize_restarts first second hbreak⟩

end ApiLang
