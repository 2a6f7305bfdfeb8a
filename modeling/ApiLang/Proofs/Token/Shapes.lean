/-
The shapes of lexemes.  `StandsBefore` says without a scanning order which
lexemes may stand in front of which rest of a text.  Main statement: the lexeme
that reading finds at the front of a text is the one that stands there.
-/
import ApiLang.Token.Lexer
import Mathlib.Data.List.TakeWhile
import Mathlib.Tactic

namespace ApiLang

theorem exists_run_of_inCodeRuns {code : Nat} {runs : List CodeRun}
    (hcode : inCodeRuns code runs = true) :
    ∃ run ∈ runs, run.first ≤ code ∧ code ≤ run.last := by
  induction runs with
  | nil => simp [inCodeRuns] at hcode
  | cons run runs ih =>
      rw [inCodeRuns] at hcode
      split_ifs at hcode with hbelow hwithin
      · exact ⟨run, List.mem_cons_self, Nat.le_of_not_lt hbelow, hwithin⟩
      · obtain ⟨other, hother, hbounds⟩ := ih hcode
        exact ⟨other, List.mem_cons_of_mem run hother, hbounds⟩

theorem blankRuns_disjoint : ∀ run ∈ blankRuns,
    ∀ code ∈ List.range' run.first (run.last + 1 - run.first),
      inCodeRuns code letterRuns = false ∧ inCodeRuns code numeralRuns = false := by
  decide +kernel

/-- No blank is part of a word. -/
theorem continuesWord_of_isBlank {c : Char} (hblank : isBlank c = true) :
    continuesWord c = false := by
  obtain ⟨run, hrun, hlow, hhigh⟩ := exists_run_of_inCodeRuns hblank
  have hmem : c.toNat ∈ List.range' run.first (run.last + 1 - run.first) := by
    rw [List.mem_range'_1]
    omega
  obtain ⟨hletter, hnumeral⟩ := blankRuns_disjoint run hrun c.toNat hmem
  have hunderscore : c ≠ '_' := by
    rintro rfl
    exact absurd hblank (by decide)
  simp [continuesWord, isLetterOrNumeral, isLetter, hletter, hnumeral, hunderscore]

/-- The inside of a string literal: no quote and no line end, and a backslash
only together with the character it escapes. -/
inductive QuotedText : List Char → Prop
  | nil : QuotedText []
  | plain {c : Char} {cs : List Char} (hquote : c ≠ '"') (hslash : c ≠ '\\')
      (hbreak : c ≠ '\n') (hreturn : c ≠ '\r') (hrest : QuotedText cs) : QuotedText (c :: cs)
  | escaped {c : Char} {cs : List Char} (hbreak : c ≠ '\n') (hreturn : c ≠ '\r')
      (hrest : QuotedText cs) : QuotedText ('\\' :: c :: cs)

theorem quotedBody_quotedText (cs : List Char) : QuotedText (quotedBody cs) := by
  fun_induction quotedBody cs with
  | case1 => exact .nil
  | case2 c cs hc ih =>
      rw [not_or] at hc
      exact .escaped hc.1 hc.2 ih
  | case3 => exact .nil
  | case4 c cs _ hc ih =>
      simp only [not_or] at hc
      exact .plain hc.1 hc.2.1 hc.2.2.1 hc.2.2.2 ih
  | case5 => exact .nil

theorem quotedBody_append {body : List Char} (hbody : QuotedText body) (rest : List Char) :
    quotedBody (body ++ rest) = body ++ quotedBody rest := by
  induction hbody with
  | nil => rfl
  | @plain c cs hquote hslash hbreak hreturn _ ih =>
      rw [List.cons_append, quotedBody]
      · simp [hquote, hslash, hbreak, hreturn, ih]
      · intro _ _ hc
        exact absurd hc hslash
  | @escaped c cs hbreak hreturn _ ih =>
      simp [quotedBody, hbreak, hreturn, ih]

theorem quotedBody_prefix (cs : List Char) : ∃ rest, cs = quotedBody cs ++ rest := by
  fun_induction quotedBody cs with
  | case1 c cs _ => exact ⟨_, rfl⟩
  | case2 c cs _ ih =>
      obtain ⟨rest, hrest⟩ := ih
      exact ⟨rest, by rw [List.cons_append, List.cons_append, ← hrest]⟩
  | case3 c cs _ _ => exact ⟨_, rfl⟩
  | case4 c cs _ _ ih =>
      obtain ⟨rest, hrest⟩ := ih
      exact ⟨rest, by rw [List.cons_append, ← hrest]⟩
  | case5 => exact ⟨[], rfl⟩

/-- Behind the body of a string literal no further body starts. -/
theorem quotedBody_rest {cs rest : List Char} (hrest : cs = quotedBody cs ++ rest) :
    quotedBody rest = [] := by
  have happend := quotedBody_append (quotedBody_quotedText cs) rest
  rw [← hrest] at happend
  exact List.append_right_eq_self.mp happend.symm

theorem commentBody?_eq_some {cs body : List Char} (hbody : commentBody? cs = some body) :
    ∃ rest, cs = body ++ '*' :: '/' :: rest := by
  fun_induction commentBody? cs generalizing body with
  | case1 rest =>
      cases hbody
      exact ⟨rest, rfl⟩
  | case2 c cs _ ih =>
      obtain ⟨inner, hinner, rfl⟩ := Option.map_eq_some_iff.mp hbody
      obtain ⟨rest, rfl⟩ := ih hinner
      exact ⟨rest, rfl⟩
  | case3 => cases hbody

/-- Whether a text is the inside of a comment does not depend on what follows the
end mark. -/
theorem commentBody?_append (body rest : List Char) :
    commentBody? (body ++ '*' :: '/' :: rest) = some body ↔
      commentBody? (body ++ ['*', '/']) = some body := by
  induction body with
  | nil => simp [commentBody?]
  | cons c cs ih =>
      by_cases hend : c = '*' ∧ cs.head? = some '/'
      · obtain ⟨rfl, hhead⟩ := hend
        obtain ⟨tail, rfl⟩ : ∃ tail, cs = '/' :: tail := by
          cases cs with
          | nil => cases hhead
          | cons d tail =>
              cases hhead
              exact ⟨tail, rfl⟩
        simp [commentBody?]
      · have hopen : ∀ more tail, c = '*' → cs ++ '*' :: more = '/' :: tail → False := by
          intro more tail hc htail
          apply hend
          cases cs with
          | nil => cases htail
          | cons d ds =>
              cases htail
              exact ⟨hc, rfl⟩
        have hstep : ∀ more, commentBody? (c :: cs ++ '*' :: '/' :: more) =
            (commentBody? (cs ++ '*' :: '/' :: more)).map (c :: ·) := by
          intro more
          rw [List.cons_append, commentBody?]
          exact fun tail => hopen _ tail
        rw [hstep rest, hstep []]
        simpa using ih

/-- The lexemes a text may start with, each with what may follow it.  Most
lexemes only ask that the next character does not belong to them as well. -/
inductive StandsBefore : Lexeme → List Char → Prop
  | newline {rest : List Char} : StandsBefore ⟨.newline, ['\n']⟩ rest
  | whitespace {first : Char} {others rest : List Char} (hfirst : isInlineBlank first = true)
      (hothers : ∀ c ∈ others, isInlineBlank c = true)
      (hnext : ∀ c ∈ rest.head?, isInlineBlank c = false) :
      StandsBefore ⟨.whitespace, first :: others⟩ rest
  | lineComment {body rest : List Char} (hbody : ∀ c ∈ body, c ≠ '\n')
      (hnext : ∀ c ∈ rest.head?, c = '\n') :
      StandsBefore ⟨.lineComment (String.ofList body), '/' :: '/' :: body⟩ rest
  | blockComment {body rest : List Char} (hbody : commentBody? (body ++ ['*', '/']) = some body) :
      StandsBefore
        ⟨.blockComment (String.ofList body), '/' :: '*' :: body ++ ['*', '/']⟩ rest
  | openComment {body : List Char} (hbody : commentBody? body = none) :
      StandsBefore ⟨.invalid (String.ofList ('/' :: '*' :: body)), '/' :: '*' :: body⟩ []
  | string {body rest : List Char} (hbody : QuotedText body) :
      StandsBefore ⟨.string (String.ofList body), '"' :: body ++ ['"']⟩ rest
  | openString {body rest : List Char} (hbody : QuotedText body) (hend : quotedBody rest = [])
      (hnext : rest.head? ≠ some '"') :
      StandsBefore ⟨.invalid (String.ofList ('"' :: body)), '"' :: body⟩ rest
  | rawString {body rest : List Char} (hbody : ∀ c ∈ body, (c != '`' && c != '\n') = true) :
      StandsBefore ⟨.rawString (String.ofList body), '`' :: body ++ ['`']⟩ rest
  | openRawString {body rest : List Char} (hbody : ∀ c ∈ body, (c != '`' && c != '\n') = true)
      (hnext : ∀ c ∈ rest.head?, c = '\n') :
      StandsBefore ⟨.invalid (String.ofList ('`' :: body)), '`' :: body⟩ rest
  | word {first : Char} {others rest : List Char} (hfirst : startsWord first = true)
      (hothers : ∀ c ∈ others, continuesWord c = true)
      (hnext : ∀ c ∈ rest.head?, continuesWord c = false) :
      StandsBefore ⟨.ofWord (String.ofList (first :: others)), first :: others⟩ rest
  | number {first : Char} {others rest : List Char} (hfirst : first.isDigit = true)
      (hothers : ∀ c ∈ others, c.isDigit = true)
      (hnext : ∀ c ∈ rest.head?, c.isDigit = false) :
      StandsBefore ⟨.number (String.ofList (first :: others)), first :: others⟩ rest
  | punct {mark : Punct} {rest : List Char}
      (hnext : mark = .slash → ∀ c ∈ rest.head?, c ≠ '/' ∧ c ≠ '*') :
      StandsBefore ⟨.punct mark, [mark.char]⟩ rest
  | stray {c : Char} {rest : List Char} (hblank : isBlank c = false) (hquote : c ≠ '"')
      (htick : c ≠ '`') (hword : startsWord c = false) (hdigit : c.isDigit = false)
      (hmark : Punct.ofChar? c = none) :
      StandsBefore ⟨.invalid (String.ofList [c]), [c]⟩ rest

theorem dropWhile_head?_false (p : Char → Bool) (cs : List Char) :
    ∀ c ∈ (cs.dropWhile p).head?, p c = false := by
  intro c hc
  have hnot := List.head?_dropWhile_not p cs
  rw [Option.mem_def.mp hc] at hnot
  simpa using hnot

theorem takeWhile_append_eq {p : Char → Bool} {body rest : List Char}
    (hbody : ∀ c ∈ body, p c = true) (hnext : ∀ c ∈ rest.head?, p c = false) :
    (body ++ rest).takeWhile p = body := by
  rw [List.takeWhile_append_of_pos hbody]
  cases rest with
  | nil => simp
  | cons c cs => simp [hnext c rfl]

theorem Punct.ofChar?_char (mark : Punct) : Punct.ofChar? mark.char = some mark := by
  cases mark <;> rfl

theorem Punct.char_of_ofChar? {c : Char} {mark : Punct} (hmark : Punct.ofChar? c = some mark) :
    mark.char = c := by
  have hfound := List.find?_some hmark
  simpa using hfound

theorem startsWord_isBlank {c : Char} (hword : startsWord c = true) : isBlank c = false := by
  by_contra hblank
  have hcontinues := continuesWord_of_isBlank (Bool.eq_true_of_not_eq_false hblank)
  simp only [continuesWord, isLetterOrNumeral, Bool.or_eq_false_iff] at hcontinues
  simp [startsWord, hcontinues.1.1, hcontinues.2] at hword

theorem digit_plain {c : Char} (hdigit : c.isDigit = true) :
    isBlank c = false ∧ startsWord c = false ∧ c ≠ '/' ∧ c ≠ '"' ∧ c ≠ '`' := by
  have hcode : 48 ≤ c.toNat ∧ c.toNat ≤ 57 := Char.isDigit_iff_toNat.mp hdigit
  have hrange : ∀ code ∈ List.range' 48 10,
      inCodeRuns code blankRuns = false ∧ inCodeRuns code letterRuns = false := by
    decide +kernel
  obtain ⟨hblank, hletter⟩ := hrange c.toNat (by rw [List.mem_range'_1]; omega)
  refine ⟨hblank, ?_, ?_, ?_, ?_⟩
  · have hunderscore : c ≠ '_' := by
      rintro rfl
      exact absurd hdigit (by decide)
    simp [startsWord, isLetter, hletter, hunderscore]
  all_goals
    rintro rfl
    exact absurd hdigit (by decide)

theorem markOrInvalid_standsBefore {c : Char} (cs : List Char) (hblank : isBlank c = false)
    (hquote : c ≠ '"') (htick : c ≠ '`') (hword : startsWord c = false)
    (hdigit : c.isDigit = false) (hslash : c = '/' → cs.head? ≠ some '/' ∧ cs.head? ≠ some '*') :
    (markOrInvalid c).text = [c] ∧ StandsBefore (markOrInvalid c) cs := by
  unfold markOrInvalid
  cases hmark : Punct.ofChar? c with
  | none => exact ⟨rfl, .stray hblank hquote htick hword hdigit hmark⟩
  | some mark =>
      obtain rfl := Punct.char_of_ofChar? hmark
      refine ⟨rfl, .punct ?_⟩
      rintro rfl d hd
      rw [Option.mem_def] at hd
      have hnext := hslash rfl
      rw [hd] at hnext
      simpa using hnext

theorem blockComment_standsBefore (cs : List Char) :
    ∃ rest, '/' :: '*' :: cs = (blockComment cs).text ++ rest ∧
      StandsBefore (blockComment cs) rest := by
  unfold blockComment
  cases hbody : commentBody? cs with
  | none => exact ⟨[], by simp, .openComment hbody⟩
  | some body =>
      obtain ⟨rest, rfl⟩ := commentBody?_eq_some hbody
      exact ⟨rest, by simp, .blockComment ((commentBody?_append body rest).mp hbody)⟩

theorem quoted_standsBefore (cs : List Char) :
    ∃ rest, '"' :: cs = (delimited '"' '"' .string (quotedBody cs)
        (cs.drop (quotedBody cs).length)).text ++ rest ∧
      StandsBefore (delimited '"' '"' .string (quotedBody cs)
        (cs.drop (quotedBody cs).length)) rest := by
  obtain ⟨rest, hrest⟩ := quotedBody_prefix cs
  have hdrop : cs.drop (quotedBody cs).length = rest := by
    nth_rewrite 2 [hrest]
    exact List.drop_left
  simp only [hdrop, delimited]
  split_ifs with hclose
  · obtain ⟨tail, rfl⟩ : ∃ tail, rest = '"' :: tail := List.head?_eq_some_iff.mp hclose
    refine ⟨tail, ?_, .string (quotedBody_quotedText cs)⟩
    simpa using hrest
  · refine ⟨rest, ?_, .openString (quotedBody_quotedText cs) (quotedBody_rest hrest) hclose⟩
    simpa using hrest

/-- The body of a raw string and what follows it. -/
theorem raw_standsBefore {cs body rest : List Char} (hcs : cs = body ++ rest)
    (hbody : ∀ d ∈ body, (d != '`' && d != '\n') = true)
    (hend : ∀ d ∈ rest.head?, (d != '`' && d != '\n') = false) :
    ∃ left, '`' :: cs = (delimited '`' '`' .rawString body rest).text ++ left ∧
      StandsBefore (delimited '`' '`' .rawString body rest) left := by
  rw [delimited]
  split_ifs with hclose
  · obtain ⟨tail, rfl⟩ : ∃ tail, rest = '`' :: tail := List.head?_eq_some_iff.mp hclose
    exact ⟨tail, by simp [hcs], .rawString hbody⟩
  · refine ⟨rest, by simp [hcs], .openRawString hbody ?_⟩
    intro d hd
    have hother : d ≠ '`' := by
      rintro rfl
      exact hclose hd
    simpa [hother] using hend d hd

/-- What is read at the front of a text is a beginning of the text, and stands
there. -/
theorem firstLexeme_standsBefore (c : Char) (cs : List Char) :
    ∃ rest, c :: cs = (firstLexeme c cs).text ++ rest ∧
      StandsBefore (firstLexeme c cs) rest := by
  unfold firstLexeme
  split_ifs with hbreak hblank hline hcomment hquote htick hword hdigit
  · subst hbreak
    exact ⟨cs, rfl, .newline⟩
  · refine ⟨cs.dropWhile isInlineBlank, ?_, .whitespace ?_ ?_ ?_⟩
    · simp [List.takeWhile_append_dropWhile]
    · simp [isInlineBlank, hblank, hbreak]
    · exact fun d hd => List.mem_takeWhile_imp hd
    · exact dropWhile_head?_false _ _
  · obtain ⟨rfl, hhead⟩ := hline
    obtain ⟨tail, rfl⟩ : ∃ tail, cs = '/' :: tail := List.head?_eq_some_iff.mp hhead
    refine ⟨tail.dropWhile (· != '\n'), ?_, .lineComment ?_ ?_⟩
    · simp [List.takeWhile_append_dropWhile]
    · intro d hd
      simpa using List.mem_takeWhile_imp hd
    · intro d hd
      simpa using dropWhile_head?_false _ _ d hd
  · obtain ⟨rfl, hhead⟩ := hcomment
    obtain ⟨tail, rfl⟩ : ∃ tail, cs = '*' :: tail := List.head?_eq_some_iff.mp hhead
    exact blockComment_standsBefore tail
  · subst hquote
    exact quoted_standsBefore cs
  · subst htick
    have hcs := (List.takeWhile_append_dropWhile (p := fun d => d != '`' && d != '\n')
      (l := cs)).symm
    have hdrop : cs.drop (cs.takeWhile fun d => d != '`' && d != '\n').length =
        cs.dropWhile fun d => d != '`' && d != '\n' := by
      nth_rewrite 2 [hcs]
      exact List.drop_left
    have hbody : ∀ d ∈ cs.takeWhile fun d => d != '`' && d != '\n',
        (d != '`' && d != '\n') = true :=
      fun d hd => List.mem_takeWhile_imp (p := fun d => d != '`' && d != '\n') hd
    simp only [hdrop]
    exact raw_standsBefore hcs hbody (dropWhile_head?_false _ _)
  · refine ⟨cs.dropWhile continuesWord, ?_, .word hword ?_ ?_⟩
    · simp [List.takeWhile_append_dropWhile]
    · exact fun d hd => List.mem_takeWhile_imp hd
    · exact dropWhile_head?_false _ _
  · refine ⟨cs.dropWhile Char.isDigit, ?_, .number hdigit ?_ ?_⟩
    · simp [List.takeWhile_append_dropWhile]
    · exact fun d hd => List.mem_takeWhile_imp hd
    · exact dropWhile_head?_false _ _
  · simp only [Bool.not_eq_true] at hblank hword hdigit
    have hslash : c = '/' → cs.head? ≠ some '/' ∧ cs.head? ≠ some '*' :=
      fun hc => ⟨fun hd => hline ⟨hc, hd⟩, fun hd => hcomment ⟨hc, hd⟩⟩
    obtain ⟨htext, hstands⟩ :=
      markOrInvalid_standsBefore cs hblank hquote htick hword hdigit hslash
    exact ⟨cs, by rw [htext]; rfl, hstands⟩

theorem firstLexeme_punct {mark : Punct} {rest : List Char}
    (hnext : mark = .slash → ∀ c ∈ rest.head?, c ≠ '/' ∧ c ≠ '*') :
    firstLexeme mark.char rest = ⟨.punct mark, [mark.char]⟩ := by
  have hplain : ∀ mark : Punct, isBlank mark.char = false ∧ startsWord mark.char = false ∧
      mark.char.isDigit = false ∧ mark.char ≠ '\n' ∧ mark.char ≠ '"' ∧ mark.char ≠ '`' := by
    intro mark
    cases mark <;> decide
  obtain ⟨hblank, hword, hdigit, hbreak, hquote, htick⟩ := hplain mark
  have hslash : mark.char = '/' → rest.head? ≠ some '/' ∧ rest.head? ≠ some '*' := by
    intro hchar
    have hmark : mark = .slash := by
      have hfound := Punct.ofChar?_char mark
      rw [hchar] at hfound
      exact (Option.some.inj hfound).symm
    exact ⟨fun hd => (hnext hmark _ hd).1 rfl, fun hd => (hnext hmark _ hd).2 rfl⟩
  have hline : ¬ (mark.char = '/' ∧ rest.head? = some '/') := fun h => (hslash h.1).1 h.2
  have hcomment : ¬ (mark.char = '/' ∧ rest.head? = some '*') := fun h => (hslash h.1).2 h.2
  simp [firstLexeme, hbreak, hblank, hline, hcomment, hquote, htick, hword, hdigit,
    markOrInvalid, Punct.ofChar?_char]

/-- Reading a text finds the lexeme that stands at its front. -/
theorem firstLexeme_eq_of_standsBefore {lexeme : Lexeme} {rest : List Char}
    (hstands : StandsBefore lexeme rest) :
    ∃ c tail, lexeme.text = c :: tail ∧ firstLexeme c (tail ++ rest) = lexeme := by
  cases hstands with
  | newline => exact ⟨'\n', [], rfl, by simp [firstLexeme]⟩
  | @whitespace first others _ hfirst hothers hnext =>
      simp only [isInlineBlank, Bool.and_eq_true, bne_iff_ne, ne_eq] at hfirst
      refine ⟨first, others, rfl, ?_⟩
      simp [firstLexeme, hfirst.1, hfirst.2, takeWhile_append_eq hothers hnext]
  | @lineComment body _ hbody hnext =>
      refine ⟨'/', '/' :: body, rfl, ?_⟩
      have htake : (body ++ rest).takeWhile (· != '\n') = body :=
        takeWhile_append_eq (by simpa using hbody) (by simpa using hnext)
      have hblank : isBlank '/' = false := by decide
      simp [firstLexeme, hblank, htake]
  | @blockComment body _ hbody =>
      refine ⟨'/', '*' :: body ++ ['*', '/'], rfl, ?_⟩
      have hfull := (commentBody?_append body rest).mpr hbody
      have hblank : isBlank '/' = false := by decide
      simp [firstLexeme, hblank, blockComment, hfull]
  | @openComment body hbody =>
      refine ⟨'/', '*' :: body, rfl, ?_⟩
      have hblank : isBlank '/' = false := by decide
      simp [firstLexeme, hblank, blockComment, hbody]
  | @string body _ hbody =>
      refine ⟨'"', body ++ ['"'], rfl, ?_⟩
      have hread : quotedBody (body ++ '"' :: rest) = body := by
        rw [quotedBody_append hbody]
        simp [quotedBody]
      have hblank : isBlank '"' = false := by decide
      simp [firstLexeme, hblank, hread, delimited]
  | @openString body _ hbody hend hnext =>
      refine ⟨'"', body, rfl, ?_⟩
      have hread : quotedBody (body ++ rest) = body := by
        rw [quotedBody_append hbody, hend, List.append_nil]
      have hblank : isBlank '"' = false := by decide
      simp [firstLexeme, hblank, hread, delimited, hnext]
  | @rawString body _ hbody =>
      refine ⟨'`', body ++ ['`'], rfl, ?_⟩
      have hread : (body ++ '`' :: rest).takeWhile (fun d => d != '`' && d != '\n') = body :=
        takeWhile_append_eq hbody (by simp)
      have hblank : isBlank '`' = false := by decide
      simp [firstLexeme, hblank, hread, delimited]
  | @openRawString body _ hbody hnext =>
      refine ⟨'`', body, rfl, ?_⟩
      have hread : (body ++ rest).takeWhile (fun d => d != '`' && d != '\n') = body :=
        takeWhile_append_eq hbody (by simp +contextual [hnext])
      have hblank : isBlank '`' = false := by decide
      have hopen : rest.head? ≠ some '`' := by
        intro hhead
        exact absurd (hnext _ hhead) (by decide)
      simp [firstLexeme, hblank, hread, delimited, hopen]
  | @word first others _ hfirst hothers hnext =>
      refine ⟨first, others, rfl, ?_⟩
      have hother : ∀ c, startsWord c = false → first ≠ c := by
        rintro c hc rfl
        rw [hfirst] at hc
        cases hc
      have hbreak : first ≠ '\n' := hother _ (by decide)
      have hslash : first ≠ '/' := hother _ (by decide)
      have hquote : first ≠ '"' := hother _ (by decide)
      have htick : first ≠ '`' := hother _ (by decide)
      simp [firstLexeme, hbreak, startsWord_isBlank hfirst, hslash, hquote, htick, hfirst,
        takeWhile_append_eq hothers hnext]
  | @number first others _ hfirst hothers hnext =>
      refine ⟨first, others, rfl, ?_⟩
      obtain ⟨hblank, hword, hslash, hquote, htick⟩ := digit_plain hfirst
      have hbreak : first ≠ '\n' := by
        rintro rfl
        exact absurd hblank (by decide)
      simp [firstLexeme, hbreak, hblank, hslash, hquote, htick, hword, hfirst,
        takeWhile_append_eq hothers hnext]
  | @punct mark _ hnext => exact ⟨mark.char, [], rfl, firstLexeme_punct hnext⟩
  | @stray c _ hblank hquote htick hword hdigit hmark =>
      refine ⟨c, [], rfl, ?_⟩
      have hbreak : c ≠ '\n' := by
        rintro rfl
        exact absurd hblank (by decide)
      have hslash : c ≠ '/' := by
        rintro rfl
        exact absurd hmark (by decide)
      simp [firstLexeme, hbreak, hblank, hslash, hquote, htick, hword, hdigit, markOrInvalid,
        hmark]

end ApiLang
