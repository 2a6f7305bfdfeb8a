/-
Lexemes in a row.  Reading a text cuts it into lexemes that can be put together
again, each stands before the text of the next, and a row of valid lexemes is
read the same way wherever it stands, as long as its last lexeme does not absorb
what follows.
-/
import ApiLang.Proofs.Text.Slices
import ApiLang.Proofs.Token.Shapes

namespace ApiLang

/-- The characters of lexemes in a row. -/
def textOf (run : List Lexeme) : List Char :=
  run.flatMap Lexeme.text

@[simp] theorem textOf_nil : textOf [] = [] := rfl

@[simp] theorem textOf_cons (lexeme : Lexeme) (run : List Lexeme) :
    textOf (lexeme :: run) = lexeme.text ++ textOf run := rfl

@[simp] theorem textOf_append (left right : List Lexeme) :
    textOf (left ++ right) = textOf left ++ textOf right :=
  List.flatMap_append

theorem StandsBefore.text_ne_nil {lexeme : Lexeme} {rest : List Char}
    (hstands : StandsBefore lexeme rest) : lexeme.text ≠ [] := by
  obtain ⟨c, tail, htext, _⟩ := firstLexeme_eq_of_standsBefore hstands
  simp [htext]

/-- The lexeme that stands at the front of a text is read first. -/
theorem lexemes_of_standsBefore {lexeme : Lexeme} {rest : List Char}
    (hstands : StandsBefore lexeme rest) :
    lexemes (lexeme.text ++ rest) = lexeme :: lexemes rest := by
  obtain ⟨c, tail, htext, hfirst⟩ := firstLexeme_eq_of_standsBefore hstands
  rw [htext, List.cons_append, lexemes, hfirst]
  simp [htext]

theorem lexemes_eq_cons {text : List Char} {lexeme : Lexeme} {others : List Lexeme}
    (hlexemes : lexemes text = lexeme :: others) :
    ∃ rest, text = lexeme.text ++ rest ∧ StandsBefore lexeme rest ∧ lexemes rest = others := by
  cases text with
  | nil => simp [lexemes] at hlexemes
  | cons c cs =>
      obtain ⟨rest, htext, hstands⟩ := firstLexeme_standsBefore c cs
      have hread := lexemes_of_standsBefore hstands
      rw [← htext, hlexemes] at hread
      obtain ⟨rfl, rfl⟩ := List.cons.inj hread
      exact ⟨rest, htext, hstands, rfl⟩

theorem lexemes_eq_nil_iff {text : List Char} : lexemes text = [] ↔ text = [] := by
  cases text with
  | nil => simp [lexemes]
  | cons c cs => simp [lexemes]

/-- Nothing is lost: the lexemes of a text spell the text. -/
@[simp] theorem textOf_lexemes (text : List Char) : textOf (lexemes text) = text := by
  induction hlexemes : lexemes text generalizing text with
  | nil => exact (lexemes_eq_nil_iff.mp hlexemes).symm
  | cons lexeme others ih =>
      obtain ⟨rest, rfl, _, hothers⟩ := lexemes_eq_cons hlexemes
      rw [textOf_cons, ih rest hothers]

/-- What is left of the lexemes is what reading the rest of the text gives. -/
theorem lexemes_textOf_right (run : List Lexeme) {left : List Lexeme}
    (hlexemes : lexemes (textOf (run ++ left)) = run ++ left) : lexemes (textOf left) = left := by
  induction run with
  | nil => exact hlexemes
  | cons lexeme run ih =>
      rw [List.cons_append] at hlexemes
      obtain ⟨rest, htext, _, hrest⟩ := lexemes_eq_cons hlexemes
      rw [textOf_cons, List.append_cancel_left_eq] at htext
      exact ih (by rw [htext, hrest])

theorem standsBefore_of_lexemes {lexeme : Lexeme} {others : List Lexeme}
    (hlexemes : lexemes (textOf (lexeme :: others)) = lexeme :: others) :
    StandsBefore lexeme (textOf others) := by
  obtain ⟨rest, htext, hstands, _⟩ := lexemes_eq_cons hlexemes
  rw [textOf_cons, List.append_cancel_left_eq] at htext
  rwa [htext]

theorem standsBefore_of_mem_lexemes {text : List Char} {lexeme : Lexeme}
    (hmem : lexeme ∈ lexemes text) : ∃ rest, StandsBefore lexeme rest := by
  obtain ⟨earlier, others, hsplit⟩ := List.append_of_mem hmem
  have hlexemes : lexemes (textOf (earlier ++ lexeme :: others)) = earlier ++ lexeme :: others := by
    rw [← hsplit, textOf_lexemes]
  exact ⟨_, standsBefore_of_lexemes (lexemes_textOf_right earlier hlexemes)⟩

/-- Whether the character would be read as part of the token if it followed at
once. -/
def Token.absorbs (token : Token) (c : Char) : Bool :=
  match token with
  | .keyword _ | .identifier _ => continuesWord c
  | .number _ => c.isDigit
  | .whitespace => isInlineBlank c
  | .lineComment _ => c != '\n'
  | .punct .slash => c == '/' || c == '*'
  | _ => false

theorem Token.absorbs_ofWord (word : String) (c : Char) :
    (Token.ofWord word).absorbs c = continuesWord c := by
  unfold Token.ofWord
  split <;> rfl

/-- A lexeme that stands somewhere also stands at the end of the text. -/
theorem StandsBefore.alone {lexeme : Lexeme} {rest : List Char}
    (hstands : StandsBefore lexeme rest) : StandsBefore lexeme [] := by
  have hnone : ∀ {p : Char → Prop}, ∀ c ∈ ([] : List Char).head?, p c := by
    intro _ _ hc
    cases hc
  cases hstands with
  | newline => exact .newline
  | whitespace hfirst hothers _ => exact .whitespace hfirst hothers hnone
  | lineComment hbody _ => exact .lineComment hbody hnone
  | blockComment hbody => exact .blockComment hbody
  | openComment hbody => exact .openComment hbody
  | string hbody => exact .string hbody
  | openString hbody _ _ => exact .openString hbody rfl (by simp)
  | rawString hbody => exact .rawString hbody
  | openRawString hbody _ => exact .openRawString hbody hnone
  | word hfirst hothers _ => exact .word hfirst hothers hnone
  | number hfirst hothers _ => exact .number hfirst hothers hnone
  | punct _ => exact .punct fun _ => hnone
  | stray hblank hquote htick hword hdigit hmark =>
      exact .stray hblank hquote htick hword hdigit hmark

/-- What follows a lexeme is not absorbed by it. -/
theorem StandsBefore.not_absorbs {lexeme : Lexeme} {rest : List Char}
    (hstands : StandsBefore lexeme rest) :
    ∀ c ∈ rest.head?, lexeme.token.absorbs c = false := by
  intro c hc
  cases hstands with
  | whitespace _ _ hnext => exact hnext c hc
  | lineComment _ hnext => simp [Token.absorbs, hnext c hc]
  | word _ _ hnext => rw [Token.absorbs_ofWord, hnext c hc]
  | number _ _ hnext => exact hnext c hc
  | @punct mark _ hnext =>
      by_cases hslash : mark = .slash
      · subst hslash
        simpa [Token.absorbs] using hnext rfl c hc
      · cases mark <;> simp [Token.absorbs] at hslash ⊢
  | newline | blockComment | openComment | string | openString | rawString | openRawString
  | stray => rfl

/-- A valid lexeme stands before everything it does not absorb. -/
theorem StandsBefore.before {lexeme : Lexeme} {rest other : List Char}
    (hstands : StandsBefore lexeme rest) (hvalid : lexeme.token.isInvalid = false)
    (hnext : ∀ c ∈ other.head?, lexeme.token.absorbs c = false) : StandsBefore lexeme other := by
  cases hstands with
  | newline => exact .newline
  | whitespace hfirst hothers _ => exact .whitespace hfirst hothers hnext
  | lineComment hbody _ =>
      exact .lineComment hbody fun c hc => by simpa [Token.absorbs] using hnext c hc
  | blockComment hbody => exact .blockComment hbody
  | string hbody => exact .string hbody
  | rawString hbody => exact .rawString hbody
  | word hfirst hothers _ =>
      exact .word hfirst hothers fun c hc => by
        simpa only [Token.absorbs_ofWord] using hnext c hc
  | number hfirst hothers _ => exact .number hfirst hothers hnext
  | punct _ =>
      refine .punct ?_
      rintro rfl c hc
      simpa [Token.absorbs] using hnext c hc
  | openComment | openString | openRawString | stray => cases hvalid

/-- A row of valid lexemes that is what reading its own text gives. -/
structure Clean (run : List Lexeme) : Prop where
  read : lexemes (textOf run) = run
  valid : ∀ lexeme ∈ run, lexeme.token.isInvalid = false

/-- The first character behind a lexeme is that of the lexeme that follows. -/
theorem head?_textOf_append {run : List Lexeme} (hread : lexemes (textOf run) = run)
    (hne : run ≠ []) (rest : List Char) :
    (textOf run ++ rest).head? = (textOf run).head? := by
  apply List.head?_append_of_ne_nil
  intro hnil
  rw [hnil] at hread
  exact hne (hread.symm.trans (lexemes_eq_nil_iff.mpr rfl))

/-- A clean row is read as it is in front of any text that its last lexeme does
not absorb. -/
theorem Clean.lexemes_append {run : List Lexeme} (hclean : Clean run) {rest : List Char}
    (hnext : ∀ last ∈ run.getLast?, ∀ c ∈ rest.head?, last.token.absorbs c = false) :
    lexemes (textOf run ++ rest) = run ++ lexemes rest := by
  obtain ⟨hread, hvalid⟩ := hclean
  induction run with
  | nil => rfl
  | cons lexeme others ih =>
      have hstands := standsBefore_of_lexemes hread
      have hothers : lexemes (textOf others) = others :=
        lexemes_textOf_right [lexeme] hread
      have hbefore : StandsBefore lexeme (textOf others ++ rest) := by
        apply hstands.before (hvalid lexeme List.mem_cons_self)
        cases others with
        | nil => exact hnext lexeme rfl
        | cons next more =>
            rw [head?_textOf_append hothers (List.cons_ne_nil next more)]
            exact hstands.not_absorbs
      have htail : ∀ last ∈ others.getLast?, ∀ c ∈ rest.head?, last.token.absorbs c = false := by
        intro last hlast
        apply hnext last
        cases others with
        | nil => cases hlast
        | cons next more => simpa using hlast
      have hrest := ih htail hothers fun other hother =>
        hvalid other (List.mem_cons_of_mem lexeme hother)
      rw [textOf_cons, List.append_assoc, lexemes_of_standsBefore hbefore, hrest,
        List.cons_append]

theorem Clean.right {run left : List Lexeme} (hclean : Clean (run ++ left)) : Clean left :=
  ⟨lexemes_textOf_right run hclean.read,
    fun other hmem => hclean.valid other (List.mem_append_right run hmem)⟩

theorem Clean.left {run left : List Lexeme} (hclean : Clean (run ++ left)) : Clean run := by
  refine ⟨?_, fun other hmem => hclean.valid other (List.mem_append_left left hmem)⟩
  obtain ⟨hread, hvalid⟩ := hclean
  induction run with
  | nil => simp [lexemes]
  | cons lexeme others ih =>
      rw [List.cons_append] at hread hvalid
      have hstands := standsBefore_of_lexemes hread
      have hothers : lexemes (textOf others) = others :=
        ih (lexemes_textOf_right [lexeme] hread)
          fun other hother => hvalid other (List.mem_cons_of_mem lexeme hother)
      have hbefore : StandsBefore lexeme (textOf others) := by
        cases others with
        | nil => exact hstands.alone
        | cons next more =>
            apply hstands.before (hvalid lexeme List.mem_cons_self)
            rw [← head?_textOf_append hothers (List.cons_ne_nil next more), ← textOf_append]
            exact hstands.not_absorbs
      rw [textOf_cons, lexemes_of_standsBefore hbefore, hothers]

/-- A row of lexemes each of which was read somewhere. -/
def Lexed (run : List Lexeme) : Prop :=
  ∀ lexeme ∈ run, ∃ rest, StandsBefore lexeme rest

theorem Lexed.mono {run piece : List Lexeme} (hrun : Lexed run) (hpiece : piece ⊆ run) :
    Lexed piece :=
  fun lexeme hlexeme => hrun lexeme (hpiece hlexeme)

end ApiLang
