/-
Rows of the canonical layout.  Clean rows that start and end with more than
trivia can be joined by blanks, line breaks and the marks of the language, and
the row that results is clean again.
-/
import ApiLang.Proofs.Token.Tiling
import ApiLang.Proofs.Tree.Grammar

namespace ApiLang

def space : Lexeme :=
  ⟨.whitespace, [' ']⟩

def markLexeme (mark : Punct) : Lexeme :=
  ⟨.punct mark, [mark.char]⟩

@[simp] theorem space_text : space.text = [' '] := rfl

@[simp] theorem markLexeme_text (mark : Punct) : (markLexeme mark).text = [mark.char] := rfl

@[simp] theorem markLexeme_token (mark : Punct) : (markLexeme mark).token = .punct mark := rfl

theorem Clean.append {left right : List Lexeme} (hleft : Clean left) (hright : Clean right)
    (hnext : ∀ last ∈ left.getLast?, ∀ c ∈ (textOf right).head?, last.token.absorbs c = false) :
    Clean (left ++ right) := by
  constructor
  · rw [textOf_append, hleft.lexemes_append hnext, hright.read]
  · intro lexeme hlexeme
    rcases List.mem_append.mp hlexeme with hlexeme | hlexeme
    · exact hleft.valid lexeme hlexeme
    · exact hright.valid lexeme hlexeme

theorem clean_singleton {lexeme : Lexeme} (hstands : StandsBefore lexeme [])
    (hvalid : lexeme.token.isInvalid = false) : Clean [lexeme] := by
  constructor
  · have hread := lexemes_of_standsBefore hstands
    rw [List.append_nil, lexemes_eq_nil_iff.mpr rfl] at hread
    simpa using hread
  · simpa using hvalid

theorem clean_space : Clean [space] :=
  clean_singleton (.whitespace (by decide) (by simp) (by simp)) rfl

theorem clean_lineBreak : Clean [lineBreak] :=
  clean_singleton .newline rfl

theorem clean_markLexeme (mark : Punct) : Clean [markLexeme mark] :=
  clean_singleton (.punct (by simp)) rfl

/-- A lexeme of a clean row is written as its token says, unless it is white
space. -/
theorem Clean.text_eq {run : List Lexeme} (hclean : Clean run) {lexeme : Lexeme}
    (hmem : lexeme ∈ run) {text : List Char} (hwritten : lexeme.token.written? = some text) :
    lexeme.text = text := by
  rw [← hclean.read] at hmem
  obtain ⟨rest, hstands⟩ := standsBefore_of_mem_lexemes hmem
  rcases hstands.writtenAs with hsame | ⟨hblank, _⟩
  · rw [hsame] at hwritten
    exact Option.some.inj hwritten
  · rw [hblank] at hwritten
    cases hwritten

theorem Clean.of_mem {run : List Lexeme} (hclean : Clean run) {lexeme : Lexeme}
    (hmem : lexeme ∈ run) : Clean [lexeme] := by
  obtain ⟨earlier, later, rfl⟩ := List.append_of_mem hmem
  exact (List.singleton_append ▸ hclean.right).left

theorem Clean.tail {lexeme : Lexeme} {row : List Lexeme} (hclean : Clean (lexeme :: row)) :
    Clean row :=
  Clean.right (List.singleton_append ▸ hclean)

/-- Characters that stand between the words of the language. -/
def separators : List Char :=
  [' ', '\n', ',', ':', '(', ')', '[', ']', '\x7b', '\x7d']

theorem separators_plain : ∀ c ∈ separators,
    continuesWord c = false ∧ c.isDigit = false ∧ c ≠ '/' ∧ c ≠ '*' := by
  have hall : (separators.all fun c =>
      !continuesWord c && !c.isDigit && c != '/' && c != '*') = true := by
    decide +kernel
  intro c hc
  simpa [and_assoc] using List.all_eq_true.mp hall c hc

/-- Nothing but trivia absorbs a separator. -/
theorem absorbs_separator {token : Token} (hsolid : token.isTrivia = false) {c : Char}
    (hc : c ∈ separators) : token.absorbs c = false := by
  obtain ⟨hword, hdigit, hslash, hstar⟩ := separators_plain c hc
  unfold Token.absorbs
  split
  · exact hword
  · exact hword
  · exact hdigit
  · cases hsolid
  · cases hsolid
  · simp [hslash, hstar]
  · rfl

/-- What is more than trivia does not start with a blank. -/
theorem StandsBefore.head_not_blank {lexeme : Lexeme} {rest : List Char}
    (hstands : StandsBefore lexeme rest) (hsolid : lexeme.token.isTrivia = false) :
    ∀ c ∈ lexeme.text.head?, isBlank c = false := by
  intro c hc
  cases hstands with
  | newline => cases hsolid
  | whitespace _ _ _ => cases hsolid
  | lineComment _ _ => cases hsolid
  | blockComment _ => cases hsolid
  | openComment _ | string _ | openString _ _ _ | rawString _ | openRawString _ _ =>
      cases hc
      decide
  | word hfirst _ _ =>
      cases hc
      exact startsWord_isBlank hfirst
  | number hfirst _ _ =>
      cases hc
      exact (digit_plain hfirst).1
  | @punct mark _ _ =>
      cases hc
      cases mark <;> decide
  | stray hblank _ _ _ _ _ =>
      cases hc
      exact hblank

/-- A clean row that starts and ends with more than trivia. -/
structure Tidy (row : List Lexeme) : Prop where
  clean : Clean row
  solid : Solid row

namespace Tidy

variable {left right : List Lexeme}

theorem head_not_blank (hright : Tidy right) :
    ∀ c ∈ (textOf right).head?, isInlineBlank c = false := by
  intro c hc
  obtain ⟨⟨first, hfirst, hsolid⟩, _⟩ := hright.solid
  obtain ⟨others, rfl⟩ := List.head?_eq_some_iff.mp hfirst
  have hstands := standsBefore_of_lexemes hright.clean.read
  have hhead : (textOf (first :: others)).head? = first.text.head? :=
    List.head?_append_of_ne_nil _ hstands.text_ne_nil
  rw [hhead] at hc
  simp [isInlineBlank, hstands.head_not_blank hsolid c hc]

theorem absorbs_separator (hleft : Tidy left) {c : Char} (hc : c ∈ separators) :
    ∀ last ∈ left.getLast?, last.token.absorbs c = false := by
  intro last hlast
  obtain ⟨_, other, hother, hsolid⟩ := hleft.solid
  obtain rfl : other = last := Option.mem_unique hother hlast
  exact ApiLang.absorbs_separator hsolid hc

theorem solid_append (hleft : Tidy left) (hright : Tidy right) (middle : List Lexeme) :
    Solid (left ++ (middle ++ right)) := by
  obtain ⟨⟨first, hfirst, hfirstSolid⟩, _⟩ := hleft.solid
  obtain ⟨_, last, hlast, hlastSolid⟩ := hright.solid
  refine ⟨⟨first, ?_, hfirstSolid⟩, last, ?_, hlastSolid⟩
  · rw [List.head?_append_of_ne_nil _ hleft.solid.ne_nil]
    exact hfirst
  · rw [List.getLast?_append_of_ne_nil _ (by simp [hright.solid.ne_nil]),
      List.getLast?_append_of_ne_nil _ hright.solid.ne_nil]
    exact hlast

/-- Rows that touch, where the second starts with a separator. -/
theorem touch (hleft : Tidy left) (hright : Tidy right) {c : Char}
    (hhead : (textOf right).head? = some c) (hc : c ∈ separators) : Tidy (left ++ right) := by
  refine ⟨hleft.clean.append hright.clean ?_, hleft.solid_append hright []⟩
  intro last hlast d hd
  rw [hhead] at hd
  cases hd
  exact hleft.absorbs_separator hc last hlast

/-- Rows with a blank between them. -/
theorem spaced (hleft : Tidy left) (hright : Tidy right) : Tidy (left ++ space :: right) := by
  have hspaced : Clean ([space] ++ right) := by
    refine clean_space.append hright.clean ?_
    rintro last ⟨⟩ c hc
    exact hright.head_not_blank c hc
  refine ⟨hleft.clean.append hspaced ?_, hleft.solid_append hright [space]⟩
  rintro last hlast c ⟨⟩
  exact hleft.absorbs_separator (by decide) last hlast

theorem single {lexeme : Lexeme} (hclean : Clean [lexeme])
    (hsolid : lexeme.token.isTrivia = false) : Tidy [lexeme] :=
  ⟨hclean, ⟨_, rfl, hsolid⟩, _, rfl, hsolid⟩

theorem mark (mark : Punct) : Tidy [markLexeme mark] :=
  single (clean_markLexeme mark) rfl

/-- A row behind a mark other than the slash, which could open a comment. -/
theorem opened (hright : Tidy right) (mark : Punct) (hmark : mark ≠ .slash) :
    Tidy (markLexeme mark :: right) := by
  refine ⟨(clean_markLexeme mark).append hright.clean ?_, (Tidy.mark mark).solid_append hright []⟩
  rintro last ⟨⟩ c _
  cases mark <;> simp_all [markLexeme, Token.absorbs]

theorem closed (hleft : Tidy left) (mark : Punct) (hmark : mark.char ∈ separators) :
    Tidy (left ++ [markLexeme mark]) :=
  hleft.touch (Tidy.mark mark) rfl hmark

end Tidy

/-- A line in front of a clean row. -/
theorem Tidy.clean_line {line rest : List Lexeme} (hline : Tidy line) (hrest : Clean rest) :
    Clean (line ++ lineBreak :: rest) := by
  have hbroken : Clean ([lineBreak] ++ rest) := by
    refine clean_lineBreak.append hrest ?_
    rintro last ⟨⟩ c _
    rfl
  refine hline.clean.append hbroken ?_
  rintro last hlast c ⟨⟩
  exact hline.absorbs_separator (by decide) last hlast

/-- Lines in front of a row. -/
def linesBefore (lines : List (List Lexeme)) (row : List Lexeme) : List Lexeme :=
  lines.foldr (fun line rest => line ++ lineBreak :: rest) row

@[simp] theorem linesBefore_nil (row : List Lexeme) : linesBefore [] row = row := rfl

@[simp] theorem linesBefore_cons (line : List Lexeme) (lines : List (List Lexeme))
    (row : List Lexeme) :
    linesBefore (line :: lines) row = line ++ lineBreak :: linesBefore lines row := rfl

theorem linesBefore_append (lines : List (List Lexeme)) (row rest : List Lexeme) :
    linesBefore lines row ++ rest = linesBefore lines (row ++ rest) := by
  induction lines with
  | nil => rfl
  | cons line lines ih => simp [ih]

theorem Tidy.linesBefore {row : List Lexeme} (hrow : Tidy row) {lines : List (List Lexeme)}
    (hlines : ∀ line ∈ lines, Tidy line) : Tidy (linesBefore lines row) := by
  induction lines with
  | nil => exact hrow
  | cons line lines ih =>
      obtain ⟨hline, hlines⟩ := List.forall_mem_cons.mp hlines
      exact ⟨hline.clean_line (ih hlines).clean, hline.solid_append (ih hlines) [lineBreak]⟩

/-- Lines between two marks. -/
def groupRow (opening closing : Punct) (lines : List (List Lexeme)) : List Lexeme :=
  markLexeme opening :: lineBreak :: linesBefore lines [markLexeme closing]

theorem tidy_groupRow (opening closing : Punct) {lines : List (List Lexeme)}
    (hlines : ∀ line ∈ lines, Tidy line) : Tidy (groupRow opening closing lines) := by
  have hinside := (Tidy.mark closing).linesBefore hlines
  exact ⟨(Tidy.mark opening).clean_line hinside.clean,
    (Tidy.mark opening).solid_append hinside [lineBreak]⟩

theorem clean_lines {lines : List (List Lexeme)} (hlines : ∀ line ∈ lines, Tidy line) :
    Clean (linesBefore lines []) := by
  induction lines with
  | nil => exact ⟨lexemes_eq_nil_iff.mpr rfl, by simp⟩
  | cons line lines ih =>
      obtain ⟨hline, hlines⟩ := List.forall_mem_cons.mp hlines
      exact hline.clean_line (ih hlines)

end ApiLang
