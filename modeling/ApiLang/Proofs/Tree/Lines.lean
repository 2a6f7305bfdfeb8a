/-
Entries on lines of their own.  The loops of the reader, given the lines of a
layout, read one entry for each line and stop behind the last.
-/
import ApiLang.Proofs.Tree.Layout
import ApiLang.Proofs.Tree.Takes

namespace ApiLang

variable {α : Type} {source : List Char}

/-- How entries stand on lines of their own: how one is read, what it is without
its places, how it is printed, and how a loop recognises that one comes next. -/
structure LineRules (α : Type) where
  read : List Char → Reader α
  unplaced : α → α
  print : α → List Char
  opens : List Char → List PlacedToken → Prop

/-- A line that is the print of an entry and, in front of a line break, is read as
that entry again. -/
structure LineRules.Line (rules : LineRules α) (line : List Lexeme) (entry : α) : Prop where
  text : textOf line = rules.print entry
  tidy : Tidy line
  opens : ∀ source start rest, Located source start (line ++ rest) → AtBreak rest →
    rules.opens source (placeLexemes start (line ++ rest))
  takes : ∀ source, (rules.read source).Takes source line AtBreak fun found =>
    rules.unplaced found = rules.unplaced entry

/-- Entries on lines of their own. -/
def LineRules.Lines (rules : LineRules α) : List (List Lexeme) → List α → Prop :=
  List.Forall₂ rules.Line

namespace LineRules.Lines

variable {rules : LineRules α} {lines : List (List Lexeme)} {entries : List α}

theorem textOf_linesBefore (hlines : rules.Lines lines entries) (row : List Lexeme) :
    textOf (linesBefore lines row) = printLines rules.print entries ++ textOf row := by
  induction hlines with
  | nil => rfl
  | cons hline _ ih =>
      simp only [linesBefore_cons, textOf_append, textOf_cons, ih, hline.text, printLines,
        List.flatMap_cons, List.append_assoc, List.singleton_append]
      rfl

theorem tidy (hlines : rules.Lines lines entries) : ∀ line ∈ lines, Tidy line := by
  induction hlines with
  | nil => simp
  | cons hline _ ih => exact List.forall_mem_cons.mpr ⟨hline.tidy, ih⟩

theorem textOf_groupRow (hlines : rules.Lines lines entries) (opening closing : Punct) :
    textOf (groupRow opening closing lines) =
      opening.char :: '\n' :: printLines rules.print entries ++ [closing.char] := by
  simp [groupRow, hlines.textOf_linesBefore]

theorem tidy_groupRow (hlines : rules.Lines lines entries) (opening closing : Punct) :
    Tidy (groupRow opening closing lines) :=
  ApiLang.tidy_groupRow opening closing hlines.tidy

end LineRules.Lines

theorem Solid.head_append {line : List Lexeme} (hsolid : Solid line) (rest : List Lexeme) :
    ∀ lexeme ∈ (line ++ rest).head?, lexeme.token.isTrivia = false := by
  intro lexeme hlexeme
  obtain ⟨⟨first, hfirst, htrivia⟩, _⟩ := hsolid
  obtain ⟨others, rfl⟩ := List.head?_eq_some_iff.mp hfirst
  cases hlexeme
  exact htrivia

theorem not_isInlineTrivia_of_solid {token : Token} (htoken : token.isTrivia = false) :
    token.isInlineTrivia = false := by
  cases token <;> simp_all [Token.isTrivia, Token.isInlineTrivia]

theorem dropTrivia_placeLexemes_append {gap : List Lexeme} (hgap : AllTrivia gap)
    {row : List Lexeme} (hrow : ∀ lexeme ∈ row.head?, lexeme.token.isTrivia = false)
    (start : Nat) :
    dropTrivia (placeLexemes start (gap ++ row)) = placeLexemes (start + widthOf gap) row :=
  dropWhile_placeLexemes_append hgap hrow start

theorem allTrivia_lineBreak : AllTrivia [lineBreak] := by
  intro lexeme hlexeme
  rw [List.mem_singleton.mp hlexeme]
  rfl

theorem dropTrivia_mark {gap : List Lexeme} (hgap : AllTrivia gap) (mark : Punct)
    (rest : List Lexeme) (start : Nat) :
    dropTrivia (placeLexemes start (gap ++ markLexeme mark :: rest)) =
      ⟨.punct mark, spanAt (start + widthOf gap) [markLexeme mark]⟩ ::
        placeLexemes (start + widthOf (gap ++ [markLexeme mark])) rest := by
  rw [dropTrivia_placeLexemes_append hgap (by rintro _ ⟨⟩; rfl), placeLexemes_cons, Nat.add_assoc,
    ← widthOf_append]
  rfl

/-- One round of a loop at a line: past the trivia the line opens, and reading it
leaves the line break. -/
theorem LineRules.Line.round {rules : LineRules α} {line : List Lexeme} {entry : α}
    (hline : rules.Line line entry) {gap rest : List Lexeme} {start : Nat}
    (hgap : AllTrivia gap)
    (hsource : Located source start (gap ++ (line ++ lineBreak :: rest))) :
    ∃ placed others found, dropTrivia (placeLexemes start (gap ++ (line ++ lineBreak :: rest))) =
        placed :: others ∧ rules.opens source (placed :: others) ∧
      rules.read source (placed :: others) =
        .ok (found, placeLexemes (start + widthOf (gap ++ line)) (lineBreak :: rest)) ∧
      rules.unplaced found = rules.unplaced entry := by
  have hbreak : AtBreak (lineBreak :: rest) := ⟨rest, rfl⟩
  have hopens := hline.opens source _ _ hsource.right hbreak
  obtain ⟨found, hfound, hgood⟩ := hline.takes source hsource.right hbreak
  obtain ⟨first, others, rfl⟩ := List.exists_cons_of_ne_nil hline.tidy.solid.ne_nil
  rw [dropTrivia_placeLexemes_append hgap (hline.tidy.solid.head_append _), List.cons_append,
    placeLexemes_cons]
  rw [List.cons_append, placeLexemes_cons] at hopens hfound
  rw [widthOf_append, ← Nat.add_assoc]
  exact ⟨_, _, found, rfl, hopens, hfound, hgood⟩

/-- Lines up to a closing parenthesis. -/
theorem takes_untilRightParen {rules : LineRules α} {item : ItemReader α}
    (hread : item.read = rules.read source)
    (hopens : ∀ tokens, rules.opens source tokens → atPunct .rightParen tokens.head? = false)
    {lines : List (List Lexeme)} {entries : List α} (hlines : rules.Lines lines entries)
    {gap : List Lexeme} (hgap : AllTrivia gap) :
    Reader.Takes source (untilRightParen item)
      (gap ++ linesBefore lines [markLexeme .rightParen]) Anything
      fun found => found.1.map rules.unplaced = entries.map rules.unplaced := by
  induction hlines generalizing gap with
  | nil =>
      intro start rest _ _
      refine ⟨([], spanAt (start + widthOf gap) [markLexeme .rightParen]), ?_, rfl⟩
      rw [linesBefore_nil, List.append_assoc, List.singleton_append,
        untilRightParen_close item (dropTrivia_mark hgap _ _ _) rfl]
  | @cons line entry lines entries hline _ ih =>
      intro start rest hsource _
      rw [linesBefore_cons, List.append_assoc, List.append_assoc, List.cons_append] at hsource ⊢
      obtain ⟨placed, others, found, hdrop, hopen, hfound, hgood⟩ := hline.round hgap hsource
      rw [← List.append_assoc] at hsource
      obtain ⟨⟨founds, close⟩, hfounds, hgoods⟩ := ih allTrivia_lineBreak hsource.right trivial
      rw [List.append_assoc, List.singleton_append] at hfounds
      refine ⟨(found :: founds, close), ?_, by simp [hgood, hgoods]⟩
      have hnext : atPunct .rightParen (placed :: others).head? = false := hopens _ hopen
      rw [← hdrop] at hnext
      rw [untilRightParen_item item hnext, hdrop, Reader.bind_ok (hread ▸ hfound),
        Reader.bind_ok hfounds, Nat.add_assoc, ← widthOf_append, List.append_assoc]
      rfl

theorem bodyEntries_lines {rules : LineRules α} {bodyRules : BodyRules α}
    (hread : bodyRules.entry.read = rules.read source)
    (hopens : ∀ tokens, rules.opens source tokens →
      atPunct bodyRules.closer tokens.head? = false ∧ bodyRules.stops tokens = false)
    {lines : List (List Lexeme)} {entries : List α} (hlines : rules.Lines lines entries)
    {gap rest : List Lexeme} (hgap : AllTrivia gap) {start : Nat}
    (hsource : Located source start
      (gap ++ (linesBefore lines (markLexeme bodyRules.closer :: rest)))) :
    ∃ founds close,
      bodyEntries source bodyRules (placeLexemes start
        (gap ++ (linesBefore lines (markLexeme bodyRules.closer :: rest)))) =
          (founds, some close, placeLexemes
            (start + widthOf (gap ++ linesBefore lines [markLexeme bodyRules.closer])) rest) ∧
      founds.map rules.unplaced = entries.map rules.unplaced := by
  induction hlines generalizing gap start with
  | nil =>
      refine ⟨[], spanAt (start + widthOf gap) [markLexeme bodyRules.closer], ?_, rfl⟩
      rw [linesBefore_nil, bodyEntries_eq_of_cons source bodyRules (dropTrivia_mark hgap _ _ _),
        if_pos (by simp [Token.isPunct])]
      rfl
  | @cons line entry lines entries hline _ ih =>
      rw [linesBefore_cons] at hsource ⊢
      obtain ⟨placed, others, found, hdrop, hopen, hfound, hgood⟩ := hline.round hgap hsource
      rw [← List.append_assoc] at hsource
      obtain ⟨founds, close, hfounds, hgoods⟩ := ih allTrivia_lineBreak hsource.right
      rw [List.singleton_append] at hfounds
      obtain ⟨hcloser, hstops⟩ := hopens _ hopen
      refine ⟨found :: founds, close, ?_, by simp [hgood, hgoods]⟩
      rw [bodyEntries_eq_of_cons source bodyRules hdrop,
        if_neg (by simpa [atPunct] using hcloser), if_neg (by simp [hstops]), hread, hfound]
      simp only [hfounds, linesBefore_cons]
      rw [Nat.add_assoc, ← widthOf_append, List.append_assoc, List.singleton_append]

/-- Lines up to the mark that closes a body. -/
theorem takes_body {rules : LineRules α} (bodyRules : BodyRules α)
    (hread : bodyRules.entry.read = rules.read source)
    (hopens : ∀ tokens, rules.opens source tokens →
      atPunct bodyRules.closer tokens.head? = false ∧ bodyRules.stops tokens = false)
    {lines : List (List Lexeme)} {entries : List α} (hlines : rules.Lines lines entries)
    (opener : Span) :
    (body source bodyRules opener).Takes source
      (lineBreak :: linesBefore lines [markLexeme bodyRules.closer]) Anything
      fun block => block.unplaced rules.unplaced =
        ⟨nowhere, entries.map rules.unplaced, some nowhere⟩ := by
  intro start rest hsource _
  rw [List.cons_append, linesBefore_append, List.singleton_append] at hsource ⊢
  obtain ⟨founds, close, hfounds, hgoods⟩ :=
    bodyEntries_lines hread hopens hlines allTrivia_lineBreak hsource
  rw [List.singleton_append] at hfounds
  refine ⟨⟨opener, founds, some close⟩, ?_, by simp [Block.unplaced, hgoods]⟩
  rw [body, hfounds]
  rfl

theorem declarations_lines {rules : LineRules Declaration}
    (hread : rules.read source = declaration source) {lines : List (List Lexeme)}
    {entries : List Declaration} (hlines : rules.Lines lines entries) {gap : List Lexeme}
    (hgap : AllTrivia gap) {start : Nat}
    (hsource : Located source start (gap ++ linesBefore lines [])) :
    (declarations source (placeLexemes start (gap ++ linesBefore lines []))).map rules.unplaced =
      entries.map rules.unplaced := by
  induction hlines generalizing gap start with
  | nil =>
      have hdrop : dropTrivia (placeLexemes start (gap ++ [])) = [] :=
        dropTrivia_placeLexemes_append hgap (by simp) start
      rw [linesBefore_nil, declarations, hdrop]
  | @cons line entry lines entries hline _ ih =>
      rw [linesBefore_cons] at hsource ⊢
      obtain ⟨placed, others, found, hdrop, hopen, hfound, hgood⟩ := hline.round hgap hsource
      rw [← List.append_assoc] at hsource
      have hothers := ih allTrivia_lineBreak hsource.right
      rw [declarations_eq_of_cons source hdrop, ← hread, hfound, List.map_cons, List.map_cons,
        hgood, ← hothers]
      rfl

/-- The next lexeme is neither trivia nor the sign of an annotation. -/
def PastNotes (rest : List Lexeme) : Prop :=
  ∀ lexeme ∈ rest.head?, lexeme.token.isTrivia = false ∧ lexeme.token.isPunct .atSign = false

theorem head_linesBefore {lines : List (List Lexeme)} (hlines : ∀ line ∈ lines, Tidy line)
    {rest : List Lexeme} (hrest : ∀ lexeme ∈ rest.head?, lexeme.token.isTrivia = false) :
    ∀ lexeme ∈ (linesBefore lines rest).head?, lexeme.token.isTrivia = false := by
  cases lines with
  | nil => exact hrest
  | cons line lines => exact (hlines line List.mem_cons_self).solid.head_append _

/-- Annotations on lines of their own. -/
theorem annotations_lines {rules : LineRules Annotation}
    (hread : rules.read source = annotationStep source)
    (hopens : ∀ tokens, rules.opens source tokens → atPunct .atSign tokens.head? = true)
    {lines : List (List Lexeme)} {notes : List Annotation} (hlines : rules.Lines lines notes)
    {rest : List Lexeme} (hrest : PastNotes rest) {start : Nat}
    (hsource : Located source start (linesBefore lines rest)) :
    ∃ founds, annotations source (placeLexemes start (linesBefore lines rest)) =
        .ok (founds, placeLexemes (start + widthOf (linesBefore lines [])) rest) ∧
      founds.map rules.unplaced = notes.map rules.unplaced := by
  induction hlines generalizing start with
  | nil =>
      refine ⟨[], ?_, rfl⟩
      have hnext : atPunct .atSign (placeLexemes start rest).head? = false :=
        any_head?_placeLexemes (·.isPunct .atSign) start fun lexeme hlexeme =>
          (hrest lexeme hlexeme).2
      rw [linesBefore_nil, annotations_eq, hnext]
      simp
  | @cons line note lines notes hline hlines ih =>
      rw [linesBefore_cons] at hsource ⊢
      obtain ⟨found, hfound, hgood⟩ := hline.takes source hsource ⟨_, rfl⟩
      have hsign := hopens _ (hline.opens source _ _ hsource ⟨_, rfl⟩)
      have htrivia := head_linesBefore (LineRules.Lines.tidy hlines) fun lexeme hlexeme =>
        (hrest lexeme hlexeme).1
      have hskip : Reader.skipTrivia (placeLexemes (start + widthOf line)
          (lineBreak :: linesBefore lines rest)) =
          .ok ((), placeLexemes (start + widthOf line + widthOf [lineBreak])
            (linesBefore lines rest)) :=
        congrArg (fun tokens => Except.ok ((), tokens))
          (dropTrivia_placeLexemes_append allTrivia_lineBreak htrivia _)
      obtain ⟨founds, hfounds, hgoods⟩ := ih hsource.right.tail
      refine ⟨found :: founds, ?_, by simp [hgood, hgoods]⟩
      rw [annotations_eq, if_pos hsign, Reader.bind_ok (hread ▸ hfound), Reader.bind_ok hskip,
        Reader.bind_ok hfounds]
      simp [Nat.add_assoc]
      rfl

theorem takes_annotations {rules : LineRules Annotation}
    (hread : rules.read source = annotationStep source)
    (hopens : ∀ tokens, rules.opens source tokens → atPunct .atSign tokens.head? = true)
    {lines : List (List Lexeme)} {notes : List Annotation} (hlines : rules.Lines lines notes) :
    Reader.Takes source (annotations source) (linesBefore lines []) PastNotes fun founds =>
      founds.map rules.unplaced = notes.map rules.unplaced := by
  intro start rest hsource hrest
  rw [linesBefore_append, List.nil_append] at hsource ⊢
  exact annotations_lines hread hopens hlines hrest hsource

theorem announcesService_of_note {tokens rest : List PlacedToken} {note : Annotation}
    (hsign : atPunct .atSign tokens.head? = true)
    (hread : annotationStep source tokens = .ok (note, rest))
    (hword : ((dropTrivia rest).head?.any fun placed => placed.token.isKeyword .serviceWord) =
      false) :
    announcesService source tokens = announcesService source (dropTrivia rest) := by
  rw [announcesService, if_pos hsign]
  split
  · rename_i hmismatch
    rw [hread] at hmismatch
    cases hmismatch
  · rename_i hfound
    rw [hread] at hfound
    cases hfound
    rw [hword]
    rfl

/-- Annotations in front of anything but the word `service` do not announce a
service. -/
theorem announcesService_lines {rules : LineRules Annotation}
    (hread : rules.read source = annotationStep source)
    (hopens : ∀ tokens, rules.opens source tokens → atPunct .atSign tokens.head? = true)
    {lines : List (List Lexeme)} {notes : List Annotation} (hlines : rules.Lines lines notes)
    {rest : List Lexeme} (hrest : PastNotes rest)
    (hword : ∀ lexeme ∈ rest.head?, lexeme.token.isKeyword .serviceWord = false) {start : Nat}
    (hsource : Located source start (linesBefore lines rest)) :
    announcesService source (placeLexemes start (linesBefore lines rest)) = false := by
  induction hlines generalizing start with
  | nil =>
      have hnext : atPunct .atSign (placeLexemes start rest).head? = false :=
        any_head?_placeLexemes (·.isPunct .atSign) start fun lexeme hlexeme =>
          (hrest lexeme hlexeme).2
      rw [linesBefore_nil, announcesService, hnext]
      rfl
  | @cons line note lines notes hline hlines ih =>
      rw [linesBefore_cons] at hsource ⊢
      obtain ⟨found, hfound, _⟩ := hline.takes source hsource ⟨_, rfl⟩
      have hsign := hopens _ (hline.opens source _ _ hsource ⟨_, rfl⟩)
      have htrivia := head_linesBefore (LineRules.Lines.tidy hlines) fun lexeme hlexeme =>
        (hrest lexeme hlexeme).1
      have hdrop := dropTrivia_placeLexemes_append allTrivia_lineBreak htrivia
        (start + widthOf line)
      have hnext : ∀ lexeme ∈ (linesBefore lines rest).head?,
          lexeme.token.isKeyword .serviceWord = false := by
        intro lexeme hlexeme
        cases hlines with
        | nil => exact hword lexeme hlexeme
        | cons hnote _ =>
            have hbehind := hsource.right.tail
            rw [linesBefore_cons] at hbehind hlexeme
            have hat := hopens _ (hnote.opens source _ _ hbehind ⟨_, rfl⟩)
            obtain ⟨sign, others, hrow, htoken⟩ := atPunct_head?_placeLexemes hat
            rw [hrow] at hlexeme
            cases hlexeme
            simp [htoken, Token.isKeyword]
      rw [announcesService_of_note hsign (hread ▸ hfound)]
      · rw [← List.singleton_append, hdrop]
        exact ih hsource.right.tail
      · rw [← List.singleton_append, hdrop]
        exact any_head?_placeLexemes (·.isKeyword .serviceWord) _ hnext

end ApiLang
