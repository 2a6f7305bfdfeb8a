/-
Reading names and types again.  A clean row that spells a type is laid out as a
row that is read as the same type, up to places.
-/
import ApiLang.Proofs.Tree.Lines

namespace ApiLang

variable {source : List Char}

theorem extendName_tail {tail : List Lexeme} (htail : NameTail tail) {rest : List Lexeme}
    (hrest : ∀ lexeme ∈ rest.head?, lexeme.token.isPunct .dot = false) (start : Nat)
    (taken : List Lexeme) :
    extendName (spanAt start taken) (placeLexemes (start + widthOf taken) (tail ++ rest)) =
      (spanAt start (taken ++ tail), placeLexemes (start + widthOf (taken ++ tail)) rest) := by
  induction htail generalizing taken with
  | nil =>
      match rest with
      | [] => simp [extendName]
      | [lexeme] => simp [extendName]
      | dot :: part :: more => simp [extendName, hrest dot rfl]
  | cons hdot hpart _ ih =>
      rw [List.cons_append, List.cons_append, extendName_step start taken _ hdot hpart, ih]
      simp

theorem exists_text_of_isIdentifier {token : Token} (htoken : isIdentifier token = true) :
    ∃ text, token = .identifier text := by
  cases token with
  | identifier text => exact ⟨text, rfl⟩
  | _ => cases htoken

/-- The next lexeme is not a dot, which would go on with a name. -/
def EndsName (rest : List Lexeme) : Prop :=
  ∀ lexeme ∈ rest.head?, lexeme.token.isPunct .dot = false

theorem takes_qualifiedName {place : Nat} {run : List Lexeme} {name : Spanned String}
    (hname : SpellsName place run name) :
    (qualifiedName source).Takes source run EndsName fun found => found.val = name.val := by
  obtain @⟨first, tail, hfirst, htail⟩ := hname
  intro start rest hsource hrest
  obtain ⟨text, htoken⟩ := exists_text_of_isIdentifier hfirst
  refine ⟨nameAt start (first :: tail), ?_, rfl⟩
  have hidentifier : Reader.identifier .typeName (placeLexemes start (first :: (tail ++ rest))) =
      .ok (⟨text, spanAt start [first]⟩, placeLexemes (start + widthOf [first]) (tail ++ rest)) :=
    Reader.expect_eq (by simp [htoken]) _
  rw [List.cons_append, qualifiedName, Reader.bind_ok hidentifier, restOfName,
    extendName_tail htail hrest, nameAt, ← hsource.sliceText]
  rfl

theorem NameTail.last_identifier {tail : List Lexeme} (htail : NameTail tail) {first : Lexeme}
    (hfirst : isIdentifier first.token = true) :
    ∃ last ∈ (first :: tail).getLast?, isIdentifier last.token = true := by
  induction htail generalizing first with
  | nil => exact ⟨first, rfl, hfirst⟩
  | cons _ hpart _ ih =>
      obtain ⟨last, hlast, hidentifier⟩ := ih hpart
      exact ⟨last, by simpa using hlast, hidentifier⟩

theorem not_isTrivia_of_isIdentifier {token : Token} (htoken : isIdentifier token = true) :
    token.isTrivia = false := by
  obtain ⟨text, rfl⟩ := exists_text_of_isIdentifier htoken
  rfl

theorem SpellsName.tidy {start : Nat} {run : List Lexeme} {name : Spanned String}
    (hname : SpellsName start run name) (hclean : Clean run) : Tidy run := by
  obtain ⟨hfirst, htail⟩ := hname
  obtain ⟨last, hlast, hidentifier⟩ := htail.last_identifier hfirst
  exact ⟨hclean, ⟨_, rfl, not_isTrivia_of_isIdentifier hfirst⟩, last, hlast,
    not_isTrivia_of_isIdentifier hidentifier⟩

theorem SpellsName.textOf_eq {start : Nat} {run : List Lexeme} {name : Spanned String}
    (hname : SpellsName start run name) : textOf run = name.val.toList := by
  obtain ⟨_, _⟩ := hname
  simp [nameAt]

/-- What may follow a type: trivia, or the mark that closes what it stands in. -/
def EndsType (rest : List Lexeme) : Prop :=
  ∀ lexeme ∈ rest.head?, lexeme.token.isTrivia = true ∨
    lexeme.token = .punct .rightBracket ∨ lexeme.token = .punct .rightParen

theorem EndsType.not_isPunct {rest : List Lexeme} (hrest : EndsType rest) {mark : Punct}
    (hbracket : mark ≠ .rightBracket) (hparen : mark ≠ .rightParen) :
    ∀ lexeme ∈ rest.head?, lexeme.token.isPunct mark = false := by
  intro lexeme hlexeme
  rcases hrest lexeme hlexeme with htrivia | htoken | htoken
  · cases htoken : lexeme.token <;> simp_all [Token.isPunct, Token.isTrivia]
  · simp [htoken, Token.isPunct, hbracket.symm]
  · simp [htoken, Token.isPunct, hparen.symm]

/-- A row that prints a type and is read as that type again. -/
structure TypeRow (row : List Lexeme) (type : TypeExpr) : Prop where
  text : textOf row = type.print
  tidy : Tidy row
  plain : ∀ first ∈ row.head?, endsLine first.token = false
  takes : ∀ source, (typeExpr source).Takes source row EndsType fun found =>
    found.unplaced = type.unplaced

theorem takes_typeName {place : Nat} {run : List Lexeme} {name : Spanned String}
    (hname : SpellsName place run name) :
    (typeExpr source).Takes source run EndsType fun found =>
      found.unplaced = (TypeExpr.named name).unplaced := by
  intro start rest hsource hrest
  obtain ⟨found, hread, hgood⟩ := takes_qualifiedName hname hsource (hrest.not_isPunct
    (by decide) (by decide))
  refine ⟨.named found, ?_, by simp [TypeExpr.unplaced, Spanned.unplaced, hgood]⟩
  obtain @⟨first, tail, hfirst, htail⟩ := hname
  obtain ⟨text, htoken⟩ := exists_text_of_isIdentifier hfirst
  have hnext : ∀ mark, mark ≠ .rightBracket → mark ≠ .rightParen → mark ≠ .dot →
      atPunct mark (placeLexemes (start + widthOf [first]) (tail ++ rest)).head? = false := by
    intro mark hbracket hparen hdot
    apply any_head?_placeLexemes (·.isPunct mark)
    cases htail with
    | nil => exact hrest.not_isPunct hbracket hparen
    | cons hmark _ _ =>
        rintro lexeme ⟨⟩
        simp [hmark, Token.isPunct, hdot.symm]
  rw [List.cons_append, placeLexemes_cons] at hread ⊢
  rw [typeExpr_eq]
  simp only [htoken, hnext .leftBracket (by decide) (by decide) (by decide),
    hnext .leftBrace (by decide) (by decide) (by decide)]
  rw [htoken] at hread
  rw [if_neg (by simp), if_neg (by simp)]
  exact Reader.bind_ok hread

theorem takes_bracketedSize_none :
    bracketedSize.Takes source [markLexeme .rightBracket] Anything (· = none) := by
  refine Reader.takes_optional_none.bind (fun size hsize => ?_) ?_
  · exact (Reader.takes_punct rfl).pure fun _ _ => hsize
  · rintro rest _ lexeme ⟨⟩ span
    rfl

theorem takes_bracketedSize_some {number : Lexeme} {digits : String}
    (hnumber : number.token = .number digits) :
    bracketedSize.Takes source [number, markLexeme .rightBracket] Anything fun size =>
      size.map Spanned.unplaced = some ⟨digits, nowhere⟩ := by
  refine Reader.Takes.next (Reader.takes_optional_some fun span => ?_)
    fun size (hsize : size.map Spanned.unplaced = some ⟨digits, nowhere⟩) =>
      (Reader.takes_punct rfl).pure fun _ _ => hsize
  exact ⟨⟨digits, span⟩, by simp [hnumber], rfl⟩

theorem takes_emptyBraces :
    emptyBraces.Takes source [markLexeme .leftBrace, markLexeme .rightBrace] Anything
      fun _ => True := by
  refine (Reader.takes_punct rfl).next fun _ _ =>
    Reader.takes_skipInline_nil.bind (fun _ _ => Reader.takes_punct rfl) ?_
  rintro rest _ lexeme ⟨⟩
  rfl

namespace TypeRow

variable {row : List Lexeme}

theorem pointer {inner : TypeExpr} (hrow : TypeRow row inner) (span : Span) :
    TypeRow (markLexeme .star :: row) (.pointer inner span) where
  text := congrArg ('*' :: ·) hrow.text
  tidy := hrow.tidy.opened _ (by decide)
  plain := by
    rintro first ⟨⟩
    rfl
  takes source := by
    refine .behind [markLexeme .star] (fun start => do
      let inner ← typeExpr source
      pure (.pointer inner ((spanAt start [markLexeme .star]).union inner.span))) ?_ ?_
    · intro start more
      rw [List.singleton_append, placeLexemes_cons, typeExpr_eq]
      rfl
    · intro start
      refine (hrow.takes source).pure fun found hfound => ?_
      simp only [TypeExpr.unplaced, hfound]

/-- A slice or an array, by what stands in its brackets. -/
theorem bracketed {element : TypeExpr} (hrow : TypeRow row element) (span : Span)
    {sizeRow : List Lexeme} {size : Option (Spanned String)}
    (htext : textOf sizeRow = (size.elim [] fun size => size.val.toList) ++ [']'])
    (htidy : Tidy (sizeRow ++ row))
    (hsize : ∀ source, bracketedSize.Takes source sizeRow Anything fun found =>
      found.map Spanned.unplaced = size.map Spanned.unplaced) :
    TypeRow (markLexeme .leftBracket :: (sizeRow ++ row)) (.slice size element span) where
  text := by
    simp [htext, hrow.text, TypeExpr.print, Punct.char]
  tidy := htidy.opened _ (by decide)
  plain := by
    rintro first ⟨⟩
    rfl
  takes source := by
    refine .behind [markLexeme .leftBracket] (fun start => do
      let size ← bracketedSize
      let element ← typeExpr source
      pure (.slice size element ((spanAt start [markLexeme .leftBracket]).union element.span)))
      ?_ ?_
    · intro start more
      rw [List.singleton_append, placeLexemes_cons, typeExpr_eq]
      rfl
    · intro start
      refine (hsize source).next fun found hfound => (hrow.takes source).pure fun other hother => ?_
      simp only [TypeExpr.unplaced, hfound, hother]

theorem map {keyRow : List Lexeme} {key value : TypeExpr} (hkey : TypeRow keyRow key)
    (hvalue : TypeRow row value) (span : Span) {word : Lexeme}
    (hword : word.token = .identifier "map") (hclean : Clean [word]) :
    TypeRow (word :: markLexeme .leftBracket :: (keyRow ++ markLexeme .rightBracket :: row))
      (.map key value span) where
  text := by
    have hmap : word.text = "map".toList := hclean.text_eq List.mem_cons_self (by rw [hword]; rfl)
    simp [hmap, hkey.text, hvalue.text, TypeExpr.print, Punct.char]
  tidy := by
    have hinside := hkey.tidy.touch (hvalue.tidy.opened .rightBracket (by decide)) rfl
      (by decide)
    exact (Tidy.single hclean (by simp [hword, Token.isTrivia])).touch
      (hinside.opened .leftBracket (by decide)) rfl (by decide)
  plain := by
    rintro first ⟨⟩
    simp [hword, endsLine]
  takes source := by
    refine .behind [word, markLexeme .leftBracket] (fun start => do
      let key ← typeExpr source
      let _ ← Reader.punct .rightBracket .rightBracket
      let value ← typeExpr source
      pure (.map key value ((spanAt start [word]).union value.span))) ?_ ?_
    · intro start more
      have hnext : atPunct .leftBracket (placeLexemes (start + widthOf [word])
          (markLexeme .leftBracket :: more)).head? = true := rfl
      rw [List.cons_append, List.singleton_append, placeLexemes_cons, typeExpr_eq]
      simp only [hword]
      rw [if_pos ⟨trivial, hnext⟩, placeLexemes_cons, List.tail_cons, Nat.add_assoc,
        ← widthOf_append]
      rfl
    · intro start
      refine (hkey.takes source).bind (fun found hfound => ?_) fun rest _ => ?_
      · refine (Reader.takes_punct rfl).next fun _ _ =>
          (hvalue.takes source).pure fun other hother => ?_
        simp only [TypeExpr.unplaced, hfound, hother]
      · rintro lexeme ⟨⟩
        exact .inr (.inl rfl)

theorem interface (span : Span) {word : Lexeme} (hword : word.token = .identifier "interface")
    (hclean : Clean [word]) :
    TypeRow [word, markLexeme .leftBrace, markLexeme .rightBrace] (.interface span) where
  text := by
    rw [textOf_cons, hclean.text_eq List.mem_cons_self (by rw [hword]; rfl)]
    rfl
  tidy := by
    have hbraces := (Tidy.mark .rightBrace).opened .leftBrace (by decide)
    exact (Tidy.single hclean (by simp [hword, Token.isTrivia])).touch hbraces rfl (by decide)
  plain := by
    rintro first ⟨⟩
    simp [hword, endsLine]
  takes source := by
    intro start rest hsource _
    obtain ⟨close, hbraces, _⟩ := takes_emptyBraces hsource.tail trivial
    refine ⟨.interface ((spanAt start [word]).union close), ?_, rfl⟩
    rw [List.cons_append, placeLexemes_cons, typeExpr_eq]
    simp only [hword]
    rw [if_neg (fun hmap => absurd hmap.1 (by decide)), if_pos ⟨trivial, rfl⟩,
      Reader.bind_ok hbraces, Nat.add_assoc, ← widthOf_append]
    rfl

end TypeRow

/-- A type is laid out without the trivia in it. -/
theorem SpellsType.row {start : Nat} {run : List Lexeme} {type : TypeExpr}
    (htype : SpellsType start run type) (hclean : Clean run) : ∃ row, TypeRow row type := by
  induction htype with
  | @named start run name hname =>
      refine ⟨run, hname.textOf_eq, hname.tidy hclean, ?_, fun source => takes_typeName hname⟩
      obtain ⟨hfirst, _⟩ := hname
      rintro first ⟨⟩
      obtain ⟨text, htoken⟩ := exists_text_of_isIdentifier hfirst
      simp [htoken, endsLine]
  | pointer _ _ ih =>
      obtain ⟨row, hrow⟩ := ih hclean.tail
      exact ⟨_, hrow.pointer _⟩
  | slice _ _ _ ih =>
      obtain ⟨row, hrow⟩ := ih hclean.tail.tail
      refine ⟨_, hrow.bracketed _ rfl (hrow.tidy.opened .rightBracket (by decide)) fun source =>
        takes_bracketedSize_none.imp (fun _ => id) ?_⟩
      rintro _ rfl
      rfl
  | @array start opener number close digits run element _ hnumber _ _ ih =>
      obtain ⟨row, hrow⟩ := ih hclean.tail.tail.tail
      have hnumberClean : Clean [number] := hclean.of_mem (by simp)
      have htext : number.text = digits.toList :=
        hnumberClean.text_eq List.mem_cons_self (by rw [hnumber]; rfl)
      have htidy := (Tidy.single hnumberClean (by simp [hnumber, Token.isTrivia])).touch
        (hrow.tidy.opened .rightBracket (by decide)) rfl (by decide)
      exact ⟨_, hrow.bracketed _ (by rw [textOf_cons, htext]; rfl) htidy fun source =>
        takes_bracketedSize_some hnumber⟩
  | @map start word opener close keyRun run key value hword _ _ _ _ ihKey ih =>
      have hinside : Clean (keyRun ++ close :: run) := hclean.tail.tail
      obtain ⟨keyRow, hkey⟩ := ihKey hinside.left
      obtain ⟨row, hvalue⟩ := ih hinside.right.tail
      exact ⟨_, hkey.map hvalue _ hword (hclean.of_mem List.mem_cons_self)⟩
  | @interface start word opener close gap hword _ _ _ =>
      exact ⟨_, .interface _ hword (hclean.of_mem List.mem_cons_self)⟩

end ApiLang
