/-
Printing and reading again.  The canonical layout of a tree that was read
without complaint is read without complaint, and as the same tree up to places.
-/
import ApiLang.Proofs.Tree.RereadingServices

namespace ApiLang

variable {source : List Char}

/-- Declarations on lines of their own. -/
def declarationLines : LineRules Declaration where
  read := declaration
  unplaced := Declaration.unplaced
  print := Declaration.print
  opens _ _ := True

theorem declaration_eq_service {tokens : List PlacedToken}
    (hservice : atService tokens.head? = true) :
    declaration source tokens =
      (do let found ← service source
          pure (.service found) : Reader Declaration) tokens := by
  have hpeek : Reader.peek tokens = .ok (tokens.head?, tokens) := rfl
  rw [declaration, Reader.bind_ok hpeek, if_pos hservice]

theorem declaration_eq_plain {tokens : List PlacedToken}
    (hservice : atService tokens.head? = false) :
    declaration source tokens =
      (do let (word, start) ← Reader.expect .declaration plainKeyword
          restOfDeclaration source word start : Reader Declaration) tokens := by
  have hpeek : Reader.peek tokens = .ok (tokens.head?, tokens) := rfl
  rw [declaration, Reader.bind_ok hpeek, if_neg (by simp [hservice])]

theorem takes_plainDeclaration {lexeme : Lexeme} {word : Keyword}
    (htoken : lexeme.token = .keyword word) (hservice : word ≠ .serviceWord)
    (hreturns : word ≠ .returnsWord) {row : List Lexeme} {follow : List Lexeme → Prop}
    {good : Declaration → Prop}
    (htakes : ∀ start, (restOfDeclaration source word start).Takes source row follow good) :
    (declaration source).Takes source (lexeme :: row) follow good := by
  intro start rest hsource hrest
  have hkeyword : Reader.expect .declaration plainKeyword
      (placeLexemes start (lexeme :: (row ++ rest))) =
        .ok ((word, spanAt start [lexeme]),
          placeLexemes (start + widthOf [lexeme]) (row ++ rest)) :=
    Reader.expect_eq (by simp [plainKeyword, htoken, hservice, hreturns]) _
  have hplain : atService (placeLexemes start (lexeme :: (row ++ rest))).head? = false := by
    simp [atService, htoken, Token.isKeyword, Token.isPunct, hservice]
  obtain ⟨found, hread, hgood⟩ := htakes (spanAt start [lexeme]) hsource.tail hrest
  refine ⟨found, ?_, hgood⟩
  rw [Nat.add_assoc, ← widthOf_append] at hread
  rw [List.cons_append, declaration_eq_plain hplain, Reader.bind_ok hkeyword]
  exact hread

/-- A declaration behind a keyword that takes no annotations. -/
theorem plainLine {lexeme : Lexeme} {word : Keyword} (htoken : lexeme.token = .keyword word)
    (hservice : word ≠ .serviceWord) (hreturns : word ≠ .returnsWord) (hclean : Clean [lexeme])
    {row : List Lexeme} {found : Declaration}
    (htext : found.print = word.print ++ ' ' :: textOf row) (htidy : Tidy row)
    (htakes : ∀ source start, (restOfDeclaration source word start).Takes source (space :: row)
      AtBreak fun other => other.unplaced = found.unplaced) :
    declarationLines.Line (lexeme :: space :: row) found := by
  have hwritten : lexeme.text = word.print :=
    hclean.text_eq List.mem_cons_self (by rw [htoken]; rfl)
  refine ⟨?_, (Tidy.single hclean (by simp [htoken, Token.isTrivia])).spaced htidy,
    fun _ _ _ _ _ => trivial,
    fun source => takes_plainDeclaration htoken hservice hreturns (htakes source)⟩
  simp [declarationLines, htext, hwritten]

/-- Paths of imports on lines of their own. -/
def pathLines : LineRules (Spanned String) where
  read _ := importPath.read
  unplaced := Spanned.unplaced
  print path := quote path.val
  opens _ tokens := atPunct .rightParen tokens.head? = false

theorem stringLexeme_text {lexeme : Lexeme} {text : String} (htoken : lexeme.token = .string text)
    (hclean : Clean [lexeme]) : lexeme.text = quote text :=
  hclean.text_eq List.mem_cons_self (by rw [htoken]; rfl)

theorem pathLine {lexeme : Lexeme} {text : String} (htoken : lexeme.token = .string text)
    (hclean : Clean [lexeme]) (span : Span) : pathLines.Line [lexeme] ⟨text, span⟩ := by
  refine ⟨?_, .single hclean (by simp [htoken, Token.isTrivia]), ?_, fun source => ?_⟩
  · simp [pathLines, stringLexeme_text htoken hclean]
  · intro source start rest _ _
    simp [pathLines, atPunct, htoken, Token.isPunct]
  · refine (Reader.takes_stringLiteral htoken).imp (fun _ _ => trivial) fun found hfound => ?_
    simp [pathLines, Spanned.unplaced, hfound]

theorem SpellsImportPath.line {start : Nat} {run : List Lexeme} {path : Spanned String}
    (hpath : SpellsImportPath start run path) (hclean : Clean run) :
    ∃ line, pathLines.Line line path := by
  obtain ⟨hlexeme⟩ := hpath
  exact ⟨_, pathLine hlexeme hclean _⟩

/-- A string behind the word `syntax` and an equals sign. -/
theorem takes_versionDecl {version : Lexeme} {text : String}
    (hversion : version.token = .string text) (start : Span) :
    (versionDecl start).Takes source [space, markLexeme .equals, space, version] Anything
      fun found => found.unplaced = .version ⟨text, nowhere⟩ nowhere := by
  refine Reader.takes_skipTrivia_space.bind (fun _ _ => ?_) ?_
  · refine (Reader.takes_punct rfl).next fun _ _ => ?_
    refine Reader.takes_skipTrivia_space.bind (fun _ _ => ?_) ?_
    · refine (Reader.takes_stringLiteral hversion).pure fun found hfound => ?_
      simp [Declaration.unplaced, Spanned.unplaced, hfound]
    · rintro rest _ lexeme ⟨⟩
      simp [hversion, Token.isTrivia]
  · rintro rest _ lexeme ⟨⟩
    rfl

theorem takes_infoDecl {lines : List (List Lexeme)} {entries : List KeyValue}
    (hlines : keyValueLines.Lines lines entries) (start : Span) :
    (infoDecl source start).Takes source (space :: groupRow .leftParen .rightParen lines) Anything
      fun found => found.unplaced = .info (entries.map KeyValue.unplaced) nowhere := by
  refine Reader.takes_skipTrivia_space.bind (fun _ _ => ?_) ?_
  · refine (Reader.takes_punct rfl).next fun _ _ => ?_
    have hlisted : (keyValues source).Takes source
        (lineBreak :: linesBefore lines [markLexeme .rightParen]) Anything fun found =>
          found.1.map KeyValue.unplaced = entries.map KeyValue.unplaced :=
      takes_untilRightParen rfl (fun _ => id) hlines allTrivia_lineBreak
    refine hlisted.pure fun found hfound => ?_
    simp [Declaration.unplaced, hfound]
  · rintro rest _ lexeme ⟨⟩
    rfl

theorem takes_importDecl {lines : List (List Lexeme)} {paths : List (Spanned String)}
    (hlines : pathLines.Lines lines paths) (start : Span) :
    (importDecl start).Takes source (space :: groupRow .leftParen .rightParen lines) Anything
      fun found => found.unplaced = .imports (paths.map Spanned.unplaced) nowhere := by
  refine Reader.takes_skipTrivia_space.bind (fun _ _ => ?_) ?_
  · refine (Reader.takes_eatPunct_some rfl).next fun opener hopener => ?_
    cases opener with
    | none => cases hopener
    | some opener =>
        have hlisted : Reader.Takes source (untilRightParen importPath)
            (lineBreak :: linesBefore lines [markLexeme .rightParen]) Anything fun found =>
              found.1.map Spanned.unplaced = paths.map Spanned.unplaced :=
          takes_untilRightParen rfl (fun _ => id) hlines allTrivia_lineBreak
        refine hlisted.pure fun found hfound => ?_
        simp [Declaration.unplaced, hfound]
  · rintro rest _ lexeme ⟨⟩
    rfl

theorem takes_typeDecl {lines : List (List Lexeme)} {entries : List TypeEntry}
    (hlines : typeEntryLines.Lines lines entries) (start : Span) :
    (typeDecl source start).Takes source (space :: groupRow .leftParen .rightParen lines) Anything
      fun found => found.unplaced =
        .types nowhere (.group ⟨nowhere, entries.map TypeEntry.unplaced, some nowhere⟩) := by
  refine Reader.takes_skipTrivia_space.bind (fun _ _ => ?_) ?_
  · refine (Reader.takes_eatPunct_some rfl).next fun opener hopener => ?_
    cases opener with
    | none => cases hopener
    | some opener =>
        refine (takes_body (typeGroupRules source) rfl (fun _ => id) hlines opener).pure
          fun block hblock => ?_
        exact congrArg (fun block => Declaration.types nowhere (.group block)) hblock
  · rintro rest _ lexeme ⟨⟩
    rfl

theorem importsLine {word : Lexeme} (hword : word.token = .keyword .importWord)
    (hclean : Clean [word]) {lines : List (List Lexeme)} {paths : List (Spanned String)}
    (hlines : pathLines.Lines lines paths) (span : Span) :
    declarationLines.Line (word :: space :: groupRow .leftParen .rightParen lines)
      (.imports paths span) := by
  refine plainLine hword (by decide) (by decide) hclean ?_ (hlines.tidy_groupRow _ _)
    fun source start => (takes_importDecl hlines start).imp (fun _ _ => trivial) fun _ => id
  simp [Declaration.print, printGroup, hlines.textOf_groupRow, pathLines, Punct.char]

theorem typesLine {word : Lexeme} (hword : word.token = .keyword .typeWord) (hclean : Clean [word])
    {lines : List (List Lexeme)} {body : TypeBody}
    (hlines : typeEntryLines.Lines lines body.entries)
    (hunplaced : body.unplaced =
      .group ⟨nowhere, body.entries.map TypeEntry.unplaced, some nowhere⟩) (span : Span) :
    declarationLines.Line (word :: space :: groupRow .leftParen .rightParen lines)
      (.types span body) := by
  refine plainLine hword (by decide) (by decide) hclean ?_ (hlines.tidy_groupRow _ _)
    fun source start =>
      (takes_typeDecl hlines start).imp (fun _ _ => trivial) fun found hfound => ?_
  · simp [Declaration.print, printGroup, hlines.textOf_groupRow, typeEntryLines, Punct.char]
  · rw [hfound, Declaration.unplaced, hunplaced]

theorem atService_head {noteRows : List (List Lexeme)} {notes : List Annotation}
    (hnotes : noteLines.Lines noteRows notes) {word : Lexeme}
    (hword : word.token = .keyword .serviceWord) (row : List Lexeme) (start : Nat) :
    atService (placeLexemes start (linesBefore noteRows (word :: row))).head? = true := by
  have hhead := head_notes hnotes word row
  cases hrow : linesBefore noteRows (word :: row) with
  | nil => cases hnotes <;> simp at hrow
  | cons first others =>
      rw [hrow] at hhead
      rcases hhead first rfl with hsign | rfl
      · simp [atService, hsign, Token.isPunct]
      · simp [atService, hword, Token.isKeyword]

theorem SpellsService.line {start : Nat} {run : List Lexeme} {service : Service}
    (hservice : SpellsService start run service) (hclean : Clean run)
    (hwhole : service.body.Whole ServiceEntry.Whole) :
    ∃ line, declarationLines.Line line (.service service) := by
  obtain @⟨notesRun, gap, nameTail, middle, run, word, first, notes, body, hnotes, hfull, hword, _,
    hfirst, hname, _, hbody⟩ := hservice
  have hwordClean : Clean [word] := hclean.of_mem (by simp)
  have hbehind : Clean (first :: (nameTail ++ (middle ++ run))) := hclean.right.tail.right
  have hnameClean : Clean (first :: nameTail) := by
    rw [← List.cons_append] at hbehind
    exact hbehind.left
  obtain ⟨noteRows, hnoteRows⟩ := hnotes.lines hclean.left hfull
  obtain ⟨lines, hlines⟩ := hbody.lines serviceEntryLines
    (fun {_ _ _} hentry hclean _ => by obtain ⟨hroute⟩ := hentry; exact hroute.line hclean)
    (fun _ => id) hbehind.tail.right.right hwhole
  have hwordText : word.text = Keyword.serviceWord.print :=
    hwordClean.text_eq List.mem_cons_self (by rw [hword]; rfl)
  obtain ⟨text, htext⟩ := Option.isSome_iff_exists.mp hfirst
  have hnameTidy : Tidy (first :: nameTail) :=
    tidy_run not_isTrivia_of_continuesServiceName (written?_of_word? htext).2 hname hnameClean
  have htidy : Tidy (word :: space :: (first :: nameTail ++
      space :: groupRow .leftBrace .rightBrace lines)) :=
    (Tidy.single hwordClean (by simp [hword, Token.isTrivia])).spaced
      (hnameTidy.spaced (hlines.tidy_groupRow _ _))
  refine ⟨linesBefore noteRows (word :: space :: (first :: nameTail ++
    space :: groupRow .leftBrace .rightBrace lines)), ?_, htidy.linesBefore hnoteRows.tidy,
    fun _ _ _ _ _ => trivial, fun source start rest hsource hrest => ?_⟩
  · rw [hnoteRows.textOf_linesBefore]
    simp [declarationLines, Declaration.print, Service.print, printBody, noteLines, nameAt,
      hwordText, hlines.textOf_groupRow, serviceEntryLines, Punct.char]
  · obtain ⟨found, hread, hfound⟩ :=
      takes_service hnoteRows hword hfirst hname hlines hsource trivial
    refine ⟨.service found, ?_, ?_⟩
    · rw [linesBefore_append, List.cons_append] at hread ⊢
      exact (declaration_eq_service (atService_head hnoteRows hword _ _)).trans
        (Reader.bind_ok hread)
    · refine congrArg Declaration.service (hfound.trans ?_)
      rw [Service.unplaced, Block.unplaced_of_whole hwhole]
      rfl

theorem SpellsDeclaration.line {start : Nat} {run : List Lexeme} {found : Declaration}
    (hfound : SpellsDeclaration start run found) (hclean : Clean run) (hwhole : found.Whole) :
    ∃ line, declarationLines.Line line found := by
  cases hfound with
  | @version word equals version gap middle text hword _ _ _ hversion =>
      have hversionClean : Clean [version] := hclean.of_mem (by simp)
      have htidy : Tidy [version] := .single hversionClean (by simp [hversion, Token.isTrivia])
      refine ⟨_, plainLine hword (by decide) (by decide) (hclean.of_mem List.mem_cons_self) ?_
        ((Tidy.mark .equals).spaced htidy) fun source start =>
          (takes_versionDecl hversion start).imp (fun _ _ => trivial) fun _ => id⟩
      simp [Declaration.print, stringLexeme_text hversion hversionClean, Punct.char]
  | @info word opener gap run entries hword _ _ hentries =>
      obtain ⟨lines, hlines⟩ := hentries.lines keyValueLines SpellsKeyValue.line
        hclean.tail.right.tail
      refine ⟨_, plainLine hword (by decide) (by decide) (hclean.of_mem List.mem_cons_self) ?_
        (hlines.tidy_groupRow .leftParen .rightParen) fun source start =>
          (takes_infoDecl hlines start).imp (fun _ _ => trivial) fun _ => id⟩
      simp [Declaration.print, printGroup, hlines.textOf_groupRow, keyValueLines, Punct.char]
  | @importOne word path gap text hword _ hpath =>
      have hline := pathLine hpath (hclean.of_mem (by simp)) (spanAt (start + widthOf (word :: gap))
        [path])
      exact ⟨_, importsLine hword (hclean.of_mem List.mem_cons_self) (.cons hline .nil) _⟩
  | @imports word opener gap run paths hword _ _ hpaths =>
      obtain ⟨lines, hlines⟩ := hpaths.lines pathLines SpellsImportPath.line hclean.tail.right.tail
      exact ⟨_, importsLine hword (hclean.of_mem List.mem_cons_self) hlines _⟩
  | @struct word gap run struct hword _ hstruct =>
      obtain ⟨line, hline⟩ := hstruct.line hclean.tail.right hwhole
      have hlines : typeEntryLines.Lines [line] (TypeBody.single struct).entries :=
        .cons hline .nil
      exact ⟨_, typesLine hword (hclean.of_mem List.mem_cons_self) hlines rfl _⟩
  | @types word gap run block hword _ hblock =>
      obtain ⟨lines, hlines⟩ := hblock.lines typeEntryLines SpellsTypeEntry.line (fun _ => id)
        hclean.tail.right hwhole
      refine ⟨_, typesLine hword (hclean.of_mem List.mem_cons_self) hlines ?_ _⟩
      exact congrArg TypeBody.group (Block.unplaced_of_whole hwhole _)
  | service hservice => exact hservice.line hclean hwhole

theorem Block.whole_unplaced {α : Type} {entryWhole : α → Prop} {unplacedEntry : α → α}
    (hentry : ∀ entry, entryWhole (unplacedEntry entry) ↔ entryWhole entry) (block : Block α) :
    (block.unplaced unplacedEntry).Whole entryWhole ↔ block.Whole entryWhole := by
  simp [Block.Whole, Block.unplaced, hentry]

theorem Member.whole_unplaced (line : Member) : line.unplaced.Whole ↔ line.Whole := by
  cases line <;> rfl

theorem StructDef.whole_unplaced (struct : StructDef) : struct.unplaced.Whole ↔ struct.Whole :=
  Block.whole_unplaced Member.whole_unplaced struct.body

theorem TypeEntry.whole_unplaced (entry : TypeEntry) : entry.unplaced.Whole ↔ entry.Whole := by
  cases entry with
  | struct definition => exact definition.whole_unplaced
  | skipped input => rfl

theorem ServiceEntry.whole_unplaced (entry : ServiceEntry) :
    entry.unplaced.Whole ↔ entry.Whole := by
  cases entry <;> rfl

theorem TypeBody.whole_unplaced (body : TypeBody) : body.unplaced.Whole ↔ body.Whole := by
  cases body with
  | single struct =>
      have hstruct := struct.whole_unplaced
      simp only [TypeBody.unplaced, TypeBody.Whole, Block.Whole, List.forall_mem_singleton,
        TypeEntry.Whole, hstruct, Option.isSome_some, and_true]
  | group block => exact Block.whole_unplaced TypeEntry.whole_unplaced block

theorem Declaration.whole_unplaced (found : Declaration) :
    found.unplaced.Whole ↔ found.Whole := by
  cases found with
  | version | info | imports | skipped => rfl
  | types keyword body => exact body.whole_unplaced
  | service block => exact Block.whole_unplaced ServiceEntry.whole_unplaced block.body

/-- Whether a tree is whole does not depend on places. -/
theorem SourceFile.whole_unplaced (file : SourceFile) : file.unplaced.Whole ↔ file.Whole := by
  simp [SourceFile.Whole, SourceFile.unplaced, Declaration.whole_unplaced]

/-- A whole file without invalid tokens, in the canonical layout. -/
theorem SpellsFile.lines {run : List Lexeme} {file : SourceFile} (hfile : SpellsFile run file)
    (hclean : Clean run) (hwhole : file.Whole) :
    ∃ lines, declarationLines.Lines lines file.declarations :=
  SpellsEntries.lines declarationLines SpellsDeclaration.line (fun _ => id) hfile hclean hwhole

/-- The tree of an accepted source, printed in the canonical layout, is accepted and
read as the same tree again, up to the places of its pieces. -/
theorem parse_print (source : List Char) (haccepted : Accepted source) :
    Accepted (treeOf source).print ∧
      (treeOf (treeOf source).print).unplaced = (treeOf source).unplaced := by
  obtain ⟨hvalid, hwhole⟩ := (accepted_iff source).mp haccepted
  have hclean : Clean (lexemes source) := ⟨by rw [textOf_lexemes], hvalid⟩
  obtain ⟨lines, hlines⟩ := (parseTokens_spells source).lines hclean hwhole
  have htext : textOf (linesBefore lines []) = (treeOf source).print := by
    rw [hlines.textOf_linesBefore, textOf_nil, List.append_nil]
    rfl
  have hprinted := clean_lines hlines.tidy
  have hlexemes : lexemes (treeOf source).print = linesBefore lines [] := by
    rw [← htext, hprinted.read]
  have htree : (treeOf (treeOf source).print).unplaced = (treeOf source).unplaced := by
    have hlocated : Located (treeOf source).print 0 ([] ++ linesBefore lines []) :=
      ⟨[], htext.symm, rfl⟩
    have hread := declarations_lines rfl hlines (by simp [AllTrivia]) hlocated
    rw [List.nil_append, ← hlexemes] at hread
    exact congrArg (SourceFile.mk · nowhere) hread
  refine ⟨(accepted_iff _).mpr ⟨?_, ?_⟩, htree⟩
  · rw [hlexemes]
    exact hprinted.valid
  · rw [← SourceFile.whole_unplaced, htree, SourceFile.whole_unplaced]
    exact hwhole

/-- A source with blanks and a comment in unusual places. -/
def spacedService : List Char :=
  "type A struct \x7b *B /* c */ \x7d\n@a ( k : v ) service s \x7b@b\n@c d\nget /e ( A )\x7d".toList

theorem parse_print_spacedService :
    Accepted spacedService ∧ Accepted (treeOf spacedService).print ∧
      (treeOf (treeOf spacedService).print).unplaced = (treeOf spacedService).unplaced := by
  have haccepted : Accepted spacedService := by decide +kernel
  exact ⟨haccepted, parse_print spacedService haccepted⟩

end ApiLang
