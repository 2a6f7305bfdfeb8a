/-
A missing brace.  The last declaration of an accepted source loses the brace that
closes it, and another accepted source follows: reading notices the loss once, at
the brace that is never closed, and loses nothing else.
-/
import ApiLang.Proofs.Tree.LostMark
import ApiLang.Proofs.Tree.Recovery

namespace ApiLang

variable {α : Type}

/-- The source with a line break in place of the span, and one more at its end. -/
def breakAt (source : List Char) (span : Span) : List Char :=
  (takeBytes source span.start).getD [] ++
    '\n' :: ((dropBytes source span.stop).getD [] ++ ['\n'])

/-- No token absorbs a line break. -/
theorem Token.absorbs_newline (token : Token) : token.absorbs '\n' = false := by
  cases token with
  | punct mark => cases mark <;> rfl
  | _ => rfl

theorem breakAt_textOf (row behind : List Lexeme) (lexeme : Lexeme) :
    breakAt (textOf (row ++ lexeme :: behind)) (spanAt (widthOf row) [lexeme]) =
      textOf (row ++ lineBreak :: (behind ++ [lineBreak])) := by
  have htake : takeBytes (textOf (row ++ lexeme :: behind)) (widthOf row) = some (textOf row) := by
    rw [textOf_append]
    exact takeBytes_append _ _
  have hdrop : dropBytes (textOf (row ++ lexeme :: behind)) (widthOf row + widthOf [lexeme]) =
      some (textOf behind) := by
    rw [← widthOf_append, List.append_cons, textOf_append]
    exact dropBytes_append _ _
  rw [breakAt, spanAt, htake, hdrop]
  simp

/-- The lexemes around a line break do not run into each other. -/
theorem clean_breakAt {row behind : List Lexeme} {lexeme : Lexeme}
    (hclean : Clean (row ++ lexeme :: behind)) :
    Clean (row ++ lineBreak :: (behind ++ [lineBreak])) := by
  have hlexeme : Clean ([lexeme] ++ behind) := hclean.right
  have hnewline : ∀ (last : Lexeme) (rest : List Char), ∀ c ∈ ('\n' :: rest).head?,
      last.token.absorbs c = false := by
    rintro last rest _ ⟨⟩
    exact last.token.absorbs_newline
  have hend : Clean (behind ++ [lineBreak]) :=
    hlexeme.right.append clean_lineBreak fun last _ => hnewline last []
  have hbreak : Clean ([lineBreak] ++ (behind ++ [lineBreak])) := by
    refine clean_lineBreak.append hend ?_
    rintro _ ⟨⟩ c _
    rfl
  exact hclean.left.append hbreak fun last _ => hnewline last _

section BreakAt

variable {source : List Char} {row behind : List Lexeme} {lexeme : Lexeme}

theorem breakAt_eq (hlexemes : lexemes source = row ++ lexeme :: behind) :
    breakAt source (spanAt (widthOf row) [lexeme]) =
      textOf (row ++ lineBreak :: (behind ++ [lineBreak])) := by
  rw [← breakAt_textOf, ← hlexemes, textOf_lexemes]

theorem clean_of_lexemes (hlexemes : lexemes source = row ++ lexeme :: behind)
    (hvalid : AllValid (lexemes source)) : Clean (row ++ lexeme :: behind) := by
  rw [← hlexemes]
  exact ⟨by rw [textOf_lexemes], hvalid⟩

theorem lexemes_breakAt (hlexemes : lexemes source = row ++ lexeme :: behind)
    (hvalid : AllValid (lexemes source)) :
    lexemes (breakAt source (spanAt (widthOf row) [lexeme])) =
      row ++ lineBreak :: (behind ++ [lineBreak]) := by
  rw [breakAt_eq hlexemes, (clean_breakAt (clean_of_lexemes hlexemes hvalid)).read]

theorem allValid_breakAt (hlexemes : lexemes source = row ++ lexeme :: behind)
    (hvalid : AllValid (lexemes source)) :
    AllValid (lexemes (breakAt source (spanAt (widthOf row) [lexeme]))) := by
  rw [lexemes_breakAt hlexemes hvalid]
  exact (clean_breakAt (clean_of_lexemes hlexemes hvalid)).valid

/-- The tokens of the text without the brace, with another text behind it. -/
theorem tokenize_breakAt_append (hlexemes : lexemes source = row ++ lexeme :: behind)
    (hvalid : AllValid (lexemes source)) (next : List Char) :
    tokenize (breakAt source (spanAt (widthOf row) [lexeme]) ++ next) =
      placeLexemes 0 (row ++ lineBreak :: (behind ++ [lineBreak])) ++
        (tokenize next).map
          (PlacedToken.shift (byteWidth (breakAt source (spanAt (widthOf row) [lexeme])))) := by
  rw [tokenize_append (allValid_breakAt hlexemes hvalid), tokenize, lexemes_breakAt hlexemes hvalid]
  have hlast : (row ++ lineBreak :: (behind ++ [lineBreak])).getLast? = some lineBreak := by
    rw [← List.cons_append, ← List.append_assoc, List.getLast?_concat]
  rw [lexemes_breakAt hlexemes hvalid, hlast]
  rintro _ ⟨⟩ c _
  rfl

/-- A mark of a source is written as its one character. -/
theorem sliceText_of_lexemes {mark : Punct} (hlexemes : lexemes source = row ++ lexeme :: behind)
    (hvalid : AllValid (lexemes source)) (htoken : lexeme.token = .punct mark) :
    sliceText source (spanAt (widthOf row) [lexeme]) = mark.char.toString := by
  have hlocated := (hlexemes ▸ located_lexemes source).right
  have hmem : lexeme ∈ row ++ lexeme :: behind := by simp
  have htext : lexeme.text = [mark.char] :=
    (clean_of_lexemes hlexemes hvalid).text_eq hmem (by rw [htoken]; rfl)
  rw [← List.singleton_append, Nat.zero_add] at hlocated
  rw [hlocated.sliceText, textOf_cons, htext]
  rfl

end BreakAt

/-- A declaration in braces ends with the brace that closes it. -/
theorem SpellsDeclaration.closingBrace_last {start : Nat} {run : List Lexeme} {found : Declaration}
    (hfound : SpellsDeclaration start run found) (hbraces : found.WholeInBraces) :
    ∃ core close, run = core ++ [close] ∧ close.token = .punct .rightBrace ∧
      found.closingBrace? = some (spanAt (start + widthOf core) [close]) := by
  obtain ⟨hwhole, hopener⟩ := hbraces
  cases hfound with
  | version | info | importOne | imports | types => cases hopener
  | @struct word gap run struct _ _ hstruct =>
      obtain @⟨name, text, space, run, body, _, _, hbody⟩ := hstruct
      obtain ⟨core, close, rfl, hclose, hcloser⟩ := hbody.closer_last hwhole.2
      refine ⟨word :: (gap ++ name :: (space ++ core)), close, by simp, hclose, ?_⟩
      rw [Declaration.closingBrace?, hcloser]
      simp only [widthOf_cons, widthOf_append, Nat.add_assoc]
  | service hservice =>
      obtain @⟨notesRun, gap, nameTail, space, run, word, first,
        _, _, _, _, _, _, _, _, _, hbody⟩ := hservice
      obtain ⟨core, close, rfl, hclose, hcloser⟩ := hbody.closer_last hwhole.2
      refine ⟨notesRun ++ word :: (gap ++ first :: (nameTail ++ (space ++ core))), close, by simp,
        hclose, ?_⟩
      rw [Declaration.closingBrace?, hcloser]
      simp only [widthOf_cons, widthOf_append, Nat.add_assoc]

/-- Nothing but trivia is left exactly of a row of trivia. -/
theorem dropTrivia_placeLexemes_eq_nil_iff (start : Nat) (row : List Lexeme) :
    dropTrivia (placeLexemes start row) = [] ↔ AllTrivia row := by
  rw [dropTrivia, List.dropWhile_eq_nil_iff]
  induction row generalizing start with
  | nil => simp [AllTrivia]
  | cons lexeme others ih =>
      rw [placeLexemes_cons, List.forall_mem_cons, ih, AllTrivia, AllTrivia, List.forall_mem_cons]

/-- A source of whole declarations: the last one is read behind the others, its
closing brace stands among the lexemes, and nothing but trivia stands behind it. -/
structure EndsInBrace (source : List Char) (init : List Declaration) (last : Declaration)
    (row : List Lexeme) (close : Lexeme) (behind : List Lexeme) : Prop where
  valid : AllValid (lexemes source)
  split : lexemes source = row ++ close :: behind
  token : close.token = .punct .rightBrace
  trivia : AllTrivia behind
  whole : ∀ found ∈ init, found.Whole
  lastWhole : last.WholeInBraces
  closer : last.closingBrace? = some (spanAt (widthOf row) [close])
  reads : ∃ left placed rest,
    ReadsInTurn source (tokenize source) init left ∧ dropTrivia left = placed :: rest ∧
      declaration source (placed :: rest) =
        .ok (last, placeLexemes (widthOf row + widthOf [close]) behind)

theorem exists_endsInBrace {source : List Char} {init : List Declaration} {last : Declaration}
    (haccepted : Accepted source) (hitems : (treeOf source).declarations = init ++ [last])
    (hbraces : last.openingBrace?.isSome = true) :
    ∃ row close behind, EndsInBrace source init last row close behind := by
  obtain ⟨hvalid, hall⟩ := (accepted_iff source).mp haccepted
  have hwhole : ∀ found ∈ init ++ [last], found.Whole := hitems ▸ hall
  rw [List.forall_mem_append, List.forall_mem_singleton] at hwhole
  obtain ⟨left, hreads, hlast⟩ := exists_readsInTurn hitems hwhole.1
  obtain ⟨_, ⟨placed, rest, middle, hdrop, hread, rfl⟩, hnone⟩ :=
    exists_readsInTurn (show declarations source left = [last] ++ [] from hlast)
      (List.forall_mem_singleton.mpr hwhole.2)
  have htokens : placed :: rest <:+ tokenize source :=
    (hdrop ▸ dropTrivia_suffix left).trans hreads.suffix
  obtain ⟨before, inner, hsplit, hplace⟩ := placeLexemes_suffix htokens
  rw [hplace] at hread
  obtain ⟨run, behind, rfl, rfl, hfound⟩ :=
    declaration_spells (hsplit ▸ located_lexemes source).right hread
  obtain ⟨core, close, rfl, hclose, hcloser⟩ := hfound.closingBrace_last ⟨hwhole.2, hbraces⟩
  refine ⟨before ++ core, close, behind, ?_⟩
  constructor
  case valid => exact hvalid
  case split => simp [hsplit]
  case token => exact hclose
  case trivia =>
    exact (dropTrivia_placeLexemes_eq_nil_iff _ _).mp (dropTrivia_of_declarations_eq_nil hnone)
  case whole => exact hwhole.1
  case lastWhole => exact ⟨hwhole.2, hbraces⟩
  case closer => rw [hcloser, widthOf_append, Nat.zero_add]
  case reads =>
    refine ⟨left, placed, rest, hreads, hdrop, ?_⟩
    rw [hplace, hread]
    simp only [widthOf_append, Nat.zero_add, Nat.add_assoc]

/-- The row in front of a mark that ends its line, and in front of a line break in
its place. -/
def Transfer.broken (row behind : List Lexeme) (close : Lexeme)
    (hclose : endsLine close.token = true) (next : List Char) (others : List PlacedToken) :
    Transfer :=
  @Transfer.inFront (textOf row) (textOf (close :: behind))
    (textOf (lineBreak :: (behind ++ [lineBreak])) ++ next)
    ⟨close.token, spanAt (widthOf row) [close]⟩ ⟨.newline, spanAt (widthOf row) [lineBreak]⟩
    (placeLexemes (widthOf row + widthOf [close]) behind)
    (placeLexemes (widthOf row + widthOf [lineBreak]) (behind ++ [lineBreak]) ++ others)
    ((placeLexemes 0 row).length + 1) hclose rfl rfl

section Broken

variable (row behind : List Lexeme) (close : Lexeme) (hclose : endsLine close.token = true)
variable (next : List Char) (others : List PlacedToken)

theorem Transfer.broken_rest :
    (Transfer.broken row behind close hclose next others).rest =
      placeLexemes (widthOf row) (close :: behind) := by
  rw [placeLexemes_cons]
  rfl

theorem Transfer.broken_targetRest :
    (Transfer.broken row behind close hclose next others).targetRest =
      placeLexemes (widthOf row) (lineBreak :: (behind ++ [lineBreak])) ++ others := by
  rw [placeLexemes_cons]
  rfl

theorem Transfer.broken_move (tokens : List PlacedToken) :
    (Transfer.broken row behind close hclose next others).move tokens =
      tokens ++ (Transfer.broken row behind close hclose next others).targetRest :=
  Transfer.inFront_move _ tokens

theorem Transfer.broken_holds :
    (Transfer.broken row behind close hclose next others).Holds (placeLexemes 0 row) := by
  refine Transfer.inFront_holds fun placed hplaced => ?_
  obtain ⟨earlier, lexeme, later, rfl, _, hspan⟩ := mem_placeLexemes hplaced
  rw [hspan, textOf_append, textOf_cons, byteWidth_append, byteWidth_append]
  dsimp only
  omega

end Broken

/-- Without its brace, and with a source behind it that has declarations, a source
keeps its declarations, and its last one starts where it did. -/
theorem declarations_breakAt {source next : List Char} {init : List Declaration}
    {last : Declaration} {row behind : List Lexeme} {close : Lexeme}
    (hend : EndsInBrace source init last row close behind) (hnext : Accepted next)
    (hsome : (treeOf next).declarations ≠ []) :
    let broken := breakAt source (spanAt (widthOf row) [close])
    (treeOf (broken ++ next)).declarations =
        init ++ last.unclosed ::
          (treeOf next).declarations.map (Declaration.shift (byteWidth broken)) ∧
      last.unclosed.span.start = last.span.start := by
  intro broken
  have hlexemes := hend.split
  obtain ⟨left, placed, rest, hreads, hdrop, hread⟩ := hend.reads
  have hends : endsLine close.token = true := by rw [hend.token]; rfl
  let moved := (tokenize next).map (PlacedToken.shift (byteWidth broken))
  let t := Transfer.broken row behind close hends next moved
  have hsource : t.source = source := by
    rw [← textOf_lexemes source, hlexemes, textOf_append]
    rfl
  have htarget : t.target = broken ++ next := by
    rw [show broken = _ from breakAt_eq hlexemes, textOf_append, List.append_assoc]
    rfl
  have htokens : tokenize source = placeLexemes 0 row ++ t.rest := by
    rw [Transfer.broken_rest, tokenize, hlexemes, placeLexemes_append, Nat.zero_add]
  have htokens' : tokenize (broken ++ next) = t.move (placeLexemes 0 row) := by
    rw [Transfer.broken_move, Transfer.broken_targetRest, tokenize_breakAt_append hlexemes hend.valid,
      placeLexemes_append, Nat.zero_add, List.append_assoc]
  have hgap : AllTrivia (lineBreak :: (behind ++ [lineBreak])) := by
    rw [AllTrivia, List.forall_mem_cons, List.forall_mem_append]
    exact ⟨rfl, hend.trivia, allTrivia_lineBreak⟩
  -- Nothing but trivia stands where the brace was, so the open body ends where the next
  -- source starts.
  have hstops : bodyEntries t.target (structRules t.target) t.targetRest =
        ([], none, dropTrivia moved) ∧
      bodyEntries t.target (serviceRules t.target) t.targetRest =
        ([], none, dropTrivia moved) := by
    rw [htarget, Transfer.broken_targetRest]
    exact bodyEntries_behind hnext hsome ((dropTrivia_placeLexemes_eq_nil_iff _ _).mpr hgap)
  have hlastSource : declaration t.source (placed :: rest) = .ok (last, t.rest.tail) := by
    rw [hsource]
    exact hread
  have hreadsSource : ReadsInTurn t.source (placeLexemes 0 row ++ t.rest) init left := by
    rwa [hsource, ← htokens]
  obtain ⟨hall, more, hmore, hlastTarget⟩ := declarations_losesMark (List.cons_ne_nil _ _)
    hstops.1 hstops.2 (Transfer.broken_holds row behind close hends next moved) hreadsSource
    hend.whole hdrop hlastSource hend.lastWhole
  rw [show t.distance = 0 from rfl, Declaration.shift_zero] at hall hlastTarget
  constructor
  · rw [map_eq_self Declaration.shift_zero, htarget, ← htokens',
      declarations_congr _ (dropTrivia_dropTrivia moved), declarations_behind] at hall
    exact hall
  -- With and without its brace the declaration starts with the same token.
  · have hsuffix : placed :: rest <:+ tokenize source :=
      (hdrop ▸ dropTrivia_suffix left).trans hreads.suffix
    obtain ⟨earlier, hearlier⟩ := hmore
    have hsuffix' : placed :: (more ++ t.targetRest) <:+ tokenize (broken ++ next) :=
      ⟨earlier, by rw [htokens', Transfer.broken_move, ← hearlier, List.append_assoc]; rfl⟩
    rw [Transfer.broken_move, htarget] at hlastTarget
    rw [declaration_start hsuffix hread]
    exact declaration_start hsuffix' hlastTarget

theorem Block.diagnostics_unclosed {ofEntry : α → List Diagnostic} {opening closing : Punct}
    {block : Block α} (hnone : block.diagnostics ofEntry opening closing = []) :
    block.unclosed.diagnostics ofEntry opening closing =
      [unclosedDiagnostic block.opener opening closing] := by
  rw [Block.diagnostics, List.append_eq_nil_iff] at hnone
  rw [Block.diagnostics, show block.unclosed.entries = block.entries from rfl, hnone.1]
  rfl

/-- A declaration about which there is no complaint, without its brace: the one
complaint is about the brace that opens it. -/
theorem Declaration.diagnostics_unclosed {sourceEnd : Nat} {found : Declaration} {opener : Span}
    (hnone : found.diagnostics sourceEnd = []) (hopener : found.openingBrace? = some opener) :
    found.unclosed.diagnostics sourceEnd = [unclosedDiagnostic opener .leftBrace .rightBrace] := by
  cases found with
  | version | info | imports | skipped => cases hopener
  | types keyword body =>
      cases body with
      | group block => cases hopener
      | single struct =>
          cases hopener
          exact Block.diagnostics_unclosed hnone
  | service block =>
      cases hopener
      exact Block.diagnostics_unclosed hnone

/-- The last declaration of an accepted source is a service, or a struct that
stands alone.  Its closing brace becomes a line break, one more line break ends the
text, and an accepted source with declarations follows.  The one complaint is then
about the brace that opens the declaration; all declarations of both sources are
found, and nothing but the end of that one has changed. -/
theorem missing_brace {source next : List Char} {init : List Declaration} {last : Declaration}
    {opener : Span} (haccepted : Accepted source)
    (hitems : (treeOf source).declarations = init ++ [last])
    (hopener : last.openingBrace? = some opener) (hnext : Accepted next)
    (hsome : (treeOf next).declarations ≠ []) :
    ∃ closer, last.closingBrace? = some closer ∧ sliceText source closer = "\x7d" ∧
      let broken := breakAt source closer
      tokenDiagnostics (tokenize (broken ++ next)) = [] ∧
        (treeOf (broken ++ next)).diagnostics =
          [unclosedDiagnostic opener .leftBrace .rightBrace] ∧
        (treeOf (broken ++ next)).declarations =
          init ++ last.unclosed ::
            (treeOf next).declarations.map (Declaration.shift (byteWidth broken)) ∧
        last.unclosed.span.start = last.span.start := by
  obtain ⟨row, close, behind, hend⟩ :=
    exists_endsInBrace haccepted hitems (by rw [hopener]; rfl)
  obtain ⟨hall, hstart⟩ := declarations_breakAt hend hnext hsome
  refine ⟨_, hend.closer, sliceText_of_lexemes hend.split hend.valid hend.token, ?_, ?_, hall,
    hstart⟩
  · have hnone := (tokenDiagnostics_eq_nil_iff _).mpr
      ((allValid_iff 0 _).mp (allValid_breakAt hend.split hend.valid))
    rw [lexemes_breakAt hend.split hend.valid] at hnone
    rw [tokenize_breakAt_append hend.split hend.valid, tokenDiagnostics_append, hnone,
      List.nil_append, tokenDiagnostics_shift, hnext.1]
    rfl
  · have hinit : ∀ sourceEnd, init.flatMap (Declaration.diagnostics sourceEnd) = [] ∧
        last.diagnostics sourceEnd = [] := by
      intro sourceEnd
      have hnone := diagnostics_eq_nil haccepted sourceEnd
      rw [hitems, List.flatMap_append, List.append_eq_nil_iff, List.flatMap_singleton] at hnone
      exact hnone
    rw [SourceFile.diagnostics, hall, List.flatMap_append, (hinit _).1, List.nil_append,
      List.flatMap_cons, Declaration.diagnostics_unclosed (hinit _).2 hopener, diagnostics_behind,
      hnext.2]
    rfl

/-- A service loses its brace in front of the annotations of the next one. -/
theorem missing_brace_annotatedService :
    let source := ("type A \x7b\n  id int\n\x7d\n@server ( group: a )\nservice s \x7b\n" ++
      "  @handler h\n  get /a (A)\n\x7d // end").toList
    let next := ("@server ( group: b )\n@doc \"d\"\nservice t \x7b\n  @handler k\n" ++
      "  get /b returns (A)\n\x7d\n").toList
    ∃ first last, Accepted source ∧ (treeOf source).declarations = [first] ++ [last] ∧
      last.openingBrace? = some ⟨51, 52⟩ ∧ Accepted next ∧ (treeOf next).declarations ≠ [] ∧
      ∃ closer, last.closingBrace? = some closer ∧ sliceText source closer = "\x7d" ∧
        let broken := breakAt source closer
        tokenDiagnostics (tokenize (broken ++ next)) = [] ∧
          (treeOf (broken ++ next)).diagnostics =
            [unclosedDiagnostic ⟨51, 52⟩ .leftBrace .rightBrace] ∧
          (treeOf (broken ++ next)).declarations =
            [first] ++ last.unclosed ::
              (treeOf next).declarations.map (Declaration.shift (byteWidth broken)) ∧
          last.unclosed.span.start = last.span.start := by
  intro source next
  have haccepted : Accepted source := by decide +kernel
  have hnext : Accepted next := by decide +kernel
  have hopeners : (treeOf source).declarations.map Declaration.openingBrace? =
      [some ⟨7, 8⟩, some ⟨51, 52⟩] := by decide +kernel
  have hsome : (treeOf next).declarations ≠ [] := by
    rw [← List.length_pos_iff]
    decide +kernel
  obtain ⟨first, _, hitems, _, hothers⟩ := List.map_eq_cons_iff.mp hopeners
  obtain ⟨last, _, rfl, hlast, hnone⟩ := List.map_eq_cons_iff.mp hothers
  obtain rfl := List.map_eq_nil_iff.mp hnone
  exact ⟨first, last, haccepted, hitems, hlast, hnext, hsome,
    missing_brace haccepted hitems hlast hnext hsome⟩

end ApiLang
