/-
Sources one behind the other.  Behind any text a source has the tokens and the
tree it has alone, at another place; in front of any text an accepted source that
ends with a line break has the tree it has alone.
-/
import ApiLang.Proofs.Token.Restart
import ApiLang.Proofs.Tree.Accounting
import ApiLang.Proofs.Tree.TransferFiles

namespace ApiLang

/-- The tokens of an accepted source in front of a text that its last token does
not absorb. -/
theorem lexemes_append {text : List Char} (hvalid : AllValid (lexemes text)) {more : List Char}
    (hnext : ∀ last ∈ (lexemes text).getLast?, ∀ c ∈ more.head?, last.token.absorbs c = false) :
    lexemes (text ++ more) = lexemes text ++ lexemes more := by
  have hclean : Clean (lexemes text) := ⟨by rw [textOf_lexemes], hvalid⟩
  have happend := hclean.lexemes_append hnext
  rwa [textOf_lexemes] at happend

theorem tokenize_append {text : List Char} (hvalid : AllValid (lexemes text)) {more : List Char}
    (hnext : ∀ last ∈ (lexemes text).getLast?, ∀ c ∈ more.head?, last.token.absorbs c = false) :
    tokenize (text ++ more) =
      tokenize text ++ (tokenize more).map (PlacedToken.shift (byteWidth text)) := by
  rw [tokenize, lexemes_append hvalid hnext, placeLexemes_append, widthOf, textOf_lexemes,
    placeLexemes_shift]
  rfl

/-- The tokens of a source end where the source does. -/
theorem stop_le_of_mem_tokenize {source : List Char} {placed : PlacedToken}
    (hplaced : placed ∈ tokenize source) :
    placed.span.start ≤ placed.span.stop ∧ placed.span.stop ≤ byteWidth source := by
  obtain ⟨hproper, _⟩ := (tokenize_tiles source).ordered
  have hbounds := hproper placed hplaced
  omega

/-- The tokens of a source, behind some text. -/
def Transfer.behind (before source : List Char) : Transfer where
  source := source
  target := before ++ source
  distance := byteWidth before
  bound := byteWidth source
  size := (tokenize source).length + 1
  rest := []
  targetRest := []
  sameEnd := .input (by rw [byteWidth_append, Nat.add_comm])
  slices span _ := sliceText_append_shift before source span

theorem Transfer.behind_holds (before source : List Char) :
    (Transfer.behind before source).Holds (tokenize source) := by
  refine ⟨fun placed hplaced => ?_, Nat.lt_succ_self _⟩
  have hbounds := stop_le_of_mem_tokenize hplaced
  exact ⟨hbounds.1.trans hbounds.2, hbounds.2⟩

/-- Behind any text a source has the tree it has alone. -/
theorem declarations_behind (before source : List Char) :
    declarations (before ++ source)
        ((tokenize source).map (PlacedToken.shift (byteWidth before))) =
      (treeOf source).declarations.map (Declaration.shift (byteWidth before)) :=
  declarations_shift rfl (Transfer.behind_holds before source)

/-- Behind any text the complaints about a source are those about it alone. -/
theorem diagnostics_behind (before source : List Char) :
    ((treeOf source).declarations.map (Declaration.shift (byteWidth before))).flatMap
        (Declaration.diagnostics (treeOf (before ++ source)).span.stop) =
      (treeOf source).diagnostics.map (Diagnostic.shift (byteWidth before)) := by
  have hend : (treeOf (before ++ source)).span.stop =
      (treeOf source).span.stop + byteWidth before := by
    simp [treeOf, parseTokens, byteWidth_append, Nat.add_comm]
  rw [SourceFile.diagnostics, List.map_flatMap, List.flatMap_map]
  simp only [hend, Declaration.diagnostics_shift]

/-- The tokens that two sources start with, in front of the ends of both lines. -/
def Transfer.inFront (common after other : List Char) {last last' : PlacedToken}
    (others others' : List PlacedToken) (size : Nat) (hlast : endsLine last.token = true)
    (hlast' : endsLine last'.token = true) (hstart : last'.span.start = last.span.start) :
    Transfer where
  source := common ++ after
  target := common ++ other
  distance := 0
  bound := byteWidth common
  size := size
  rest := last :: others
  targetRest := last' :: others'
  sameEnd := .line hlast hlast' hstart
  slices _ hstop := sliceText_append_of_le hstop other after

section InFront

variable {common after other : List Char} {last last' : PlacedToken}
variable {others others' before : List PlacedToken} {hlast : endsLine last.token = true}
variable {hlast' : endsLine last'.token = true} {hstart : last'.span.start = last.span.start}

theorem Transfer.inFront_move (size : Nat) (tokens : List PlacedToken) :
    (Transfer.inFront common after other others others' size hlast hlast' hstart).move tokens =
      tokens ++ last' :: others' :=
  congrArg (· ++ last' :: others') (map_eq_self PlacedToken.shift_zero)

theorem Transfer.inFront_holds
    (hbefore : ∀ placed ∈ before,
      placed.span.start ≤ placed.span.stop ∧ placed.span.stop ≤ byteWidth common) :
    (Transfer.inFront common after other others others' (before.length + 1) hlast hlast'
      hstart).Holds before :=
  ⟨fun placed hplaced => ⟨(hbefore placed hplaced).1.trans (hbefore placed hplaced).2,
    (hbefore placed hplaced).2⟩, Nat.lt_succ_self _⟩

/-- Whole declarations in front of the end of a line are read whatever stands
behind. -/
theorem declarations_inFront {founds : List Declaration} {kept : List PlacedToken}
    (hlast : endsLine last.token = true) (hlast' : endsLine last'.token = true)
    (hstart : last'.span.start = last.span.start)
    (hbefore : ∀ placed ∈ before,
      placed.span.start ≤ placed.span.stop ∧ placed.span.stop ≤ byteWidth common)
    (hreads : ReadsInTurn (common ++ after) (before ++ last :: others) founds
      (kept ++ last :: others))
    (hwhole : ∀ found ∈ founds, found.Whole) (other : List Char) (others' : List PlacedToken) :
    declarations (common ++ other) (before ++ last' :: others') =
      founds ++ declarations (common ++ other) (kept ++ last' :: others') := by
  let t := Transfer.inFront common after other others others' (before.length + 1) hlast hlast'
    hstart
  have hholds : t.Holds before := Transfer.inFront_holds hbefore
  have hinTurn : declarations (common ++ other) (t.move before) =
      founds.map (Declaration.shift 0) ++ declarations (common ++ other) (t.move kept) :=
    declarations_inTurn hholds hreads hwhole
  rwa [Transfer.inFront_move, Transfer.inFront_move, map_eq_self Declaration.shift_zero] at hinTurn

end InFront

/-- The last lexeme of a row is that of its right part. -/
theorem SpellsListed.last_solid {α : Type} {Item : Nat → List Lexeme → α → Prop} {start : Nat}
    {run : List Lexeme} {items : List α} (hlisted : SpellsListed Item start run items) :
    ∃ last ∈ run.getLast?, last.token.isTrivia = false := by
  induction hlisted with
  | @close start gap close _ hclose =>
      exact ⟨close, getLast?_append_right gap rfl, by rw [hclose]; rfl⟩
  | @item start gap run rest _ _ _ _ _ ih =>
      obtain ⟨last, hlast, hsolid⟩ := ih
      exact ⟨last, getLast?_append_right gap (getLast?_append_right run hlast), hsolid⟩

/-- A closed block ends with its closing mark. -/
theorem SpellsBlock.closer_last {α : Type} {Item : Nat → List Lexeme → α → Prop}
    {skip : Skipped → α} {opening closing : Punct} {start : Nat} {run : List Lexeme}
    {block : Block α} (hblock : SpellsBlock Item skip opening closing start run block)
    (hclosed : block.closer.isSome = true) :
    ∃ core close, run = core ++ [close] ∧ close.token = .punct closing ∧
      block.closer = some (spanAt (start + widthOf core) [close]) := by
  cases hblock with
  | @closed opener close run entries _ _ hclose => exact ⟨opener :: run, close, rfl, hclose, rfl⟩
  | unclosed => cases hclosed

theorem SpellsBlock.last_solid {α : Type} {Item : Nat → List Lexeme → α → Prop}
    {skip : Skipped → α} {opening closing : Punct} {start : Nat} {run : List Lexeme}
    {block : Block α} (hblock : SpellsBlock Item skip opening closing start run block)
    (hclosed : block.closer.isSome = true) :
    ∃ last ∈ run.getLast?, last.token.isTrivia = false := by
  obtain ⟨core, close, rfl, hclose, _⟩ := hblock.closer_last hclosed
  exact ⟨close, getLast?_append_right core rfl, by rw [hclose]; rfl⟩

/-- A whole declaration does not end with trivia. -/
theorem SpellsDeclaration.last_solid {start : Nat} {run : List Lexeme} {found : Declaration}
    (hfound : SpellsDeclaration start run found) (hwhole : found.Whole) :
    ∃ last ∈ run.getLast?, last.token.isTrivia = false := by
  cases hfound with
  | @version word equals version gap space text _ _ _ _ hversion =>
      refine ⟨version, ?_, by rw [hversion]; rfl⟩
      exact getLast?_append_right (word :: gap) (getLast?_append_right (equals :: space) rfl)
  | @info word opener gap run entries _ _ _ hentries =>
      obtain ⟨last, hlast, hsolid⟩ := hentries.last_solid
      exact ⟨last, getLast?_append_right (word :: gap) (getLast?_append_right [opener] hlast),
        hsolid⟩
  | @importOne word path gap text _ _ hpath =>
      exact ⟨path, getLast?_append_right (word :: gap) rfl, by rw [hpath]; rfl⟩
  | @imports word opener gap run paths _ _ _ hpaths =>
      obtain ⟨last, hlast, hsolid⟩ := hpaths.last_solid
      exact ⟨last, getLast?_append_right (word :: gap) (getLast?_append_right [opener] hlast),
        hsolid⟩
  | @struct word gap run struct _ _ hstruct =>
      obtain @⟨name, text, space, run, body, _, _, hbody⟩ := hstruct
      obtain ⟨last, hlast, hsolid⟩ := hbody.last_solid hwhole.2
      exact ⟨last, getLast?_append_right (word :: gap)
        (getLast?_append_right (name :: space) hlast), hsolid⟩
  | @types word gap run block _ _ hblock =>
      obtain ⟨last, hlast, hsolid⟩ := hblock.last_solid hwhole.2
      exact ⟨last, getLast?_append_right (word :: gap) hlast, hsolid⟩
  | service hservice =>
      obtain @⟨notesRun, gap, nameTail, space, run, word, first,
        _, _, _, _, _, _, _, _, _, hbody⟩ := hservice
      obtain ⟨last, hlast, hsolid⟩ := hbody.last_solid hwhole.2
      exact ⟨last, getLast?_append_right notesRun (getLast?_append_right (word :: gap)
        (getLast?_append_right (first :: nameTail) (getLast?_append_right space hlast))), hsolid⟩

/-- Behind a whole declaration the trivia that a source ends with is left. -/
theorem declaration_leaves {source : List Char} {tokens middle : List PlacedToken}
    {found : Declaration} (htokens : tokens <:+ tokenize source)
    (hlast : ∀ last ∈ tokens.getLast?, last.token.isTrivia = true)
    (hread : declaration source tokens = .ok (found, middle)) (hwhole : found.Whole) :
    middle ≠ [] := by
  rintro rfl
  obtain ⟨before, row, hrow, hplace⟩ := placeLexemes_suffix htokens
  have hsource := (hrow ▸ located_lexemes source).right
  subst hplace
  obtain ⟨run, left, rfl, hrest, hfound⟩ := declaration_spells hsource hread
  have hleft : left = [] := by
    rw [← List.length_eq_zero_iff, ← length_placeLexemes, ← hrest]
    rfl
  obtain ⟨last, hmem, hsolid⟩ := hfound.last_solid hwhole
  rw [hleft, List.append_nil] at hlast
  obtain ⟨placed, hplaced, htoken⟩ := getLast?_placeLexemes _ hmem
  rw [← htoken, hlast placed hplaced] at hsolid
  cases hsolid

/-- Behind whole declarations the trivia that a source ends with is left. -/
theorem ReadsInTurn.left_ne_nil {source : List Char} {founds : List Declaration}
    {tokens left : List PlacedToken} (hreads : ReadsInTurn source tokens founds left)
    (htokens : tokens <:+ tokenize source) (hne : tokens ≠ [])
    (hlast : ∀ last ∈ (tokenize source).getLast?, last.token.isTrivia = true)
    (hwhole : ∀ found ∈ founds, found.Whole) : left ≠ [] := by
  induction founds generalizing tokens with
  | nil =>
      rw [show left = tokens from hreads]
      exact hne
  | cons found others ih =>
      obtain ⟨placed, rest, middle, hdrop, hread, hothers⟩ := hreads
      have hall : placed :: rest <:+ tokenize source :=
        (hdrop ▸ dropTrivia_suffix tokens).trans htokens
      have hlastAll : ∀ last ∈ (placed :: rest).getLast?, last.token.isTrivia = true := by
        obtain ⟨before, hbefore⟩ := hall
        intro last hmem
        exact hlast last (hbefore ▸ getLast?_append_right before hmem)
      have hmiddle := declaration_leaves hall hlastAll hread (hwhole found List.mem_cons_self)
      exact ih hothers (((declaration_keeps source _).1 _ _ hread).trans hall) hmiddle
        fun other hother => hwhole other (List.mem_cons_of_mem found hother)

theorem dropTrivia_of_declarations_eq_nil {source : List Char} {tokens : List PlacedToken}
    (hnone : declarations source tokens = []) : dropTrivia tokens = [] := by
  cases hdrop : dropTrivia tokens with
  | nil => rfl
  | cons placed rest =>
      rw [declarations_eq_of_cons source hdrop] at hnone
      split at hnone <;> cases hnone

theorem dropTrivia_append_of_eq_nil {left : List PlacedToken} (hleft : dropTrivia left = [])
    (right : List PlacedToken) : dropTrivia (left ++ right) = dropTrivia right := by
  rw [dropTrivia] at hleft
  rw [dropTrivia, List.dropWhile_append, hleft]
  rfl

theorem EndsWithBreak.cases {source : List Char} (hbreak : EndsWithBreak source) :
    source = [] ∨ ∃ before last, tokenize source = before ++ [last] ∧ last.token = .newline := by
  rcases hbreak with hempty | ⟨last, hlast, htoken⟩
  · exact .inl hempty
  · obtain ⟨before, hsplit⟩ := List.getLast?_eq_some_iff.mp hlast
    exact .inr ⟨before, last, hsplit, htoken⟩

/-- The last lexeme of a source that ends with a line break absorbs nothing. -/
theorem EndsWithBreak.not_absorbs {source : List Char} (hbreak : EndsWithBreak source)
    {last : Lexeme} (hlast : last ∈ (lexemes source).getLast?) (c : Char) :
    last.token.absorbs c = false := by
  obtain ⟨placed, hplaced, htoken⟩ := getLast?_placeLexemes 0 hlast
  rcases hbreak.cases with rfl | ⟨before, final, hsplit, hfinal⟩
  · rw [lexemes_eq_nil_iff.mpr rfl] at hlast
    cases hlast
  · have hplaced' : placed ∈ (tokenize source).getLast? := hplaced
    rw [hsplit, List.getLast?_concat] at hplaced'
    cases hplaced'
    rw [← htoken, hfinal]
    rfl

/-- In front of any text, an accepted source that ends with a line break has the
tokens it has alone. -/
theorem tokenize_append_of_break {source : List Char} (haccepted : Accepted source)
    (hbreak : EndsWithBreak source) (more : List Char) :
    tokenize (source ++ more) =
      tokenize source ++ (tokenize more).map (PlacedToken.shift (byteWidth source)) :=
  tokenize_append ((accepted_iff source).mp haccepted).1
    fun _ hlast c _ => hbreak.not_absorbs hlast c

/-- In front of any text, an accepted source that ends with a line break has the
tree it has alone, and behind it the text has the tree that it has alone. -/
theorem declarations_append {source : List Char} (haccepted : Accepted source)
    (hbreak : EndsWithBreak source) (more : List Char) :
    (treeOf (source ++ more)).declarations =
      (treeOf source).declarations ++
        (treeOf more).declarations.map (Declaration.shift (byteWidth source)) := by
  have htokens := tokenize_append_of_break haccepted hbreak more
  have hwhole := ((accepted_iff source).mp haccepted).2
  rcases hbreak.cases with rfl | ⟨before, last, hsplit, hnewline⟩
  · have hempty : (treeOf []).declarations = [] :=
      declarations_of_nil [] (by rw [tokenize, lexemes_eq_nil_iff.mpr rfl]; rfl)
    rw [hempty]
    exact (map_eq_self Declaration.shift_zero).symm
  · have htrivia : last.token.isTrivia = true := by rw [hnewline]; rfl
    have hends : endsLine last.token = true := by rw [hnewline]; rfl
    have hall : declarations source (tokenize source) = (treeOf source).declarations ++ [] :=
      (List.append_nil _).symm
    obtain ⟨left, hreads, hnone⟩ := exists_readsInTurn hall hwhole
    have hleft : left ≠ [] := by
      refine hreads.left_ne_nil List.suffix_rfl ?_ ?_ hwhole
      · rw [hsplit]
        exact List.append_ne_nil_of_right_ne_nil before (List.cons_ne_nil last [])
      · rw [hsplit, List.getLast?_concat]
        rintro _ ⟨⟩
        exact htrivia
    have hsuffix := hreads.suffix
    rw [hsplit] at hsuffix hreads htokens
    obtain hnil | ⟨kept, rfl, _⟩ := List.suffix_concat_iff.mp hsuffix
    · exact absurd hnil hleft
    · have hbefore : ∀ placed ∈ before, placed ∈ tokenize source := fun placed hplaced =>
        hsplit ▸ List.mem_append_left [last] hplaced
      have hreadsAll : ReadsInTurn (source ++ []) (before ++ [last]) (treeOf source).declarations
          (kept ++ [last]) := by rwa [List.append_nil]
      have hinFront := declarations_inFront hends hends rfl
        (fun placed hplaced => stop_le_of_mem_tokenize (hbefore placed hplaced)) hreadsAll hwhole
        more ((tokenize more).map (PlacedToken.shift (byteWidth source)))
      have hgap := dropTrivia_append_of_eq_nil (dropTrivia_of_declarations_eq_nil hnone)
        ((tokenize more).map (PlacedToken.shift (byteWidth source)))
      rw [List.append_assoc, List.singleton_append] at hgap htokens
      rw [declarations_congr _ hgap, declarations_behind] at hinFront
      rw [treeOf, parseTokens, htokens]
      exact hinFront

/-- The complaints about a whole file do not depend on where it ends. -/
theorem diagnostics_eq_nil {source : List Char} (haccepted : Accepted source) (sourceEnd : Nat) :
    (treeOf source).declarations.flatMap (Declaration.diagnostics sourceEnd) = [] := by
  obtain ⟨hvalid, hwhole⟩ := (accepted_iff source).mp haccepted
  refine (SpellsEntries.diagnostics_eq_nil_iff (parseTokens_spells source) hvalid ?_ (fun _ => rfl)
    fun _ => id).mpr hwhole
  exact fun _ _ _ hpiece hfound => hfound.diagnostics_eq_nil_iff hpiece sourceEnd

end ApiLang
