/-
Readers whose input lacks a closing mark.  What is closed in the source by the
first token behind a stretch is read in the target without that mark, up to where
the next declaration starts.
-/
import ApiLang.Proofs.Tree.Concatenation
import ApiLang.Proofs.Tree.RoundTrip

namespace ApiLang

variable {α β : Type} {t : Transfer} {left : List PlacedToken} {count : Nat}

/-- The block without its closing mark. -/
def Block.unclosed (block : Block α) : Block α :=
  { block with closer := none }

def StructDef.unclosed (struct : StructDef) : StructDef :=
  { struct with body := struct.body.unclosed }

def Service.unclosed (service : Service) : Service :=
  { service with body := service.body.unclosed }

/-- A service, or a struct that stands alone, without the brace that closes it. -/
def Declaration.unclosed : Declaration → Declaration
  | .types keyword (.single struct) => .types keyword (.single struct.unclosed)
  | .service block => .service block.unclosed
  | found => found

/-- The brace that opens a service, or a struct that stands alone. -/
def Declaration.openingBrace? : Declaration → Option Span
  | .types _ (.single struct) => some struct.body.opener
  | .service block => some block.body.opener
  | _ => none

/-- The brace that closes a service, or a struct that stands alone. -/
def Declaration.closingBrace? : Declaration → Option Span
  | .types _ (.single struct) => struct.body.closer
  | .service block => block.body.closer
  | _ => none

/-- A good result is closed by the first token behind the stretch in the source,
where it takes `count` tokens or more; in the target it is not closed, and `left`
is left. -/
structure Reader.LosesMark (t : Transfer) (left : List PlacedToken) (count : Nat)
    (good : α → Prop) (f : α → α) (reader reader' : Reader α) : Prop where
  keeps : reader.Keeps
  takes : ∀ ⦃tokens rest : List PlacedToken⦄ ⦃a : α⦄, reader tokens = .ok (a, rest) → good a →
    rest.length + count ≤ tokens.length
  reads : ∀ ⦃before : List PlacedToken⦄ ⦃a : α⦄, t.Holds before →
    reader (before ++ t.rest) = .ok (a, t.rest.tail) → good a →
    reader' (t.move before) = .ok (f a, left)

namespace Reader

/-- Steps in a row.  A strict first step needs more than one token behind it. -/
theorem LosesMark.bind_of {f : α → α} {g : β → β} {good : β → Prop} {first first' : Reader α}
    {next next' : α → Reader β} {strict : Bool} {total : Nat}
    (hfirst : first.Transfers t strict f first')
    (hnext : ∀ a, (next a).LosesMark t left count good g (next' (f a)))
    (hcount : 1 ≤ count) (hstrict : strict = true → 2 ≤ count)
    (htotal : total ≤ count ∨ first.Advances ∧ total ≤ count + 1) :
    (first >>= next).LosesMark t left total good g (first' >>= next') where
  keeps := bind_keeps hfirst.keeps fun a => (hnext a).keeps
  takes tokens rest b hread hgood := by
    obtain ⟨a, middle, hfirstRead, hnextRead⟩ := bind_eq_ok hread
    have htakes := (hnext a).takes hnextRead hgood
    rcases htotal with htotal | ⟨hadvances, htotal⟩
    · have hmiddle := ((hfirst.keeps _).1 _ _ hfirstRead).length_le
      omega
    · have hmiddle := hadvances _ _ _ hfirstRead
      omega
  reads before b hholds hread hgood := by
    obtain ⟨a, middle, hfirstRead, hnextRead⟩ := bind_eq_ok hread
    have htakes := (hnext a).takes hnextRead hgood
    rw [List.length_tail] at htakes
    -- What follows takes the mark, so the first step leaves the stretch open.
    have hmiddle := (hfirst.keeps _).1 _ _ hfirstRead
    have hrest : t.rest <:+ middle :=
      List.suffix_of_suffix_length_le (List.suffix_append before t.rest) hmiddle (by omega)
    obtain ⟨kept, rfl, hkept⟩ := Transfer.exists_kept hmiddle hrest
    have hfree : strict = true → t.Free kept := by
      intro hstrict'
      refine .inr fun hnil => ?_
      have htwo := hstrict hstrict'
      rw [hnil, List.nil_append] at htakes
      omega
    rw [bind_ok (hfirst.ok hholds hfirstRead hfree (.inr trivial))]
    exact (hnext a).reads (hholds.mono hkept) hnextRead hgood

theorem LosesMark.bind {f : α → α} {g : β → β} {good : β → Prop} {first first' : Reader α}
    {next next' : α → Reader β} {strict : Bool} (hfirst : first.Transfers t strict f first')
    (hnext : ∀ a, (next a).LosesMark t left count good g (next' (f a))) (hcount : 2 ≤ count) :
    (first >>= next).LosesMark t left count good g (first' >>= next') :=
  .bind_of hfirst hnext (by omega) (fun _ => hcount) (.inl (le_refl _))

/-- A step that takes a token counts. -/
theorem LosesMark.bind_advances {f : α → α} {g : β → β} {good : β → Prop}
    {first first' : Reader α} {next next' : α → Reader β}
    (hfirst : first.Transfers t false f first')
    (hnext : ∀ a, (next a).LosesMark t left count good g (next' (f a))) (hcount : 1 ≤ count)
    (hadvances : first.Advances) :
    (first >>= next).LosesMark t left (count + 1) good g (first' >>= next') :=
  .bind_of hfirst hnext hcount Bool.noConfusion (.inr ⟨hadvances, le_refl _⟩)

theorem LosesMark.make {f : α → α} {g : β → β} {good : α → Prop} {good' : β → Prop}
    {reader reader' : Reader α} {make make' : α → β}
    (hreader : reader.LosesMark t left count good f reader')
    (hmake : ∀ a, g (make a) = make' (f a)) (hgood : ∀ a, good' (make a) → good a) :
    (reader >>= fun a => pure (make a)).LosesMark t left count good' g
      (reader' >>= fun a => pure (make' a)) where
  keeps := bind_keeps hreader.keeps fun _ => pure_keeps _
  takes tokens rest b hread hgood' := by
    obtain ⟨a, _, hread, ⟨⟩⟩ := bind_eq_ok hread
    exact hreader.takes hread (hgood a hgood')
  reads before b hholds hread hgood' := by
    obtain ⟨a, _, hread, hpure⟩ := bind_eq_ok hread
    cases hpure
    rw [bind_ok (hreader.reads hholds hread (hgood a hgood')), hmake]
    rfl

/-- There is nothing to show of a step that makes nothing good. -/
theorem LosesMark.of_not {f : α → α} {good : α → Prop} {reader reader' : Reader α}
    (hkeeps : reader.Keeps)
    (hbad : ∀ ⦃tokens rest : List PlacedToken⦄ ⦃a : α⦄, reader tokens = .ok (a, rest) → ¬ good a) :
    reader.LosesMark t left count good f reader' where
  keeps := hkeeps
  takes _ _ _ hread hgood := absurd hgood (hbad hread)
  reads _ _ _ hread hgood := absurd hgood (hbad hread)

/-- Looking at the next token. -/
theorem LosesMark.peek_bind {g : β → β} {good : β → Prop}
    {next next' : Option PlacedToken → Reader β}
    (hnext : ∀ found, (next found).LosesMark t left count good g
      (next' (found.map (PlacedToken.shift t.distance)))) (hcount : 2 ≤ count) :
    (peek >>= next).LosesMark t left count good g (peek >>= next') where
  keeps := bind_keeps peek_keeps fun found => (hnext found).keeps
  takes _ _ _ hread hgood := (hnext _).takes hread hgood
  reads before b hholds hread hgood := by
    cases before with
    | nil =>
        have htakes := (hnext t.rest.head?).takes hread hgood
        rw [List.nil_append, List.length_tail] at htakes
        omega
    | cons placed others => exact (hnext (some placed)).reads hholds hread hgood

end Reader

open Reader

/-- Where the stretch is left behind with the mark, only trivia was left of it. -/
theorem dropTrivia_move_of_mark {kept : List PlacedToken} {mark : PlacedToken}
    (hrest : t.rest ≠ []) (hdrop : dropTrivia (kept ++ t.rest) = mark :: t.rest.tail) :
    dropTrivia (t.move kept) = dropTrivia t.targetRest := by
  have hkept : dropTrivia kept = [] := by
    rw [dropTrivia, List.dropWhile_append] at hdrop
    split at hdrop
    · rename_i hempty
      exact List.isEmpty_iff.mp hempty
    · have hlength := congrArg List.length hdrop
      have hpos := List.length_pos_iff.mpr hrest
      rw [List.length_append, List.length_cons, List.length_tail] at hlength
      exact List.length_eq_zero_iff.mp (by rw [dropTrivia]; omega)
  refine dropTrivia_append_of_eq_nil ?_ t.targetRest
  rw [dropTrivia_shift, hkept]
  rfl

theorem body_losesMark {whole : α → Prop} {rules rules' : BodyRules α}
    {shiftEntry : Nat → α → α} (hrest : t.rest ≠ [])
    (hrules : BodyTransfer t whole (shiftEntry t.distance) rules rules')
    (hstops : bodyEntries t.target rules' t.targetRest = ([], none, left)) (opener : Span) :
    (body t.source rules opener).LosesMark t left 1 (Block.Whole whole)
      (fun block => (block.shift shiftEntry t.distance).unclosed)
      (body t.target rules' (opener.shift t.distance)) where
  keeps := body_keeps _ _ _
  takes tokens rest block hread hwhole := by
    cases hread
    exact bodyEntries_length_lt t.source rules tokens hwhole.2
  reads before block hholds hread hwhole := by
    cases hentries : bodyEntries t.source rules (before ++ t.rest) with
    | mk entries behind =>
    obtain ⟨closer, after⟩ := behind
    rw [body, hentries] at hread
    simp only [Except.ok.injEq, Prod.mk.injEq] at hread
    obtain ⟨rfl, rfl⟩ := hread
    obtain ⟨span, rfl⟩ := Option.isSome_iff_exists.mp hwhole.2
    obtain ⟨kept, mark, hdrop, _, _, hbody⟩ :=
      bodyEntries_upToCloser hrules hholds hentries hwhole.1 (by rw [List.length_tail]; omega)
    rw [bodyEntries_congr t.target rules' (dropTrivia_move_of_mark hrest hdrop), hstops] at hbody
    rw [body, hbody]
    simp [Block.shift, Block.unclosed]

theorem structDef_losesMark (hrest : t.rest ≠ [])
    (hstops : bodyEntries t.target (structRules t.target) t.targetRest = ([], none, left)) :
    (structDef t.source).LosesMark t left 3 StructDef.Whole
      (fun struct => (struct.shift t.distance).unclosed) (structDef t.target) := by
  refine .bind_advances (transfers_identifier _) (fun name => ?_) (by omega) (expect_advances _ _)
  refine .bind (@transfers_skipInline t false) (fun _ => ?_) (by omega)
  refine .bind (@transfers_structWord t false) (fun _ => ?_) (by omega)
  refine .bind_advances (transfers_punct _ _) (fun opener => ?_) (by omega) (expect_advances _ _)
  exact (body_losesMark hrest structRules_transfer hstops opener).make (fun _ => rfl) fun _ => id

theorem service_losesMark (hrest : t.rest ≠ [])
    (hstops : bodyEntries t.target (serviceRules t.target) t.targetRest = ([], none, left)) :
    (service t.source).LosesMark t left 3 (fun service => service.body.Whole ServiceEntry.Whole)
      (fun service => (service.shift t.distance).unclosed) (service t.target) := by
  refine .bind transfers_annotations (fun notes => ?_) (by omega)
  refine .bind_advances (transfers_keyword _ _) (fun keyword => ?_) (by omega)
    (expect_advances _ _)
  refine .bind (@transfers_skipInline t false) (fun _ => ?_) (by omega)
  refine .bind (@transfers_serviceName t false) (fun name => ?_) (by omega)
  refine .bind transfers_skipTrivia (fun _ => ?_) (by omega)
  refine .bind_advances (transfers_punct _ _) (fun opener => ?_) (by omega) (expect_advances _ _)
  exact (body_losesMark hrest serviceRules_transfer hstops opener).make (fun _ => rfl) fun _ => id

/-- Whole, with braces. -/
def Declaration.WholeInBraces (found : Declaration) : Prop :=
  found.Whole ∧ found.openingBrace?.isSome = true

theorem typeDecl_losesMark (hrest : t.rest ≠ [])
    (hstops : bodyEntries t.target (structRules t.target) t.targetRest = ([], none, left))
    (start : Span) :
    (typeDecl t.source start).LosesMark t left 3 Declaration.WholeInBraces
      (fun found => (found.shift t.distance).unclosed)
      (typeDecl t.target (start.shift t.distance)) := by
  refine .bind transfers_skipTrivia (fun _ => ?_) (by omega)
  refine .bind (@transfers_eatPunct t false _ (by decide)) (fun opener => ?_) (by omega)
  cases opener with
  | none => exact (structDef_losesMark hrest hstops).make (fun _ => rfl) fun _ hgood => hgood.1
  | some opener =>
      refine .of_not (bind_keeps (body_keeps _ _ _) fun _ => pure_keeps _) ?_
      intro tokens rest found hread hgood
      obtain ⟨_, _, _, ⟨⟩⟩ := bind_eq_ok hread
      cases hgood.2

/-- Only a type is read with braces behind a word that takes no annotations. -/
theorem openingBrace?_of_restOfDeclaration {source : List Char} {word : Keyword} {start : Span}
    {tokens rest : List PlacedToken} {found : Declaration} (hword : word ≠ .typeWord)
    (hread : restOfDeclaration source word start tokens = .ok (found, rest)) :
    found.openingBrace? = none := by
  cases word with
  | typeWord => exact absurd rfl hword
  | serviceWord | returnsWord => cases hread
  | syntaxWord =>
      obtain ⟨_, _, _, hread⟩ := bind_eq_ok hread
      obtain ⟨_, _, _, hread⟩ := bind_eq_ok hread
      obtain ⟨_, _, _, hread⟩ := bind_eq_ok hread
      obtain ⟨_, _, _, ⟨⟩⟩ := bind_eq_ok hread
      rfl
  | infoWord =>
      obtain ⟨_, _, _, hread⟩ := bind_eq_ok hread
      obtain ⟨_, _, _, hread⟩ := bind_eq_ok hread
      obtain ⟨_, _, _, ⟨⟩⟩ := bind_eq_ok hread
      rfl
  | importWord =>
      obtain ⟨_, _, _, hread⟩ := bind_eq_ok hread
      obtain ⟨opener, _, _, hread⟩ := bind_eq_ok hread
      cases opener with
      | none | some =>
          obtain ⟨_, _, _, ⟨⟩⟩ := bind_eq_ok hread
          rfl

theorem restOfDeclaration_losesMark (hrest : t.rest ≠ [])
    (hstops : bodyEntries t.target (structRules t.target) t.targetRest = ([], none, left))
    (word : Keyword) (start : Span) :
    (restOfDeclaration t.source word start).LosesMark t left 3 Declaration.WholeInBraces
      (fun found => (found.shift t.distance).unclosed)
      (restOfDeclaration t.target word (start.shift t.distance)) := by
  by_cases hword : word = .typeWord
  · rw [hword]
    exact typeDecl_losesMark hrest hstops start
  · refine .of_not (restOfDeclaration_keeps _ _ _) fun tokens rest found hread hgood => ?_
    have hbrace := hgood.2
    rw [openingBrace?_of_restOfDeclaration hword hread] at hbrace
    cases hbrace

theorem declaration_losesMark (hrest : t.rest ≠ [])
    (hstruct : bodyEntries t.target (structRules t.target) t.targetRest = ([], none, left))
    (hservice : bodyEntries t.target (serviceRules t.target) t.targetRest = ([], none, left)) :
    (declaration t.source).LosesMark t left 3 Declaration.WholeInBraces
      (fun found => (found.shift t.distance).unclosed) (declaration t.target) := by
  refine .peek_bind (fun found => ?_) (by omega)
  have hfound : atService (found.map (PlacedToken.shift t.distance)) = atService found := by
    cases found <;> rfl
  rw [hfound]
  split
  · exact (service_losesMark hrest hservice).make (fun _ => rfl) fun _ hgood => hgood.1
  · exact .bind (@transfers_plainKeyword t false) (fun found =>
      restOfDeclaration_losesMark hrest hstruct found.1 found.2) (by omega)

/-! ### Where the next source starts -/

/-- A body without its mark ends where its rules say so. -/
theorem bodyEntries_of_stops (source : List Char) {rules : BodyRules α}
    {tokens rest : List PlacedToken} {placed : PlacedToken}
    (hdrop : dropTrivia tokens = placed :: rest)
    (hplaced : placed.token.isPunct rules.closer = false)
    (hstops : rules.stops (placed :: rest) = true) :
    bodyEntries source rules tokens = ([], none, placed :: rest) := by
  rw [bodyEntries_eq_of_cons source rules hdrop, if_neg (by simp [hplaced]), if_pos hstops]

theorem isDeclarationKeyword_of_plainKeyword {placed : PlacedToken} {found : Keyword × Span}
    (hfound : plainKeyword placed = some found) : isDeclarationKeyword placed.token = true := by
  unfold plainKeyword at hfound
  split at hfound
  · rename_i word htoken
    split at hfound
    · cases hfound
    · rename_i hword
      rw [htoken]
      cases word with
      | returnsWord => exact absurd (.inr rfl) hword
      | _ => rfl
  · cases hfound

/-- A declaration starts with its word, or with the annotations of a service. -/
theorem starts_of_declaration {source : List Char} {placed : PlacedToken}
    {rest behind : List PlacedToken} {found : Declaration}
    (hread : declaration source (placed :: rest) = .ok (found, behind)) :
    isDeclarationKeyword placed.token = true ∨
      placed.token = .punct .atSign ∧ announcesService source (placed :: rest) = true := by
  by_cases hservice : atService (placed :: rest).head? = true
  · rw [declaration_eq_service hservice] at hread
    obtain ⟨_, _, hread, _⟩ := bind_eq_ok hread
    obtain ⟨notes, middle, hnotes, hread⟩ := bind_eq_ok hread
    obtain ⟨_, _, hword, _⟩ := bind_eq_ok hread
    rcases Bool.or_eq_true_iff.mp hservice with hkeyword | hsign
    · rw [Token.isKeyword, beq_iff_eq] at hkeyword
      exact .inl (by rw [hkeyword]; rfl)
    · refine .inr ⟨by simpa [Token.isPunct] using hsign, announcesService_eq_true hnotes ?_ ?_⟩
      · rintro rfl
        rw [show placed.token.isPunct .atSign = false from (annotations_ok_nil hnotes).1] at hsign
        cases hsign
      · rcases Reader.keyword_cases .serviceWord .serviceKeyword middle with
          ⟨next, others, rfl, htoken, _⟩ | herror
        · simp [Token.isKeyword, htoken]
        · rw [herror] at hword
          cases hword
  · rw [declaration_eq_plain (Bool.eq_false_iff.mpr hservice)] at hread
    obtain ⟨_, _, hword, _⟩ := bind_eq_ok hread
    simp only [Reader.expect] at hword
    split at hword
    · rename_i haccept
      exact .inl (isDeclarationKeyword_of_plainKeyword haccept)
    · cases hword

/-- Where a declaration starts, a body that is not closed ends. -/
theorem stops_of_declaration {source : List Char} {placed : PlacedToken}
    {rest behind : List PlacedToken} {found : Declaration}
    (hread : declaration source (placed :: rest) = .ok (found, behind)) :
    (structRules source).stops (placed :: rest) = true ∧
      (serviceRules source).stops (placed :: rest) = true ∧
        placed.token.isPunct .rightBrace = false := by
  rcases starts_of_declaration hread with hword | ⟨hsign, hannounces⟩
  · refine ⟨by simp [structRules, opensDeclaration, hword], by simp [serviceRules, hword], ?_⟩
    by_contra hbrace
    rw [Bool.not_eq_false, Token.isPunct, beq_iff_eq] at hbrace
    rw [hbrace] at hword
    cases hword
  · refine ⟨?_, by simp [serviceRules, hannounces], by rw [hsign]; rfl⟩
    simp [structRules, opensDeclaration, hsign, Token.isPunct]

/-- Behind some text, a source with declarations ends the body that is not
closed. -/
theorem bodyEntries_behind {before source : List Char} (haccepted : Accepted source)
    (hitems : (treeOf source).declarations ≠ []) {gap : List PlacedToken}
    (hgap : dropTrivia gap = []) :
    let behind := (tokenize source).map (PlacedToken.shift (byteWidth before))
    bodyEntries (before ++ source) (structRules (before ++ source)) (gap ++ behind) =
        ([], none, dropTrivia behind) ∧
      bodyEntries (before ++ source) (serviceRules (before ++ source)) (gap ++ behind) =
        ([], none, dropTrivia behind) := by
  intro behind
  have hall : declarations source (tokenize source) = (treeOf source).declarations ++ [] :=
    (List.append_nil _).symm
  obtain ⟨_, hreads, _⟩ := exists_readsInTurn hall ((accepted_iff source).mp haccepted).2
  cases hfounds : (treeOf source).declarations with
  | nil => exact absurd hfounds hitems
  | cons found others =>
      rw [hfounds] at hreads
      obtain ⟨placed, rest, _, hdrop, hread, _⟩ := hreads
      obtain ⟨hstruct, hservice, hplaced⟩ := stops_of_declaration hread
      have hholds : (Transfer.behind before source).Holds (placed :: rest) :=
        (Transfer.behind_holds before source).mono (hdrop ▸ dropTrivia_suffix _)
      have hbehind : dropTrivia behind =
          (placed :: rest).map (PlacedToken.shift (byteWidth before)) := by
        rw [dropTrivia_shift, hdrop]
      have hfirst := (dropTrivia_append_of_eq_nil hgap behind).trans hbehind
      rw [hbehind]
      constructor
      · exact bodyEntries_of_stops _ hfirst hplaced
          ((structRules_transfer.stops hholds rfl).trans hstruct)
      · exact bodyEntries_of_stops _ hfirst hplaced
          ((serviceRules_transfer.stops hholds rfl).trans hservice)

/-- The last declaration of the stretch, closed in the source by the token behind
the stretch, is read in the target without its mark. -/
theorem exists_losesMark (hrest : t.rest ≠ [])
    (hstruct : bodyEntries t.target (structRules t.target) t.targetRest = ([], none, left))
    (hservice : bodyEntries t.target (serviceRules t.target) t.targetRest = ([], none, left))
    {before tokens rest : List PlacedToken} {placed : PlacedToken} {last : Declaration}
    (hholds : t.Holds before) (htokens : tokens <:+ before ++ t.rest)
    (hdrop : dropTrivia tokens = placed :: rest)
    (hread : declaration t.source (placed :: rest) = .ok (last, t.rest.tail))
    (hlast : last.WholeInBraces) :
    ∃ kept more, tokens = kept ++ t.rest ∧ placed :: more <:+ before ∧
      dropTrivia (t.move kept) = t.move (placed :: more) ∧
      declaration t.target (t.move (placed :: more)) =
        .ok ((last.shift t.distance).unclosed, left) := by
  have hloses := declaration_losesMark hrest hstruct hservice
  have htakes := hloses.takes hread hlast
  rw [List.length_tail] at htakes
  have hsolid : placed :: rest <:+ tokens := hdrop ▸ dropTrivia_suffix tokens
  have hmark : t.rest <:+ placed :: rest :=
    List.suffix_of_suffix_length_le (List.suffix_append before t.rest) (hsolid.trans htokens)
      (by omega)
  obtain ⟨kept, rfl, hkept⟩ := Transfer.exists_kept htokens (hmark.trans hsolid)
  obtain ⟨ahead, hsplit, hahead⟩ := Transfer.exists_kept (hsolid.trans htokens) hmark
  cases ahead with
  | nil =>
      rw [hsplit, List.nil_append] at htakes
      omega
  | cons first more =>
      obtain ⟨rfl, rfl⟩ := List.cons.inj hsplit
      refine ⟨kept, more, rfl, hahead, ?_, hloses.reads (hholds.mono hahead) hread hlast⟩
      exact dropTrivia_move hdrop (.inr (List.cons_ne_nil placed more))

/-- Whole declarations within the stretch and a last one that is closed behind it:
in the target they are the same, but the last one is not closed. -/
theorem declarations_losesMark (hrest : t.rest ≠ [])
    (hstruct : bodyEntries t.target (structRules t.target) t.targetRest = ([], none, left))
    (hservice : bodyEntries t.target (serviceRules t.target) t.targetRest = ([], none, left))
    {before tokens rest : List PlacedToken} {placed : PlacedToken} {init : List Declaration}
    {last : Declaration} (hholds : t.Holds before)
    (hreads : ReadsInTurn t.source (before ++ t.rest) init tokens)
    (hwhole : ∀ found ∈ init, found.Whole) (hdrop : dropTrivia tokens = placed :: rest)
    (hread : declaration t.source (placed :: rest) = .ok (last, t.rest.tail))
    (hlast : last.WholeInBraces) :
    declarations t.target (t.move before) =
        init.map (Declaration.shift t.distance) ++
          (last.shift t.distance).unclosed :: declarations t.target left ∧
      ∃ more, placed :: more <:+ before ∧
        declaration t.target (t.move (placed :: more)) =
          .ok ((last.shift t.distance).unclosed, left) := by
  obtain ⟨kept, more, rfl, hmore, hdrop', hread'⟩ :=
    exists_losesMark hrest hstruct hservice hholds hreads.suffix hdrop hread hlast
  refine ⟨?_, more, hmore, hread'⟩
  rw [declarations_inTurn hholds hreads hwhole]
  rw [Transfer.move_cons] at hdrop' hread'
  rw [declarations_eq_of_cons t.target hdrop', hread']

end ApiLang
