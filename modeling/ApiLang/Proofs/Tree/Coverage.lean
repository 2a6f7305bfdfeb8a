/-
Nothing of a source is dropped on the way to its tree.  The span of an entry
reaches over all its row but the trivia at the end, so a token that is not trivia
lies within one declaration, and within a body in one entry of that body.
-/
import ApiLang.Proofs.Tree.Extent
import ApiLang.Proofs.Tree.Whole

namespace ApiLang

variable {α : Type}

/-- The tokens lie in the spans, each in one, but for trivia.  The spans are not
empty and lie one behind the other. -/
structure HeldOnce (tokens : List PlacedToken) (spans : List Span) : Prop where
  ordered : spans.Pairwise fun left right => left.stop ≤ right.start
  proper : ∀ span ∈ spans, span.start < span.stop
  once : ∀ placed ∈ tokens, placed.token.isTrivia = false →
    spans.countP (fun span => span.contains placed.span) = 1

/-- A body of a tree: the marks that open and close it, the spans of its entries,
and that of the piece of the tree to which it belongs. -/
structure Body where
  opening : Punct
  closing : Punct
  opener : Span
  closer : Option Span
  owner : Span
  entries : List Span
deriving DecidableEq

namespace Body

/-- Where a body ends: at its closing mark, or without one where its owner does. -/
def stop (body : Body) : Nat :=
  match body.closer with
  | some closer => closer.start
  | none => body.owner.stop

/-- The tokens between the opening mark and the end of the body. -/
def inside (tokens : List PlacedToken) (body : Body) : List PlacedToken :=
  tokens.filter fun placed =>
    body.opener.stop ≤ placed.span.start && placed.span.stop ≤ body.stop

theorem mem_inside {tokens : List PlacedToken} {body : Body} {placed : PlacedToken} :
    placed ∈ body.inside tokens ↔ placed ∈ tokens ∧ body.opener.stop ≤ placed.span.start ∧
      placed.span.stop ≤ body.stop := by
  simp [inside]

/-- The marks of the body are tokens, and each token between them lies in one
entry. -/
structure Covered (tokens : List PlacedToken) (body : Body) : Prop where
  opened : ⟨.punct body.opening, body.opener⟩ ∈ tokens
  closed : ∀ closer ∈ body.closer, ⟨.punct body.closing, closer⟩ ∈ tokens
  held : HeldOnce (body.inside tokens) body.entries

end Body

def Block.asBody (spanOf : α → Span) (opening closing : Punct) (owner : Span)
    (block : Block α) : Body :=
  { opening, closing, owner
    opener := block.opener
    closer := block.closer
    entries := block.entries.map spanOf }

def StructDef.asBody (struct : StructDef) : Body :=
  struct.body.asBody Member.span .leftBrace .rightBrace struct.span

def TypeEntry.bodies : TypeEntry → List Body
  | .struct definition => [definition.asBody]
  | .skipped _ => []

/-- The bodies in a declaration: that of a group before those of its structs. -/
def Declaration.bodies : Declaration → List Body
  | .types _ (.single struct) => [struct.asBody]
  | .types keyword (.group block) =>
    block.asBody TypeEntry.span .leftParen .rightParen
        (Declaration.types keyword (.group block)).span ::
      block.entries.flatMap TypeEntry.bodies
  | .service block => [block.body.asBody ServiceEntry.span .leftBrace .rightBrace block.span]
  | .version .. | .info .. | .imports .. | .skipped _ => []

/-- All bodies of structs, services and groups of types in a file. -/
def SourceFile.bodies (file : SourceFile) : List Body :=
  file.declarations.flatMap Declaration.bodies

theorem placeLexemes_between {start : Nat} {run : List Lexeme} {placed : PlacedToken}
    (hplaced : placed ∈ placeLexemes start run) :
    placed.span.Between start (start + widthOf run) := by
  obtain ⟨earlier, lexeme, later, rfl, _, hspan⟩ := mem_placeLexemes hplaced
  rw [hspan]
  simp only [Span.Between, widthOf_append, widthOf_cons]
  simp only [widthOf]
  omega

theorem Lexed.placed_proper {start : Nat} {run : List Lexeme} (hrun : Lexed run)
    {placed : PlacedToken} (hplaced : placed ∈ placeLexemes start run) :
    placed.span.start < placed.span.stop := by
  obtain ⟨earlier, lexeme, later, rfl, _, hspan⟩ := mem_placeLexemes hplaced
  obtain ⟨_, hstands⟩ := hrun lexeme (by simp)
  rw [hspan]
  exact Nat.lt_add_of_pos_right (byteWidth_pos hstands.text_ne_nil)

theorem Lexed.piece {before piece after : List Lexeme}
    (hrow : Lexed (before ++ (piece ++ after))) : Lexed piece :=
  hrow.mono (List.subset_append_of_subset_right before (List.subset_append_left piece after))

/-- The span reaches from the start of the row to its end, but for trivia there. -/
def Reaches (start : Nat) (run : List Lexeme) (span : Span) : Prop :=
  ∃ core trail, run = core ++ trail ∧ core ≠ [] ∧ AllTrivia trail ∧ span = spanAt start core

theorem Reaches.whole (start : Nat) {run : List Lexeme} (hne : run ≠ []) :
    Reaches start run (spanAt start run) :=
  ⟨run, [], by simp, hne, by simp [AllTrivia], rfl⟩

theorem Reaches.between {start : Nat} {run : List Lexeme} {span : Span}
    (hreaches : Reaches start run span) : span.Between start (start + widthOf run) := by
  obtain ⟨core, trail, rfl, _, _, rfl⟩ := hreaches
  exact spanAt_between start core trail

theorem Reaches.proper {start : Nat} {run : List Lexeme} {span : Span}
    (hreaches : Reaches start run span) (hrun : Lexed run) : span.start < span.stop := by
  obtain ⟨core, trail, rfl, hne, _, rfl⟩ := hreaches
  exact Nat.lt_add_of_pos_right ((hrun.mono (by simp)).widthOf_pos hne)

/-- What is not trivia in a row lies in a span that reaches over the row. -/
theorem Reaches.contains {start : Nat} {run : List Lexeme} {span : Span}
    (hreaches : Reaches start run span) {placed : PlacedToken}
    (hplaced : placed ∈ placeLexemes start run) (hsolid : placed.token.isTrivia = false) :
    span.contains placed.span = true := by
  obtain ⟨core, trail, rfl, _, htrail, rfl⟩ := hreaches
  obtain ⟨hstart, _, hstop⟩ := placeLexemes_between (mem_core_of_solid htrail hplaced hsolid)
  exact Bool.and_eq_true_iff.mpr ⟨decide_eq_true hstart, decide_eq_true hstop⟩

theorem AllInline.allTrivia {run : List Lexeme} (hrun : AllInline run) : AllTrivia run := by
  intro lexeme hlexeme
  have hinline := hrun lexeme hlexeme
  cases htoken : lexeme.token <;> simp_all [Token.isInlineTrivia, Token.isTrivia]

theorem SpellsSkipped.reaches {start : Nat} {run : List Lexeme} {input : Skipped}
    (hinput : SpellsSkipped start run input) : Reaches start run input.span := by
  obtain @⟨core, trail, _, hsolid, htrail, _, hspan, _⟩ := hinput
  exact ⟨core, trail, rfl, hsolid.ne_nil, htrail, hspan⟩

section Entries

variable {Item : Nat → List Lexeme → α → Prop} {skip : Skipped → α}

/-- Induction over entries in a row, whether each was read or skipped. -/
@[elab_as_elim]
theorem SpellsEntries.entryInduction
    {motive : (start : Nat) → (run : List Lexeme) → (entries : List α) →
      SpellsEntries Item skip start run entries → Prop}
    (nil : ∀ {start gap} (hgap : AllTrivia gap), motive start gap [] (.nil hgap))
    (cons : ∀ {start gap run rest entry entries} (hgap : AllTrivia gap)
      (hentry : EntryAt Item skip (start + widthOf gap) run entry)
      (hentries : SpellsEntries Item skip (start + widthOf (gap ++ run)) rest entries),
      motive _ rest entries hentries →
        motive start (gap ++ (run ++ rest)) (entry :: entries) (.cons hgap hentry hentries))
    {start : Nat} {run : List Lexeme} {entries : List α}
    (hentries : SpellsEntries Item skip start run entries) : motive start run entries hentries := by
  induction hentries with
  | nil hgap => exact nil hgap
  | item hgap hitem hentries ih => exact cons hgap (.inl hitem) hentries ih
  | skipped hgap hinput hentries ih => exact cons hgap (.inr ⟨_, rfl, hinput⟩) hentries ih

/-- Entries whose spans reach over their rows, read ones and skipped ones alike. -/
structure SpansReach (Item : Nat → List Lexeme → α → Prop) (skip : Skipped → α)
    (spanOf : α → Span) : Prop where
  item : ∀ start run entry, Item start run entry → Reaches start run (spanOf entry)
  skipped : ∀ input, spanOf (skip input) = input.span

variable {spanOf : α → Span}

theorem SpansReach.entry (hreach : SpansReach Item skip spanOf) {start : Nat} {run : List Lexeme}
    {entry : α} (hentry : EntryAt Item skip start run entry) :
    Reaches start run (spanOf entry) := by
  rcases hentry with hitem | ⟨input, rfl, hinput⟩
  · exact hreach.item start run entry hitem
  · rw [hreach.skipped]
    exact hinput.reaches

/-- A token that is not trivia lies in some entry. -/
theorem SpellsEntries.exists_contains {start : Nat} {run : List Lexeme} {entries : List α}
    (hentries : SpellsEntries Item skip start run entries) (hreach : SpansReach Item skip spanOf)
    {placed : PlacedToken} (hplaced : placed ∈ placeLexemes start run)
    (hsolid : placed.token.isTrivia = false) :
    ∃ entry ∈ entries, (spanOf entry).contains placed.span = true := by
  have hoffGap : ∀ {start gap}, AllTrivia gap → placed ∉ placeLexemes start gap := by
    intro start gap hgap hmem
    have htrivia := List.filter_eq_nil_iff.mp (filter_solid_of_allTrivia hgap) placed hmem
    simp [hsolid] at htrivia
  induction hentries using SpellsEntries.entryInduction with
  | nil hgap => exact absurd hplaced (hoffGap hgap)
  | @cons start gap run rest entry entries hgap hentry _ ih =>
      rw [placeLexemes_append, placeLexemes_append, List.mem_append, List.mem_append,
        Nat.add_assoc, ← widthOf_append] at hplaced
      rcases hplaced with hplaced | hplaced | hplaced
      · exact absurd hplaced (hoffGap hgap)
      · exact ⟨entry, List.mem_cons_self, (hreach.entry hentry).contains hplaced hsolid⟩
      · obtain ⟨other, hother, hcontains⟩ := ih hplaced
        exact ⟨other, List.mem_cons_of_mem entry hother, hcontains⟩

/-- Each token that is not trivia lies in one entry. -/
theorem SpellsEntries.heldOnce {start : Nat} {run : List Lexeme} {entries : List α}
    (hentries : SpellsEntries Item skip start run entries) (hreach : SpansReach Item skip spanOf)
    (hrun : Lexed run) : HeldOnce (placeLexemes start run) (entries.map spanOf) := by
  have hordered := (hentries.map_spansIn
    (fun start run entry hentry => (hreach.item start run entry hentry).between)
    hreach.skipped).ordered
  have hproper := hentries.forall_mem (fun entry => (spanOf entry).start < (spanOf entry).stop)
    (fun start piece entry hpiece hentry =>
      (hreach.item start piece entry hentry).proper (hrun.mono hpiece))
    (fun start piece input hpiece hinput => by
      rw [hreach.skipped]
      exact hinput.reaches.proper (hrun.mono hpiece))
  refine ⟨hordered, List.forall_mem_map.mpr hproper, ?_⟩
  intro placed hplaced hsolid
  obtain ⟨entry, hentry, hcontains⟩ := hentries.exists_contains hreach hplaced hsolid
  apply Nat.le_antisymm
  · exact @countP_contains_le_one Span id _ _ hordered (hrun.placed_proper hplaced)
  · exact List.countP_pos_iff.mpr ⟨spanOf entry, List.mem_map_of_mem hentry, hcontains⟩

/-- Entries end with the last of them, but for trivia. -/
theorem SpellsEntries.last_reaches {start : Nat} {run : List Lexeme} {entries : List α}
    (hentries : SpellsEntries Item skip start run entries)
    (hreach : SpansReach Item skip spanOf) :
    entries = [] ∧ AllTrivia run ∨
      ∃ last ∈ entries.getLast?, ∃ core trail, run = core ++ trail ∧ AllTrivia trail ∧
        start ≤ (spanOf last).start ∧ (spanOf last).stop = start + widthOf core := by
  induction hentries using SpellsEntries.entryInduction with
  | nil hgap => exact .inl ⟨rfl, hgap⟩
  | @cons start gap run rest entry entries hgap hentry _ ih =>
      refine .inr ?_
      rcases ih with ⟨rfl, hrest⟩ | ⟨last, hlast, core, trail, rfl, htrail, hstart, hstop⟩
      · obtain ⟨core, trail, rfl, _, htrail, hspan⟩ := hreach.entry hentry
        refine ⟨entry, rfl, gap ++ core, trail ++ rest, by simp, ?_, ?_, ?_⟩
        · exact List.forall_mem_append.mpr ⟨htrail, hrest⟩
        · simp [hspan, spanAt]
        · simp [hspan, spanAt, Nat.add_assoc]
      · refine ⟨last, ?_, gap ++ (run ++ core), trail, by simp, htrail, by omega, ?_⟩
        · obtain ⟨first, others, rfl⟩ := List.exists_cons_of_ne_nil (List.ne_nil_of_mem
            (List.mem_of_getLast? hlast))
          simpa using hlast
        · simp only [widthOf_append] at hstop ⊢
          omega

/-- A block ends with its last piece, but for trivia. -/
theorem SpellsBlock.last_reaches {opening closing : Punct} {start : Nat} {run : List Lexeme}
    {block : Block α} (hblock : SpellsBlock Item skip opening closing start run block)
    (hreach : SpansReach Item skip spanOf) :
    ∃ core trail, run = core ++ trail ∧ core ≠ [] ∧ AllTrivia trail ∧
      start ≤ (block.last spanOf).start ∧ (block.last spanOf).stop = start + widthOf core := by
  cases hblock with
  | @closed opener close run entries _ _ _ =>
      refine ⟨opener :: (run ++ [close]), [], by simp, by simp, by simp [AllTrivia], ?_, ?_⟩
      · simp [Block.last, spanAt]
      · simp [Block.last, spanAt, Nat.add_assoc]
  | @unclosed opener run entries _ hentries =>
      rcases hentries.last_reaches hreach with
        ⟨rfl, hrun⟩ | ⟨last, hlast, core, trail, rfl, htrail, hstart, hstop⟩
      · exact ⟨[opener], run, rfl, by simp, hrun, by simp [Block.last, spanAt],
          by simp [Block.last, spanAt]⟩
      · have hblock : Block.last spanOf ⟨spanAt start [opener], entries, none⟩ = spanOf last := by
          simp [Block.last, Option.mem_def.mp hlast]
        rw [hblock]
        refine ⟨opener :: core, trail, rfl, by simp, htrail, by omega, ?_⟩
        simp only [widthOf_cons, widthOf_nil] at hstop ⊢
        omega

end Entries

/-- A token of a row that stands where a piece of the row stands is a token of the
piece. -/
theorem mem_placeLexemes_piece {start : Nat} {before piece after : List Lexeme}
    (hrow : Lexed (before ++ (piece ++ after))) {placed : PlacedToken}
    (hplaced : placed ∈ placeLexemes start (before ++ (piece ++ after)))
    (hstart : start + widthOf before ≤ placed.span.start)
    (hstop : placed.span.stop ≤ start + widthOf before + widthOf piece) :
    placed ∈ placeLexemes (start + widthOf before) piece := by
  have hproper := hrow.placed_proper hplaced
  rw [placeLexemes_append, placeLexemes_append, List.mem_append, List.mem_append] at hplaced
  rcases hplaced with hplaced | hplaced | hplaced
  · obtain ⟨_, _, hbefore⟩ := placeLexemes_between hplaced
    omega
  · exact hplaced
  · obtain ⟨hafter, _, _⟩ := placeLexemes_between hplaced
    omega

theorem HeldOnce.mono {tokens more : List PlacedToken} {spans : List Span}
    (hheld : HeldOnce more spans) (htokens : tokens ⊆ more) : HeldOnce tokens spans :=
  ⟨hheld.ordered, hheld.proper, fun placed hplaced => hheld.once placed (htokens hplaced)⟩

/-- A body that is covered by the tokens of a row and lies within the row. -/
structure Body.CoveredIn (start : Nat) (row : List Lexeme) (body : Body) : Prop
    extends body.Covered (placeLexemes start row) where
  start_le : start ≤ body.opener.stop
  stop_le : body.stop ≤ start + widthOf row

/-- What stands around a row does not matter to the bodies in it. -/
theorem Body.CoveredIn.widen {start : Nat} {before piece after : List Lexeme} {body : Body}
    (hbody : body.CoveredIn (start + widthOf before) piece)
    (hrow : Lexed (before ++ (piece ++ after))) :
    body.CoveredIn start (before ++ (piece ++ after)) := by
  have hmem : ∀ placed ∈ placeLexemes (start + widthOf before) piece,
      placed ∈ placeLexemes start (before ++ (piece ++ after)) := by
    intro placed hplaced
    rw [placeLexemes_append, placeLexemes_append]
    exact List.mem_append_right _ (List.mem_append_left _ hplaced)
  obtain ⟨⟨hopened, hclosed, hheld⟩, hstart, hstop⟩ := hbody
  refine ⟨⟨hmem _ hopened, fun closer hcloser => hmem _ (hclosed closer hcloser),
    hheld.mono ?_⟩, by omega, ?_⟩
  · intro placed hplaced
    obtain ⟨hplaced, hfrom, hto⟩ := Body.mem_inside.mp hplaced
    refine Body.mem_inside.mpr ⟨?_, hfrom, hto⟩
    exact mem_placeLexemes_piece hrow hplaced (by omega) (by omega)
  · simp only [widthOf_append]
    omega

theorem Body.CoveredIn.behind {start : Nat} {before piece : List Lexeme} {body : Body}
    (hbody : body.CoveredIn (start + widthOf before) piece) (hrow : Lexed (before ++ piece)) :
    body.CoveredIn start (before ++ piece) := by
  rw [← List.append_nil piece] at hrow
  simpa using hbody.widen hrow

section Bodies

variable {Item : Nat → List Lexeme → α → Prop} {skip : Skipped → α} {spanOf : α → Span}

theorem SpellsBlock.coveredIn {opening closing : Punct} {start : Nat} {run : List Lexeme}
    {block : Block α} (hblock : SpellsBlock Item skip opening closing start run block)
    (hreach : SpansReach Item skip spanOf) (hrun : Lexed run) {owner : Span}
    (howner : owner.stop ≤ start + widthOf run) :
    (block.asBody spanOf opening closing owner).CoveredIn start run := by
  cases hblock with
  | @closed opener close inner entries hopener hentries hclose =>
      have hinner : Lexed inner := hrun.mono (by simp)
      refine ⟨⟨?_, ?_, (hentries.heldOnce hreach hinner).mono ?_⟩, ?_, ?_⟩
      · simp [Block.asBody, hopener]
      · rintro closer ⟨⟩
        simp [Block.asBody, hclose, placeLexemes_append, Nat.add_assoc]
      · intro placed hplaced
        obtain ⟨hplaced, hfrom, hto⟩ := Body.mem_inside.mp hplaced
        change Lexed ([opener] ++ (inner ++ [close])) at hrun
        refine mem_placeLexemes_piece hrun hplaced hfrom ?_
        simp only [Body.stop, Block.asBody, spanAt, widthOf_cons, widthOf_nil] at hto ⊢
        omega
      · simp [Block.asBody, spanAt]
      · simp only [Body.stop, Block.asBody, spanAt, widthOf_cons, widthOf_append]
        omega
  | @unclosed opener inner entries hopener hentries =>
      have hinner : Lexed inner := hrun.mono (by simp)
      refine ⟨⟨?_, ?_, (hentries.heldOnce hreach hinner).mono ?_⟩, ?_, howner⟩
      · simp [Block.asBody, hopener]
      · rintro closer ⟨⟩
      · intro placed hplaced
        obtain ⟨hplaced, hfrom, hto⟩ := Body.mem_inside.mp hplaced
        have hrow : opener :: inner = [opener] ++ (inner ++ []) := by simp
        rw [hrow] at hrun hplaced howner
        refine mem_placeLexemes_piece hrun hplaced hfrom (hto.trans (howner.trans ?_))
        simp [Nat.add_assoc]
      · simp [Block.asBody, spanAt]

/-- Bodies within entries are covered if those within each entry are. -/
theorem SpellsEntries.coveredIn {start : Nat} {run : List Lexeme} {entries : List α}
    (hentries : SpellsEntries Item skip start run entries) {bodiesOf : α → List Body}
    (hitem : ∀ start run entry, Item start run entry → Lexed run →
      ∀ body ∈ bodiesOf entry, body.CoveredIn start run)
    (hskip : ∀ input, bodiesOf (skip input) = []) (hrun : Lexed run) :
    ∀ body ∈ entries.flatMap bodiesOf, body.CoveredIn start run := by
  induction hentries using SpellsEntries.entryInduction with
  | nil hgap => simp
  | @cons start gap run rest entry entries hgap hentry _ ih =>
      intro body hbody
      rw [List.flatMap_cons, List.mem_append] at hbody
      rcases hbody with hbody | hbody
      · rcases hentry with hread | ⟨input, rfl, _⟩
        · exact (hitem _ _ _ hread hrun.piece body hbody).widen hrun
        · rw [hskip] at hbody
          cases hbody
      · rw [← List.append_assoc] at hrun ⊢
        exact (ih (hrun.mono (List.subset_append_right _ rest)) body hbody).behind hrun

theorem SpellsBlock.entries_coveredIn {opening closing : Punct} {start : Nat} {run : List Lexeme}
    {block : Block α} (hblock : SpellsBlock Item skip opening closing start run block)
    {bodiesOf : α → List Body}
    (hitem : ∀ start run entry, Item start run entry → Lexed run →
      ∀ body ∈ bodiesOf entry, body.CoveredIn start run)
    (hskip : ∀ input, bodiesOf (skip input) = []) (hrun : Lexed run) :
    ∀ body ∈ block.entries.flatMap bodiesOf, body.CoveredIn start run := by
  intro body hbody
  cases hblock with
  | @closed opener close inner entries _ hentries _ =>
      have hinner : Lexed inner := hrun.mono (by simp)
      change Lexed ([opener] ++ (inner ++ [close])) at hrun
      exact (hentries.coveredIn hitem hskip hinner body hbody).widen hrun
  | @unclosed opener inner entries _ hentries =>
      have hinner : Lexed inner := hrun.mono (by simp)
      exact (hentries.coveredIn hitem hskip hinner body hbody).behind hrun

end Bodies

theorem SpellsMember.reaches {start : Nat} {run : List Lexeme} {line : Member}
    (hline : SpellsMember start run line) : Reaches start run line.span := by
  cases hline with
  | @pointer star run trail _ _ _ htrail =>
      exact ⟨star :: run, trail, rfl, by simp, htrail.allTrivia, rfl⟩
  | @embedded run trail _ hname htrail =>
      exact ⟨run, trail, rfl, by obtain ⟨⟩ := hname; simp, htrail.allTrivia, rfl⟩
  | @field run gap typeRun trail _ _ hname _ _ _ htrail =>
      exact ⟨run ++ (gap ++ typeRun), trail, by simp, by obtain ⟨⟩ := hname; simp,
        htrail.allTrivia, rfl⟩
  | @tagged run gap typeRun space trail tag _ _ _ _ _ _ _ _ _ htrail =>
      exact ⟨run ++ (gap ++ (typeRun ++ (space ++ [tag]))), trail, by simp, by simp,
        htrail.allTrivia, rfl⟩

theorem spansReach_member : SpansReach SpellsMember Member.skipped Member.span :=
  ⟨fun _ _ _ hline => hline.reaches, fun _ => rfl⟩

/-- A struct reaches from its name to its last piece. -/
theorem SpellsStruct.reaches {start : Nat} {run : List Lexeme} {struct : StructDef}
    (hstruct : SpellsStruct start run struct) : Reaches start run struct.span := by
  obtain @⟨name, text, gap, run, body, _, _, hbody⟩ := hstruct
  obtain ⟨core, trail, rfl, _, htrail, hstart, hstop⟩ := hbody.last_reaches spansReach_member
  refine ⟨name :: (gap ++ core), trail, by simp, by simp, htrail, ?_⟩
  simp only [StructDef.span, Span.union, spanAt, widthOf_cons, widthOf_append, widthOf_nil,
    Span.mk.injEq] at hstart hstop ⊢
  omega

theorem SpellsStruct.coveredIn {start : Nat} {run : List Lexeme} {struct : StructDef}
    (hstruct : SpellsStruct start run struct) (hrun : Lexed run) :
    struct.asBody.CoveredIn start run := by
  have hstop := hstruct.reaches.between.2.2
  obtain @⟨name, text, gap, inner, body, _, _, hbody⟩ := hstruct
  have hinner : Lexed inner := hrun.mono (by simp)
  refine (hbody.coveredIn spansReach_member hinner ?_).behind hrun
  simpa [Nat.add_assoc] using hstop

theorem spansReach_typeEntry :
    SpansReach SpellsTypeEntry TypeEntry.skipped TypeEntry.span := by
  refine ⟨?_, fun _ => rfl⟩
  rintro start run entry ⟨hstruct⟩
  exact hstruct.reaches

theorem SpellsRoute.reaches {start : Nat} {run : List Lexeme} {route : Route}
    (hroute : SpellsRoute start run route) : Reaches start run route.span := by
  obtain @⟨notesRun, gap, pathTail, signature, trail, method, slash, _, _, _, _, _, _, _, _, _, _,
    _, _, htrail⟩ := hroute
  exact ⟨notesRun ++ method :: (gap ++ slash :: (pathTail ++ signature)), trail, by simp, by simp,
    htrail.allTrivia, rfl⟩

theorem spansReach_serviceEntry :
    SpansReach SpellsServiceEntry ServiceEntry.skipped ServiceEntry.span := by
  refine ⟨?_, fun _ => rfl⟩
  rintro start run entry ⟨hroute⟩
  exact hroute.reaches

/-- A service reaches from its first annotation, or its keyword, to its last
piece. -/
theorem SpellsService.reaches {start : Nat} {run : List Lexeme} {service : Service}
    (hservice : SpellsService start run service) : Reaches start run service.span := by
  obtain @⟨notesRun, gap, nameTail, space, run, word, first, notes, body, hnotes, _, _, _, _, _, _,
    hbody⟩ := hservice
  obtain ⟨core, trail, rfl, _, htrail, hstart, hstop⟩ :=
    hbody.last_reaches spansReach_serviceEntry
  refine ⟨notesRun ++ word :: (gap ++ first :: (nameTail ++ (space ++ core))), trail, by simp,
    by simp, htrail, ?_⟩
  simp only [widthOf_append, widthOf_cons] at hstart hstop
  rw [Service.span, spanFrom_eq hnotes (by omega) hstop
    (by simp only [widthOf_append, widthOf_cons, widthOf_nil]; omega)]
  simp only [spanAt, Span.mk.injEq, widthOf_append, widthOf_cons, true_and]
  omega

theorem SpellsService.coveredIn {start : Nat} {run : List Lexeme} {service : Service}
    (hservice : SpellsService start run service) (hrun : Lexed run) :
    (service.body.asBody ServiceEntry.span .leftBrace .rightBrace service.span).CoveredIn
      start run := by
  have hstop := hservice.reaches.between.2.2
  obtain @⟨notesRun, gap, nameTail, space, inner, word, first, notes, body, _, _, _, _, _, _, _,
    hbody⟩ := hservice
  have hrow : notesRun ++ word :: (gap ++ first :: (nameTail ++ (space ++ inner))) =
      (notesRun ++ word :: (gap ++ first :: (nameTail ++ space))) ++ inner := by
    simp
  rw [hrow] at hrun hstop ⊢
  have hinner : Lexed inner := hrun.mono (List.subset_append_right _ inner)
  refine (hbody.coveredIn spansReach_serviceEntry hinner ?_).behind hrun
  simpa [Nat.add_assoc] using hstop

/-- A declaration reaches over its row. -/
theorem SpellsDeclaration.reaches {start : Nat} {run : List Lexeme} {found : Declaration}
    (hfound : SpellsDeclaration start run found) : Reaches start run found.span := by
  cases hfound with
  | version _ _ _ _ _ | info _ _ _ _ | importOne _ _ _ | imports _ _ _ _ =>
      exact .whole start (by simp)
  | @struct word gap run struct _ _ hstruct =>
      obtain ⟨core, trail, rfl, _, htrail, hspan⟩ := hstruct.reaches
      refine ⟨word :: (gap ++ core), trail, by simp, by simp, htrail, ?_⟩
      rw [Declaration.span, TypeBody.last, hspan]
      simpa using spanAt_union start [word] gap core
  | @types word gap run block _ _ hblock =>
      obtain ⟨core, trail, rfl, _, htrail, hstart, hstop⟩ :=
        hblock.last_reaches spansReach_typeEntry
      refine ⟨word :: (gap ++ core), trail, by simp, by simp, htrail, ?_⟩
      simp only [Declaration.span, TypeBody.last, Span.union, spanAt, widthOf_cons,
        widthOf_append, widthOf_nil, Span.mk.injEq] at hstart hstop ⊢
      omega
  | service hservice => exact hservice.reaches

/-- The bodies in a declaration are covered by the tokens of its row. -/
theorem SpellsDeclaration.coveredIn {start : Nat} {run : List Lexeme} {found : Declaration}
    (hfound : SpellsDeclaration start run found) (hrun : Lexed run) :
    ∀ body ∈ found.bodies, body.CoveredIn start run := by
  have hstop := hfound.reaches.between.2.2
  intro body hbody
  cases hfound with
  | version _ _ _ _ _ | info _ _ _ _ | importOne _ _ _ | imports _ _ _ _ => cases hbody
  | @struct word gap inner struct _ _ hstruct =>
      rw [List.mem_singleton.mp hbody]
      exact (hstruct.coveredIn (hrun.mono (by simp))).behind hrun
  | @types word gap inner block _ _ hblock =>
      have hinner : Lexed inner := hrun.mono (by simp)
      rcases List.mem_cons.mp hbody with rfl | hbody
      · refine (hblock.coveredIn spansReach_typeEntry hinner ?_).behind hrun
        simpa [Nat.add_assoc] using hstop
      · refine (hblock.entries_coveredIn ?_ (fun _ => rfl) hinner body hbody).behind hrun
        rintro start run entry ⟨hstruct⟩ hrun body hbody
        rw [List.mem_singleton.mp hbody]
        exact hstruct.coveredIn hrun
  | service hservice =>
      rw [List.mem_singleton.mp hbody]
      exact hservice.coveredIn hrun

theorem spansReach_declaration :
    SpansReach SpellsDeclaration Declaration.skipped Declaration.span :=
  ⟨fun _ _ _ hfound => hfound.reaches, fun _ => rfl⟩

/-- Nothing is dropped.  Each token of a source lies in one declaration of its tree,
and each token within the body of a struct, a service or a group of types lies in
one entry of that body, trivia apart. -/
theorem parse_drops_nothing (source : List Char) :
    HeldOnce (tokenize source) ((treeOf source).declarations.map Declaration.span) ∧
      ∀ body ∈ (treeOf source).bodies, body.Covered (tokenize source) := by
  have hentries : SpellsEntries SpellsDeclaration Declaration.skipped 0 (lexemes source)
      (treeOf source).declarations := parseTokens_spells source
  have hlexed : Lexed (lexemes source) := fun _ => standsBefore_of_mem_lexemes
  refine ⟨hentries.heldOnce spansReach_declaration hlexed, ?_⟩
  intro body hbody
  exact (hentries.coveredIn (fun _ _ _ hfound => hfound.coveredIn) (fun _ => rfl) hlexed body
    hbody).toCovered

end ApiLang
