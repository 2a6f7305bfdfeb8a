/-
Reading lists.  Items up to a closing parenthesis, and the entries of a body
with recovery: whatever the input, what is taken from it is a row of entries and
of skipped pieces with trivia between them.
-/
import ApiLang.Proofs.Tree.Located

namespace ApiLang

variable {α : Type} {source : List Char}

theorem dropTrivia_placeLexemes (start : Nat) (row : List Lexeme) :
    ∃ gap left, row = gap ++ left ∧ AllTrivia gap ∧
      (∀ lexeme ∈ left.head?, lexeme.token.isTrivia = false) ∧
      dropTrivia (placeLexemes start row) = placeLexemes (start + widthOf gap) left :=
  dropWhile_placeLexemes Token.isTrivia start row

theorem untilRightParen_close (item : ItemReader α) {tokens rest : List PlacedToken}
    {placed : PlacedToken} (hdrop : dropTrivia tokens = placed :: rest)
    (hclose : placed.token = .punct .rightParen) :
    untilRightParen item tokens = .ok (([], placed.span), rest) := by
  have hfound : (placed :: rest).head?.filter (fun placed => placed.token.isPunct .rightParen) =
      some placed := by
    simp [Token.isPunct, hclose]
  rw [untilRightParen, hdrop, hfound]
  rfl

theorem untilRightParen_item (item : ItemReader α) {tokens : List PlacedToken}
    (hclose : atPunct .rightParen (dropTrivia tokens).head? = false) :
    untilRightParen item tokens =
      (do let first ← item.read
          let (others, close) ← untilRightParen item
          pure (first :: others, close) : Reader (List α × Span)) (dropTrivia tokens) := by
  have hfound : (dropTrivia tokens).head?.filter (fun placed => placed.token.isPunct .rightParen) =
      none := by
    cases hhead : (dropTrivia tokens).head? with
    | none => rfl
    | some placed =>
        rw [hhead] at hclose
        simpa [atPunct] using hclose
  rw [untilRightParen]
  split
  · rename_i hsome
    rw [hfound] at hsome
    cases hsome
  · simp only [bind, Reader.andThen]
    split
    · rename_i hread
      rw [hread]
    · rename_i first rest hread
      rw [hread]
      simp only
      cases untilRightParen item rest <;> rfl

/-- Items up to a closing parenthesis are read one after the other, and the span
returned is that of the parenthesis. -/
theorem untilRightParen_spells {item : ItemReader α} {Item : Nat → List Lexeme → α → Prop}
    (hitem : item.read.Spells source fun start run a _ => Item start run a) :
    Reader.Spells source (untilRightParen item) fun start run found _ =>
      SpellsListed Item start run found.1 ∧ ClosesAt start run found.2 := by
  intro start row found rest hsource hread
  induction hlength : row.length using Nat.strong_induction_on
    generalizing start row found rest with
  | _ length ih =>
  obtain ⟨gap, inner, rfl, hgap, -, hdrop⟩ := dropTrivia_placeLexemes start row
  by_cases hnext : atPunct .rightParen (dropTrivia (placeLexemes start (gap ++ inner))).head? = true
  · rw [hdrop] at hnext
    obtain ⟨close, left, rfl, hclose⟩ := atPunct_head?_placeLexemes hnext
    rw [untilRightParen_close item (hdrop.trans (placeLexemes_cons ..)) hclose] at hread
    cases hread
    exact ⟨gap ++ [close], left, by simp, by simp [Nat.add_assoc], .close hgap hclose, gap,
      close, rfl, rfl⟩
  · rw [untilRightParen_item item (by simpa using hnext), hdrop] at hread
    obtain ⟨first, _, hreadFirst, hread⟩ := Reader.bind_eq_ok hread
    obtain ⟨⟨others, close⟩, _, hreadOthers, ⟨⟩⟩ := Reader.bind_eq_ok hread
    have hshorter := item.advances _ _ _ hreadFirst
    obtain ⟨run, left, rfl, rfl, hrun⟩ := hitem hsource.right hreadFirst
    simp only [length_placeLexemes, List.length_append] at hshorter hlength
    obtain ⟨rest, left, rfl, rfl, hrest, hcloses⟩ :=
      ih _ (by omega) hsource.right.right hreadOthers rfl
    refine ⟨gap ++ (run ++ rest), left, by simp, by simp [Nat.add_assoc], ?_,
      hcloses.prepend.prepend⟩
    rw [Nat.add_assoc, ← widthOf_append] at hrest
    exact .item hgap hrun hrest

/-- A row is a solid core and the trivia behind it, unless it is all trivia. -/
theorem exists_core_trail (run : List Lexeme) :
    ∃ core trail, run = core ++ trail ∧ AllTrivia trail ∧
      ∀ last ∈ core.getLast?, last.token.isTrivia = false := by
  induction run using List.reverseRecOn with
  | nil => exact ⟨[], [], rfl, by simp [AllTrivia], by simp⟩
  | append_singleton others lexeme ih =>
      by_cases htrivia : lexeme.token.isTrivia = true
      · obtain ⟨core, trail, rfl, htrail, hlast⟩ := ih
        refine ⟨core, trail ++ [lexeme], by simp, ?_, hlast⟩
        intro other hother
        rcases List.mem_append.mp hother with hother | hother
        · exact htrail other hother
        · rw [List.mem_singleton.mp hother, htrivia]
      · exact ⟨others ++ [lexeme], [], by simp, by simp [AllTrivia], by simpa using htrivia⟩

theorem filter_solid_of_allTrivia {start : Nat} {trail : List Lexeme} (htrail : AllTrivia trail) :
    (placeLexemes start trail).filter (fun placed => !placed.token.isTrivia) = [] := by
  induction trail generalizing start with
  | nil => rfl
  | cons lexeme others ih =>
      have hlexeme := htrail lexeme List.mem_cons_self
      rw [placeLexemes_cons, List.filter_cons_of_neg (by simp [hlexeme])]
      exact ih fun other hother => htrail other (List.mem_cons_of_mem lexeme hother)

/-- The covered span of a row that starts with more than trivia is that of its
core. -/
theorem coveredSpan_placeLexemes {run : List Lexeme} (offset start : Nat) (hne : run ≠ [])
    (hhead : ∀ first ∈ run.head?, first.token.isTrivia = false) :
    ∃ core trail, run = core ++ trail ∧ Solid core ∧ AllTrivia trail ∧
      coveredSpan offset (placeLexemes start run) = spanAt start core := by
  obtain ⟨core, trail, rfl, htrail, hlast⟩ := exists_core_trail run
  rcases List.eq_nil_or_concat' core with rfl | ⟨init, last, rfl⟩
  · cases trail with
    | nil => exact absurd rfl hne
    | cons first others =>
        have htrivia := htrail first List.mem_cons_self
        simp [hhead first rfl] at htrivia
  · have hsolid : last.token.isTrivia = false := hlast last (by simp)
    obtain ⟨first, others, hcore⟩ := List.exists_cons_of_ne_nil (List.concat_ne_nil last init)
    have hfirst : first.token.isTrivia = false := hhead first (by simp [hcore])
    refine ⟨init ++ [last], trail, by simp, ⟨⟨first, by simp [hcore], hfirst⟩, last, by simp,
      hsolid⟩, htrail, ?_⟩
    have hheadSolid : ((placeLexemes start (init ++ [last] ++ trail)).filter
        fun placed => !placed.token.isTrivia).head? =
          some ⟨first.token, spanAt start [first]⟩ := by
      rw [hcore, List.cons_append, placeLexemes_cons, List.filter_cons_of_pos (by simp [hfirst])]
      rfl
    have hlastSolid : ((placeLexemes start (init ++ [last] ++ trail)).filter
        fun placed => !placed.token.isTrivia).getLast? =
          some ⟨last.token, spanAt (start + widthOf init) [last]⟩ := by
      rw [placeLexemes_append, placeLexemes_append, List.filter_append, List.filter_append,
        filter_solid_of_allTrivia htrail]
      simp [hsolid]
    have hwidth : widthOf (init ++ [last]) = widthOf (first :: others) := by rw [hcore]
    rw [coveredSpan]
    simp only [hheadSolid, hlastSolid, spanAt, Span.union, Span.mk.injEq]
    simp only [widthOf_append, widthOf_cons, widthOf_nil] at hwidth ⊢
    omega

theorem Token.isInvalid_iff {token : Token} :
    token.isInvalid = true ↔ ∃ text, token = .invalid text := by
  cases token <;> simp [Token.isInvalid]

/-- A way to get past input that fits no rule.  It leaves a rest of its input and
never stops at an invalid token. -/
structure Recovers (recover : List PlacedToken → List PlacedToken) : Prop where
  suffix : ∀ tokens, recover tokens <:+ tokens
  pastInvalid : ∀ placed rest, placed.token.isInvalid = true → recover (placed :: rest) <:+ rest

theorem dropLine_recovers (closer : Punct) : Recovers (dropLine closer) where
  suffix := dropLine_suffix closer
  pastInvalid := by
    intro placed rest hinvalid
    obtain ⟨text, htoken⟩ := Token.isInvalid_iff.mp hinvalid
    rw [dropLine, htoken, if_neg (by simp [Token.isPunct]), if_neg (by simp)]
    exact dropLine_suffix closer rest

theorem dropToDeclaration_recovers : Recovers dropToDeclaration where
  suffix tokens := List.dropWhile_suffix _
  pastInvalid := by
    intro placed rest hinvalid
    obtain ⟨text, htoken⟩ := Token.isInvalid_iff.mp hinvalid
    have hopens : opensDeclaration placed.token = false := by
      simp [htoken, opensDeclaration, isDeclarationKeyword, Token.isPunct]
    rw [dropToDeclaration, List.dropWhile_cons_of_pos (by simp [hopens])]
    exact List.dropWhile_suffix _

/-- Recovery leaves the invalid token behind at which reading got stuck. -/
theorem Recovers.leavesInvalid {recover : List PlacedToken → List PlacedToken}
    (hrecover : Recovers recover) {placed : PlacedToken}
    (hinvalid : placed.token.isInvalid = true) (start more : List PlacedToken) :
    recover (resumeAfter start (placed :: more)) <:+ more := by
  unfold resumeAfter
  split
  · exact hrecover.suffix more
  · exact hrecover.pastInvalid placed more hinvalid

theorem mem_core_of_solid {start : Nat} {core trail : List Lexeme} {placed : PlacedToken}
    (htrail : AllTrivia trail) (hmem : placed ∈ placeLexemes start (core ++ trail))
    (hsolid : placed.token.isTrivia = false) : placed ∈ placeLexemes start core := by
  rw [placeLexemes_append, List.mem_append] at hmem
  rcases hmem with hmem | hmem
  · exact hmem
  · have htrivia := List.filter_eq_nil_iff.mp (filter_solid_of_allTrivia htrail) placed hmem
    simp [hsolid] at htrivia

/-- Input skipped because of a mismatch is kept with its text and its place, and
an invalid token that caused the mismatch is part of it. -/
theorem skipped_spells {recover : List PlacedToken → List PlacedToken}
    (hrecover : Recovers recover) {start : Nat} {row : List Lexeme} {mismatch : Mismatch}
    (hsource : Located source start row) (hne : row ≠ [])
    (hhead : ∀ first ∈ row.head?, first.token.isTrivia = false)
    (hstuck : mismatch.rest <:+ placeLexemes start row) :
    ∃ run left, row = run ++ left ∧
      recover (resumeAfter (placeLexemes start row) mismatch.rest) =
        placeLexemes (start + widthOf run) left ∧ run ≠ [] ∧
      SpellsSkipped start run (.between source (placeLexemes start row)
        (placeLexemes (start + widthOf run) left) mismatch) := by
  have hsuffix := hrecover.suffix (resumeAfter (placeLexemes start row) mismatch.rest)
  have hshorter := resumeAfter_length_lt _ _
    (List.ne_nil_of_length_pos (by simpa using List.length_pos_iff.mpr hne)) hstuck
  obtain ⟨run, left, rfl, hleft⟩ :=
    placeLexemes_suffix (hsuffix.trans (resumeAfter_suffix _ _ hstuck))
  have hrun : run ≠ [] := by
    rintro rfl
    have hlength := hsuffix.length_le
    rw [hleft, length_placeLexemes, List.nil_append] at hlength
    rw [length_placeLexemes, List.nil_append] at hshorter
    omega
  have hfirst : ∀ first ∈ run.head?, first.token.isTrivia = false := by
    intro first hmem
    apply hhead first
    rw [List.head?_append_of_ne_nil _ hrun]
    exact hmem
  obtain ⟨core, trail, rfl, hsolid, htrail, hspan⟩ :=
    coveredSpan_placeLexemes (startOffset source (placeLexemes start (run ++ left))) start hrun
      hfirst
  refine ⟨core ++ trail, left, rfl, hleft, hrun, ?_⟩
  have htokens : (placeLexemes start (core ++ trail ++ left)).take
      ((placeLexemes start (core ++ trail ++ left)).length -
        (placeLexemes (start + widthOf (core ++ trail)) left).length) =
        placeLexemes start (core ++ trail) := by
    rw [placeLexemes_append start (core ++ trail) left]
    simp
  have hplace : (Skipped.between source (placeLexemes start (core ++ trail ++ left))
      (placeLexemes (start + widthOf (core ++ trail)) left) mismatch).span = spanAt start core := by
    rw [Skipped.between, htokens]
    exact hspan
  refine .intro hsolid htrail ?_ hplace ?_
  · rw [List.append_assoc] at hsource
    exact (congrArg (sliceText source) hplace).trans hsource.sliceText
  · intro placed hfound hinvalid
    obtain ⟨text, htoken⟩ := Token.isInvalid_iff.mp hinvalid
    obtain ⟨more, hrest⟩ := List.head?_eq_some_iff.mp hfound
    obtain ⟨earlier, hearlier⟩ := hstuck
    rw [hrest] at hleft hearlier
    obtain ⟨between, hbetween⟩ := hrecover.leavesInvalid hinvalid _ more
    rw [hleft] at hbetween
    rw [← hbetween, placeLexemes_append start (core ++ trail) left, ← List.cons_append,
      ← List.append_assoc, List.append_cancel_right_eq] at hearlier
    apply mem_core_of_solid htrail
    · rw [← hearlier]
      simp
    · simp [htoken, Token.isTrivia]

/-- One round of reading a body, at its first token that is not trivia. -/
theorem bodyEntries_eq_of_cons (source : List Char) (rules : BodyRules α)
    {tokens rest : List PlacedToken} {placed : PlacedToken}
    (hdrop : dropTrivia tokens = placed :: rest) :
    bodyEntries source rules tokens =
      if placed.token.isPunct rules.closer then ([], some placed.span, rest)
      else if rules.stops (placed :: rest) then ([], none, placed :: rest)
      else
        match rules.entry.read (placed :: rest) with
        | .ok (entry, left) =>
          let (entries, close, behind) := bodyEntries source rules left
          (entry :: entries, close, behind)
        | .error mismatch =>
          let left := dropLine rules.closer (resumeAfter (placed :: rest) mismatch.rest)
          let (entries, close, behind) := bodyEntries source rules left
          (rules.skipped (.between source (placed :: rest) left mismatch) :: entries, close,
            behind) := by
  rw [bodyEntries]
  split
  · rename_i hnil
    rw [hdrop] at hnil
    cases hnil
  · rename_i hcons
    rw [hdrop] at hcons
    cases hcons
    congr 2
    split <;> simp_all

/-- An entry, read or skipped, and the rest of the entries behind it. -/
def EntryAt (Item : Nat → List Lexeme → α → Prop) (skip : Skipped → α) (start : Nat)
    (run : List Lexeme) (entry : α) : Prop :=
  Item start run entry ∨ ∃ input, entry = skip input ∧ SpellsSkipped start run input

theorem SpellsEntries.cons {Item : Nat → List Lexeme → α → Prop} {skip : Skipped → α}
    {start : Nat} {gap run rest : List Lexeme} {entry : α} {entries : List α}
    (hgap : AllTrivia gap) (hentry : EntryAt Item skip (start + widthOf gap) run entry)
    (hrest : SpellsEntries Item skip (start + widthOf (gap ++ run)) rest entries) :
    SpellsEntries Item skip start (gap ++ (run ++ rest)) (entry :: entries) := by
  rcases hentry with hitem | ⟨input, rfl, hinput⟩
  · exact .item hgap hitem hrest
  · exact .skipped hgap hinput hrest

/-- One round of a loop with recovery: an entry is read, or input is skipped as far
as `recover` says.  Either way a piece of the row is taken. -/
theorem round_spells (item : ItemReader α) {Item : Nat → List Lexeme → α → Prop}
    (hitem : item.read.Spells source fun start run a _ => Item start run a)
    {recover : List PlacedToken → List PlacedToken} (hrecover : Recovers recover)
    (skip : Skipped → α) {start : Nat} {row : List Lexeme} (hsource : Located source start row)
    (hne : row ≠ []) (hhead : ∀ first ∈ row.head?, first.token.isTrivia = false) :
    ∃ entry run left, row = run ++ left ∧ run ≠ [] ∧ EntryAt Item skip start run entry ∧
      (item.read (placeLexemes start row) =
          .ok (entry, placeLexemes (start + widthOf run) left) ∨
        ∃ mismatch, item.read (placeLexemes start row) = .error mismatch ∧
          recover (resumeAfter (placeLexemes start row) mismatch.rest) =
            placeLexemes (start + widthOf run) left ∧
          entry = skip (.between source (placeLexemes start row)
            (placeLexemes (start + widthOf run) left) mismatch)) := by
  cases hread : item.read (placeLexemes start row) with
  | ok found =>
      obtain ⟨entry, middle⟩ := found
      have hshorter := item.advances _ _ _ hread
      obtain ⟨run, left, rfl, rfl, hrun⟩ := hitem hsource hread
      rw [length_placeLexemes, length_placeLexemes, List.length_append] at hshorter
      exact ⟨entry, run, left, rfl, List.ne_nil_of_length_pos (by omega), .inl hrun, .inl rfl⟩
  | error mismatch =>
      obtain ⟨run, left, hrow, hleft, hrun, hskipped⟩ :=
        skipped_spells hrecover hsource hne hhead ((item.keeps _).2 _ hread)
      exact ⟨_, run, left, hrow, hrun, .inr ⟨_, rfl, hskipped⟩, .inr ⟨mismatch, rfl, hleft, rfl⟩⟩

/-- A round that does not end the body takes one entry. -/
theorem bodyEntries_step {rules : BodyRules α} {Item : Nat → List Lexeme → α → Prop}
    (hentry : rules.entry.read.Spells source fun start run a _ => Item start run a)
    {tokens : List PlacedToken} {start : Nat} {row : List Lexeme}
    (hsource : Located source start row) (hne : row ≠ [])
    (hhead : ∀ first ∈ row.head?, first.token.isTrivia = false)
    (hdrop : dropTrivia tokens = placeLexemes start row)
    (hcloser : atPunct rules.closer (placeLexemes start row).head? = false)
    (hstops : rules.stops (placeLexemes start row) = false) :
    ∃ entry run left, row = run ++ left ∧ run ≠ [] ∧
      EntryAt Item rules.skipped start run entry ∧
      bodyEntries source rules tokens =
        (entry :: (bodyEntries source rules (placeLexemes (start + widthOf run) left)).1,
          (bodyEntries source rules (placeLexemes (start + widthOf run) left)).2) := by
  obtain ⟨entry, run, left, hrow, hrun, hone, hround⟩ :=
    round_spells rules.entry hentry (dropLine_recovers rules.closer) rules.skipped hsource hne hhead
  refine ⟨entry, run, left, hrow, hrun, hone, ?_⟩
  obtain ⟨first, others, rfl⟩ := List.exists_cons_of_ne_nil hne
  rw [bodyEntries_eq_of_cons source rules (hdrop.trans (placeLexemes_cons ..)),
    ← placeLexemes_cons, if_neg (by simpa [atPunct] using hcloser),
    if_neg (Bool.not_eq_true _ ▸ hstops)]
  rcases hround with hread | ⟨mismatch, hread, hleft, rfl⟩
  · rw [hread]
  · simp only [hread, hleft]

/-- How a body ends: with its closing mark at byte `start`, or without it. -/
def ClosesBy (closing : Punct) (start : Nat) (run : List Lexeme) (closer : Option Span) : Prop :=
  (run = [] ∧ closer = none) ∨
    ∃ close, run = [close] ∧ close.token = .punct closing ∧ closer = some (spanAt start [close])

/-- The entries of a body are read or skipped one after the other, whatever the
input. -/
theorem bodyEntries_spells {rules : BodyRules α} {Item : Nat → List Lexeme → α → Prop}
    (hentry : rules.entry.read.Spells source fun start run a _ => Item start run a)
    {start : Nat} {row : List Lexeme} (hsource : Located source start row) :
    ∃ run tail left, row = run ++ (tail ++ left) ∧
      (bodyEntries source rules (placeLexemes start row)).2.2 =
        placeLexemes (start + widthOf (run ++ tail)) left ∧
      SpellsEntries Item rules.skipped start run
        (bodyEntries source rules (placeLexemes start row)).1 ∧
      ClosesBy rules.closer (start + widthOf run) tail
        (bodyEntries source rules (placeLexemes start row)).2.1 := by
  induction hlength : row.length using Nat.strong_induction_on generalizing start row with
  | _ length ih =>
  obtain ⟨gap, inner, rfl, hgap, hhead, hdrop⟩ := dropTrivia_placeLexemes start row
  rw [List.length_append] at hlength
  cases inner with
  | nil =>
      rw [bodyEntries, hdrop]
      exact ⟨gap, [], [], rfl, by simp, .nil hgap, .inl ⟨rfl, rfl⟩⟩
  | cons first others =>
      have hround := bodyEntries_eq_of_cons source rules
        (hdrop.trans (placeLexemes_cons ..))
      by_cases hclose : first.token.isPunct rules.closer = true
      · rw [hround, if_pos hclose]
        exact ⟨gap, [first], others, rfl, by simp [Nat.add_assoc], .nil hgap,
          .inr ⟨first, rfl, by simpa [Token.isPunct] using hclose, rfl⟩⟩
      · rw [if_neg hclose, ← placeLexemes_cons] at hround
        by_cases hstops : rules.stops (placeLexemes (start + widthOf gap) (first :: others)) = true
        · rw [hround, if_pos hstops]
          exact ⟨gap, [], first :: others, rfl, by simp, .nil hgap, .inl ⟨rfl, rfl⟩⟩
        · obtain ⟨entry, run, left, hrow, hrun, hone, hstep⟩ :=
            bodyEntries_step hentry hsource.right (List.cons_ne_nil first others) hhead hdrop
              (by simpa [atPunct] using hclose) (by simpa using hstops)
          have hpositive := List.length_pos_iff.mpr hrun
          rw [hrow, List.length_append] at hlength
          rw [hrow, ← List.append_assoc] at hsource
          rw [Nat.add_assoc, ← widthOf_append] at hstep
          obtain ⟨rest, tail, behind, rfl, hleft, hrest, hcloses⟩ :=
            ih left.length (by omega) hsource.right rfl
          rw [hstep, hrow]
          refine ⟨gap ++ (run ++ rest), tail, behind, by simp, ?_, .cons hgap hone hrest, ?_⟩
          · rw [hleft]
            simp [Nat.add_assoc]
          · simpa [Nat.add_assoc] using hcloses

/-- A body behind its opening mark. -/
def SpellsBody (Item : Nat → List Lexeme → α → Prop) (skip : Skipped → α) (closing : Punct)
    (start : Nat) (run : List Lexeme) (block : Block α) : Prop :=
  ∃ inside tail, run = inside ++ tail ∧ SpellsEntries Item skip start inside block.entries ∧
    ClosesBy closing (start + widthOf inside) tail block.closer

theorem body_spells (rules : BodyRules α) {Item : Nat → List Lexeme → α → Prop}
    (hentry : rules.entry.read.Spells source fun start run a _ => Item start run a)
    (opener : Span) :
    (body source rules opener).Spells source fun start run block _ =>
      block.opener = opener ∧ SpellsBody Item rules.skipped rules.closer start run block := by
  rintro start row block rest hsource ⟨⟩
  obtain ⟨run, tail, left, rfl, hleft, hrun, hcloses⟩ := bodyEntries_spells hentry hsource
  exact ⟨run ++ tail, left, by simp, hleft, rfl, run, tail, rfl, hrun, hcloses⟩

theorem SpellsBody.block {Item : Nat → List Lexeme → α → Prop} {skip : Skipped → α}
    {opening closing : Punct} {start : Nat} {opener : Lexeme} {run : List Lexeme}
    {block : Block α} (hopener : opener.token = .punct opening)
    (hplace : block.opener = spanAt start [opener])
    (hbody : SpellsBody Item skip closing (start + widthOf [opener]) run block) :
    SpellsBlock Item skip opening closing start (opener :: run) block := by
  obtain ⟨place, entries, closer⟩ := block
  obtain ⟨inside, tail, rfl, hentries, hcloses⟩ := hbody
  obtain rfl : place = spanAt start [opener] := hplace
  rcases hcloses with ⟨rfl, rfl⟩ | ⟨close, rfl, hclose, rfl⟩
  · rw [List.append_nil]
    exact .unclosed hopener hentries
  · have hblock := SpellsBlock.closed hopener hentries hclose
    rw [Nat.add_assoc, ← widthOf_append]
    exact hblock

end ApiLang
