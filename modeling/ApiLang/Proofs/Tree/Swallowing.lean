/-
Swallowed keywords.  Skipped input swallows a declaration keyword at the start of
a line only where reading got stuck at it behind the annotations of a route, where
its line begins inside a comment, or where it is the keyword of the annotated
service that could not be read.
-/
import ApiLang.Proofs.Tree.Accounting
import ApiLang.Proofs.Tree.QuietReaders

namespace ApiLang

variable {α β : Type} {source : List Char} {breaks : Token → Bool}

/-- The piece starts before the token and reaches at least to its end. -/
def Skipped.Swallows (piece : Skipped) (word : PlacedToken) : Prop :=
  piece.span.start < word.span.start ∧ word.span.stop ≤ piece.span.stop

/-- Tokens in a row, none of them empty. -/
structure Ordered (tokens : List PlacedToken) : Prop where
  proper : ∀ placed ∈ tokens, placed.span.start < placed.span.stop
  apart : tokens.Pairwise fun left right => left.span.stop ≤ right.span.start

theorem ordered_of_suffix {tokens : List PlacedToken} (htokens : tokens <:+ tokenize source) :
    Ordered tokens := by
  obtain ⟨hproper, hapart⟩ := (tokenize_tiles source).ordered
  exact ⟨fun placed hplaced => (hproper placed (htokens.mem hplaced)).2.1,
    hapart.sublist htokens.sublist⟩

theorem Ordered.sublist {tokens kept : List PlacedToken} (hordered : Ordered tokens)
    (hkept : kept.Sublist tokens) : Ordered kept :=
  ⟨fun placed hplaced => hordered.proper placed (hkept.subset hplaced),
    hordered.apart.sublist hkept⟩

/-- No token in a row reaches further than the last. -/
theorem Ordered.stop_le_last {init : List PlacedToken} {last : PlacedToken}
    (hordered : Ordered (init ++ [last])) :
    ∀ placed ∈ init ++ [last], placed.span.stop ≤ last.span.stop := by
  intro placed hplaced
  have hproper := hordered.proper last (by simp)
  rcases List.mem_append.mp hplaced with hplaced | hplaced
  · have hbefore := (List.pairwise_append.mp hordered.apart).2.2 placed hplaced last (by simp)
    omega
  · rw [List.mem_singleton.mp hplaced]

/-- The span that covers tokens in a row starts with the first of them and ends
with the last that is no trivia. -/
theorem coveredSpan_cons {placed : PlacedToken} {others : List PlacedToken}
    (hordered : Ordered (placed :: others)) (hsolid : placed.token.isTrivia = false)
    (offset : Nat) :
    (coveredSpan offset (placed :: others)).start = placed.span.start ∧
      (∃ last ∈ placed :: others,
        (coveredSpan offset (placed :: others)).stop = last.span.stop) ∧
      ∀ word ∈ placed :: others, word.token.isTrivia = false →
        word.span.stop ≤ (coveredSpan offset (placed :: others)).stop := by
  have hfilter : (placed :: others).filter (fun placed => !placed.token.isTrivia) =
      placed :: others.filter fun placed => !placed.token.isTrivia :=
    List.filter_cons_of_pos (by simp [hsolid])
  obtain ⟨init, last, hsplit⟩ := List.eq_nil_or_concat'
    (placed :: others.filter fun placed => !placed.token.isTrivia) |>.resolve_left
      (List.cons_ne_nil _ _)
  rw [hsplit] at hfilter
  have hkept := hordered.sublist (List.filter_sublist (p := fun placed => !placed.token.isTrivia))
  rw [hfilter] at hkept
  have hhead : (init ++ [last]).head? = some placed := by
    rw [← hsplit]
    rfl
  have hfirst : placed ∈ init ++ [last] := List.mem_of_mem_head? hhead
  have hlast : last ∈ placed :: others := by
    apply List.mem_of_mem_filter (p := fun placed => !placed.token.isTrivia)
    rw [hfilter]
    simp
  have hspan : coveredSpan offset (placed :: others) = placed.span.union last.span := by
    simp only [coveredSpan, hfilter, hhead, List.getLast?_concat]
  have hstart : placed.span.start ≤ last.span.start := by
    rcases List.mem_cons.mp hlast with rfl | hlast
    · exact le_refl _
    · have hbefore := (List.pairwise_cons.mp hordered.apart).1 last hlast
      have hproper := hordered.proper placed (by simp)
      omega
  have hstop := hkept.stop_le_last
  have hfirstStop := hstop placed hfirst
  rw [hspan]
  simp only [Span.union]
  refine ⟨by omega, ⟨last, hlast, by omega⟩, ?_⟩
  intro word hword hwordSolid
  have hwordMem : word ∈ init ++ [last] := by
    rw [← hfilter]
    exact List.mem_filter.mpr ⟨hword, by simp [hwordSolid]⟩
  have hwordStop := hstop word hwordMem
  omega

/-- The span of what was skipped, in terms of the tokens taken. -/
theorem Skipped.between_span (source : List Char) (taken left : List PlacedToken)
    (mismatch : Mismatch) :
    (Skipped.between source (taken ++ left) left mismatch).span =
      coveredSpan (startOffset source (taken ++ left)) taken := by
  simp [Skipped.between]

/-- Skipped input swallows all its tokens behind the first. -/
theorem swallows_of_mem {placed : PlacedToken} {taken left : List PlacedToken}
    (hordered : Ordered (placed :: taken)) (hsolid : placed.token.isTrivia = false)
    (mismatch : Mismatch) {word : PlacedToken} (hword : word ∈ taken)
    (hwordSolid : word.token.isTrivia = false) :
    (Skipped.between source (placed :: taken ++ left) left mismatch).Swallows word := by
  have hcovered := coveredSpan_cons hordered hsolid
    (startOffset source (placed :: taken ++ left))
  rw [Skipped.Swallows, Skipped.between_span, hcovered.1]
  have hproper := hordered.proper placed (by simp)
  have hbefore := (List.pairwise_cons.mp hordered.apart).1 word hword
  exact ⟨by omega, hcovered.2.2 word (List.mem_cons_of_mem placed hword) hwordSolid⟩

/-- A token of the input that skipped input swallows is one of those skipped, and
not the first. -/
theorem mem_of_swallows {before taken left : List PlacedToken} {placed : PlacedToken}
    (hordered : Ordered (before ++ (placed :: taken ++ left)))
    (hsolid : placed.token.isTrivia = false) (mismatch : Mismatch) {word : PlacedToken}
    (hword : word ∈ before ++ (placed :: taken ++ left))
    (hswallows : (Skipped.between source (placed :: taken ++ left) left mismatch).Swallows word) :
    word ∉ before ∧ word ≠ placed ∧ word ∉ left := by
  have hrow := (List.pairwise_append.mp hordered.apart)
  have htaken : Ordered (placed :: taken) :=
    hordered.sublist ((List.sublist_append_left _ left).trans (List.sublist_append_right before _))
  obtain ⟨hstart, ⟨last, hlast, hstop⟩, _⟩ := coveredSpan_cons htaken hsolid
    (startOffset source (placed :: taken ++ left))
  rw [Skipped.Swallows, Skipped.between_span, hstart, hstop] at hswallows
  have hproper := hordered.proper word hword
  refine ⟨?_, ?_, ?_⟩
  · intro hbefore
    have := hrow.2.2 word hbefore placed (by simp)
    omega
  · rintro rfl
    omega
  · intro hleft
    have := (List.pairwise_append.mp hrow.2.1).2.2 last hlast word hleft
    omega

/-- What is said of a step is said of its failures alone. -/
def Reader.Stuck (stuck : List PlacedToken → Prop) (reader : Reader α) : Prop :=
  ∀ tokens, Took (fun _ _ => True) (fun run _ => stuck run) tokens (reader tokens)

theorem Reader.OnLine.stuck_bind {first : Reader α} {next : α → Reader β} (hfirst : first.OnLine)
    (hnext : ∀ a, (next a).Stuck Unbroken) : (first >>= next).Stuck Unbroken := by
  intro tokens
  apply Took.bind (hfirst tokens)
  intro run a rest _ _ hrun
  exact (hnext a rest).imp (fun _ _ => id) fun _ _ => hrun.append

/-- Reading a body never fails. -/
theorem body_stuck {rules : BodyRules α} {opener : Span} {stuck : List PlacedToken → Prop}
    (make : Block α → β) :
    Reader.Stuck stuck (do
      let block ← body source rules opener
      pure (make block)) := by
  intro tokens
  obtain ⟨run, hrun⟩ := bodyEntries_suffix source rules tokens
  exact ⟨run, hrun.symm, trivial⟩

theorem structDef_rest_stuck (name : Spanned String) :
    Reader.Stuck Unbroken (do
      Reader.skipInline
      structWord
      let opener ← Reader.punct .leftBrace .leftBrace
      let body ← body source (structRules source) opener
      pure (⟨name, body⟩ : StructDef)) :=
  Reader.skipInline_onLine.stuck_bind fun _ => structWord_onLine.stuck_bind fun _ =>
    (Reader.punct_onLine _ _).stuck_bind fun _ => body_stuck _

/-- A struct that cannot be read goes wrong on the line it starts on. -/
theorem structDef_stuck : (structDef source).Stuck Unbroken :=
  (Reader.identifier_onLine _).stuck_bind structDef_rest_stuck

/-- A step from the start of a line, if `before` says so, that takes no declaration
keyword at the start of a line before it fails. -/
def Reader.StuckQuietly (before : Bool) (reader : Reader α) : Prop :=
  ∀ tokens, SolidAhead before tokens →
    Took (fun _ _ => True) (fun run _ => lineStarts Token.hasBreak before run = []) tokens
      (reader tokens)

namespace Reader

theorem Stuck.quietly {reader : Reader α} (hreader : reader.Stuck Unbroken) :
    reader.StuckQuietly false :=
  fun tokens _ => (hreader tokens).imp (fun _ _ => id) fun _ _ hrun =>
    (lineStarts_of_unbroken hrun).1

theorem Quiet.stuckQuietly {reader : Reader α} {before after : Bool}
    (hreader : reader.Quiet before after) : reader.StuckQuietly before :=
  fun tokens hahead => (hreader tokens hahead).imp (fun _ _ _ => trivial) fun _ _ hrun => hrun.1

theorem Quiet.stuck_bind {first : Reader α} {next : α → Reader β} {before middle : Bool}
    (hfirst : first.Quiet before middle) (hnext : ∀ a, (next a).StuckQuietly middle) :
    (first >>= next).StuckQuietly before := by
  intro tokens hahead
  have hstep := (hfirst tokens hahead).imp (fun _ _ => id) fun _ _ hrun => hrun.1
  apply Took.bind hstep
  rintro run a rest _ _ ⟨hrun, hmiddle, hsolid⟩
  exact (hnext a rest hsolid).imp (fun _ _ => id) fun _ _ =>
    lineStarts_append_eq_nil hrun hmiddle

/-- A mark that may be left out. -/
theorem eatPunct_stuck_bind {mark : Punct} {next : Option Span → Reader β} {before : Bool}
    (hsome : ∀ span, (next (some span)).StuckQuietly false)
    (hnone : (next none).StuckQuietly before) :
    (eatPunct mark >>= next).StuckQuietly before := by
  intro tokens hahead
  rcases eatPunct_cases mark next tokens with ⟨placed, others, rfl, htoken, hread⟩ | hread
  · rw [hread]
    change Took _ _ ([placed] ++ others) _
    refine (hsome placed.span others (solidAhead_false others)).prepend (fun _ _ => id) ?_
    intro run _ hrun
    rw [lineStarts_punct htoken, hrun]
  · rw [hread]
    exact hnone tokens hahead

/-- Nothing fails behind the last step. -/
theorem StuckQuietly.make {reader : Reader α} {before : Bool}
    (hreader : reader.StuckQuietly before) (make : α → β) :
    StuckQuietly before (do
      let a ← reader
      pure (make a)) := by
  intro tokens hahead
  apply Took.bind (hreader tokens hahead)
  intro run a rest _ _ _
  exact ⟨[], rfl, trivial⟩

end Reader

theorem structDef_stuckQuietly (before : Bool) : (structDef source).StuckQuietly before :=
  (Reader.identifier_quiet _ before).stuck_bind fun name => (structDef_rest_stuck name).quietly

theorem restOfDeclaration_stuckQuietly (word : Keyword) (start : Span) :
    (restOfDeclaration source word start).StuckQuietly false := by
  by_cases hword : word = .typeWord
  · rw [hword]
    refine (Reader.skipTrivia_quiet false).stuck_bind fun _ =>
      Reader.eatPunct_stuck_bind (fun opener => ?_) ?_
    · exact (body_stuck _).quietly
    · exact (structDef_stuckQuietly true).make _
  · exact (restOfDeclaration_quiet hword start).stuckQuietly

theorem restOfService_stuckQuietly (notes : List Annotation) (keyword : Span) :
    (restOfService source notes keyword).StuckQuietly false :=
  Reader.skipInline_onLine.quiet.stuck_bind fun _ => serviceName_onLine.quiet.stuck_bind fun _ =>
    (Reader.skipTrivia_quiet false).stuck_bind fun _ =>
      (Reader.punct_quiet _ _ true).stuck_bind fun _ => (body_stuck _).quietly

/-- A keyword of the language behind other tokens. -/
theorem lineStarts_append_cons {fresh : Bool} {run others : List PlacedToken}
    {placed : PlacedToken} (hsolid : placed.token.isTrivia = false)
    (hrun : lineStarts Token.hasBreak fresh run = [])
    (hothers : lineStarts Token.hasBreak false others = []) :
    ∀ word ∈ lineStarts Token.hasBreak fresh (run ++ placed :: others),
      word = placed ∧ atLineStart Token.hasBreak fresh run = true := by
  intro word hword
  rw [lineStarts_append, hrun, List.nil_append, lineStarts_cons_of_solid hsolid, hothers,
    List.append_nil] at hword
  split at hword
  · rename_i hfresh
    exact ⟨List.mem_singleton.mp hword, (Bool.and_eq_true_iff.mp hfresh).1⟩
  · cases hword

/-- The only declaration keyword at the start of a line that a failed attempt to
read a service takes is the keyword of that service, behind annotations. -/
theorem service_stuck {tokens : List PlacedToken} (hahead : SolidAhead true tokens) :
    Took (fun _ _ => True)
      (fun run _ => ∀ word ∈ lineStarts Token.hasBreak false run,
        word.token = .keyword .serviceWord ∧ atPunct .atSign tokens.head? = true)
      tokens (service source tokens) := by
  unfold service
  cases hnotes : annotations source tokens with
  | error mismatch =>
      rw [Reader.bind_error hnotes]
      have hquiet := @annotations_quiet source tokens hahead
      rw [hnotes] at hquiet
      obtain ⟨run, htokens, hnone, _⟩ := hquiet
      refine ⟨run, htokens, ?_⟩
      intro word hword
      have hmore := lineStarts_subset (fun _ => le_refl _) (Bool.false_le true) run hword
      rw [hnone] at hmore
      cases hmore
  | ok found =>
      obtain ⟨notes, rest⟩ := found
      obtain ⟨run, htokens, hrun, hstart⟩ := annotations_run hahead hnotes
      rw [Reader.bind_ok hnotes]
      rcases Reader.keyword_cases .serviceWord .serviceKeyword rest with
        ⟨placed, behind, rfl, htoken, hread⟩ | hread
      · rw [Reader.bind_ok hread]
        generalize atPunct .atSign tokens.head? = sign at hstart ⊢
        rw [htokens, List.append_cons]
        apply Took.prepend (restOfService_stuckQuietly notes placed.span behind
          (solidAhead_false behind))
        · exact fun _ _ => id
        · intro others _ hothers word hword
          rw [← List.append_cons] at hword
          obtain ⟨rfl, hfresh⟩ :=
            lineStarts_append_cons (by rw [htoken]; rfl) hrun hothers word hword
          exact ⟨htoken, (hstart hfresh).2⟩
      · rw [Reader.bind_error hread]
        refine ⟨run, htokens, ?_⟩
        intro word hword
        rw [hrun] at hword
        cases hword

/-- The same of a declaration. -/
theorem declaration_stuck {tokens : List PlacedToken} (hahead : SolidAhead true tokens) :
    Took (fun _ _ => True)
      (fun run _ => ∀ word ∈ lineStarts Token.hasBreak false run,
        word.token = .keyword .serviceWord ∧ atPunct .atSign tokens.head? = true)
      tokens (declaration source tokens) := by
  change Took _ _ tokens ((if atService tokens.head? then do
      let found ← service source
      pure (.service found)
    else do
      let found ← Reader.expect .declaration plainKeyword
      restOfDeclaration source found.1 found.2 : Reader Declaration) tokens)
  split
  · apply Took.bind (service_stuck hahead)
    intro run found rest _ _ _
    exact ⟨[], rfl, trivial⟩
  · have hquiet : Reader.StuckQuietly false (do
        let found ← Reader.expect .declaration plainKeyword
        restOfDeclaration source found.1 found.2) := by
      exact plainKeyword_onLine.quiet.stuck_bind fun found =>
        restOfDeclaration_stuckQuietly found.1 found.2
    apply (hquiet tokens (solidAhead_false tokens)).imp (fun _ _ => id)
    intro run _ hrun word hword
    rw [hrun] at hword
    cases hword

/-- What an attempt took before it failed. -/
theorem Scope.Fails.run {scope : Scope} {placed : PlacedToken} {others : List PlacedToken}
    {mismatch : Mismatch} (hfails : scope.Fails source (placed :: others) mismatch)
    (hsolid : placed.token.isTrivia = false) :
    ∃ run, placed :: others = run ++ mismatch.rest ∧
      (∀ word ∈ lineStarts Token.hasBreak false run, scope = .file ∧
        word.token = .keyword .serviceWord ∧ placed.token = .punct .atSign) ∧
      (scope = .group ∨ scope = .struct → atLineStart Token.hasBreak false run = false) ∧
      (scope = .service → SolidAhead (atLineStart Token.hasBreak false run) mismatch.rest) := by
  have hahead : SolidAhead true (placed :: others) := by
    intro _ first hfirst
    cases hfirst
    exact hsolid
  cases scope with
  | file =>
      have htook := @declaration_stuck source _ hahead
      rw [show declaration source (placed :: others) = .error mismatch from hfails] at htook
      obtain ⟨run, htokens, hwords⟩ := htook
      refine ⟨run, htokens, ?_, by simp, by simp⟩
      intro word hword
      obtain ⟨htoken, hsign⟩ := hwords word hword
      exact ⟨rfl, htoken, by simpa [atPunct, Token.isPunct] using hsign⟩
  | group =>
      have htook := @structDef_stuck source (placed :: others)
      rw [show structDef source (placed :: others) = .error mismatch from hfails] at htook
      obtain ⟨run, htokens, hrun⟩ := htook
      obtain ⟨hnone, hstart⟩ := lineStarts_of_unbroken hrun
      exact ⟨run, htokens, by simp [hnone], fun _ => hstart, by simp⟩
  | struct =>
      have htook := @member_onLine source (placed :: others)
      rw [show member source (placed :: others) = .error mismatch from hfails] at htook
      obtain ⟨run, htokens, hrun⟩ := htook
      obtain ⟨hnone, hstart⟩ := lineStarts_of_unbroken hrun
      exact ⟨run, htokens, by simp [hnone], fun _ => hstart, by simp⟩
  | service =>
      have htook := @route_quiet source (placed :: others) hahead
      rw [show route source (placed :: others) = .error mismatch from hfails] at htook
      obtain ⟨run, htokens, hnone, hstuck⟩ := htook
      have hmono := atLineStart_mono (fun token => le_refl (Token.hasBreak token))
        (Bool.false_le true) run
      refine ⟨run, htokens, ?_, by simp, fun _ => hstuck.mono hmono⟩
      intro word hword
      have hmore := lineStarts_subset (fun _ => le_refl _) (Bool.false_le true) run hword
      rw [hnone] at hmore
      cases hmore

def Token.isNewline : Token → Bool
  | .newline => true
  | _ => false

theorem Token.isNewline_le_hasBreak (token : Token) : token.isNewline ≤ token.hasBreak := by
  cases token <;> first | exact Bool.false_le _ | exact le_refl true

/-- Dropping the rest of a line drops a keyword behind a line break only if it is
the first token dropped. -/
theorem dropLine_lineStarts {closer : Punct} {fresh : Bool} {tokens taken : List PlacedToken}
    (htaken : tokens = taken ++ dropLine closer tokens) (hahead : SolidAhead fresh tokens) :
    ∀ word ∈ lineStarts Token.isNewline fresh taken,
      fresh = true ∧ tokens.head? = some word := by
  induction tokens generalizing taken fresh with
  | nil =>
      obtain ⟨rfl, _⟩ := List.nil_eq_append_iff.mp htaken
      simp [lineStarts]
  | cons placed rest ih =>
      rw [dropLine] at htaken
      split at htaken
      · rw [List.append_left_eq_self.mp htaken.symm]
        simp [lineStarts]
      · split at htaken
        · rename_i hbreak
          have hone : taken = [placed] := (List.append_left_inj rest).mp htaken.symm
          rw [hone]
          simp [lineStarts, hbreak, isDeclarationKeyword]
        · rename_i hbreak
          obtain ⟨between, hbetween⟩ := dropLine_suffix closer rest
          have hcons : taken = placed :: between := by
            apply (List.append_left_inj (dropLine closer rest)).mp
            rw [← htaken, List.cons_append, hbetween]
          have hstate : (placed.token.isTrivia && (fresh || placed.token.isNewline)) = false := by
            cases hfresh : fresh with
            | true => simp [hahead hfresh placed rfl]
            | false =>
                cases htoken : placed.token <;> first | rfl | exact absurd htoken hbreak
          rw [hcons]
          intro word hword
          rcases List.mem_append.mp hword with hword | hword
          · split at hword
            · rename_i hfirst
              rw [List.mem_singleton.mp hword]
              exact ⟨(Bool.and_eq_true_iff.mp hfirst).1, rfl⟩
            · cases hword
          · rw [hstate] at hword
            exact absurd (ih hbetween.symm (solidAhead_false rest) word hword).1 (by simp)

/-- Recovery drops a keyword behind a line break only in a body, as the first token.
Comments with a line break inside count for a file, and not for a body. -/
theorem Scope.recover_lineStarts {scope : Scope} {fresh : Bool} {tokens taken : List PlacedToken}
    (hbreaks : scope ≠ .file → breaks = Token.isNewline)
    (htaken : tokens = taken ++ scope.recover tokens)
    (hahead : scope ≠ .file → SolidAhead fresh tokens) :
    ∀ word ∈ lineStarts breaks fresh taken,
      scope ≠ .file ∧ fresh = true ∧ tokens.head? = some word := by
  intro word hword
  cases scope with
  | file =>
      have hdropped : taken = tokens.takeWhile fun placed => !opensDeclaration placed.token := by
        apply (List.append_left_inj (dropToDeclaration tokens)).mp
        rw [dropToDeclaration, List.takeWhile_append_dropWhile]
        exact htaken.symm
      obtain ⟨hmem, hkeyword⟩ := mem_of_mem_lineStarts hword
      rw [hdropped] at hmem
      have hplain := List.all_eq_true.mp (List.all_takeWhile ..) word hmem
      simp [opensDeclaration, hkeyword] at hplain
  | group | struct | service =>
      rw [hbreaks (by simp)] at hword
      exact ⟨by simp, dropLine_lineStarts htaken (hahead (by simp)) word hword⟩

/-- A keyword that skipped input swallows was taken on the way, behind its first
token. -/
theorem lineStarts_taken {before taken left : List PlacedToken} {placed : PlacedToken}
    {mismatch : Mismatch} (htokens : before ++ (placed :: taken ++ left) = tokenize source)
    (hsolid : placed.token.isTrivia = false) {word : PlacedToken}
    (hword : word ∈ lineStarts breaks true (tokenize source))
    (hswallows : (Skipped.between source (placed :: taken ++ left) left mismatch).Swallows word) :
    word ∈ lineStarts breaks false taken := by
  have hmem := (mem_of_mem_lineStarts hword).1
  rw [← htokens] at hword hmem
  have hordered : Ordered (before ++ (placed :: taken ++ left)) := by
    rw [htokens]
    exact ordered_of_suffix (List.suffix_refl _)
  obtain ⟨hbefore, hfirst, hleft⟩ := mem_of_swallows hordered hsolid mismatch hmem hswallows
  rw [lineStarts_append, List.cons_append, lineStarts_cons_of_solid hsolid, lineStarts_append]
    at hword
  rcases List.mem_append.mp hword with hword | hword
  · exact absurd (mem_of_mem_lineStarts hword).1 hbefore
  rcases List.mem_append.mp hword with hword | hword
  · split at hword
    · exact absurd (List.mem_singleton.mp hword) hfirst
    · cases hword
  rcases List.mem_append.mp hword with hword | hword
  · exact hword
  · exact absurd (mem_of_mem_lineStarts hword).1 hleft

/-- Why skipped input swallows a keyword behind a line break: the keyword is that of
the annotated service that could not be read, or reading a route got stuck at it. -/
theorem Finding.Traced.swallows {scope : Scope} {piece : Skipped} {word : PlacedToken}
    (htraced : (Finding.skipped scope piece).Traced source (tokenize source))
    (hfewer : ∀ token, breaks token ≤ token.hasBreak)
    (hbreaks : scope ≠ .file → breaks = Token.isNewline)
    (hword : word ∈ lineStarts breaks true (tokenize source)) (hswallows : piece.Swallows word) :
    (scope = .file ∧ word.token = .keyword .serviceWord ∧
      ∃ sign ∈ tokenize source, sign.token = .punct .atSign ∧
        sign.span.start = piece.span.start) ∨
      (scope = .service ∧ piece.found = some word) := by
  obtain ⟨placed, others, mismatch, ⟨before, hbefore⟩, hsolid, hfails, rfl⟩ := htraced
  obtain ⟨run, hrun, hwords, hline, hahead⟩ := hfails.run hsolid
  cases run with
  | nil =>
      -- Reading got stuck at the first token, which recovery drops.
      rw [List.nil_append] at hrun
      rw [resumeAfter, ← hrun, if_pos rfl, List.tail_cons] at hswallows
      obtain ⟨taken, htaken⟩ := scope.recovers.suffix others
      have hrecover := Scope.recover_lineStarts hbreaks htaken.symm
        fun _ => solidAhead_false others
      generalize scope.recover others = left at hswallows htaken
      subst htaken
      have hinside := lineStarts_taken hbefore hsolid hword hswallows
      exact absurd (hrecover word hinside).2.1 (by simp)
  | cons first run =>
      rw [List.cons_append, List.cons.injEq] at hrun
      obtain ⟨rfl, rfl⟩ := hrun
      rw [resumeAfter, if_neg (by simp; omega)] at hswallows ⊢
      obtain ⟨taken, htaken⟩ := scope.recovers.suffix mismatch.rest
      have hstart := atLineStart_mono hfewer (le_refl false) run
      rw [atLineStart_cons_of_solid hsolid] at hline hahead
      have hbody : scope ≠ .file → SolidAhead (atLineStart breaks false run) mismatch.rest := by
        intro hscope
        cases scope with
        | file => exact absurd rfl hscope
        | group | struct =>
            rw [hline (by simp)] at hstart
            exact (solidAhead_false _).mono hstart
        | service => exact (hahead rfl).mono hstart
      have hsplit : run ++ mismatch.rest = run ++ taken ++ scope.recover mismatch.rest := by
        rw [List.append_assoc, htaken]
      rw [hsplit] at hswallows hbefore ⊢
      have hinside := lineStarts_taken hbefore hsolid hword hswallows
      rw [lineStarts_append] at hinside
      rcases List.mem_append.mp hinside with hinside | hinside
      · have hmore := lineStarts_subset hfewer (le_refl false) run hinside
        obtain ⟨hscope, htoken, hsign⟩ := hwords word (by simpa [lineStarts, hsolid] using hmore)
        refine .inl ⟨hscope, htoken, placed, ?_, hsign, ?_⟩
        · rw [← hbefore]
          simp
        · have hordered : Ordered (placed :: (run ++ taken)) := by
            have hall := ordered_of_suffix (List.suffix_refl (tokenize source))
            rw [← hbefore, ← List.cons_append] at hall
            exact hall.sublist ((List.sublist_append_left _ _).trans
              (List.sublist_append_right before _))
          rw [← List.cons_append, Skipped.between_span]
          exact (coveredSpan_cons hordered hsolid _).1.symm
      · obtain ⟨hscope, hfresh, hhead⟩ :=
          Scope.recover_lineStarts hbreaks htaken.symm hbody word hinside
        refine .inr ⟨?_, hhead⟩
        cases scope with
        | file => exact absurd rfl hscope
        | service => rfl
        | group | struct =>
            rw [hline (by simp), hfresh] at hstart
            exact absurd hstart (by decide)

end ApiLang
