/-
Recovery and the next declaration.  A declaration keyword at the start of a line
opens a declaration, or belongs to an annotated service, unless skipped input
swallows it, for one of the reasons there are.
-/
import ApiLang.Proofs.Tree.Swallowing

namespace ApiLang

variable {α β : Type} {source : List Char}

/-- Some piece among the findings swallows the token. -/
def SwallowedIn (findings : List Finding) (word : PlacedToken) : Prop :=
  ∃ piece ∈ skippedOf findings, piece.Swallows word

/-- What a step makes of tokens of the source answers for the declaration keywords
that it took at the start of a line. -/
def Reader.Answers (source : List Char) (before : Bool) (answers : α → PlacedToken → Prop)
    (reader : Reader α) : Prop :=
  ∀ tokens a rest, tokens <:+ tokenize source → SolidAhead before tokens →
    reader tokens = .ok (a, rest) →
      ∃ run, tokens = run ++ rest ∧
        ∀ word ∈ lineStarts Token.hasBreak before run, answers a word

namespace Reader

theorem Quiet.answers_bind {first : Reader α} {next : α → Reader β} {before middle : Bool}
    {answers : β → PlacedToken → Prop} (hfirst : first.Quiet before middle)
    (hnext : ∀ a, (next a).Answers source middle answers) :
    (first >>= next).Answers source before answers := by
  intro tokens b rest htokens hahead hread
  obtain ⟨a, left, hreadFirst, hreadNext⟩ := bind_eq_ok hread
  have htook := hfirst tokens hahead
  rw [hreadFirst] at htook
  obtain ⟨run, rfl, hrun, hmiddle, hsolid⟩ := htook
  obtain ⟨others, rfl, hothers⟩ :=
    hnext a left b rest ((List.suffix_append run left).trans htokens) hsolid hreadNext
  refine ⟨run ++ others, by simp, ?_⟩
  intro word hword
  rw [lineStarts_append, hrun, List.nil_append] at hword
  exact hothers word (lineStarts_subset (fun _ => le_refl _) hmiddle others hword)

theorem Quiet.answers {reader : Reader α} {before after : Bool}
    (hreader : reader.Quiet before after) (answers : α → PlacedToken → Prop) :
    reader.Answers source before answers := by
  intro tokens a rest _ hahead hread
  have htook := hreader tokens hahead
  rw [hread] at htook
  obtain ⟨run, htokens, hrun, _⟩ := htook
  exact ⟨run, htokens, by simp [hrun]⟩

theorem Answers.make {reader : Reader α} {before : Bool} (make : α → β)
    {answers : β → PlacedToken → Prop}
    (hreader : reader.Answers source before fun a => answers (make a)) :
    Answers source before answers (do
      let a ← reader
      pure (make a)) := by
  intro tokens b rest htokens hahead hread
  obtain ⟨a, _, hreadFirst, ⟨⟩⟩ := bind_eq_ok hread
  exact hreader tokens a _ htokens hahead hreadFirst

end Reader

theorem dropTrivia_gap (tokens : List PlacedToken) :
    ∃ gap, tokens = gap ++ dropTrivia tokens ∧
      ∀ fresh, lineStarts Token.hasBreak fresh gap = [] := by
  refine ⟨tokens.takeWhile fun placed => placed.token.isTrivia,
    List.takeWhile_append_dropWhile.symm, ?_⟩
  intro fresh
  apply lineStarts_eq_nil
  intro placed hplaced
  exact isDeclarationKeyword_of_isTrivia
    (List.all_eq_true.mp (List.all_takeWhile ..) placed hplaced)

/-- Behind a first token that is no keyword the state at the front plays no
part. -/
theorem lineStarts_of_plain {placed : PlacedToken} (hsolid : placed.token.isTrivia = false)
    (hplain : isDeclarationKeyword placed.token = false) (fresh : Bool)
    (others : List PlacedToken) :
    lineStarts Token.hasBreak fresh (placed :: others) =
      lineStarts Token.hasBreak false others := by
  simp [lineStarts, hsolid, hplain]

/-- Recovery leaves at least the first token behind. -/
theorem Recovers.suffix_others {recover : List PlacedToken → List PlacedToken}
    (hrecover : Recovers recover) {placed : PlacedToken} {others rest : List PlacedToken}
    (hwithin : rest <:+ placed :: others) :
    recover (resumeAfter (placed :: others) rest) <:+ others := by
  have hsuffix := hrecover.suffix (resumeAfter (placed :: others) rest)
  have hshorter := resumeAfter_length_lt (placed :: others) rest (by simp) hwithin
  have hdropped := hsuffix.length_le
  rw [List.length_cons] at hshorter
  exact List.suffix_of_suffix_length_le (hsuffix.trans (resumeAfter_suffix _ _ hwithin))
    (List.suffix_cons placed others) (by omega)

/-- A piece answers for the declaration keywords in it, the first token aside. -/
theorem skipped_answers {scope : Scope} {placed : PlacedToken} {taken left : List PlacedToken}
    {mismatch : Mismatch} (htokens : placed :: taken ++ left <:+ tokenize source)
    (hsolid : placed.token.isTrivia = false) {word : PlacedToken} {fresh : Bool}
    (hword : word ∈ lineStarts Token.hasBreak fresh taken) :
    SwallowedIn [.skipped scope (.between source (placed :: taken ++ left) left mismatch)]
      word := by
  obtain ⟨hmem, hkeyword⟩ := mem_of_mem_lineStarts hword
  have hordered := (ordered_of_suffix htokens).sublist (List.sublist_append_left _ left)
  refine ⟨_, List.mem_singleton_self _, swallows_of_mem hordered hsolid mismatch hmem ?_⟩
  cases htrivia : word.token.isTrivia with
  | false => rfl
  | true =>
      rw [isDeclarationKeyword_of_isTrivia htrivia] at hkeyword
      cases hkeyword

/-- A run made of trivia, an entry and the rest of the entries. -/
theorem lineStarts_of_parts {gap taken run : List PlacedToken} {fresh : Bool}
    (hgap : ∀ fresh, lineStarts Token.hasBreak fresh gap = []) {word : PlacedToken}
    (hword : word ∈ lineStarts Token.hasBreak fresh (gap ++ (taken ++ run))) :
    (∃ fresh, word ∈ lineStarts Token.hasBreak fresh taken) ∨
      word ∈ lineStarts Token.hasBreak (atLineStart Token.hasBreak
        (atLineStart Token.hasBreak fresh gap) taken) run := by
  rw [lineStarts_append, hgap, List.nil_append, lineStarts_append] at hword
  rcases List.mem_append.mp hword with hword | hword
  · exact .inl ⟨_, hword⟩
  · exact .inr hword

/-- The entries of a body answer for all declaration keywords at the start of a line
up to its end: those that are not left behind are swallowed. -/
theorem bodyEntries_answers (scope : Scope) {rules : BodyRules α} {ofEntry : α → List Finding}
    (hskip : ∀ input, ofEntry (rules.skipped input) = [.skipped scope input])
    (hstops : ∀ placed rest, rules.stops (placed :: rest) = false →
      isDeclarationKeyword placed.token = false)
    (hentry : ∀ tokens entry left, tokens <:+ tokenize source → SolidAhead true tokens →
      rules.entry.read tokens = .ok (entry, left) → ∃ run, tokens = run ++ left ∧
        ∀ word ∈ lineStarts Token.hasBreak false run, SwallowedIn (ofEntry entry) word)
    {tokens : List PlacedToken} (htokens : tokens <:+ tokenize source) (fresh : Bool) :
    ∃ run, tokens = run ++ (bodyEntries source rules tokens).2.2 ∧
      ∀ word ∈ lineStarts Token.hasBreak fresh run,
        ∃ entry ∈ (bodyEntries source rules tokens).1, SwallowedIn (ofEntry entry) word := by
  fun_induction bodyEntries source rules tokens generalizing fresh with
  | case1 tokens hdrop =>
      obtain ⟨gap, hgap, hnone⟩ := dropTrivia_gap tokens
      exact ⟨gap, hdrop ▸ hgap, by simp [hnone]⟩
  | case2 tokens placed others hdrop hclose =>
      obtain ⟨gap, hgap, hnone⟩ := dropTrivia_gap tokens
      have hplain : isDeclarationKeyword placed.token = false := by
        rw [show placed.token = .punct rules.closer by simpa [Token.isPunct] using hclose]
        rfl
      refine ⟨gap ++ [placed], by simpa [hdrop] using hgap, ?_⟩
      simp [lineStarts_append, hnone, lineStarts, hplain]
  | case3 tokens placed others hdrop _ hstop =>
      obtain ⟨gap, hgap, hnone⟩ := dropTrivia_gap tokens
      exact ⟨gap, hdrop ▸ hgap, by simp [hnone]⟩
  | case4 tokens placed others hdrop hclose hstop entry left hread entries close behind hinner
      ih =>
      obtain ⟨gap, hgap, hnone⟩ := dropTrivia_gap tokens
      have hahead := dropTrivia_solidAhead true tokens
      have hsuffix : placed :: others <:+ tokenize source :=
        (hdrop ▸ dropTrivia_suffix tokens).trans htokens
      rw [hdrop] at hgap hahead
      have hsolid := hahead rfl placed rfl
      have hplain := hstops placed others (Bool.eq_false_iff.mpr hstop)
      obtain ⟨taken, htaken, hwords⟩ := hentry _ entry left hsuffix hahead hread
      have hshorter := rules.entry.advances _ _ _ hread
      cases taken with
      | nil =>
          rw [htaken, List.nil_append] at hshorter
          exact absurd hshorter (lt_irrefl _)
      | cons first taken =>
          rw [List.cons_append, List.cons.injEq] at htaken
          obtain ⟨rfl, rfl⟩ := htaken
          obtain ⟨run, hleft, hrun⟩ := ih
            ((List.suffix_append (placed :: taken) left).trans hsuffix)
            (atLineStart Token.hasBreak (atLineStart Token.hasBreak fresh gap) (placed :: taken))
          simp only [hinner] at hleft hrun
          refine ⟨gap ++ (placed :: taken ++ run), ?_, ?_⟩
          · rw [hgap]
            nth_rewrite 1 [hleft]
            simp
          · intro word hword
            rcases lineStarts_of_parts hnone hword with ⟨_, hword⟩ | hword
            · rw [lineStarts_of_plain hsolid hplain] at hword
              refine ⟨entry, List.mem_cons_self, hwords word ?_⟩
              rwa [lineStarts_of_plain hsolid hplain]
            · obtain ⟨other, hother, hswallowed⟩ := hrun word hword
              exact ⟨other, List.mem_cons_of_mem entry hother, hswallowed⟩
  | case5 tokens placed others hdrop hclose hstop mismatch hread left entries close behind hinner
      ih =>
      obtain ⟨gap, hgap, hnone⟩ := dropTrivia_gap tokens
      have hahead := dropTrivia_solidAhead true tokens
      have hsuffix : placed :: others <:+ tokenize source :=
        (hdrop ▸ dropTrivia_suffix tokens).trans htokens
      rw [hdrop] at hgap hahead
      have hsolid := hahead rfl placed rfl
      have hplain := hstops placed others (Bool.eq_false_iff.mpr hstop)
      obtain ⟨taken, htaken⟩ := (dropLine_recovers rules.closer).suffix_others
        ((rules.entry.keeps _).2 _ hread)
      obtain ⟨run, hleft, hrun⟩ := ih ((List.suffix_append taken left).trans
        (htaken ▸ (List.suffix_cons placed others).trans hsuffix))
        (atLineStart Token.hasBreak (atLineStart Token.hasBreak fresh gap) (placed :: taken))
      simp only [hinner] at hleft hrun
      change taken ++ left = others at htaken
      clear_value left
      subst htaken
      refine ⟨gap ++ (placed :: taken ++ run), ?_, ?_⟩
      · rw [hgap]
        nth_rewrite 1 [hleft]
        simp
      · intro word hword
        rcases lineStarts_of_parts hnone hword with ⟨_, hword⟩ | hword
        · rw [lineStarts_of_plain hsolid hplain] at hword
          refine ⟨_, List.mem_cons_self, ?_⟩
          rw [hskip]
          exact skipped_answers hsuffix hsolid hword
        · obtain ⟨other, hother, hswallowed⟩ := hrun word hword
          exact ⟨other, List.mem_cons_of_mem _ hother, hswallowed⟩

theorem body_answers (scope : Scope) {rules : BodyRules α} {ofEntry : α → List Finding}
    (hskip : ∀ input, ofEntry (rules.skipped input) = [.skipped scope input])
    (hstops : ∀ placed rest, rules.stops (placed :: rest) = false →
      isDeclarationKeyword placed.token = false)
    (hentry : ∀ tokens entry left, tokens <:+ tokenize source → SolidAhead true tokens →
      rules.entry.read tokens = .ok (entry, left) → ∃ run, tokens = run ++ left ∧
        ∀ word ∈ lineStarts Token.hasBreak false run, SwallowedIn (ofEntry entry) word)
    (opening closing : Punct) (opener : Span) (before : Bool) :
    (body source rules opener).Answers source before fun block =>
      SwallowedIn (block.findings ofEntry opening closing) := by
  rintro tokens block rest htokens _ ⟨⟩
  obtain ⟨run, hrun, hwords⟩ := bodyEntries_answers scope hskip hstops hentry htokens before
  refine ⟨run, hrun, ?_⟩
  intro word hword
  obtain ⟨entry, hmem, piece, hpiece, hswallows⟩ := hwords word hword
  refine ⟨piece, ?_, hswallows⟩
  rw [Block.skippedOf_findings]
  exact List.mem_flatMap.mpr ⟨entry, hmem, hpiece⟩

theorem not_isDeclarationKeyword_of_not_opens {placed : PlacedToken} (rest : List PlacedToken)
    (hstops : ((placed :: rest).head?.any fun placed => opensDeclaration placed.token) = false) :
    isDeclarationKeyword placed.token = false := by
  have hopens : opensDeclaration placed.token = false := by simpa using hstops
  exact (Bool.or_eq_false_iff.mp hopens).1

theorem structDef_answers (before : Bool) :
    (structDef source).Answers source before fun struct => SwallowedIn struct.findings := by
  refine (Reader.identifier_quiet _ before).answers_bind fun name =>
    Reader.skipInline_onLine.quiet.answers_bind fun _ =>
      structWord_onLine.quiet.answers_bind fun _ =>
        (Reader.punct_quiet _ _ false).answers_bind fun opener => ?_
  apply Reader.Answers.make
  apply body_answers .struct (fun _ => rfl)
  · intro placed rest
    exact not_isDeclarationKeyword_of_not_opens rest
  · intro tokens line left htokens _ hread
    exact member_onLine.quiet.answers (fun line => SwallowedIn line.findings) tokens line left
      htokens (solidAhead_false tokens) hread

theorem restOfService_answers (notes : List Annotation) (keyword : Span) :
    (restOfService source notes keyword).Answers source false fun block =>
      SwallowedIn (block.body.findings ServiceEntry.findings .leftBrace .rightBrace) := by
  refine Reader.skipInline_onLine.quiet.answers_bind fun _ =>
    serviceName_onLine.quiet.answers_bind fun name =>
      (Reader.skipTrivia_quiet false).answers_bind fun _ =>
        (Reader.punct_quiet _ _ true).answers_bind fun opener => ?_
  apply Reader.Answers.make
  apply body_answers .service (fun _ => rfl)
  · intro placed rest hstops
    exact (Bool.or_eq_false_iff.mp hstops).1
  · intro tokens entry left htokens hahead hread
    have hquiet := (@route_quiet source).bind fun found =>
      Reader.pure_quiet (ServiceEntry.route found) false
    obtain ⟨run, hrun, hwords⟩ := hquiet.answers (fun entry => SwallowedIn entry.findings)
      tokens entry left htokens hahead hread
    exact ⟨run, hrun, fun word hword => hwords word
      (lineStarts_subset (fun _ => le_refl _) (Bool.false_le true) run hword)⟩

theorem restOfService_eq_ok {notes : List Annotation} {keyword : Span} {block : Service}
    {tokens rest : List PlacedToken}
    (hread : restOfService source notes keyword tokens = .ok (block, rest)) :
    block.annotations = notes ∧ block.keyword = keyword := by
  obtain ⟨_, _, _, hread⟩ := Reader.bind_eq_ok hread
  obtain ⟨_, _, _, hread⟩ := Reader.bind_eq_ok hread
  obtain ⟨_, _, _, hread⟩ := Reader.bind_eq_ok hread
  obtain ⟨_, _, _, hread⟩ := Reader.bind_eq_ok hread
  obtain ⟨_, _, _, ⟨⟩⟩ := Reader.bind_eq_ok hread
  exact ⟨rfl, rfl⟩

/-- The keyword is that of an annotated service, or swallowed in the declaration. -/
def Declaration.AnswersFor (found : Declaration) (word : PlacedToken) : Prop :=
  (∃ block, found = .service block ∧ block.annotations ≠ [] ∧ block.keyword = word.span) ∨
    SwallowedIn found.findings word

theorem service_answers {tokens rest : List PlacedToken} {block : Service}
    (htokens : tokens <:+ tokenize source) (hahead : SolidAhead true tokens)
    (hread : service source tokens = .ok (block, rest)) :
    ∃ run, tokens = run ++ rest ∧ ∀ word ∈ lineStarts Token.hasBreak false run,
      (Declaration.service block).AnswersFor word := by
  obtain ⟨notes, middle, hnotes, hreadService⟩ := Reader.bind_eq_ok hread
  obtain ⟨run, rfl, hrun, hstart⟩ := annotations_run hahead hnotes
  rcases Reader.keyword_cases .serviceWord .serviceKeyword middle with
    ⟨placed, behind, rfl, htoken, hkeyword⟩ | hkeyword
  · rw [Reader.bind_ok hkeyword] at hreadService
    obtain ⟨rfl, hspan⟩ := restOfService_eq_ok hreadService
    have hbehind : behind <:+ tokenize source :=
      ((List.suffix_cons placed behind).trans (List.suffix_append run _)).trans htokens
    obtain ⟨others, rfl, hothers⟩ := restOfService_answers _ _ behind block rest hbehind
      (solidAhead_false behind) hreadService
    refine ⟨run ++ placed :: others, by simp, ?_⟩
    intro word hword
    rw [lineStarts_append, hrun, List.nil_append,
      lineStarts_cons_of_solid (by rw [htoken]; rfl)] at hword
    rcases List.mem_append.mp hword with hword | hword
    · split at hword
      · rename_i hfresh
        rw [List.mem_singleton.mp hword]
        exact .inl ⟨block, rfl, (hstart (Bool.and_eq_true_iff.mp hfresh).1).1, hspan⟩
      · cases hword
    · exact .inr (hothers word hword)
  · rw [Reader.bind_error hkeyword] at hreadService
    cases hreadService

theorem Reader.eatPunct_answers_bind {mark : Punct} {next : Option Span → Reader β}
    {before : Bool} {answers : β → PlacedToken → Prop}
    (hsome : ∀ span, (next (some span)).Answers source false answers)
    (hnone : (next none).Answers source before answers) :
    (eatPunct mark >>= next).Answers source before answers := by
  intro tokens b rest htokens hahead hread
  rcases eatPunct_cases mark next tokens with ⟨placed, others, rfl, htoken, heat⟩ | heat
  · rw [heat] at hread
    obtain ⟨run, rfl, hrun⟩ := hsome placed.span others b rest
      ((List.suffix_cons placed others).trans htokens) (solidAhead_false others) hread
    refine ⟨[placed] ++ run, rfl, ?_⟩
    rwa [lineStarts_punct htoken]
  · rw [heat] at hread
    exact hnone tokens b rest htokens hahead hread

theorem typeDecl_answers (start : Span) :
    (typeDecl source start).Answers source false fun found => SwallowedIn found.findings := by
  refine (Reader.skipTrivia_quiet false).answers_bind fun _ =>
    Reader.eatPunct_answers_bind (fun opener => ?_) ?_
  · apply Reader.Answers.make
    apply body_answers .group (fun _ => rfl)
    · intro placed rest
      exact not_isDeclarationKeyword_of_not_opens rest
    · intro tokens entry left htokens _ hread
      have hentry : (typeGroupRules source).entry.read.Answers source false fun entry =>
          SwallowedIn entry.findings := .make TypeEntry.struct (structDef_answers false)
      exact hentry tokens entry left htokens (solidAhead_false tokens) hread
  · exact Reader.Answers.make _ (structDef_answers true)

theorem restOfDeclaration_answers (word : Keyword) (start : Span) :
    (restOfDeclaration source word start).Answers source false fun found =>
      SwallowedIn found.findings := by
  by_cases hword : word = .typeWord
  · rw [hword]
    exact typeDecl_answers start
  · exact (restOfDeclaration_quiet hword start).answers _

/-- A declaration answers for the declaration keywords at the start of a line
behind its first token. -/
theorem declaration_answers {tokens rest : List PlacedToken} {found : Declaration}
    (htokens : tokens <:+ tokenize source) (hahead : SolidAhead true tokens)
    (hread : declaration source tokens = .ok (found, rest)) :
    ∃ run, tokens = run ++ rest ∧
      ∀ word ∈ lineStarts Token.hasBreak false run, found.AnswersFor word := by
  obtain ⟨next, _, ⟨⟩, hread⟩ := Reader.bind_eq_ok hread
  split at hread
  · obtain ⟨block, _, hreadService, ⟨⟩⟩ := Reader.bind_eq_ok hread
    exact service_answers htokens hahead hreadService
  · have hanswers : Reader.Answers source false (fun found => SwallowedIn found.findings) (do
        let found ← Reader.expect .declaration plainKeyword
        restOfDeclaration source found.1 found.2) :=
      plainKeyword_onLine.quiet.answers_bind fun found =>
        restOfDeclaration_answers found.1 found.2
    obtain ⟨run, hrun, hwords⟩ := hanswers _ found rest htokens (solidAhead_false _) hread
    exact ⟨run, hrun, fun word hword => .inr (hwords word hword)⟩

/-- A declaration starts where its row starts. -/
theorem SpellsDeclaration.span_start {start : Nat} {run : List Lexeme} {found : Declaration}
    (hfound : SpellsDeclaration start run found) : found.span.start = start := by
  cases hfound with
  | version | info | importOne | imports => rfl
  | struct _ _ hstruct =>
      obtain ⟨⟨hstart, _, _⟩, _⟩ := hstruct.spansIn
      simp only [Declaration.span, TypeBody.last, Span.union, spanAt, widthOf_cons] at hstart ⊢
      omega
  | types _ _ hblock =>
      obtain ⟨⟨hstart, _, _⟩, _⟩ := hblock.spansIn TypeEntry.span
        (fun start run entry hentry => hentry.between) (fun input => rfl)
      simp only [Declaration.span, TypeBody.last, Span.union, spanAt, widthOf_cons] at hstart ⊢
      omega
  | service hservice =>
      obtain ⟨hnotes, _, _, _, _, _, _, hbody⟩ := hservice
      obtain ⟨hlast, _⟩ := hbody.spansIn ServiceEntry.span
        (fun start run entry hentry => hentry.between) (fun input => rfl)
      simp only [Span.Between, widthOf_cons, widthOf_append] at hlast
      simp only [Declaration.span, Service.span]
      rw [spanFrom_eq hnotes (by omega) rfl
        (by simp only [widthOf_append, widthOf_cons, widthOf_nil]; omega)]

/-- A declaration starts with its first token. -/
theorem declaration_start {placed : PlacedToken} {others rest : List PlacedToken}
    {found : Declaration} (htokens : placed :: others <:+ tokenize source)
    (hread : declaration source (placed :: others) = .ok (found, rest)) :
    found.span.start = placed.span.start := by
  obtain ⟨before, row, hrow, hplace⟩ := placeLexemes_suffix htokens
  have hsource := (hrow ▸ located_lexemes source).right
  have hstart := hsource.startOffset
  rw [← hplace] at hstart
  rw [hplace] at hread
  obtain ⟨run, left, _, _, hfound⟩ := declaration_spells hsource hread
  rw [hfound.span_start, ← hstart]
  rfl

/-- The first token of a run, and what stands behind it. -/
theorem mem_lineStarts_cons {placed word : PlacedToken} {others : List PlacedToken} {fresh : Bool}
    (hsolid : placed.token.isTrivia = false)
    (hword : word ∈ lineStarts Token.hasBreak fresh (placed :: others)) :
    word = placed ∨ word ∈ lineStarts Token.hasBreak false others := by
  rw [lineStarts_cons_of_solid hsolid] at hword
  rcases List.mem_append.mp hword with hword | hword
  · split at hword
    · exact .inl (List.mem_singleton.mp hword)
    · cases hword
  · exact .inr hword

/-- Every declaration keyword at the start of a line opens a declaration, unless one
answers for it. -/
theorem declarations_answer {tokens : List PlacedToken} (htokens : tokens <:+ tokenize source)
    (fresh : Bool) :
    ∀ word ∈ lineStarts Token.hasBreak fresh tokens, ∃ found ∈ declarations source tokens,
      found.span.start = word.span.start ∨ found.AnswersFor word := by
  fun_induction declarations source tokens generalizing fresh with
  | case1 tokens hdrop =>
      obtain ⟨gap, hgap, hnone⟩ := dropTrivia_gap tokens
      rw [hdrop, List.append_nil] at hgap
      rw [hgap, hnone]
      simp
  | case2 tokens placed others hdrop found left hread ih =>
      obtain ⟨gap, hgap, hnone⟩ := dropTrivia_gap tokens
      have hahead := dropTrivia_solidAhead true tokens
      have hsuffix : placed :: others <:+ tokenize source :=
        (hdrop ▸ dropTrivia_suffix tokens).trans htokens
      rw [hdrop] at hgap hahead
      have hsolid := hahead rfl placed rfl
      have hstart := declaration_start hsuffix hread
      obtain ⟨run, hrun, hwords⟩ := declaration_answers hsuffix hahead hread
      have hleft : left <:+ tokenize source := (hrun ▸ List.suffix_append run left).trans hsuffix
      rw [hgap, hrun]
      intro word hword
      rcases lineStarts_of_parts hnone hword with ⟨fresh, hword⟩ | hword
      · refine ⟨found, List.mem_cons_self, ?_⟩
        cases run with
        | nil => cases hword
        | cons first run =>
            rw [List.cons_append, List.cons.injEq] at hrun
            obtain ⟨rfl, _⟩ := hrun
            rcases mem_lineStarts_cons hsolid hword with rfl | hword
            · exact .inl hstart
            · exact .inr (hwords word (by simpa [lineStarts, hsolid] using hword))
      · obtain ⟨other, hother, hanswers⟩ := ih hleft _ word hword
        exact ⟨other, List.mem_cons_of_mem found hother, hanswers⟩
  | case3 tokens placed others hdrop mismatch hread left ih =>
      obtain ⟨gap, hgap, hnone⟩ := dropTrivia_gap tokens
      have hahead := dropTrivia_solidAhead true tokens
      have hsuffix : placed :: others <:+ tokenize source :=
        (hdrop ▸ dropTrivia_suffix tokens).trans htokens
      rw [hdrop] at hgap hahead
      have hsolid := hahead rfl placed rfl
      obtain ⟨taken, htaken⟩ := dropToDeclaration_recovers.suffix_others
        ((declaration_keeps source _).2 _ hread)
      change taken ++ left = others at htaken
      clear_value left
      subst htaken
      have hleft : left <:+ tokenize source :=
        (List.suffix_append (placed :: taken) left).trans hsuffix
      rw [hgap, ← List.cons_append]
      intro word hword
      rcases lineStarts_of_parts hnone hword with ⟨fresh, hword⟩ | hword
      · refine ⟨_, List.mem_cons_self, ?_⟩
        rcases mem_lineStarts_cons hsolid hword with rfl | hword
        · have hordered : Ordered (word :: taken) :=
            (ordered_of_suffix hsuffix).sublist (List.sublist_append_left (word :: taken) left)
          refine .inl ?_
          rw [Declaration.span, Skipped.between_span]
          exact (coveredSpan_cons hordered hsolid _).1
        · exact .inr (.inr (skipped_answers hsuffix hsolid hword))
      · obtain ⟨other, hother, hanswers⟩ := ih hleft _ word hword
        exact ⟨other, List.mem_cons_of_mem _ hother, hanswers⟩

/-- What becomes of a declaration keyword that is the first token of its line,
trivia aside. -/
structure Followed (source : List Char) (word : PlacedToken) : Prop where
  /-- It opens a declaration or is the keyword of an annotated service, unless
  skipped input swallows it. -/
  opens :
    (∃ found ∈ (treeOf source).declarations, found.span.start = word.span.start) ∨
      (∃ block, .service block ∈ (treeOf source).declarations ∧ block.annotations ≠ [] ∧
        block.keyword = word.span) ∨
      ∃ piece ∈ (treeOf source).pieces, piece.Swallows word
  /-- Input that swallows it is an annotated service of its own that could not be
  read, or a route whose reading got stuck at it; or it is part of a body, and the
  line of the keyword begins inside a comment. -/
  swallowed : ∀ scope piece, .skipped scope piece ∈ (treeOf source).findings →
    piece.Swallows word →
      (scope = .file ∧ word.token = .keyword .serviceWord ∧
        ∃ sign ∈ tokenize source, sign.token = .punct .atSign ∧
          sign.span.start = piece.span.start) ∨
      (scope = .service ∧ piece.found = some word) ∨
      (scope ≠ .file ∧ word ∉ lineStarts Token.isNewline true (tokenize source))

/-- Every declaration keyword at the start of a line is followed up, with the
exceptions that follow from how recovery counts lines. -/
theorem keyword_at_line_start {source : List Char} {word : PlacedToken}
    (hword : word ∈ lineStarts Token.hasBreak true (tokenize source)) :
    Followed source word := by
  constructor
  case opens =>
    obtain ⟨found, hfound, hopens | ⟨block, rfl, hblock⟩ | ⟨piece, hpiece, hswallows⟩⟩ :=
      declarations_answer (List.suffix_refl _) true word hword
    · exact .inl ⟨found, hfound, hopens⟩
    · exact .inr (.inl ⟨block, hfound, hblock⟩)
    · refine .inr (.inr ⟨piece, ?_, hswallows⟩)
      rw [SourceFile.pieces, SourceFile.findings, skippedOf, List.filterMap_flatMap]
      exact List.mem_flatMap.mpr ⟨found, hfound, hpiece⟩
  case swallowed =>
    intro scope piece hpiece hswallows
    have htraced := findings_traced source _ hpiece
    by_cases hscope : scope = .file
    · rcases htraced.swallows (fun _ => le_refl _) (absurd hscope) hword hswallows with
        hfile | hservice
      · exact .inl hfile
      · exact .inr (.inl hservice)
    · by_cases hbreak : word ∈ lineStarts Token.isNewline true (tokenize source)
      · rcases htraced.swallows Token.isNewline_le_hasBreak (fun _ => rfl) hbreak hswallows with
          hfile | hservice
        · exact .inl hfile
        · exact .inr (.inl hservice)
      · exact .inr (.inr ⟨hscope, hbreak⟩)

/-- A service left open behind an annotation, and a declaration on the next
line. -/
def strandedType : List Char :=
  "service s \x7b\n@a\ntype T \x7b\x7d\n".toList

theorem keyword_at_line_start_strandedType :
    ⟨.keyword .typeWord, ⟨15, 19⟩⟩ ∈ lineStarts Token.hasBreak true (tokenize strandedType) ∧
      Followed strandedType ⟨.keyword .typeWord, ⟨15, 19⟩⟩ := by
  have hword : ⟨.keyword .typeWord, ⟨15, 19⟩⟩ ∈
      lineStarts Token.hasBreak true (tokenize strandedType) := by decide +kernel
  exact ⟨hword, keyword_at_line_start hword⟩

instance (piece : Skipped) (word : PlacedToken) : Decidable (piece.Swallows word) :=
  inferInstanceAs (Decidable (_ ∧ _))

/-- Recovery swallows the next declaration: the keyword is part of the skipped
route, no declaration starts at it, and the body it should close is taken to be
closed. -/
theorem strandedType_swallowed :
    (∃ word ∈ lineStarts Token.hasBreak true (tokenize strandedType),
      (∃ piece ∈ (treeOf strandedType).pieces, piece.Swallows word) ∧
        ∀ found ∈ (treeOf strandedType).declarations, found.span.start ≠ word.span.start) ∧
      (treeOf strandedType).openBodies = 0 := by
  decide +kernel

end ApiLang
