/-
Quiet steps: steps that may take line breaks, but no declaration keyword right
behind one.  Lists in parentheses, annotations, routes and the declarations
without a body are read by quiet steps.
-/
import ApiLang.Proofs.Tree.LineStarts
import ApiLang.Proofs.Tree.Takes

namespace ApiLang

variable {α β : Type} {source : List Char} {breaks : Token → Bool}

/-- If the line has not begun yet, no trivia comes next. -/
def SolidAhead (fresh : Bool) (rest : List PlacedToken) : Prop :=
  fresh = true → ∀ placed ∈ rest.head?, placed.token.isTrivia = false

theorem SolidAhead.mono {fresh more : Bool} {rest : List PlacedToken}
    (hsolid : SolidAhead more rest) (hfresh : fresh ≤ more) : SolidAhead fresh rest :=
  fun hstart => hsolid (Bool.eq_true_of_true_le (hstart ▸ hfresh))

theorem solidAhead_false (rest : List PlacedToken) : SolidAhead false rest :=
  fun hstart => Bool.noConfusion hstart

theorem dropTrivia_solidAhead (fresh : Bool) (tokens : List PlacedToken) :
    SolidAhead fresh (dropTrivia tokens) := by
  intro _ placed hplaced
  have hhead := List.head?_dropWhile_not (fun placed => placed.token.isTrivia) tokens
  rw [show (tokens.dropWhile fun placed => placed.token.isTrivia).head? = some placed from hplaced]
    at hhead
  simpa using hhead

/-- A step from `tokens`, at the start of a line if `before` says so, took no
declaration keyword at the start of a line.  It left the start of a line behind
only if `after` says so, and it never got stuck at trivia there. -/
def TookQuietly (before after : Bool) (tokens : List PlacedToken)
    (outcome : Except Mismatch (α × List PlacedToken)) : Prop :=
  Took
    (fun run rest => lineStarts Token.hasBreak before run = [] ∧
      atLineStart Token.hasBreak before run ≤ after ∧ SolidAhead after rest)
    (fun run rest => lineStarts Token.hasBreak before run = [] ∧
      SolidAhead (atLineStart Token.hasBreak before run) rest)
    tokens outcome

/-- A step that takes no declaration keyword at the start of a line. -/
def Reader.Quiet (before after : Bool) (reader : Reader α) : Prop :=
  ∀ tokens, SolidAhead before tokens → TookQuietly before after tokens (reader tokens)

theorem lineStarts_append_eq_nil {before middle : Bool} {run others : List PlacedToken}
    (hrun : lineStarts Token.hasBreak before run = [])
    (hmiddle : atLineStart Token.hasBreak before run ≤ middle)
    (hothers : lineStarts Token.hasBreak middle others = []) :
    lineStarts Token.hasBreak before (run ++ others) = [] := by
  rw [lineStarts_append, hrun, List.nil_append, ← List.subset_nil, ← hothers]
  exact lineStarts_subset (fun _ => le_refl _) hmiddle others

theorem atLineStart_append_le {before middle : Bool} {run : List PlacedToken}
    (hmiddle : atLineStart Token.hasBreak before run ≤ middle) (others : List PlacedToken) :
    atLineStart Token.hasBreak before (run ++ others) ≤
      atLineStart Token.hasBreak middle others := by
  rw [atLineStart_append]
  exact atLineStart_mono (fun _ => le_refl _) hmiddle others

/-- What is taken quietly behind a quiet run. -/
theorem TookQuietly.behind {before middle after : Bool} {run tokens : List PlacedToken}
    {outcome : Except Mismatch (α × List PlacedToken)}
    (htook : TookQuietly middle after tokens outcome)
    (hrun : lineStarts Token.hasBreak before run = [])
    (hmiddle : atLineStart Token.hasBreak before run ≤ middle) :
    TookQuietly before after (run ++ tokens) outcome := by
  apply Took.prepend htook
  · rintro others rest ⟨hothers, hafter, hsolid⟩
    exact ⟨lineStarts_append_eq_nil hrun hmiddle hothers,
      (atLineStart_append_le hmiddle others).trans hafter, hsolid⟩
  · rintro others rest ⟨hothers, hsolid⟩
    exact ⟨lineStarts_append_eq_nil hrun hmiddle hothers,
      hsolid.mono (atLineStart_append_le hmiddle others)⟩

theorem TookQuietly.bind {first : Reader α} {next : α → Reader β} {before middle after : Bool}
    {tokens : List PlacedToken} (hfirst : TookQuietly before middle tokens (first tokens))
    (hnext : ∀ a rest, first tokens = .ok (a, rest) → SolidAhead middle rest →
      TookQuietly middle after rest (next a rest)) :
    TookQuietly before after tokens ((first >>= next) tokens) := by
  change TookQuietly before after tokens (Reader.andThen first next tokens)
  unfold Reader.andThen
  cases hread : first tokens with
  | error mismatch =>
      rw [hread] at hfirst
      exact hfirst
  | ok found =>
      obtain ⟨a, rest⟩ := found
      rw [hread] at hfirst
      obtain ⟨run, rfl, hrun, hmiddle, hsolid⟩ := hfirst
      exact (hnext a rest hread hsolid).behind hrun hmiddle

namespace Reader

theorem OnLine.quiet {reader : Reader α} (hreader : reader.OnLine) : reader.Quiet false false := by
  intro tokens _
  apply (hreader tokens).imp
  · intro run rest hrun
    obtain ⟨hnone, hstart⟩ := lineStarts_of_unbroken hrun
    exact ⟨hnone, hstart.le, solidAhead_false rest⟩
  · intro run rest hrun
    obtain ⟨hnone, hstart⟩ := lineStarts_of_unbroken hrun
    exact ⟨hnone, (solidAhead_false rest).mono hstart.le⟩

theorem Quiet.bind {first : Reader α} {next : α → Reader β} {before middle after : Bool}
    (hfirst : first.Quiet before middle) (hnext : ∀ a, (next a).Quiet middle after) :
    (first >>= next).Quiet before after :=
  fun tokens hsolid => (hfirst tokens hsolid).bind fun a rest _ => hnext a rest

theorem pure_quiet (a : α) (before : Bool) : (pure a : Reader α).Quiet before before :=
  fun _ hsolid => ⟨[], rfl, rfl, le_refl before, hsolid⟩

theorem fail_quiet (expected : Expected) (before after : Bool) :
    (fail expected : Reader α).Quiet before after :=
  fun _ hsolid => ⟨[], rfl, rfl, hsolid⟩

theorem skipTrivia_quiet (before : Bool) : skipTrivia.Quiet before true := by
  intro tokens _
  refine ⟨tokens.takeWhile fun placed => placed.token.isTrivia,
    List.takeWhile_append_dropWhile.symm, ?_, Bool.le_true _, dropTrivia_solidAhead true tokens⟩
  apply lineStarts_eq_nil
  intro placed hplaced
  exact isDeclarationKeyword_of_isTrivia
    (List.all_eq_true.mp (List.all_takeWhile ..) placed hplaced)

/-- A step that takes one token other than a declaration keyword. -/
theorem expect_tookQuietly {expected : Expected} {accept : PlacedToken → Option α}
    {before : Bool} {tokens : List PlacedToken} (hahead : SolidAhead before tokens)
    (hsolid : ∀ placed a, accept placed = some a → placed.token.isTrivia = false)
    (hplain : ∀ placed ∈ tokens.head?, ∀ a, accept placed = some a →
      isDeclarationKeyword placed.token = false) :
    TookQuietly before false tokens (expect expected accept tokens) := by
  cases tokens with
  | nil => exact ⟨[], rfl, rfl, hahead⟩
  | cons placed others =>
      rw [expect]
      split
      · rename_i a htake
        have hstart := hsolid placed a htake
        have hkeyword := hplain placed rfl a htake
        exact ⟨[placed], rfl, by simp [lineStarts, hkeyword], by simp [atLineStart, hstart],
          solidAhead_false others⟩
      · exact ⟨[], rfl, rfl, hahead⟩

theorem punct_quiet (mark : Punct) (expected : Expected) (before : Bool) :
    (punct mark expected).Quiet before false := by
  intro tokens hahead
  apply expect_tookQuietly hahead
  · intro placed span haccept
    rw [accept_punct haccept]
    rfl
  · intro placed _ span haccept
    rw [accept_punct haccept]
    rfl

end Reader

/-- An entry of a list in parentheses does not start with a declaration
keyword. -/
theorem listedKeyValue_quiet (before : Bool) : (listedKeyValue source).Quiet before false := by
  intro tokens hahead
  change TookQuietly before false tokens ((if tokens.head?.all fun placed =>
    isDeclarationKeyword placed.token then Reader.fail .rightParen else keyValue source) tokens)
  split
  · exact Reader.fail_quiet _ before false tokens hahead
  · rename_i hkeyword
    apply TookQuietly.bind
    · apply Reader.expect_tookQuietly hahead (fun _ _ => Reader.accept_word)
      intro placed hplaced _ _
      rw [Option.mem_def.mp hplaced, Option.all_some] at hkeyword
      exact Bool.eq_false_iff.mpr hkeyword
    · intro key rest _
      have hrest := Reader.skipInline_onLine.bind fun _ =>
        (Reader.punct_onLine .colon .colon).bind fun colon =>
          (@valueList_onLine source).bind fun value => Reader.pure_onLine
            (⟨key, value, key.span.union (if value.items.isEmpty then colon else value.span)⟩ :
              KeyValue)
      exact hrest.quiet rest

/-- What is read behind trivia is read at the start of a line, for all that is
known. -/
theorem TookQuietly.behindTrivia {after : Bool} {tokens : List PlacedToken}
    {outcome : Except Mismatch (α × List PlacedToken)}
    (htook : TookQuietly true after (dropTrivia tokens) outcome) (before : Bool) :
    TookQuietly before after tokens outcome := by
  have hgap : lineStarts Token.hasBreak before
      (tokens.takeWhile fun placed => placed.token.isTrivia) = [] := by
    apply lineStarts_eq_nil
    intro placed hplaced
    exact isDeclarationKeyword_of_isTrivia
      (List.all_eq_true.mp (List.all_takeWhile ..) placed hplaced)
  have hbehind := htook.behind hgap (Bool.le_true _)
  rwa [dropTrivia, List.takeWhile_append_dropWhile] at hbehind

theorem untilRightParen_tookQuietly {item : ItemReader α} {after : Bool}
    (hitem : item.read.Quiet true after) (before : Bool) (tokens : List PlacedToken) :
    TookQuietly before false tokens (untilRightParen item tokens) := by
  induction hlength : tokens.length using Nat.strong_induction_on generalizing tokens before with
  | _ length ih =>
  have hshorter := (dropTrivia_suffix tokens).length_le
  by_cases hclose : atPunct .rightParen (dropTrivia tokens).head? = true
  · obtain ⟨close, hhead, hmark⟩ := (Option.any_eq_true _ _).mp hclose
    obtain ⟨rest, hdrop⟩ := List.head?_eq_some_iff.mp hhead
    have htoken : close.token = .punct .rightParen := by simpa [Token.isPunct] using hmark
    rw [untilRightParen_close item hdrop htoken]
    apply TookQuietly.behindTrivia
    refine ⟨[close], hdrop, ?_, ?_, solidAhead_false rest⟩
    · simp [lineStarts, htoken, isDeclarationKeyword]
    · simp [atLineStart, htoken, Token.isTrivia]
  · rw [untilRightParen_item item (Bool.eq_false_iff.mpr hclose)]
    refine TookQuietly.behindTrivia ?_ before
    apply (hitem (dropTrivia tokens) (dropTrivia_solidAhead true tokens)).bind
    intro first rest hread _
    have hrest := item.advances _ first rest hread
    apply (ih rest.length (by omega) after rest rfl).bind
    intro found left _
    exact Reader.pure_quiet _ false left

/-- Annotations are quiet: a keyword in them is a name or part of a value, or else
ends the list in parentheses. -/
theorem annotationStep_quiet (before : Bool) : (annotationStep source).Quiet before false := by
  refine (Reader.punct_quiet _ _ before).bind fun sign =>
    (Reader.word_onLine _).quiet.bind fun name => ?_
  refine Reader.Quiet.bind ?_ fun found => Reader.pure_quiet _ false
  refine Reader.Quiet.bind (fun _ hsolid => ⟨[], rfl, rfl, le_refl false, hsolid⟩) fun next => ?_
  split
  · exact Reader.skipInline_onLine.quiet.bind fun _ => (Reader.punct_quiet _ _ false).bind fun _ =>
      Reader.Quiet.bind
        (fun tokens _ => untilRightParen_tookQuietly (listedKeyValue_quiet true) false tokens)
        fun _ => Reader.pure_quiet _ false
  · split
    · exact Reader.pure_quiet _ false
    · exact valueList_onLine.quiet.bind fun _ => Reader.pure_quiet _ false

theorem annotations_quiet : Reader.Quiet true true (annotations source) := by
  intro tokens hahead
  induction hlength : tokens.length using Nat.strong_induction_on generalizing tokens with
  | _ length ih =>
  rw [annotations_eq]
  split
  · apply (annotationStep_quiet true tokens hahead).bind
    intro first rest hread hahead
    have hrest := annotationStep_advances source _ first rest hread
    apply (Reader.skipTrivia_quiet false rest hahead).bind
    intro _ behind hskip hahead
    have hbehind := ((Reader.skipTrivia_keeps rest).1 _ behind hskip).length_le
    apply (ih behind.length (by omega) behind hahead rfl).bind
    intro others left _
    exact Reader.pure_quiet _ true left
  · exact Reader.pure_quiet [] true tokens hahead

theorem isIdentifier_of_accept_method {placed : PlacedToken} {name : Spanned String}
    (haccept : (match placed.token with
      | .identifier name => if isHttpMethod name then some ⟨name, placed.span⟩ else none
      | _ => none : Option (Spanned String)) = some name) : isIdentifier placed.token = true := by
  split at haccept
  · rename_i htoken
    rw [htoken]
    rfl
  · cases haccept

theorem isDeclarationKeyword_of_isIdentifier {token : Token} (hname : isIdentifier token = true) :
    isDeclarationKeyword token = false := by
  cases token <;> first | rfl | cases hname

/-- A route is quiet. -/
theorem route_quiet : (route source).Quiet true false := by
  refine annotations_quiet.bind fun notes => Reader.Quiet.bind ?_ fun method =>
    (restOfRoute_onLine notes method).quiet
  intro tokens hahead
  apply Reader.expect_tookQuietly hahead
  · intro placed name haccept
    exact isTrivia_of_isIdentifier (isIdentifier_of_accept_method haccept)
  · intro placed _ name haccept
    exact isDeclarationKeyword_of_isIdentifier (isIdentifier_of_accept_method haccept)

namespace Reader

theorem eatPunct_cases (mark : Punct) (next : Option Span → Reader β)
    (tokens : List PlacedToken) :
    (∃ placed others, tokens = placed :: others ∧ placed.token = .punct mark ∧
      (eatPunct mark >>= next) tokens = next (some placed.span) others) ∨
      (eatPunct mark >>= next) tokens = next none tokens := by
  cases tokens with
  | nil => exact .inr rfl
  | cons placed others =>
      by_cases hmark : placed.token.isPunct mark = true
      · refine .inl ⟨placed, others, rfl, by simpa [Token.isPunct] using hmark, ?_⟩
        simp [bind, andThen, eatPunct, optional, hmark]
      · refine .inr ?_
        simp [bind, andThen, eatPunct, optional, hmark]

/-- A mark opens no declaration. -/
theorem lineStarts_punct {placed : PlacedToken} {mark : Punct}
    (htoken : placed.token = .punct mark) (fresh : Bool) (others : List PlacedToken) :
    lineStarts Token.hasBreak fresh ([placed] ++ others) =
      lineStarts Token.hasBreak false others := by
  rw [List.singleton_append, lineStarts_cons_of_solid (by rw [htoken]; rfl), htoken]
  simp [isDeclarationKeyword]

/-- A mark that may be left out. -/
theorem eatPunct_quiet_bind {mark : Punct} {next : Option Span → Reader β} {before after : Bool}
    (hsome : ∀ span, (next (some span)).Quiet false after)
    (hnone : (next none).Quiet before after) :
    (eatPunct mark >>= next).Quiet before after := by
  intro tokens hahead
  rcases eatPunct_cases mark next tokens with ⟨placed, others, rfl, htoken, hread⟩ | hread
  · rw [hread]
    have hmark : lineStarts Token.hasBreak before [placed] = [] := lineStarts_punct htoken before []
    refine (hsome placed.span others (solidAhead_false others)).behind hmark ?_
    simp [atLineStart, htoken, Token.isTrivia]
  · rw [hread]
    exact hnone tokens hahead

theorem identifier_quiet (expected : Expected) (before : Bool) :
    (identifier expected).Quiet before false := by
  have hname : ∀ (placed : PlacedToken) (name : Spanned String),
      (match placed.token with
        | .identifier name => some ⟨name, placed.span⟩
        | _ => none : Option (Spanned String)) = some name →
        isIdentifier placed.token = true := by
    intro placed name haccept
    split at haccept
    · rename_i htoken
      rw [htoken]
      rfl
    · cases haccept
  intro tokens hahead
  exact expect_tookQuietly hahead
    (fun placed name haccept => isTrivia_of_isIdentifier (hname placed name haccept))
    fun placed _ name haccept =>
      isDeclarationKeyword_of_isIdentifier (hname placed name haccept)

theorem accept_string {placed : PlacedToken} {text : Spanned String}
    (haccept : (match placed.token with
      | .string text => some ⟨text, placed.span⟩
      | _ => none : Option (Spanned String)) = some text) :
    placed.token.isTrivia = false ∧ isDeclarationKeyword placed.token = false := by
  split at haccept
  · rename_i htoken
    rw [htoken]
    exact ⟨rfl, rfl⟩
  · cases haccept

theorem stringLiteral_quiet (expected : Expected) (before : Bool) :
    (stringLiteral expected).Quiet before false := by
  intro tokens hahead
  exact expect_tookQuietly hahead (fun _ _ haccept => (accept_string haccept).1)
    fun _ _ _ haccept => (accept_string haccept).2

end Reader

/-- Declarations without a body are quiet behind their keyword. -/
theorem restOfDeclaration_quiet {word : Keyword} (hword : word ≠ .typeWord) (start : Span) :
    (restOfDeclaration source word start).Quiet false false := by
  cases word with
  | syntaxWord =>
      exact (Reader.skipTrivia_quiet false).bind fun _ => (Reader.punct_quiet _ _ true).bind
        fun _ => (Reader.skipTrivia_quiet false).bind fun _ =>
          (Reader.stringLiteral_quiet _ true).bind fun _ => Reader.pure_quiet _ false
  | infoWord =>
      exact (Reader.skipTrivia_quiet false).bind fun _ => (Reader.punct_quiet _ _ true).bind
        fun _ => Reader.Quiet.bind
          (fun tokens _ => untilRightParen_tookQuietly (listedKeyValue_quiet true) false tokens)
            fun _ => Reader.pure_quiet _ false
  | importWord =>
      refine (Reader.skipTrivia_quiet false).bind fun _ =>
        Reader.eatPunct_quiet_bind (fun opener => ?_) ?_
      · exact Reader.Quiet.bind (fun tokens _ => untilRightParen_tookQuietly
          (Reader.stringLiteral_quiet _ true) false tokens) fun _ => Reader.pure_quiet _ false
      · exact (Reader.stringLiteral_quiet _ true).bind fun _ => Reader.pure_quiet _ false
  | typeWord => exact absurd rfl hword
  | serviceWord | returnsWord => exact Reader.fail_quiet _ false false

theorem plainKeyword_onLine : (Reader.expect .declaration plainKeyword).OnLine := by
  apply Reader.expect_onLine
  intro placed found haccept
  unfold plainKeyword at haccept
  split at haccept
  · rename_i htoken
    rw [htoken]
    rfl
  · cases haccept

/-- Annotations in a row, read in the middle of a line.  They end at the start of a
line only if there are any. -/
theorem annotations_run {tokens rest : List PlacedToken} {notes : List Annotation}
    (hahead : SolidAhead true tokens) (hread : annotations source tokens = .ok (notes, rest)) :
    ∃ run, tokens = run ++ rest ∧ lineStarts Token.hasBreak false run = [] ∧
      (atLineStart Token.hasBreak false run = true →
        notes ≠ [] ∧ atPunct .atSign tokens.head? = true) := by
  have hquiet := @annotations_quiet source tokens hahead
  rw [hread] at hquiet
  obtain ⟨run, htokens, hnone, _⟩ := hquiet
  refine ⟨run, htokens, ?_, ?_⟩
  · rw [← List.subset_nil, ← hnone]
    exact lineStarts_subset (fun _ => le_refl _) (Bool.false_le _) run
  · intro hstart
    rw [annotations_eq] at hread
    split at hread
    · rename_i hsign
      obtain ⟨first, _, _, hread⟩ := Reader.bind_eq_ok hread
      obtain ⟨_, _, _, hread⟩ := Reader.bind_eq_ok hread
      obtain ⟨others, _, _, ⟨⟩⟩ := Reader.bind_eq_ok hread
      exact ⟨List.cons_ne_nil first others, hsign⟩
    · cases hread
      have hnil : run = [] := List.append_left_eq_self.mp htokens.symm
      rw [hnil] at hstart
      cases hstart

theorem Reader.bind_error {first : Reader α} {next : α → Reader β} {tokens : List PlacedToken}
    {mismatch : Mismatch} (hread : first tokens = .error mismatch) :
    (first >>= next) tokens = .error mismatch := by
  change andThen first next tokens = .error mismatch
  rw [andThen, hread]

theorem Reader.keyword_cases (word : Keyword) (expected : Expected) (tokens : List PlacedToken) :
    (∃ placed behind, tokens = placed :: behind ∧ placed.token = .keyword word ∧
      keyword word expected tokens = .ok (placed.span, behind)) ∨
      keyword word expected tokens = .error ⟨expected, tokens⟩ := by
  cases tokens with
  | nil => exact .inr rfl
  | cons placed behind =>
      by_cases hword : placed.token.isKeyword word = true
      · exact .inl ⟨placed, behind, rfl, by simpa [Token.isKeyword] using hword,
          by simp [keyword, expect, hword]⟩
      · exact .inr (by simp [keyword, expect, hword])

end ApiLang
