/-
Lines: which declaration keywords are the first token of their line, and which
steps stay on their line, that is, take no line break at all.
-/
import ApiLang.Proofs.Tree.ReadingFiles

namespace ApiLang

variable {α β : Type} {source : List Char} {breaks : Token → Bool}

/-- The token holds a line break: it is one, or a comment with one inside. -/
def Token.hasBreak : Token → Bool
  | .newline => true
  | .blockComment text => Token.breaksLine text
  | _ => false

/-- Whether nothing but trivia stands between the last break and the end of the
tokens.  The flag says whether this is so at their front. -/
def atLineStart (breaks : Token → Bool) (fresh : Bool) : List PlacedToken → Bool
  | [] => fresh
  | placed :: rest =>
      atLineStart breaks (placed.token.isTrivia && (fresh || breaks placed.token)) rest

/-- The declaration keywords that are the first token of their line, trivia
aside. -/
def lineStarts (breaks : Token → Bool) (fresh : Bool) : List PlacedToken → List PlacedToken
  | [] => []
  | placed :: rest =>
      (if fresh && isDeclarationKeyword placed.token then [placed] else []) ++
        lineStarts breaks (placed.token.isTrivia && (fresh || breaks placed.token)) rest

theorem atLineStart_append (fresh : Bool) (left right : List PlacedToken) :
    atLineStart breaks fresh (left ++ right) =
      atLineStart breaks (atLineStart breaks fresh left) right := by
  induction left generalizing fresh with
  | nil => rfl
  | cons placed others ih => exact ih _

theorem lineStarts_append (fresh : Bool) (left right : List PlacedToken) :
    lineStarts breaks fresh (left ++ right) =
      lineStarts breaks fresh left ++
        lineStarts breaks (atLineStart breaks fresh left) right := by
  induction left generalizing fresh with
  | nil => rfl
  | cons placed others ih => simp only [List.cons_append, lineStarts, atLineStart, ih,
      List.append_assoc]

theorem mem_of_mem_lineStarts {fresh : Bool} {tokens : List PlacedToken} {word : PlacedToken}
    (hword : word ∈ lineStarts breaks fresh tokens) :
    word ∈ tokens ∧ isDeclarationKeyword word.token = true := by
  induction tokens generalizing fresh with
  | nil => cases hword
  | cons placed others ih =>
      rcases List.mem_append.mp hword with hword | hword
      · split at hword
        · rename_i hfirst
          rw [List.mem_singleton.mp hword]
          exact ⟨List.mem_cons_self, (Bool.and_eq_true_iff.mp hfirst).2⟩
        · cases hword
      · exact ⟨List.mem_cons_of_mem placed (ih hword).1, (ih hword).2⟩

/-- Tokens without declaration keywords have none at the start of a line. -/
theorem lineStarts_eq_nil {tokens : List PlacedToken}
    (htokens : ∀ placed ∈ tokens, isDeclarationKeyword placed.token = false) (fresh : Bool) :
    lineStarts breaks fresh tokens = [] := by
  apply List.eq_nil_iff_forall_not_mem.mpr
  intro word hword
  obtain ⟨hmem, hkeyword⟩ := mem_of_mem_lineStarts hword
  rw [htokens word hmem] at hkeyword
  cases hkeyword

theorem isDeclarationKeyword_of_isTrivia {token : Token} (htrivia : token.isTrivia = true) :
    isDeclarationKeyword token = false := by
  cases token <;> first | rfl | cases htrivia

/-- Behind a token that is no trivia the line has begun. -/
theorem lineStarts_cons_of_solid {placed : PlacedToken} (hsolid : placed.token.isTrivia = false)
    (fresh : Bool) (rest : List PlacedToken) :
    lineStarts breaks fresh (placed :: rest) =
      (if fresh && isDeclarationKeyword placed.token then [placed] else []) ++
        lineStarts breaks false rest := by
  simp [lineStarts, hsolid]

theorem atLineStart_cons_of_solid {placed : PlacedToken} (hsolid : placed.token.isTrivia = false)
    (fresh : Bool) (rest : List PlacedToken) :
    atLineStart breaks fresh (placed :: rest) = atLineStart breaks false rest := by
  simp [atLineStart, hsolid]

/-- With fewer breaks there are fewer line starts. -/
theorem lineStarts_subset {fewer : Token → Bool} (hbreaks : ∀ token, fewer token ≤ breaks token)
    {fresh more : Bool} (hfresh : fresh ≤ more) (tokens : List PlacedToken) :
    lineStarts fewer fresh tokens ⊆ lineStarts breaks more tokens := by
  induction tokens generalizing fresh more with
  | nil => exact List.Subset.refl _
  | cons placed others ih =>
      have hbreak := hbreaks placed.token
      intro word hword
      rcases List.mem_append.mp hword with hword | hword
      · apply List.mem_append_left
        cases fresh with
        | false => cases hword
        | true =>
            rw [Bool.eq_true_of_true_le hfresh]
            exact hword
      · apply List.mem_append_right
        refine ih ?_ hword
        revert hbreak hfresh
        cases fresh <;> cases more <;> cases fewer placed.token <;> cases breaks placed.token <;>
          cases placed.token.isTrivia <;> decide

theorem atLineStart_mono {fewer : Token → Bool} (hbreaks : ∀ token, fewer token ≤ breaks token)
    {fresh more : Bool} (hfresh : fresh ≤ more) (tokens : List PlacedToken) :
    atLineStart fewer fresh tokens ≤ atLineStart breaks more tokens := by
  induction tokens generalizing fresh more with
  | nil => exact hfresh
  | cons placed others ih =>
      have hbreak := hbreaks placed.token
      refine ih ?_
      revert hbreak hfresh
      cases fresh <;> cases more <;> cases fewer placed.token <;> cases breaks placed.token <;>
        cases placed.token.isTrivia <;> decide

/-- Tokens without breaks, in the middle of a line. -/
theorem lineStarts_of_unbroken {tokens : List PlacedToken}
    (htokens : ∀ placed ∈ tokens, breaks placed.token = false) :
    lineStarts breaks false tokens = [] ∧ atLineStart breaks false tokens = false := by
  induction tokens with
  | nil => exact ⟨rfl, rfl⟩
  | cons placed others ih =>
      have hfirst := htokens placed List.mem_cons_self
      simpa [lineStarts, atLineStart, hfirst] using
        ih fun other hother => htokens other (List.mem_cons_of_mem placed hother)

theorem Token.hasBreak_of_solid {token : Token} (hsolid : token.isTrivia = false) :
    token.hasBreak = false := by
  cases token <;> first | rfl | cases hsolid

theorem Token.hasBreak_of_isInlineTrivia {token : Token} (hinline : token.isInlineTrivia = true) :
    token.hasBreak = false := by
  cases token with
  | newline => cases hinline
  | blockComment text => simpa [Token.isInlineTrivia, Token.hasBreak] using hinline
  | _ => rfl

theorem endsLine_of_hasBreak {token : Token} (hbreak : token.hasBreak = true) :
    endsLine token = true := by
  cases token <;> first | rfl | exact hbreak | cases hbreak

/-- A step from `tokens` that ended well took a run of which, together with the
rest, `done` holds, and one that failed a run of which `stuck` holds. -/
def Took (done stuck : List PlacedToken → List PlacedToken → Prop) (tokens : List PlacedToken) :
    Except Mismatch (α × List PlacedToken) → Prop
  | .ok (_, rest) => ∃ run, tokens = run ++ rest ∧ done run rest
  | .error mismatch => ∃ run, tokens = run ++ mismatch.rest ∧ stuck run mismatch.rest

section Took

variable {done stuck done' stuck' : List PlacedToken → List PlacedToken → Prop}
  {tokens : List PlacedToken} {outcome : Except Mismatch (α × List PlacedToken)}

theorem Took.imp (htook : Took done stuck tokens outcome)
    (hdone : ∀ run rest, done run rest → done' run rest)
    (hstuck : ∀ run rest, stuck run rest → stuck' run rest) :
    Took done' stuck' tokens outcome := by
  cases outcome with
  | ok found =>
      obtain ⟨run, htokens, hrun⟩ := htook
      exact ⟨run, htokens, hdone run _ hrun⟩
  | error mismatch =>
      obtain ⟨run, htokens, hrun⟩ := htook
      exact ⟨run, htokens, hstuck run _ hrun⟩

/-- What was taken before counts as well. -/
theorem Took.prepend {earlier : List PlacedToken} (htook : Took done stuck tokens outcome)
    (hdone : ∀ run rest, done run rest → done' (earlier ++ run) rest)
    (hstuck : ∀ run rest, stuck run rest → stuck' (earlier ++ run) rest) :
    Took done' stuck' (earlier ++ tokens) outcome := by
  cases outcome with
  | ok found =>
      obtain ⟨run, rfl, hrun⟩ := htook
      exact ⟨earlier ++ run, by simp, hdone run _ hrun⟩
  | error mismatch =>
      obtain ⟨run, htokens, hrun⟩ := htook
      exact ⟨earlier ++ run, by simp [htokens], hstuck run _ hrun⟩

theorem Took.bind {first : Reader α} {next : α → Reader β}
    (hfirst : Took done stuck' tokens (first tokens))
    (hnext : ∀ run a rest, tokens = run ++ rest → first tokens = .ok (a, rest) → done run rest →
      Took (fun others left => done' (run ++ others) left)
        (fun others left => stuck' (run ++ others) left) rest (next a rest)) :
    Took done' stuck' tokens ((first >>= next) tokens) := by
  change Took done' stuck' tokens (Reader.andThen first next tokens)
  unfold Reader.andThen
  cases hread : first tokens with
  | error mismatch =>
      rw [hread] at hfirst
      exact hfirst
  | ok found =>
      obtain ⟨a, rest⟩ := found
      rw [hread] at hfirst
      obtain ⟨run, rfl, hrun⟩ := hfirst
      exact (hnext run a rest rfl hread hrun).prepend (fun _ _ => id) fun _ _ => id

end Took

/-- No token of the run holds a line break. -/
def Unbroken (run : List PlacedToken) : Prop :=
  ∀ placed ∈ run, placed.token.hasBreak = false

theorem Unbroken.nil : Unbroken [] := by
  simp [Unbroken]

theorem Unbroken.append {left right : List PlacedToken} (hleft : Unbroken left)
    (hright : Unbroken right) : Unbroken (left ++ right) :=
  List.forall_mem_append.mpr ⟨hleft, hright⟩

theorem Unbroken.cons {placed : PlacedToken} {run : List PlacedToken}
    (hplaced : placed.token.hasBreak = false) (hrun : Unbroken run) : Unbroken (placed :: run) :=
  List.forall_mem_cons.mpr ⟨hplaced, hrun⟩

/-- A step from `tokens` took no line break, whether it succeeded or failed. -/
def TookOnLine (tokens : List PlacedToken) (outcome : Except Mismatch (α × List PlacedToken)) :
    Prop :=
  Took (fun run _ => Unbroken run) (fun run _ => Unbroken run) tokens outcome

/-- A step that takes no line break. -/
def Reader.OnLine (reader : Reader α) : Prop :=
  ∀ tokens, TookOnLine tokens (reader tokens)

namespace TookOnLine

theorem ok (a : α) (tokens : List PlacedToken) : TookOnLine tokens (.ok (a, tokens)) :=
  ⟨[], rfl, .nil⟩

theorem error (expected : Expected) (tokens : List PlacedToken) :
    TookOnLine tokens (.error ⟨expected, tokens⟩ : Except Mismatch (α × List PlacedToken)) :=
  ⟨[], rfl, .nil⟩

/-- The step goes on behind a token of its line. -/
theorem cons {placed : PlacedToken} {tokens : List PlacedToken}
    {outcome : Except Mismatch (α × List PlacedToken)} (hplaced : placed.token.hasBreak = false)
    (htook : TookOnLine tokens outcome) : TookOnLine (placed :: tokens) outcome := by
  change TookOnLine ([placed] ++ tokens) outcome
  exact htook.prepend (fun _ _ => .cons hplaced) fun _ _ => .cons hplaced

theorem bind {first : Reader α} {next : α → Reader β} {tokens : List PlacedToken}
    (hfirst : TookOnLine tokens (first tokens))
    (hnext : ∀ a rest, first tokens = .ok (a, rest) → TookOnLine rest (next a rest)) :
    TookOnLine tokens ((first >>= next) tokens) := by
  apply Took.bind hfirst
  intro run a rest _ hread hrun
  exact (hnext a rest hread).imp (fun _ _ => hrun.append) fun _ _ => hrun.append

end TookOnLine

namespace Reader

theorem pure_onLine (a : α) : (pure a : Reader α).OnLine :=
  fun tokens => .ok a tokens

theorem fail_onLine (expected : Expected) : (fail expected : Reader α).OnLine :=
  fun tokens => .error expected tokens

theorem peek_onLine : peek.OnLine :=
  fun tokens => .ok tokens.head? tokens

theorem expect_onLine {expected : Expected} {accept : PlacedToken → Option α}
    (haccept : ∀ placed a, accept placed = some a → placed.token.isTrivia = false) :
    (expect expected accept).OnLine := by
  intro tokens
  cases tokens with
  | nil => exact .error expected []
  | cons placed others =>
      rw [expect]
      split
      · rename_i a htake
        have hsolid := Token.hasBreak_of_solid (haccept placed a htake)
        exact .cons hsolid (.ok a others)
      · exact .error expected (placed :: others)

theorem optional_onLine {accept : PlacedToken → Option α}
    (haccept : ∀ placed a, accept placed = some a → placed.token.isTrivia = false) :
    (optional accept).OnLine := by
  intro tokens
  cases tokens with
  | nil => exact .ok none []
  | cons placed others =>
      rw [optional]
      split
      · rename_i a htake
        have hsolid := Token.hasBreak_of_solid (haccept placed a htake)
        exact .cons hsolid (.ok (some a) others)
      · exact .ok none (placed :: others)

theorem skipInline_onLine : skipInline.OnLine := by
  intro tokens
  refine ⟨tokens.takeWhile fun placed => placed.token.isInlineTrivia,
    List.takeWhile_append_dropWhile.symm, ?_⟩
  intro placed hplaced
  have hinline := List.all_eq_true.mp (List.all_takeWhile ..) placed hplaced
  exact Token.hasBreak_of_isInlineTrivia hinline

theorem OnLine.bind {first : Reader α} {next : α → Reader β} (hfirst : first.OnLine)
    (hnext : ∀ a, (next a).OnLine) : (first >>= next).OnLine := by
  intro tokens
  exact (hfirst tokens).bind fun a rest _ => hnext a rest

theorem accept_punct {mark : Punct} {placed : PlacedToken} {span : Span}
    (haccept : (if placed.token.isPunct mark then some placed.span else none) = some span) :
    placed.token = .punct mark := by
  simpa [Token.isPunct] using (Option.ite_none_right_eq_some.mp haccept).1

theorem punct_onLine (mark : Punct) (expected : Expected) : (punct mark expected).OnLine := by
  apply expect_onLine
  intro placed span haccept
  rw [accept_punct haccept]
  rfl

theorem eatPunct_onLine (mark : Punct) : (eatPunct mark).OnLine := by
  apply optional_onLine
  intro placed span haccept
  rw [accept_punct haccept]
  rfl

theorem accept_word {placed : PlacedToken} {name : Spanned String}
    (haccept : (placed.token.word?.map fun text => ⟨text, placed.span⟩) = some name) :
    placed.token.isTrivia = false := by
  cases htoken : placed.token <;> first | rfl | simp [htoken, Token.word?] at haccept

theorem word_onLine (expected : Expected) : (word expected).OnLine :=
  expect_onLine fun _ _ => accept_word

theorem identifier_onLine (expected : Expected) : (identifier expected).OnLine := by
  apply expect_onLine
  intro placed name haccept
  split at haccept
  · rename_i htoken
    rw [htoken]
    rfl
  · cases haccept

theorem endOfLine_onLine : endOfLine.OnLine := by
  refine skipInline_onLine.bind fun _ => peek_onLine.bind fun next => ?_
  split
  · exact pure_onLine ()
  · exact fail_onLine .endOfLine

end Reader

theorem isTrivia_of_isIdentifier {token : Token} (hname : isIdentifier token = true) :
    token.isTrivia = false := by
  cases token <;> first | rfl | cases hname

theorem restOfName_onLine (first : Span) : (restOfName source first).OnLine := by
  intro tokens
  suffices hrun : ∃ run, tokens = run ++ (extendName first tokens).2 ∧ Unbroken run from hrun
  fun_induction extendName first tokens with
  | case1 span dot next rest htouch ih =>
      simp only [Bool.and_eq_true, Token.isPunct, beq_iff_eq] at htouch
      obtain ⟨⟨⟨hdot, _⟩, hname⟩, _⟩ := htouch
      obtain ⟨run, hrest, hrun⟩ := ih
      refine ⟨dot :: next :: run, by simp [← hrest], .cons ?_ (.cons ?_ hrun)⟩
      · rw [hdot]
        rfl
      · exact Token.hasBreak_of_solid (isTrivia_of_isIdentifier hname)
  | case2 | case3 => exact ⟨[], rfl, .nil⟩

theorem qualifiedName_onLine : (qualifiedName source).OnLine :=
  (Reader.identifier_onLine .typeName).bind fun _ => restOfName_onLine _

theorem bracketedSize_onLine : bracketedSize.OnLine := by
  refine (Reader.optional_onLine ?_).bind fun size =>
    (Reader.punct_onLine _ _).bind fun _ => Reader.pure_onLine size
  intro placed size haccept
  split at haccept
  · rename_i htoken
    rw [htoken]
    rfl
  · cases haccept

theorem emptyBraces_onLine : emptyBraces.OnLine :=
  (Reader.punct_onLine _ _).bind fun _ =>
    Reader.skipInline_onLine.bind fun _ => Reader.punct_onLine _ _

theorem typeExpr_onLine : (typeExpr source).OnLine := by
  intro tokens
  induction hlength : tokens.length using Nat.strong_induction_on generalizing tokens with
  | _ length ih =>
  rw [typeExpr_eq]
  cases tokens with
  | nil => exact .error .typeExpr []
  | cons placed others =>
      rw [List.length_cons] at hlength
      simp only
      split
      · rename_i hstar
        apply TookOnLine.cons (by rw [hstar]; rfl)
        exact (ih others.length (by omega) others rfl).bind
          fun inner rest _ => Reader.pure_onLine _ rest
      · rename_i hopener
        apply TookOnLine.cons (by rw [hopener]; rfl)
        apply TookOnLine.bind (bracketedSize_onLine others)
        intro size rest hsize
        have hshorter := ((bracketedSize_keeps others).1 size rest hsize).length_le
        exact (ih rest.length (by omega) rest rfl).bind
          fun element left _ => Reader.pure_onLine _ left
      · rename_i name hname
        have hfirst : placed.token.hasBreak = false := by
          rw [hname]
          rfl
        split
        · rename_i hmap
          obtain ⟨opener, inside, rfl, hopener⟩ : ∃ opener inside, others = opener :: inside ∧
              opener.token = .punct .leftBracket := by
            cases others with
            | nil => cases hmap.2
            | cons opener inside =>
                exact ⟨opener, inside, rfl, by simpa [atPunct, Token.isPunct] using hmap.2⟩
          rw [List.length_cons] at hlength
          apply TookOnLine.cons hfirst
          apply TookOnLine.cons (by rw [hopener]; rfl)
          apply TookOnLine.bind (ih inside.length (by omega) inside rfl)
          intro key afterKey hkey
          have hshorter := typeExpr_advances source inside key afterKey hkey
          apply TookOnLine.bind (Reader.punct_onLine _ _ afterKey)
          intro close behind hclose
          have hbehind := Reader.expect_advances _ _ afterKey close behind hclose
          exact (ih behind.length (by omega) behind rfl).bind
            fun value left _ => Reader.pure_onLine _ left
        · split
          · apply TookOnLine.cons hfirst
            exact (emptyBraces_onLine others).bind
              fun close left _ => Reader.pure_onLine _ left
          · exact (qualifiedName_onLine (placed :: others)).bind
              fun found left _ => Reader.pure_onLine _ left
      · exact .error .typeExpr (placed :: others)

theorem embeddedPointer_onLine (star : Span) (name : Spanned String) :
    (embeddedPointer star name).OnLine :=
  Reader.endOfLine_onLine.bind fun _ => Reader.pure_onLine _

theorem fieldTag_onLine : fieldTag.OnLine := by
  apply Reader.optional_onLine
  intro placed tag haccept
  split at haccept
  · rename_i htoken
    rw [htoken]
    rfl
  · cases haccept

theorem fieldOrEmbedded_onLine (name : Spanned String) :
    (fieldOrEmbedded source name).OnLine := by
  refine Reader.skipInline_onLine.bind fun _ => Reader.peek_onLine.bind fun next => ?_
  split
  · exact Reader.pure_onLine _
  · split
    · exact Reader.fail_onLine _
    · exact typeExpr_onLine.bind fun _ => Reader.skipInline_onLine.bind fun _ =>
        fieldTag_onLine.bind fun _ => Reader.endOfLine_onLine.bind fun _ => Reader.pure_onLine _

/-- A line of a struct stays on its line. -/
theorem member_onLine : (member source).OnLine := by
  refine (Reader.eatPunct_onLine _).bind fun star => qualifiedName_onLine.bind fun name => ?_
  cases star with
  | some star => exact embeddedPointer_onLine star name
  | none => exact fieldOrEmbedded_onLine name

theorem structWord_onLine : structWord.OnLine := by
  refine (Reader.optional_onLine ?_).bind fun found => ?_
  · intro placed _ haccept
    rw [(Option.ite_none_right_eq_some.mp haccept).1]
    rfl
  · cases found with
    | some _ => exact Reader.skipInline_onLine
    | none => exact Reader.pure_onLine ()

theorem restOfRun_onLine {continues : Token → Bool}
    (hcontinues : ∀ token, continues token = true → token.isTrivia = false) (first : Span) :
    (restOfRun source continues first).OnLine := by
  intro tokens
  suffices hrun : ∃ run, tokens = run ++ (extendRun continues first tokens).2 ∧ Unbroken run
    from hrun
  induction tokens generalizing first with
  | nil => exact ⟨[], rfl, .nil⟩
  | cons placed others ih =>
      rw [extendRun]
      split
      · rename_i hnext
        obtain ⟨run, hothers, hrun⟩ := ih (first.union placed.span)
        refine ⟨placed :: run, by simp [← hothers], .cons ?_ hrun⟩
        exact Token.hasBreak_of_solid (hcontinues _ (Bool.and_eq_true_iff.mp hnext).2)
      · exact ⟨[], rfl, .nil⟩

theorem serviceName_onLine : (serviceName source).OnLine := by
  refine (Reader.word_onLine _).bind fun first => restOfRun_onLine ?_ first.span
  intro token hcontinues
  cases token <;> first | rfl | cases hcontinues

theorem routePath_onLine : (routePath source).OnLine := by
  refine (Reader.punct_onLine _ _).bind fun slash => restOfRun_onLine ?_ slash
  intro token hcontinues
  cases token <;> first | rfl | cases hcontinues

theorem parenthesizedType_onLine : (parenthesizedType source).OnLine :=
  Reader.skipInline_onLine.bind fun _ => typeExpr_onLine.bind fun _ =>
    Reader.skipInline_onLine.bind fun _ => (Reader.punct_onLine _ _).bind fun _ =>
      Reader.pure_onLine _

theorem routeRequest_onLine : (routeRequest source).OnLine := by
  refine (Reader.eatPunct_onLine _).bind fun opener => ?_
  cases opener with
  | none => exact Reader.pure_onLine none
  | some _ =>
      exact parenthesizedType_onLine.bind fun _ => Reader.skipInline_onLine.bind fun _ =>
        Reader.pure_onLine _

theorem routeResponse_onLine : (routeResponse source).OnLine := by
  refine (Reader.optional_onLine ?_).bind fun found => ?_
  · intro placed _ haccept
    have htoken : placed.token = .keyword .returnsWord := by
      simpa [Token.isKeyword] using (Option.ite_none_right_eq_some.mp haccept).1
    rw [htoken]
    rfl
  · cases found with
    | none => exact Reader.pure_onLine none
    | some _ =>
        exact Reader.skipInline_onLine.bind fun _ => (Reader.punct_onLine _ _).bind fun _ =>
          parenthesizedType_onLine.bind fun _ => Reader.pure_onLine _

/-- A route behind its method stays on its line. -/
theorem restOfRoute_onLine (notes : List Annotation) (method : Spanned String) :
    (restOfRoute source notes method).OnLine :=
  Reader.skipInline_onLine.bind fun _ => routePath_onLine.bind fun _ =>
    Reader.skipInline_onLine.bind fun _ => routeRequest_onLine.bind fun _ =>
      routeResponse_onLine.bind fun _ => Reader.endOfLine_onLine.bind fun _ =>
        Reader.pure_onLine _

theorem dropInline_unbroken (tokens : List PlacedToken) :
    ∃ gap, tokens = gap ++ dropInline tokens ∧ Unbroken gap :=
  Reader.skipInline_onLine tokens

theorem valueItem_unbroken {placed : PlacedToken} {rest left : List PlacedToken}
    {item : Spanned ValueItem} (hread : valueItem source (placed :: rest) = some (item, left)) :
    ∃ run, placed :: rest = run ++ left ∧ Unbroken run := by
  simp only [valueItem] at hread
  split at hread
  · rename_i htoken
    cases hread
    exact ⟨[placed], rfl, .cons (by rw [htoken]; rfl) .nil⟩
  · split at hread
    · cases hread
    · rename_i hvalue
      cases hread
      have hunbroken : ∀ token, endsValue token = false → token.hasBreak = false := by
        intro token hends
        by_contra hbreak
        have hline := endsLine_of_hasBreak (Bool.eq_true_of_not_eq_false hbreak)
        simp [endsValue, hline] at hends
      refine ⟨placed :: rest.takeWhile fun next => !endsValue next.token, ?_, .cons ?_ ?_⟩
      · rw [List.cons_append, List.takeWhile_append_dropWhile]
      · exact hunbroken _ (Bool.eq_false_iff.mpr hvalue)
      · intro next hnext
        have hinside := List.all_eq_true.mp (List.all_takeWhile ..) next hnext
        exact hunbroken _ (by simpa using hinside)

/-- An item with the trivia around it. -/
theorem valueItem_between {tokens rest left : List PlacedToken} {placed : PlacedToken}
    {item : Spanned ValueItem} (hinline : dropInline tokens = placed :: rest)
    (hread : valueItem source (placed :: rest) = some (item, left)) :
    ∃ run, tokens = run ++ dropInline left ∧ Unbroken run := by
  obtain ⟨gap, htokens, hgap⟩ := dropInline_unbroken tokens
  obtain ⟨run, hrun, hitem⟩ := valueItem_unbroken hread
  obtain ⟨space, hleft, hspace⟩ := dropInline_unbroken left
  refine ⟨gap ++ (run ++ space), ?_, hgap.append (hitem.append hspace)⟩
  rw [hinline, hrun] at htokens
  nth_rewrite 1 [hleft] at htokens
  simpa using htokens

theorem valueItems_unbroken (source : List Char) (tokens : List PlacedToken) :
    ∃ run, tokens = run ++ (valueItems source tokens).2 ∧ Unbroken run := by
  fun_induction valueItems source tokens with
  | case1 tokens hinline => exact hinline ▸ dropInline_unbroken tokens
  | case2 tokens placed rest hinline hread => exact hinline ▸ dropInline_unbroken tokens
  | case3 tokens placed rest hinline item left hread hnext =>
      exact hnext ▸ valueItem_between hinline hread
  | case4 tokens placed rest hinline item left hread comma behind hnext hcomma items remaining
      hinner ih =>
      obtain ⟨run, htokens, hrun⟩ := valueItem_between hinline hread
      obtain ⟨more, hbehind, hmore⟩ := ih
      have hmark : comma.token.hasBreak = false := by
        rw [show comma.token = .punct .comma by simpa [Token.isPunct] using hcomma]
        rfl
      rw [hinner] at hbehind
      rw [hnext, hbehind] at htokens
      exact ⟨run ++ comma :: more, by simpa using htokens, hrun.append (.cons hmark hmore)⟩
  | case5 tokens placed rest hinline item left hread comma behind hnext _ =>
      exact hnext ▸ valueItem_between hinline hread

theorem valueList_onLine : (valueList source).OnLine :=
  fun tokens => valueItems_unbroken source tokens

end ApiLang
