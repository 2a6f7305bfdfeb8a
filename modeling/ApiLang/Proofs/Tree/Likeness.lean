/-
Tokens that read alike.  Two rows of tokens may differ in their place and in the white
space and the comments of a line, and go on differently behind the end of a line.  A
step `Follows` another if they come to the same on such rows, whether they succeed or
fail; steps in a row inherit this.
-/
import ApiLang.Proofs.Tree.TransferReaders

namespace ApiLang

variable {α β : Type}

/-- How two rows end: with the input, or in front of a line break. -/
inductive EndAlike (source target : List Char) (distance : Nat)
    (change : PlacedToken → PlacedToken) : List PlacedToken → List PlacedToken → Prop
  | input (hwidth : byteWidth target = byteWidth source + distance) :
      EndAlike source target distance change [] []
  | line {last : PlacedToken} {others others' : List PlacedToken} (hlast : last.token = .newline) :
      EndAlike source target distance change (last :: others) (change last :: others')

/-- How tokens of the source look in the target: they stand `distance` bytes further,
and trivia of a line may have become white space.  Texts up to byte `bound` are the
same, and what follows the compared tokens is `rest` and `targetRest`. -/
structure Likeness where
  source : List Char
  target : List Char
  distance : Nat
  bound : Nat
  change : PlacedToken → PlacedToken
  rest : List PlacedToken
  targetRest : List PlacedToken
  span_change : ∀ placed, (change placed).span = placed.span.shift distance
  token_change : ∀ placed, (change placed).token = placed.token ∨
    placed.token.isInlineTrivia = true ∧ (change placed).token = .whitespace
  slices : ∀ span : Span, span.stop ≤ bound →
    sliceText target (span.shift distance) = sliceText source span
  ends : EndAlike source target distance change rest targetRest

namespace Likeness

variable (l : Likeness)

/-- The same tokens, changed one by one up to the end.  If the end of a value is changed,
that is a comment to the end of its line. -/
inductive Alike : List PlacedToken → List PlacedToken → Prop
  | done : Alike l.rest l.targetRest
  | cons {placed : PlacedToken} {others others' : List PlacedToken}
      (hbound : placed.span.stop ≤ l.bound)
      (hchange : (l.change placed).token = placed.token ∨ endsValue placed.token = false ∨
        ∀ next ∈ others.head?, next.token = .newline)
      (hothers : Alike others others') : Alike (placed :: others) (l.change placed :: others')

variable {l}

theorem change_eq_shift {placed : PlacedToken} (htoken : (l.change placed).token = placed.token) :
    l.change placed = placed.shift l.distance := by
  rw [PlacedToken.shift, ← htoken, ← l.span_change]

/-- A test that makes no difference between trivia of a line does not see the change. -/
theorem test_change {test : Token → Bool} {answer : Bool}
    (htest : ∀ token, token.isInlineTrivia = true → test token = answer) (placed : PlacedToken) :
    test (l.change placed).token = test placed.token := by
  rcases l.token_change placed with hsame | ⟨htrivia, hblank⟩
  · rw [hsame]
  · rw [hblank, htest _ htrivia, htest .whitespace rfl]

/-- What follows the compared tokens: nothing, or a line break. -/
theorem rest_cases (l : Likeness) :
    (l.rest = [] ∧ l.targetRest = [] ∧ byteWidth l.target = byteWidth l.source + l.distance) ∨
      ∃ last others others', last.token = .newline ∧ l.rest = last :: others ∧
        l.targetRest = l.change last :: others' := by
  obtain ⟨_, _, _, _, _, _, _, _, _, _, hends⟩ := l
  cases hends with
  | input hwidth => exact .inl ⟨rfl, rfl, hwidth⟩
  | line hlast => exact .inr ⟨_, _, _, hlast, rfl, rfl⟩

variable {tokens tokens' : List PlacedToken}

theorem Alike.head? (halike : l.Alike tokens tokens') :
    tokens'.head? = tokens.head?.map l.change := by
  cases halike with
  | done =>
      rcases l.rest_cases with ⟨hrest, htarget, _⟩ | ⟨last, others, others', _, hrest, htarget⟩
      · rw [hrest, htarget]
        rfl
      · rw [hrest, htarget]
        rfl
  | cons => rfl

/-- A row that goes on does so on both sides, or has come to the line break at its end. -/
theorem Alike.of_cons {placed : PlacedToken} {others : List PlacedToken}
    (halike : l.Alike (placed :: others) tokens') :
    ∃ others', tokens' = l.change placed :: others' ∧
      (placed.token = .newline ∧ l.rest ≠ [] ∨ placed.span.stop ≤ l.bound ∧
        l.Alike others others') := by
  generalize hrow : placed :: others = tokens at halike
  cases halike with
  | done =>
      rcases l.rest_cases with ⟨hrest, _, _⟩ | ⟨last, others, others', hlast, hrest, htarget⟩
      · rw [hrest] at hrow
        cases hrow
      · rw [hrest] at hrow
        cases hrow
        exact ⟨others', htarget, .inl ⟨hlast, by simp [hrest]⟩⟩
  | cons hbound _ hothers =>
      cases hrow
      exact ⟨_, rfl, .inr ⟨hbound, hothers⟩⟩

theorem Alike.of_nil (halike : l.Alike [] tokens') : tokens' = [] := by
  generalize hrow : ([] : List PlacedToken) = tokens at halike
  cases halike with
  | done =>
      rcases l.rest_cases with ⟨hrest, htarget, _⟩ | ⟨last, others, _, _, hrest, _⟩
      · rw [htarget, hrest]
      · rw [hrest] at hrow
        cases hrow
  | cons => cases hrow

theorem Alike.any_head? (halike : l.Alike tokens tokens') {test : Token → Bool} {answer : Bool}
    (htest : ∀ token, token.isInlineTrivia = true → test token = answer) :
    (tokens'.head?.any fun placed => test placed.token) =
      tokens.head?.any fun placed => test placed.token := by
  rw [halike.head?]
  cases tokens.head? with
  | none => rfl
  | some placed => exact test_change htest placed

theorem Alike.all_head? (halike : l.Alike tokens tokens') {test : Token → Bool} {answer : Bool}
    (htest : ∀ token, token.isInlineTrivia = true → test token = answer) :
    (tokens'.head?.all fun placed => test placed.token) =
      tokens.head?.all fun placed => test placed.token := by
  rw [halike.head?]
  cases tokens.head? with
  | none => rfl
  | some placed => exact test_change htest placed

theorem isPunct_of_isInlineTrivia (mark : Punct) {token : Token}
    (htrivia : token.isInlineTrivia = true) : token.isPunct mark = false := by
  cases token with
  | punct => cases htrivia
  | keyword | identifier | number | string | rawString | lineComment | blockComment | whitespace
  | newline | invalid => rfl

theorem endsLine_of_isInlineTrivia {token : Token} (htrivia : token.isInlineTrivia = true) :
    endsLine token = false := by
  by_contra hend
  rw [Reader.isInlineTrivia_of_endsLine (by simpa using hend)] at htrivia
  cases htrivia

theorem Alike.atPunct (halike : l.Alike tokens tokens') (mark : Punct) :
    atPunct mark tokens'.head? = atPunct mark tokens.head? :=
  halike.any_head? fun _ => isPunct_of_isInlineTrivia mark

theorem Alike.atLineEnd (halike : l.Alike tokens tokens') :
    atLineEnd tokens'.head? = atLineEnd tokens.head? :=
  halike.all_head? fun _ => endsLine_of_isInlineTrivia

/-- Tokens are dropped alike, if the line break at the end is not. -/
theorem Alike.dropWhile (halike : l.Alike tokens tokens') {test : Token → Bool} {answer : Bool}
    (htest : ∀ token, token.isInlineTrivia = true → test token = answer)
    (hend : l.rest = [] ∨ test .newline = false) :
    l.Alike (tokens.dropWhile fun placed => test placed.token)
      (tokens'.dropWhile fun placed => test placed.token) := by
  induction halike with
  | done =>
      rcases l.rest_cases with ⟨hrest, htarget, _⟩ | ⟨last, others, others', hlast, hrest, htarget⟩
      · have hdone := Alike.done (l := l)
        rw [hrest, htarget] at hdone ⊢
        exact hdone
      · have hstays : test last.token = false := by
          rcases hend with hnil | hbreak
          · rw [hnil] at hrest
            cases hrest
          · rw [hlast, hbreak]
        have hdone := Alike.done (l := l)
        rw [hrest, htarget] at hdone ⊢
        rw [List.dropWhile_cons_of_neg (by simp [hstays]),
          List.dropWhile_cons_of_neg (by simp [test_change htest, hstays])]
        exact hdone
  | @cons placed others others' hbound hchange hothers ih =>
      by_cases hdrop : test placed.token = true
      · rw [List.dropWhile_cons_of_pos (by exact hdrop),
          List.dropWhile_cons_of_pos (by rw [test_change htest]; exact hdrop)]
        exact ih
      · rw [List.dropWhile_cons_of_neg (by exact hdrop),
          List.dropWhile_cons_of_neg (by rw [test_change htest]; exact hdrop)]
        exact .cons hbound hchange hothers

/-- Rows that are alike are changed one by one up to their ends. -/
theorem Alike.split (halike : l.Alike tokens tokens') :
    ∃ run, tokens = run ++ l.rest ∧ tokens' = run.map l.change ++ l.targetRest := by
  induction halike with
  | done => exact ⟨[], rfl, rfl⟩
  | @cons placed others others' _ _ _ ih =>
      obtain ⟨run, rfl, rfl⟩ := ih
      exact ⟨placed :: run, rfl, rfl⟩

variable (l)

/-- Both steps succeed or both fail, for the same reason, and what they leave is alike.
What they find differs by `f`. -/
inductive Outcome (f : α → α) : Except Mismatch (α × List PlacedToken) →
    Except Mismatch (α × List PlacedToken) → Prop
  | ok (a : α) {left left' : List PlacedToken} (hleft : l.Alike left left') :
      Outcome f (.ok (a, left)) (.ok (f a, left'))
  | error (expected : Expected) {left left' : List PlacedToken} (hleft : l.Alike left left') :
      Outcome f (.error ⟨expected, left⟩) (.error ⟨expected, left'⟩)

variable {l}

theorem Outcome.bind {f : α → α} {g : β → β} {first first' : Reader α}
    {next next' : α → Reader β} (hfirst : l.Outcome f (first tokens) (first' tokens'))
    (hnext : ∀ a left left', first tokens = .ok (a, left) → l.Alike left left' →
      l.Outcome g (next a left) (next' (f a) left')) :
    l.Outcome g ((first >>= next) tokens) ((first' >>= next') tokens') := by
  change l.Outcome g (Reader.andThen first next tokens) (Reader.andThen first' next' tokens')
  unfold Reader.andThen
  generalize first tokens = found at hfirst hnext ⊢
  generalize first' tokens' = found' at hfirst ⊢
  cases hfirst with
  | ok a hleft => exact hnext a _ _ rfl hleft
  | error expected hleft => exact .error expected hleft

theorem Outcome.of_ok {f : α → α} {a : α} {left : List PlacedToken}
    {found' : Except Mismatch (α × List PlacedToken)}
    (houtcome : l.Outcome f (.ok (a, left)) found') :
    ∃ left', found' = .ok (f a, left') ∧ l.Alike left left' := by
  cases houtcome with
  | ok _ hleft => exact ⟨_, rfl, hleft⟩

theorem Outcome.of_error {f : α → α} {mismatch : Mismatch}
    {found' : Except Mismatch (α × List PlacedToken)}
    (houtcome : l.Outcome f (.error mismatch) found') :
    ∃ left', found' = .error ⟨mismatch.expected, left'⟩ ∧ l.Alike mismatch.rest left' := by
  cases houtcome with
  | error expected hleft => exact ⟨_, rfl, hleft⟩

end Likeness

/-- On rows that are alike, the second step comes to what the first one comes to. -/
def Reader.Follows (l : Likeness) (f : α → α) (reader reader' : Reader α) : Prop :=
  ∀ ⦃tokens tokens' : List PlacedToken⦄, l.Alike tokens tokens' →
    l.Outcome f (reader tokens) (reader' tokens')

namespace Reader

variable {l : Likeness}

theorem Follows.bind {f : α → α} {g : β → β} {first first' : Reader α} {next next' : α → Reader β}
    (hfirst : first.Follows l f first') (hnext : ∀ a, (next a).Follows l g (next' (f a))) :
    (first >>= next).Follows l g (first' >>= next') :=
  fun _ _ halike => (hfirst halike).bind fun a _ _ _ hleft => hnext a hleft

theorem follows_pure {f : α → α} {a a' : α} (ha : a' = f a) :
    (pure a : Reader α).Follows l f (pure a') := by
  intro tokens tokens' halike
  rw [ha]
  exact .ok a halike

theorem follows_fail (expected : Expected) {f : α → α} :
    (fail expected : Reader α).Follows l f (fail expected) :=
  fun _ _ halike => .error expected halike

/-- A step whose answer is made into something else. -/
theorem Follows.make {f : α → α} {g : β → β} {reader reader' : Reader α} {make make' : α → β}
    (hreader : reader.Follows l f reader') (hmake : ∀ a, make' (f a) = g (make a)) :
    (do let a ← reader
        pure (make a)).Follows l g (do
          let a ← reader'
          pure (make' a)) :=
  hreader.bind fun a => follows_pure (hmake a)

theorem follows_ite {c c' : Prop} [Decidable c] [Decidable c'] {f : α → α}
    {first first' second second' : Reader α} (hc : c ↔ c') (hfirst : first.Follows l f first')
    (hsecond : second.Follows l f second') :
    (if c then first else second).Follows l f (if c' then first' else second') := by
  by_cases htrue : c
  · rw [if_pos htrue, if_pos (hc.mp htrue)]
    exact hfirst
  · rw [if_neg htrue, if_neg fun htrue' => htrue (hc.mpr htrue')]
    exact hsecond

/-- Steps that depend on the next token. -/
theorem follows_peek_bind {g : β → β} {next next' : Option PlacedToken → Reader β}
    (hnext : ∀ ⦃tokens tokens' : List PlacedToken⦄, l.Alike tokens tokens' →
      (next tokens.head?).Follows l g (next' tokens'.head?)) :
    (peek >>= next).Follows l g (peek >>= next') :=
  fun _ _ halike => hnext halike halike

/-- What is made of a token moves with it, and nothing is made of trivia. -/
structure Selects (l : Likeness) (f : α → α) (accept : PlacedToken → Option α) : Prop where
  moves : Accepts l.distance f accept
  solid : ∀ placed, placed.token.isTrivia = true → accept placed = none

theorem isTrivia_of_isInlineTrivia {token : Token} (htrivia : token.isInlineTrivia = true) :
    token.isTrivia = true := by
  cases token with
  | whitespace | lineComment | blockComment => rfl
  | keyword | identifier | number | string | rawString | punct | newline | invalid =>
      cases htrivia

theorem Selects.change {f : α → α} {accept : PlacedToken → Option α}
    (hselects : Selects l f accept) (placed : PlacedToken) :
    accept (l.change placed) = (accept placed).map f := by
  rcases l.token_change placed with hsame | ⟨htrivia, hblank⟩
  · rw [Likeness.change_eq_shift hsame]
    exact hselects.moves placed
  · rw [hselects.solid placed (isTrivia_of_isInlineTrivia htrivia),
      hselects.solid (l.change placed) (by rw [hblank]; rfl)]
    rfl

/-- A step that takes a token, in front of steps that depend on it. -/
theorem follows_expect_bind {expected : Expected} {accept : PlacedToken → Option α} {f : α → α}
    {g : β → β} {next next' : α → Reader β} (hselects : Selects l f accept)
    (hnext : ∀ placed a, placed.span.stop ≤ l.bound → accept placed = some a →
      (next a).Follows l g (next' (f a))) :
    (expect expected accept >>= next).Follows l g (expect expected accept >>= next') := by
  have htaken : ∀ {others : List PlacedToken} {placed : PlacedToken} {a : α},
      accept placed = some a → ∀ next : α → Reader β,
      (expect expected accept >>= next) (placed :: others) = next a others := by
    intro others placed a ha next
    exact bind_ok (by rw [expect, ha])
  have hrefused : ∀ {others : List PlacedToken} {placed : PlacedToken},
      accept placed = none → ∀ next : α → Reader β,
      (expect expected accept >>= next) (placed :: others) =
        .error ⟨expected, placed :: others⟩ := by
    intro others placed hnone next
    exact bind_of_error (by rw [expect, hnone])
  intro tokens tokens' halike
  cases halike with
  | done =>
      have hdone := Likeness.Alike.done (l := l)
      rcases l.rest_cases with ⟨hrest, htarget, _⟩ | ⟨last, others, others', hlast, hrest, htarget⟩
      · rw [hrest, htarget] at hdone ⊢
        exact .error expected hdone
      · have hnone := hselects.solid last (by rw [hlast]; rfl)
        have hnone' : accept (l.change last) = none := by rw [hselects.change, hnone]; rfl
        rw [hrest, htarget] at hdone ⊢
        rw [hrefused hnone, hrefused hnone']
        exact .error expected hdone
  | @cons placed others others' hbound hchange hothers =>
      have hmoved := hselects.change placed
      cases ha : accept placed with
      | none =>
          rw [ha] at hmoved
          rw [hrefused ha, hrefused hmoved]
          exact .error expected (.cons hbound hchange hothers)
      | some a =>
          rw [ha] at hmoved
          rw [htaken ha, htaken hmoved]
          exact hnext placed a hbound ha hothers

theorem follows_expect {expected : Expected} {accept : PlacedToken → Option α} {f : α → α}
    (hselects : Selects l f accept) :
    (expect expected accept).Follows l f (expect expected accept) := by
  have hpure : expect expected accept = expect expected accept >>= pure := by
    funext tokens
    cases hread : expect expected accept tokens with
    | ok found => rw [bind_ok hread]; rfl
    | error mismatch => rw [bind_of_error hread]
  rw [hpure]
  exact follows_expect_bind hselects fun _ _ _ _ => follows_pure rfl

theorem follows_optional {accept : PlacedToken → Option α} {f : α → α}
    (hselects : Selects l f accept) :
    (optional accept).Follows l (Option.map f) (optional accept) := by
  intro tokens tokens' halike
  cases halike with
  | done =>
      have hdone := Likeness.Alike.done (l := l)
      rcases l.rest_cases with ⟨hrest, htarget, _⟩ | ⟨last, others, others', hlast, hrest, htarget⟩
      · rw [hrest, htarget] at hdone ⊢
        exact .ok none hdone
      · have hnone := hselects.solid last (by rw [hlast]; rfl)
        have hnone' : accept (l.change last) = none := by rw [hselects.change, hnone]; rfl
        rw [hrest, htarget] at hdone ⊢
        simp only [optional, hnone, hnone']
        exact .ok none hdone
  | @cons placed others others' hbound hchange hothers =>
      have hmoved := hselects.change placed
      cases ha : accept placed with
      | none =>
          rw [ha] at hmoved
          simp only [optional, ha, hmoved, Option.map_none]
          exact .ok none (.cons hbound hchange hothers)
      | some a =>
          rw [ha] at hmoved
          simp only [optional, ha, hmoved, Option.map_some]
          exact .ok (some a) hothers

theorem follows_skipInline : skipInline.Follows l id skipInline :=
  fun _ _ halike => .ok () (halike.dropWhile (fun _ htrivia => htrivia) (.inr rfl))

theorem isPunct_of_isTrivia (mark : Punct) {token : Token} (htrivia : token.isTrivia = true) :
    token.isPunct mark = false := by
  cases token with
  | whitespace | newline | lineComment | blockComment => rfl
  | keyword | identifier | number | string | rawString | punct | invalid => cases htrivia

theorem selects_punct (mark : Punct) :
    Selects l (Span.shift l.distance)
      fun placed => if placed.token.isPunct mark then some placed.span else none where
  moves := accepts_if fun token => token.isPunct mark
  solid placed htrivia := if_neg (by simp [isPunct_of_isTrivia mark htrivia])

theorem follows_punct (mark : Punct) (expected : Expected) :
    (punct mark expected).Follows l (Span.shift l.distance) (punct mark expected) :=
  follows_expect (selects_punct mark)

theorem follows_eatPunct (mark : Punct) :
    (eatPunct mark).Follows l (Option.map (Span.shift l.distance)) (eatPunct mark) :=
  follows_optional (selects_punct mark)

theorem selects_identifier :
    Selects l (Spanned.shift l.distance) fun placed =>
      match placed.token with
      | .identifier name => some (⟨name, placed.span⟩ : Spanned String)
      | _ => none where
  moves := accepts_identifier
  solid placed htrivia := by
    cases htoken : placed.token with
    | identifier => simp [htoken, Token.isTrivia] at htrivia
    | _ => rfl

theorem follows_identifier (expected : Expected) :
    (identifier expected).Follows l (Spanned.shift l.distance) (identifier expected) :=
  follows_expect selects_identifier

theorem follows_endOfLine : endOfLine.Follows l id endOfLine := by
  refine follows_skipInline.bind fun _ => follows_peek_bind fun tokens tokens' halike => ?_
  refine follows_ite ?_ (follows_pure rfl) (follows_fail _)
  rw [halike.atLineEnd]

end Reader

section Types

open Reader

variable {l : Likeness} {tokens tokens' : List PlacedToken}

theorem isIdentifier_of_isInlineTrivia {token : Token} (htrivia : token.isInlineTrivia = true) :
    isIdentifier token = false := by
  cases token with
  | identifier => cases htrivia
  | keyword | number | string | rawString | punct | lineComment | blockComment | whitespace
  | newline | invalid => rfl

theorem follows_change (placed : PlacedToken) (span : Span) :
    (l.change placed).follows (span.shift l.distance) = placed.follows span := by
  simp [PlacedToken.follows, l.span_change]

/-- A name goes on in both rows or in none. -/
theorem extends_change (dot next : PlacedToken) (span : Span) :
    ((l.change dot).token.isPunct .dot && (l.change dot).follows (span.shift l.distance) &&
        isIdentifier (l.change next).token && (l.change next).follows (l.change dot).span) =
      (dot.token.isPunct .dot && dot.follows span && isIdentifier next.token &&
        next.follows dot.span) := by
  have hdot := Likeness.test_change (l := l)
    (fun _ => Likeness.isPunct_of_isInlineTrivia Punct.dot) dot
  have hnext := Likeness.test_change (l := l) (fun _ => isIdentifier_of_isInlineTrivia) next
  rw [l.span_change, hdot, hnext, follows_change, follows_change]

theorem change_newline {placed : PlacedToken} (hbreak : placed.token = .newline) :
    (l.change placed).token = .newline := by
  rcases l.token_change placed with hsame | ⟨htrivia, _⟩
  · rw [hsame, hbreak]
  · rw [hbreak] at htrivia
    cases htrivia

/-- No name goes on across a line break. -/
theorem extendName_newline (span : Span) {dot : PlacedToken} {others : List PlacedToken}
    (hbreak : dot.token = .newline) :
    extendName span (dot :: others) = (span, dot :: others) := by
  cases others with
  | nil => rfl
  | cons next others => exact extendName_of_end (.inl (by rw [hbreak]; rfl))

theorem extendName_alike (halike : l.Alike tokens tokens') {span : Span}
    (hspan : span.stop ≤ l.bound) :
    ∃ found left left', found.stop ≤ l.bound ∧ extendName span tokens = (found, left) ∧
      extendName (span.shift l.distance) tokens' = (found.shift l.distance, left') ∧
      l.Alike left left' := by
  fun_induction extendName span tokens generalizing tokens' with
  | case1 span dot next others hextend ih =>
      obtain ⟨behind, rfl, hdot⟩ := halike.of_cons
      rcases hdot with ⟨hbreak, _⟩ | ⟨_, hbehind⟩
      · simp [hbreak, Token.isPunct] at hextend
      obtain ⟨others', rfl, hnext⟩ := hbehind.of_cons
      rcases hnext with ⟨hbreak, _⟩ | ⟨hbound, hothers⟩
      · simp [hbreak, isIdentifier] at hextend
      obtain ⟨found, left, left', hfound, hnear, hfar, hleft⟩ :=
        ih hothers (Nat.max_le.mpr ⟨hspan, hbound⟩)
      refine ⟨found, left, left', hfound, hnear, ?_, hleft⟩
      rw [extendName, if_pos (by rw [extends_change]; exact hextend), l.span_change,
        Span.union_shift]
      exact hfar
  | case2 span dot next others hextend =>
      refine ⟨span, _, tokens', hspan, rfl, ?_, halike⟩
      obtain ⟨behind, rfl, hdot⟩ := halike.of_cons
      rcases hdot with ⟨hbreak, _⟩ | ⟨_, hbehind⟩
      · exact extendName_newline _ (change_newline hbreak)
      obtain ⟨others', rfl, _⟩ := hbehind.of_cons
      rw [extendName, if_neg (by rw [extends_change]; exact hextend)]
  | case3 span tokens hshort =>
      -- Fewer than two tokens are left, or the line ends: the name stops in both rows.
      refine ⟨span, _, tokens', hspan, rfl, ?_, halike⟩
      cases tokens with
      | nil =>
          rw [halike.of_nil]
          rfl
      | cons dot others =>
          obtain ⟨behind, rfl, hdot⟩ := halike.of_cons
          rcases hdot with ⟨hbreak, _⟩ | ⟨_, hbehind⟩
          · exact extendName_newline _ (change_newline hbreak)
          · cases others with
            | nil =>
                rw [hbehind.of_nil]
                rfl
            | cons next others => exact absurd rfl (hshort dot next others)

theorem follows_restOfName {first : Span} (hfirst : first.stop ≤ l.bound) :
    (restOfName l.source first).Follows l (Spanned.shift l.distance)
      (restOfName l.target (first.shift l.distance)) := by
  intro tokens tokens' halike
  obtain ⟨found, left, left', hfound, hnear, hfar, hleft⟩ := extendName_alike halike hfirst
  simp only [restOfName, hnear, hfar, l.slices found hfound]
  exact .ok (Spanned.mk (sliceText l.source found) found) hleft

theorem follows_qualifiedName :
    (qualifiedName l.source).Follows l (Spanned.shift l.distance) (qualifiedName l.target) := by
  refine follows_expect_bind selects_identifier fun placed name hplaced haccept => ?_
  have hspan := span_of_accept_identifier haccept
  exact follows_restOfName (by rw [hspan]; exact hplaced)

theorem follows_bracketedSize :
    bracketedSize.Follows l (Option.map (Spanned.shift l.distance)) bracketedSize := by
  refine Follows.bind (follows_optional (f := Spanned.shift l.distance) ⟨?_, ?_⟩) fun size =>
    (follows_punct _ _).make fun _ => rfl
  · rintro ⟨token, span⟩
    cases token <;> rfl
  · rintro ⟨token, span⟩ htrivia
    cases token <;> simp_all [Token.isTrivia]

theorem follows_emptyBraces : emptyBraces.Follows l (Span.shift l.distance) emptyBraces :=
  (follows_punct _ _).bind fun _ => follows_skipInline.bind fun _ => follows_punct _ _

theorem change_of_not_isTrivia {placed : PlacedToken}
    (hsolid : placed.token.isTrivia = false) : (l.change placed).token = placed.token := by
  rcases l.token_change placed with hsame | ⟨htrivia, _⟩
  · exact hsame
  · rw [isTrivia_of_isInlineTrivia htrivia] at hsolid
    cases hsolid

theorem isTrivia_change {placed : PlacedToken} :
    (l.change placed).token.isTrivia = placed.token.isTrivia :=
  Likeness.test_change (fun _ => isTrivia_of_isInlineTrivia) placed

/-- A type is read alike, if the types in it are. -/
theorem typeExpr_alike_cons {placed : PlacedToken} {others others' : List PlacedToken}
    (hsolid : placed.token.isTrivia = false) (hbound : placed.span.stop ≤ l.bound)
    (hothers : l.Alike others others')
    (hinner : ∀ {tokens tokens' : List PlacedToken}, tokens.length ≤ others.length →
      l.Alike tokens tokens' → l.Outcome (TypeExpr.shift l.distance) (typeExpr l.source tokens)
        (typeExpr l.target tokens')) :
    l.Outcome (TypeExpr.shift l.distance) (typeExpr l.source (placed :: others))
      (typeExpr l.target (l.change placed :: others')) := by
  have hchange : l.change placed = placed.shift l.distance :=
    Likeness.change_eq_shift (change_of_not_isTrivia hsolid)
  have halike : l.Alike (placed :: others) (l.change placed :: others') :=
    .cons hbound (.inl (change_of_not_isTrivia hsolid)) hothers
  rw [hchange] at halike ⊢
  rw [typeExpr_eq, typeExpr_eq]
  simp only [PlacedToken.token_shift, PlacedToken.span_shift]
  split
  · refine (hinner le_rfl hothers).bind fun inner left left' _ hleft => ?_
    exact follows_pure (by simp [TypeExpr.shift]) hleft
  · refine (follows_bracketedSize hothers).bind fun size left left' hsize hleft => ?_
    have hshorter := ((bracketedSize_keeps others).1 _ _ hsize).length_le
    refine (hinner hshorter hleft).bind fun element left left' _ hleft => ?_
    exact follows_pure (by simp [TypeExpr.shift]) hleft
  · rename_i name htoken
    rw [hothers.atPunct, hothers.atPunct]
    split
    · rename_i hmap
      cases others with
      | nil => cases hmap.2
      | cons bracket others =>
          obtain ⟨behind, rfl, hbracket⟩ := hothers.of_cons
          rcases hbracket with ⟨hbreak, _⟩ | ⟨_, hbehind⟩
          · simp [atPunct, hbreak, Token.isPunct] at hmap
          refine (hinner (by simp) hbehind).bind fun key left left' hkey hleft => ?_
          have hkeyLength := (typeExpr_advances l.source) _ _ _ hkey
          refine (follows_punct _ _ hleft).bind fun close left left' hclose hleft => ?_
          have hcloseLength := expect_advances _ _ _ _ _ hclose
          refine (hinner ?_ hleft).bind fun value left left' _ hleft => ?_
          · simp only [List.length_cons] at *
            omega
          · exact follows_pure (by simp [TypeExpr.shift]) hleft
    · split
      · refine (follows_emptyBraces hothers).bind fun close left left' _ hleft => ?_
        exact follows_pure (by simp [TypeExpr.shift]) hleft
      · refine (follows_qualifiedName halike).bind fun name left left' _ hleft => ?_
        exact follows_pure rfl hleft
  · exact .error .typeExpr halike

theorem typeExpr_of_isTrivia (source : List Char) {placed : PlacedToken}
    {others : List PlacedToken} (htrivia : placed.token.isTrivia = true) :
    typeExpr source (placed :: others) = .error ⟨.typeExpr, placed :: others⟩ := by
  rw [typeExpr_eq]
  cases htoken : placed.token with
  | whitespace | newline | lineComment | blockComment => simp only [htoken]
  | keyword | identifier | number | string | rawString | punct | invalid =>
      simp [htoken, Token.isTrivia] at htrivia

/-- A type is read alike.  The types in it stand behind its first token. -/
theorem typeExpr_alike (halike : l.Alike tokens tokens') :
    l.Outcome (TypeExpr.shift l.distance) (typeExpr l.source tokens)
      (typeExpr l.target tokens') := by
  -- On the number of tokens: an inner type may start any number of them further on.
  induction hlength : tokens.length using Nat.strong_induction_on generalizing tokens tokens' with
  | _ length ih =>
  cases tokens with
  | nil =>
      obtain rfl := halike.of_nil
      rw [typeExpr_eq, typeExpr_eq]
      exact .error .typeExpr halike
  | cons placed others =>
      obtain ⟨others', rfl, hplaced⟩ := halike.of_cons
      by_cases htrivia : placed.token.isTrivia = true
      · rw [typeExpr_of_isTrivia _ htrivia, typeExpr_of_isTrivia _ (isTrivia_change.trans htrivia)]
        exact .error .typeExpr halike
      · rcases hplaced with ⟨hbreak, _⟩ | ⟨hbound, hothers⟩
        · exact absurd (by rw [hbreak]; rfl) htrivia
        · have hsolid : placed.token.isTrivia = false := by simpa using htrivia
          refine typeExpr_alike_cons hsolid hbound hothers fun hshorter hinner => ?_
          exact ih _ (by rw [← hlength]; exact Nat.lt_succ_of_le hshorter) hinner rfl

theorem follows_typeExpr :
    (typeExpr l.source).Follows l (TypeExpr.shift l.distance) (typeExpr l.target) :=
  fun _ _ halike => typeExpr_alike halike

end Types

section Lines

open Reader

variable {l : Likeness} {f : Member → Member}

theorem follows_fieldTag :
    fieldTag.Follows l (Option.map (Spanned.shift l.distance)) fieldTag := by
  refine follows_optional ⟨?_, ?_⟩
  · rintro ⟨token, span⟩
    cases token <;> rfl
  · rintro ⟨token, span⟩ htrivia
    cases token <;> simp_all [Token.isTrivia]

theorem follows_embeddedPointer
    (hembedded : ∀ line, f (.embedded line) = .embedded (line.shift l.distance)) (star : Span)
    (name : Spanned String) :
    (embeddedPointer star name).Follows l f
      (embeddedPointer (star.shift l.distance) (name.shift l.distance)) :=
  follows_endOfLine.make fun _ => by simp [hembedded, Embedded.shift]

theorem follows_fieldOf (hfield : ∀ line, f (.field line) = .field (line.shift l.distance))
    (name : Spanned String) :
    (fieldOf l.source name).Follows l f (fieldOf l.target (name.shift l.distance)) := by
  refine follows_typeExpr.bind fun type => follows_skipInline.bind fun _ =>
    follows_fieldTag.bind fun tag => follows_endOfLine.make fun _ => ?_
  cases tag <;> simp [hfield, Field.shift]

theorem follows_fieldOrEmbedded
    (hfield : ∀ line, f (.field line) = .field (line.shift l.distance))
    (hembedded : ∀ line, f (.embedded line) = .embedded (line.shift l.distance))
    (name : Spanned String) :
    (fieldOrEmbedded l.source name).Follows l f
      (fieldOrEmbedded l.target (name.shift l.distance)) := by
  refine follows_skipInline.bind fun _ => follows_peek_bind fun tokens tokens' halike =>
    follows_ite ?_ (follows_pure ?_) (follows_ite ?_ (follows_fail _) (follows_fieldOf hfield name))
  · rw [halike.atLineEnd]
  · simp [hembedded, Embedded.shift]
  · rw [Spanned.val_shift]

/-- A line of a struct is read alike. -/
theorem follows_member (hfield : ∀ line, f (.field line) = .field (line.shift l.distance))
    (hembedded : ∀ line, f (.embedded line) = .embedded (line.shift l.distance)) :
    (member l.source).Follows l f (member l.target) := by
  refine (follows_eatPunct _).bind fun star => follows_qualifiedName.bind fun name => ?_
  cases star with
  | none => exact follows_fieldOrEmbedded hfield hembedded name
  | some star => exact follows_embeddedPointer hembedded star name

end Lines

end ApiLang
