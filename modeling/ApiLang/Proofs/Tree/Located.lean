/-
Readers at a place of the source.  `Spells` says of a step which rows of lexemes
it takes from the front of its input and what it makes of them; steps in a row
take rows in a row.
-/
import ApiLang.Proofs.Tree.Grammar

namespace ApiLang

variable {α β : Type} {source : List Char}

/-- From byte `start` on, the source goes on with the lexemes of `row`. -/
def Located (source : List Char) (start : Nat) (row : List Lexeme) : Prop :=
  ∃ before, source = before ++ textOf row ∧ byteWidth before = start

theorem located_lexemes (source : List Char) : Located source 0 (lexemes source) :=
  ⟨[], by simp, rfl⟩

theorem Located.right {start : Nat} {run left : List Lexeme}
    (hsource : Located source start (run ++ left)) :
    Located source (start + widthOf run) left := by
  obtain ⟨before, rfl, rfl⟩ := hsource
  exact ⟨before ++ textOf run, by simp, by simp [widthOf]⟩

theorem Located.tail {start : Nat} {lexeme : Lexeme} {row : List Lexeme}
    (hsource : Located source start (lexeme :: row)) :
    Located source (start + widthOf [lexeme]) row :=
  Located.right (List.singleton_append ▸ hsource)

theorem Located.sliceText {start : Nat} {run left : List Lexeme}
    (hsource : Located source start (run ++ left)) :
    sliceText source (spanAt start run) = String.ofList (textOf run) := by
  obtain ⟨before, rfl, rfl⟩ := hsource
  rw [textOf_append, spanAt, widthOf]
  exact sliceText_append before (textOf run) (textOf left)

theorem Located.startOffset {start : Nat} {row : List Lexeme}
    (hsource : Located source start row) :
    startOffset source (placeLexemes start row) = start := by
  obtain ⟨before, rfl, rfl⟩ := hsource
  cases row with
  | nil => simp [placeLexemes, ApiLang.startOffset]
  | cons lexeme others => rfl

theorem any_head?_placeLexemes (test : Token → Bool) (start : Nat) {row : List Lexeme}
    (hrow : ∀ lexeme ∈ row.head?, test lexeme.token = false) :
    ((placeLexemes start row).head?.any fun placed => test placed.token) = false := by
  cases row with
  | nil => rfl
  | cons lexeme others => simpa using hrow lexeme rfl

theorem atPunct_head?_placeLexemes {mark : Punct} {start : Nat} {row : List Lexeme}
    (hnext : atPunct mark (placeLexemes start row).head? = true) :
    ∃ lexeme others, row = lexeme :: others ∧ lexeme.token = .punct mark := by
  cases row with
  | nil => cases hnext
  | cons lexeme others =>
      refine ⟨lexeme, others, rfl, ?_⟩
      simpa [atPunct, Token.isPunct] using hnext

/-- What is left of placed lexemes are the lexemes left, placed behind those
taken. -/
theorem placeLexemes_suffix {start : Nat} {row : List Lexeme} {rest : List PlacedToken}
    (hrest : rest <:+ placeLexemes start row) :
    ∃ run left, row = run ++ left ∧ rest = placeLexemes (start + widthOf run) left := by
  induction row generalizing start with
  | nil =>
      rw [placeLexemes_nil, List.suffix_nil] at hrest
      exact ⟨[], [], rfl, hrest⟩
  | cons lexeme others ih =>
      rw [placeLexemes_cons, List.suffix_cons_iff] at hrest
      rcases hrest with rfl | hrest
      · exact ⟨[], lexeme :: others, rfl, by simp⟩
      · obtain ⟨run, left, rfl, rfl⟩ := ih hrest
        exact ⟨lexeme :: run, left, rfl, by simp [Nat.add_assoc]⟩

theorem dropWhile_placeLexemes_append {test : Token → Bool} {run left : List Lexeme}
    (hrun : ∀ lexeme ∈ run, test lexeme.token = true)
    (hleft : ∀ lexeme ∈ left.head?, test lexeme.token = false) (start : Nat) :
    (placeLexemes start (run ++ left)).dropWhile (fun placed => test placed.token) =
      placeLexemes (start + widthOf run) left := by
  induction run generalizing start with
  | nil =>
      cases left with
      | nil => rfl
      | cons lexeme others => simp [hleft lexeme rfl]
  | cons lexeme others ih =>
      have hothers := ih (fun other hother => hrun other (List.mem_cons_of_mem lexeme hother))
        (start + widthOf [lexeme])
      rw [List.cons_append, placeLexemes_cons,
        List.dropWhile_cons_of_pos (by exact hrun lexeme List.mem_cons_self), hothers]
      simp [Nat.add_assoc]

/-- A row is a run of lexemes that satisfy `test` and a rest that does not start
with one. -/
theorem exists_run_left (test : Token → Bool) (row : List Lexeme) :
    ∃ run left, row = run ++ left ∧ (∀ lexeme ∈ run, test lexeme.token = true) ∧
      ∀ lexeme ∈ left.head?, test lexeme.token = false := by
  induction row with
  | nil => exact ⟨[], [], rfl, by simp, by simp⟩
  | cons lexeme others ih =>
      by_cases htest : test lexeme.token = true
      · obtain ⟨run, left, rfl, hrun, hleft⟩ := ih
        exact ⟨lexeme :: run, left, rfl, List.forall_mem_cons.mpr ⟨htest, hrun⟩, hleft⟩
      · exact ⟨[], lexeme :: others, rfl, by simp, by simpa using htest⟩

theorem dropWhile_placeLexemes (test : Token → Bool) (start : Nat) (row : List Lexeme) :
    ∃ run left, row = run ++ left ∧ (∀ lexeme ∈ run, test lexeme.token = true) ∧
      (∀ lexeme ∈ left.head?, test lexeme.token = false) ∧
      (placeLexemes start row).dropWhile (fun placed => test placed.token) =
        placeLexemes (start + widthOf run) left := by
  obtain ⟨run, left, rfl, hrun, hleft⟩ := exists_run_left test row
  exact ⟨run, left, rfl, hrun, hleft, dropWhile_placeLexemes_append hrun hleft start⟩

/-- Spans of neighbouring rows join to the span of both, whatever stands between
them. -/
theorem spanAt_union (start : Nat) (first middle last : List Lexeme) :
    (spanAt start first).union (spanAt (start + widthOf (first ++ middle)) last) =
      spanAt start (first ++ (middle ++ last)) := by
  simp only [spanAt, Span.union, widthOf_append, Span.mk.injEq]
  omega

theorem spanAt_union_next (start : Nat) (first last : List Lexeme) :
    (spanAt start first).union (spanAt (start + widthOf first) last) =
      spanAt start (first ++ last) := by
  simpa using spanAt_union start first [] last

/-- The span is that of the last lexeme of the row. -/
def ClosesAt (start : Nat) (run : List Lexeme) (span : Span) : Prop :=
  ∃ inside close, run = inside ++ [close] ∧ span = spanAt (start + widthOf inside) [close]

theorem ClosesAt.prepend {start : Nat} {first run : List Lexeme} {span : Span}
    (hcloses : ClosesAt (start + widthOf first) run span) : ClosesAt start (first ++ run) span := by
  obtain ⟨inside, close, rfl, rfl⟩ := hcloses
  exact ⟨first ++ inside, close, by simp, by simp [Nat.add_assoc]⟩

/-- From the first lexeme of a row to its last. -/
theorem ClosesAt.union {start : Nat} {first run : List Lexeme} {span : Span}
    (hcloses : ClosesAt (start + widthOf first) run span) :
    (spanAt start first).union span = spanAt start (first ++ run) := by
  obtain ⟨inside, close, rfl, rfl⟩ := hcloses
  rw [Nat.add_assoc, ← widthOf_append]
  exact spanAt_union start first inside [close]

/-- What a step says about the place it started at, the lexemes it took, what it
made of them and the lexemes it left. -/
abbrev Post (α : Type) : Type :=
  Nat → List Lexeme → α → List Lexeme → Prop

/-- Whenever the step succeeds on lexemes of the source, it takes a row of them of
which `post` holds. -/
def Reader.Spells (source : List Char) (reader : Reader α) (post : Post α) : Prop :=
  ∀ ⦃start : Nat⦄ ⦃row : List Lexeme⦄ ⦃a : α⦄ ⦃rest : List PlacedToken⦄,
    Located source start row → reader (placeLexemes start row) = .ok (a, rest) →
      ∃ run left, row = run ++ left ∧ rest = placeLexemes (start + widthOf run) left ∧
        post start run a left

/-- Two steps in a row. -/
def Post.andThen (first : Post α) (next : α → Post β) : Post β := fun start run b left =>
  ∃ taken others a, run = taken ++ others ∧ first start taken a (others ++ left) ∧
    next a (start + widthOf taken) others b left

namespace Reader

theorem Spells.imp {reader : Reader α} {post weaker : Post α} (hreader : reader.Spells source post)
    (himp : ∀ {start run a left}, post start run a left → weaker start run a left) :
    reader.Spells source weaker := by
  intro start row a rest hsource hread
  obtain ⟨run, left, hrow, hrest, hpost⟩ := hreader hsource hread
  exact ⟨run, left, hrow, hrest, himp hpost⟩

theorem bind_eq_ok {first : Reader α} {next : α → Reader β} {tokens rest : List PlacedToken}
    {b : β} (hread : (first >>= next) tokens = .ok (b, rest)) :
    ∃ a middle, first tokens = .ok (a, middle) ∧ next a middle = .ok (b, rest) := by
  change andThen first next tokens = .ok (b, rest) at hread
  unfold andThen at hread
  split at hread
  · rename_i a middle hfirst
    exact ⟨a, middle, hfirst, hread⟩
  · cases hread

theorem Spells.bind {first : Reader α} {next : α → Reader β} {post : Post α}
    {nextPost : α → Post β} (hfirst : first.Spells source post)
    (hnext : ∀ a, (next a).Spells source (nextPost a)) :
    (first >>= next).Spells source (post.andThen nextPost) := by
  intro start row b rest hsource hread
  obtain ⟨a, middle, hread₁, hread₂⟩ := bind_eq_ok hread
  obtain ⟨taken, others, rfl, rfl, hpost₁⟩ := hfirst hsource hread₁
  obtain ⟨run, left, rfl, rfl, hpost₂⟩ := hnext a hsource.right hread₂
  refine ⟨taken ++ run, left, by simp, ?_, taken, run, a, rfl, hpost₁, hpost₂⟩
  rw [widthOf_append, Nat.add_assoc]

theorem pure_spells (a : α) :
    (pure a : Reader α).Spells source fun _ run b _ => run = [] ∧ b = a := by
  rintro start row b rest _ ⟨⟩
  exact ⟨[], row, rfl, by simp, rfl, rfl⟩

theorem fail_spells (expected : Expected) (post : Post α) :
    (fail expected : Reader α).Spells source post := by
  rintro start row b rest _ ⟨⟩

theorem peek_spells :
    peek.Spells source fun start run next left =>
      run = [] ∧ next = (placeLexemes start left).head? := by
  rintro start row b rest _ ⟨⟩
  exact ⟨[], row, rfl, by simp, rfl, rfl⟩

theorem expect_spells (expected : Expected) (accept : PlacedToken → Option α) :
    (expect expected accept).Spells source fun start run a _ =>
      ∃ lexeme, run = [lexeme] ∧ accept ⟨lexeme.token, spanAt start [lexeme]⟩ = some a := by
  intro start row a rest _ hread
  cases row with
  | nil => cases hread
  | cons lexeme others =>
      rw [placeLexemes_cons, expect] at hread
      split at hread
      · rename_i found haccept
        cases hread
        exact ⟨[lexeme], others, rfl, rfl, lexeme, rfl, haccept⟩
      · cases hread

theorem optional_spells (accept : PlacedToken → Option α) :
    (optional accept).Spells source fun start run found _ =>
      (∃ lexeme a, run = [lexeme] ∧ accept ⟨lexeme.token, spanAt start [lexeme]⟩ = some a ∧
        found = some a) ∨ run = [] ∧ found = none := by
  intro start row found rest _ hread
  cases row with
  | nil =>
      cases hread
      exact ⟨[], [], rfl, rfl, .inr ⟨rfl, rfl⟩⟩
  | cons lexeme others =>
      rw [placeLexemes_cons, optional] at hread
      split at hread
      · rename_i a haccept
        cases hread
        exact ⟨[lexeme], others, rfl, rfl, .inl ⟨lexeme, a, rfl, haccept, rfl⟩⟩
      · cases hread
        exact ⟨[], lexeme :: others, rfl, by simp, .inr ⟨rfl, rfl⟩⟩

theorem skipWhile_spells (test : Token → Bool) :
    (skipWhile test).Spells source fun _ run _ left =>
      (∀ lexeme ∈ run, test lexeme.token = true) ∧
        ∀ lexeme ∈ left.head?, test lexeme.token = false := by
  rintro start row a rest _ ⟨⟩
  obtain ⟨run, left, hrow, hrun, hleft, hdrop⟩ := dropWhile_placeLexemes test start row
  exact ⟨run, left, hrow, hdrop, hrun, hleft⟩

theorem skipTrivia_spells : skipTrivia.Spells source fun _ run _ _ => AllTrivia run :=
  (skipWhile_spells _).imp And.left

theorem skipInline_spells : skipInline.Spells source fun _ run _ _ => AllInline run :=
  (skipWhile_spells _).imp And.left

theorem punct_spells (mark : Punct) (expected : Expected) :
    (punct mark expected).Spells source fun start run span _ =>
      ∃ lexeme, run = [lexeme] ∧ lexeme.token = .punct mark ∧ span = spanAt start [lexeme] := by
  refine (expect_spells _ _).imp ?_
  rintro start run span left ⟨lexeme, rfl, haccept⟩
  simp only [Token.isPunct, beq_iff_eq, Option.ite_none_right_eq_some, Option.some.injEq]
    at haccept
  exact ⟨lexeme, rfl, haccept.1, haccept.2.symm⟩

theorem eatPunct_spells (mark : Punct) :
    (eatPunct mark).Spells source fun start run found _ =>
      (∃ lexeme, run = [lexeme] ∧ lexeme.token = .punct mark ∧
        found = some (spanAt start [lexeme])) ∨ run = [] ∧ found = none := by
  refine (optional_spells _).imp ?_
  rintro start run found left (⟨lexeme, span, rfl, haccept, rfl⟩ | hnone)
  · simp only [Token.isPunct, beq_iff_eq, Option.ite_none_right_eq_some, Option.some.injEq]
      at haccept
    obtain ⟨htoken, rfl⟩ := haccept
    exact .inl ⟨lexeme, rfl, htoken, rfl⟩
  · exact .inr hnone

theorem keyword_spells (word : Keyword) (expected : Expected) :
    (keyword word expected).Spells source fun start run span _ =>
      ∃ lexeme, run = [lexeme] ∧ lexeme.token = .keyword word ∧ span = spanAt start [lexeme] := by
  refine (expect_spells _ _).imp ?_
  rintro start run span left ⟨lexeme, rfl, haccept⟩
  simp only [Token.isKeyword, beq_iff_eq, Option.ite_none_right_eq_some, Option.some.injEq]
    at haccept
  exact ⟨lexeme, rfl, haccept.1, haccept.2.symm⟩

theorem word_spells (expected : Expected) :
    (word expected).Spells source fun start run name _ =>
      ∃ lexeme text, run = [lexeme] ∧ lexeme.token.word? = some text ∧
        name = ⟨text, spanAt start [lexeme]⟩ := by
  refine (expect_spells _ _).imp ?_
  rintro start run name left ⟨lexeme, rfl, haccept⟩
  obtain ⟨text, htext, rfl⟩ := Option.map_eq_some_iff.mp haccept
  exact ⟨lexeme, text, rfl, htext, rfl⟩

theorem identifier_spells (expected : Expected) :
    (identifier expected).Spells source fun start run name _ =>
      ∃ lexeme text, run = [lexeme] ∧ lexeme.token = .identifier text ∧
        name = ⟨text, spanAt start [lexeme]⟩ := by
  refine (expect_spells _ _).imp ?_
  rintro start run name left ⟨lexeme, rfl, haccept⟩
  split at haccept
  · rename_i text htoken
    cases haccept
    exact ⟨lexeme, text, rfl, htoken, rfl⟩
  · cases haccept

theorem stringLiteral_spells (expected : Expected) :
    (stringLiteral expected).Spells source fun start run name _ =>
      ∃ lexeme text, run = [lexeme] ∧ lexeme.token = .string text ∧
        name = ⟨text, spanAt start [lexeme]⟩ := by
  refine (expect_spells _ _).imp ?_
  rintro start run name left ⟨lexeme, rfl, haccept⟩
  split at haccept
  · rename_i text htoken
    cases haccept
    exact ⟨lexeme, text, rfl, htoken, rfl⟩
  · cases haccept

theorem endOfLine_spells : endOfLine.Spells source fun _ run _ _ => AllInline run := by
  have hcheck : ∀ next, Spells source (if atLineEnd next then pure () else fail .endOfLine)
      fun _ run _ _ => run = [] := by
    intro next
    split
    · exact (pure_spells ()).imp And.left
    · exact fail_spells _ _
  refine (skipInline_spells.bind fun _ => peek_spells.bind hcheck).imp ?_
  rintro start run a left ⟨taken, others, _, rfl, htaken, _, _, _, rfl, ⟨rfl, _⟩, rfl⟩
  simpa using htaken

end Reader

end ApiLang
