/-
Readers on rows they take whole.  `Takes` says that a step, given a row and
whatever may follow it, succeeds and leaves what follows; steps in a row take
rows in a row, and loops take rows of lines.
-/
import ApiLang.Proofs.Tree.ReadingFiles
import ApiLang.Proofs.Tree.Rows

namespace ApiLang

variable {α β : Type} {source : List Char}

/-- In front of anything that `follow` allows, the step takes the row and makes of
it something of which `good` holds. -/
def Reader.Takes (source : List Char) (reader : Reader α) (row : List Lexeme)
    (follow : List Lexeme → Prop) (good : α → Prop) : Prop :=
  ∀ ⦃start : Nat⦄ ⦃rest : List Lexeme⦄, Located source start (row ++ rest) → follow rest →
    ∃ a, reader (placeLexemes start (row ++ rest)) =
      .ok (a, placeLexemes (start + widthOf row) rest) ∧ good a

/-- Anything may follow. -/
def Anything (_ : List Lexeme) : Prop :=
  True

/-- The next lexeme, if there is one, satisfies `test`. -/
def Next (test : Token → Bool) (rest : List Lexeme) : Prop :=
  ∀ lexeme ∈ rest.head?, test lexeme.token = true

/-- A line break follows. -/
def AtBreak (rest : List Lexeme) : Prop :=
  ∃ others, rest = lineBreak :: others

theorem next_of_atBreak {test : Token → Bool} (htest : test .newline = true)
    {rest : List Lexeme} (hrest : AtBreak rest) : Next test rest := by
  obtain ⟨others, rfl⟩ := hrest
  rintro lexeme ⟨⟩
  exact htest

/-- Something that does not end the line follows. -/
def InLine (rest : List Lexeme) : Prop :=
  ∃ lexeme others, rest = lexeme :: others ∧ endsLine lexeme.token = false

theorem allInline_nil : AllInline [] := by
  simp [AllInline]

theorem allInline_space : AllInline [space] := by
  intro lexeme hlexeme
  rw [List.mem_singleton.mp hlexeme]
  rfl

namespace Reader

theorem bind_ok {first : Reader α} {next : α → Reader β} {tokens middle : List PlacedToken} {a : α}
    (hfirst : first tokens = .ok (a, middle)) : (first >>= next) tokens = next a middle := by
  change andThen first next tokens = _
  rw [andThen, hfirst]

theorem Takes.bind {first : Reader α} {next : α → Reader β} {row others : List Lexeme}
    {follow nextFollow : List Lexeme → Prop} {good : α → Prop} {nextGood : β → Prop}
    (hfirst : first.Takes source row follow good)
    (hnext : ∀ a, good a → (next a).Takes source others nextFollow nextGood)
    (hfollow : ∀ rest, nextFollow rest → follow (others ++ rest)) :
    (first >>= next).Takes source (row ++ others) nextFollow nextGood := by
  intro start rest hsource hrest
  rw [List.append_assoc] at hsource ⊢
  obtain ⟨a, hread, ha⟩ := hfirst hsource (hfollow rest hrest)
  obtain ⟨b, hreadNext, hb⟩ := hnext a ha hsource.right hrest
  refine ⟨b, ?_, hb⟩
  rw [bind_ok hread, hreadNext, widthOf_append, Nat.add_assoc]

/-- A step that takes its row whatever follows, in front of another. -/
theorem Takes.next {first : Reader α} {next : α → Reader β} {row others : List Lexeme}
    {follow : List Lexeme → Prop} {good : α → Prop} {nextGood : β → Prop}
    (hfirst : first.Takes source row Anything good)
    (hnext : ∀ a, good a → (next a).Takes source others follow nextGood) :
    (first >>= next).Takes source (row ++ others) follow nextGood :=
  hfirst.bind hnext fun _ _ => trivial

/-- A step that only looks at what follows, in front of another. -/
theorem Takes.before {first : Reader α} {next : α → Reader β} {row : List Lexeme}
    {follow nextFollow : List Lexeme → Prop} {good : α → Prop} {nextGood : β → Prop}
    (hfirst : first.Takes source [] follow good)
    (hnext : ∀ a, good a → (next a).Takes source row nextFollow nextGood)
    (hfollow : ∀ rest, nextFollow rest → follow (row ++ rest)) :
    (first >>= next).Takes source row nextFollow nextGood :=
  hfirst.bind hnext hfollow

/-- A step in front of one that only looks at what follows. -/
theorem Takes.look {first : Reader α} {next : α → Reader β} {row : List Lexeme}
    {follow nextFollow : List Lexeme → Prop} {good : α → Prop} {nextGood : β → Prop}
    (hfirst : first.Takes source row follow good)
    (hnext : ∀ a, good a → (next a).Takes source [] nextFollow nextGood)
    (hfollow : ∀ rest, nextFollow rest → follow rest) :
    (first >>= next).Takes source row nextFollow nextGood := by
  have htakes := hfirst.bind hnext hfollow
  rwa [List.append_nil] at htakes

/-- A step and what is made of its answer. -/
theorem Takes.pure {first : Reader α} {make : α → β} {row : List Lexeme}
    {follow : List Lexeme → Prop} {good : α → Prop} {madeGood : β → Prop}
    (hfirst : first.Takes source row follow good) (hmake : ∀ a, good a → madeGood (make a)) :
    (do let a ← first
        return make a).Takes source row follow madeGood := by
  intro start rest hsource hrest
  obtain ⟨a, hread, ha⟩ := hfirst hsource hrest
  exact ⟨make a, bind_ok hread, hmake a ha⟩

/-- A step that goes on in another way behind a row. -/
theorem Takes.behind {reader : Reader α} (row : List Lexeme) (inner : Nat → Reader α)
    {others : List Lexeme} {follow : List Lexeme → Prop} {good : α → Prop}
    (hreader : ∀ start more, reader (placeLexemes start (row ++ more)) =
      inner start (placeLexemes (start + widthOf row) more))
    (hinner : ∀ start, (inner start).Takes source others follow good) :
    reader.Takes source (row ++ others) follow good := by
  intro start rest hsource hrest
  rw [List.append_assoc] at hsource ⊢
  obtain ⟨a, hread, ha⟩ := hinner start hsource.right hrest
  refine ⟨a, ?_, ha⟩
  rw [hreader, hread, widthOf_append, Nat.add_assoc]

theorem Takes.imp {reader : Reader α} {row : List Lexeme} {follow follow' : List Lexeme → Prop}
    {good good' : α → Prop} (htakes : reader.Takes source row follow good)
    (hfollow : ∀ rest, follow' rest → follow rest) (hgood : ∀ a, good a → good' a) :
    reader.Takes source row follow' good' := by
  intro start rest hsource hrest
  obtain ⟨a, hread, ha⟩ := htakes hsource (hfollow rest hrest)
  exact ⟨a, hread, hgood a ha⟩

theorem takes_pure {follow : List Lexeme → Prop} {good : α → Prop} {a : α} (ha : good a) :
    (pure a : Reader α).Takes source [] follow good := by
  intro start rest _ _
  exact ⟨a, by simp; rfl, ha⟩

theorem takes_peek_inLine :
    peek.Takes source [] InLine fun next => atLineEnd next = false := by
  rintro start _ _ ⟨lexeme, others, rfl, hline⟩
  refine ⟨some ⟨lexeme.token, spanAt start [lexeme]⟩, by simp [peek], ?_⟩
  simpa [atLineEnd] using hline

theorem expect_eq {expected : Expected} {accept : PlacedToken → Option α} {lexeme : Lexeme}
    {start : Nat} {a : α} (haccept : accept ⟨lexeme.token, spanAt start [lexeme]⟩ = some a)
    (rest : List Lexeme) :
    expect expected accept (placeLexemes start (lexeme :: rest)) =
      .ok (a, placeLexemes (start + widthOf [lexeme]) rest) := by
  rw [placeLexemes_cons, expect, haccept]

theorem takes_expect {expected : Expected} {accept : PlacedToken → Option α} {lexeme : Lexeme}
    {good : α → Prop}
    (haccept : ∀ span, ∃ a, accept ⟨lexeme.token, span⟩ = some a ∧ good a) :
    (expect expected accept).Takes source [lexeme] Anything good := by
  intro start rest _ _
  obtain ⟨a, ha, hgood⟩ := haccept (spanAt start [lexeme])
  exact ⟨a, expect_eq ha rest, hgood⟩

theorem takes_optional_some {accept : PlacedToken → Option α} {lexeme : Lexeme}
    {good : Option α → Prop}
    (haccept : ∀ span, ∃ a, accept ⟨lexeme.token, span⟩ = some a ∧ good (some a)) :
    (optional accept).Takes source [lexeme] Anything good := by
  intro start rest _ _
  obtain ⟨a, ha, hgood⟩ := haccept (spanAt start [lexeme])
  refine ⟨some a, ?_, hgood⟩
  rw [List.singleton_append, placeLexemes_cons, optional, ha]

theorem takes_optional_none {accept : PlacedToken → Option α} :
    (optional accept).Takes source []
      (fun rest => ∀ lexeme ∈ rest.head?, ∀ span, accept ⟨lexeme.token, span⟩ = none)
      (· = none) := by
  intro start rest _ hrest
  refine ⟨none, ?_, rfl⟩
  cases rest with
  | nil => rfl
  | cons lexeme others =>
      rw [List.nil_append, placeLexemes_cons, optional, hrest lexeme rfl (spanAt start [lexeme])]
      simp

theorem takes_skipWhile {test : Token → Bool} {gap : List Lexeme}
    (hgap : ∀ lexeme ∈ gap, test lexeme.token = true) :
    (skipWhile test).Takes source gap (Next fun token => !test token) fun _ => True := by
  intro start rest _ hrest
  refine ⟨(), ?_, trivial⟩
  rw [skipWhile, dropWhile_placeLexemes_append hgap]
  intro lexeme hlexeme
  simpa using hrest lexeme hlexeme

theorem takes_skipInline {gap : List Lexeme} (hgap : AllInline gap) :
    skipInline.Takes source gap (Next fun token => !token.isInlineTrivia) fun _ => True :=
  takes_skipWhile hgap

theorem takes_skipInline_nil :
    skipInline.Takes source [] (Next fun token => !token.isInlineTrivia) fun _ => True :=
  takes_skipInline allInline_nil

theorem takes_skipInline_space :
    skipInline.Takes source [space] (Next fun token => !token.isInlineTrivia) fun _ => True :=
  takes_skipInline allInline_space

theorem takes_skipTrivia_space :
    skipTrivia.Takes source [space] (Next fun token => !token.isTrivia) fun _ => True :=
  takes_skipWhile (by simp [space, Token.isTrivia])

theorem takes_punct {mark : Punct} {expected : Expected} {lexeme : Lexeme}
    (htoken : lexeme.token = .punct mark) :
    (punct mark expected).Takes source [lexeme] Anything fun _ => True :=
  takes_expect fun span => ⟨span, by simp [htoken, Token.isPunct], trivial⟩

theorem takes_eatPunct_some {mark : Punct} {lexeme : Lexeme} (htoken : lexeme.token = .punct mark) :
    (eatPunct mark).Takes source [lexeme] Anything fun found => found.isSome = true :=
  takes_optional_some fun span => ⟨span, by simp [htoken, Token.isPunct], rfl⟩

theorem takes_eatPunct_none {mark : Punct} :
    (eatPunct mark).Takes source [] (Next fun token => !token.isPunct mark) (· = none) :=
  takes_optional_none.imp
    (fun rest hrest lexeme hlexeme span => by simpa using hrest lexeme hlexeme) fun _ => id

theorem takes_keyword {word : Keyword} {expected : Expected} {lexeme : Lexeme}
    (htoken : lexeme.token = .keyword word) :
    (keyword word expected).Takes source [lexeme] Anything fun _ => True :=
  takes_expect fun span => ⟨span, by simp [htoken, Token.isKeyword], trivial⟩

theorem takes_word {expected : Expected} {lexeme : Lexeme} {text : String}
    (htoken : lexeme.token.word? = some text) :
    (word expected).Takes source [lexeme] Anything fun name => name.val = text :=
  takes_expect fun span => ⟨⟨text, span⟩, by simp [htoken], rfl⟩

theorem takes_identifier {expected : Expected} {lexeme : Lexeme} {text : String}
    (htoken : lexeme.token = .identifier text) :
    (identifier expected).Takes source [lexeme] Anything fun name => name.val = text :=
  takes_expect fun span => ⟨⟨text, span⟩, by simp [htoken], rfl⟩

theorem takes_stringLiteral {expected : Expected} {lexeme : Lexeme} {text : String}
    (htoken : lexeme.token = .string text) :
    (stringLiteral expected).Takes source [lexeme] Anything fun name => name.val = text :=
  takes_expect fun span => ⟨⟨text, span⟩, by simp [htoken], rfl⟩

theorem takes_endOfLine : endOfLine.Takes source [] AtBreak fun _ => True := by
  rintro start _ _ ⟨others, rfl⟩
  exact ⟨(), rfl, trivial⟩

end Reader

end ApiLang
