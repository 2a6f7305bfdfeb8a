/-
The same tokens in two sources.  A stretch of tokens stands in one source and,
moved by some distance, in another.  `Transfers` says of a step that it reads in
the second source what it reads in the first, as long as it leaves what follows
the stretch alone; steps in a row inherit this.
-/
import ApiLang.Proofs.Tree.Shift
import ApiLang.Proofs.Tree.Takes

namespace ApiLang

variable {α β : Type}

/-- How the stretch ends in both sources: with the input, or in front of tokens
that end the line. -/
inductive SameEnd (source target : List Char) (distance : Nat) :
    List PlacedToken → List PlacedToken → Prop
  | input (hwidth : byteWidth target = byteWidth source + distance) :
      SameEnd source target distance [] []
  | line {last last' : PlacedToken} {others others' : List PlacedToken}
      (hlast : endsLine last.token = true) (hlast' : endsLine last'.token = true)
      (hstart : last'.span.start = last.span.start + distance) :
      SameEnd source target distance (last :: others) (last' :: others')

/-- A stretch of fewer than `size` tokens that ends by byte `bound` of the source
and stands `distance` bytes further in the target, with what follows it there and
there. -/
structure Transfer where
  source : List Char
  target : List Char
  distance : Nat
  bound : Nat
  size : Nat
  rest : List PlacedToken
  targetRest : List PlacedToken
  sameEnd : SameEnd source target distance rest targetRest
  slices : ∀ span : Span, span.stop ≤ bound →
    sliceText target (span.shift distance) = sliceText source span

namespace Transfer

variable (t : Transfer)

/-- The tokens belong to the stretch. -/
def Holds (tokens : List PlacedToken) : Prop :=
  (∀ placed ∈ tokens, placed.span.start ≤ t.bound ∧ placed.span.stop ≤ t.bound) ∧
    tokens.length < t.size

/-- The input of the target where that of the source starts with the tokens. -/
def move (tokens : List PlacedToken) : List PlacedToken :=
  tokens.map (PlacedToken.shift t.distance) ++ t.targetRest

/-- The end of the stretch is not reached, or the input ends with it. -/
def Free (left : List PlacedToken) : Prop :=
  t.rest = [] ∨ left ≠ []

/-- The same for shorter stretches. -/
def upTo (size : Nat) : Transfer :=
  { t with size }

@[simp] theorem upTo_distance (size : Nat) : (t.upTo size).distance = t.distance := rfl

variable {t}

theorem Holds.mono {tokens left : List PlacedToken} (hholds : t.Holds tokens)
    (hleft : left <:+ tokens) : t.Holds left :=
  ⟨fun placed hplaced => hholds.1 placed (hleft.mem hplaced),
    Nat.lt_of_le_of_lt hleft.length_le hholds.2⟩

theorem Holds.head {placed : PlacedToken} {others : List PlacedToken}
    (hholds : t.Holds (placed :: others)) : placed.span.stop ≤ t.bound :=
  (hholds.1 placed List.mem_cons_self).2

theorem Holds.tail {placed : PlacedToken} {others : List PlacedToken}
    (hholds : t.Holds (placed :: others)) : t.Holds others :=
  hholds.mono (List.suffix_cons placed others)

theorem Free.mono {left more : List PlacedToken} (hfree : t.Free left) (hmore : left <:+ more) :
    t.Free more := by
  rcases hfree with hrest | hleft
  · exact .inl hrest
  · refine .inr ?_
    rintro rfl
    exact hleft (List.suffix_nil.mp hmore)

@[simp] theorem move_nil : t.move [] = t.targetRest := rfl

@[simp] theorem move_cons (placed : PlacedToken) (others : List PlacedToken) :
    t.move (placed :: others) = placed.shift t.distance :: t.move others := rfl

/-- What follows the stretch: nothing, or the end of a line. -/
theorem rest_cases (t : Transfer) :
    (t.rest = [] ∧ t.targetRest = [] ∧ byteWidth t.target = byteWidth t.source + t.distance) ∨
      ∃ last others last' others', t.rest = last :: others ∧ t.targetRest = last' :: others' ∧
        endsLine last.token = true ∧ endsLine last'.token = true ∧
          last'.span.start = last.span.start + t.distance := by
  obtain ⟨_, _, _, _, _, _, _, hend, _⟩ := t
  cases hend with
  | input hwidth => exact .inl ⟨rfl, rfl, hwidth⟩
  | line hlast hlast' hstart => exact .inr ⟨_, _, _, _, rfl, rfl, hlast, hlast', hstart⟩

theorem targetRest_of_rest_eq_nil (hrest : t.rest = []) : t.targetRest = [] := by
  rcases t.rest_cases with ⟨_, htarget, _⟩ | ⟨last, others, _, _, hcons, _⟩
  · exact htarget
  · rw [hrest] at hcons
    cases hcons

/-- What a step leaves, if more steps stay within the stretch. -/
theorem exists_left {before left middle : List PlacedToken} (hmiddle : middle <:+ before ++ t.rest)
    (hleft : left ++ t.rest <:+ middle) :
    ∃ kept, middle = kept ++ t.rest ∧ kept <:+ before ∧ left <:+ kept := by
  obtain ⟨taken, htaken⟩ := hmiddle
  obtain ⟨more, rfl⟩ := hleft
  refine ⟨more ++ left, (List.append_assoc ..).symm, ⟨taken, ?_⟩, ⟨more, rfl⟩⟩
  rw [← List.append_assoc, ← List.append_assoc, List.append_cancel_right_eq] at htaken
  rw [← List.append_assoc]
  exact htaken

theorem exists_kept {before middle : List PlacedToken} (hmiddle : middle <:+ before ++ t.rest)
    (hrest : t.rest <:+ middle) : ∃ kept, middle = kept ++ t.rest ∧ kept <:+ before := by
  rw [← List.nil_append t.rest] at hrest
  obtain ⟨kept, hsplit, hkept, _⟩ := exists_left hmiddle hrest
  exact ⟨kept, hsplit, hkept⟩

theorem left_eq_nil {left : List PlacedToken} (hleft : left ++ t.rest <:+ t.rest) : left = [] := by
  have hlength := hleft.length_le
  rw [List.length_append] at hlength
  exact List.length_eq_zero_iff.mp (by omega)

end Transfer

/-- The step reads in the target what it reads in the source, moved by `f`, if it
leaves what follows the stretch alone and makes something good of it; a strict
one, if it does not even reach the end of the stretch.  It also fails as it does
in the source if it fails within the stretch. -/
structure Reader.TransfersIf (t : Transfer) (strict : Bool) (good : α → Prop) (f : α → α)
    (reader reader' : Reader α) : Prop where
  keeps : reader.Keeps
  ok : ∀ ⦃before left : List PlacedToken⦄ ⦃a : α⦄, t.Holds before →
    reader (before ++ t.rest) = .ok (a, left ++ t.rest) → (strict = true → t.Free left) →
    (t.rest = [] ∨ good a) → reader' (t.move before) = .ok (f a, t.move left)
  error : ∀ ⦃before left : List PlacedToken⦄ ⦃expected : Expected⦄, t.Holds before →
    reader (before ++ t.rest) = .error ⟨expected, left ++ t.rest⟩ → t.Free left →
    reader' (t.move before) = .error ⟨expected, t.move left⟩

/-- The step reads in the target what it reads in the source, whatever that is. -/
abbrev Reader.Transfers (t : Transfer) (strict : Bool) (f : α → α) (reader reader' : Reader α) :
    Prop :=
  reader.TransfersIf t strict (fun _ => True) f reader'

namespace Reader

variable {t : Transfer} {strict : Bool}

theorem bind_eq_error {first : Reader α} {next : α → Reader β} {tokens : List PlacedToken}
    {mismatch : Mismatch} (hread : (first >>= next) tokens = .error mismatch) :
    first tokens = .error mismatch ∨
      ∃ a middle, first tokens = .ok (a, middle) ∧ next a middle = .error mismatch := by
  change andThen first next tokens = .error mismatch at hread
  unfold andThen at hread
  split at hread
  · rename_i a middle hfirst
    exact .inr ⟨a, middle, hfirst, hread⟩
  · rename_i other hfirst
    cases hread
    exact .inl hfirst

theorem bind_of_error {first : Reader α} {next : α → Reader β} {tokens : List PlacedToken}
    {mismatch : Mismatch} (hfirst : first tokens = .error mismatch) :
    (first >>= next) tokens = .error mismatch := by
  change andThen first next tokens = _
  rw [andThen, hfirst]

theorem Transfers.of_weak {f : α → α} {good : α → Prop} {reader reader' : Reader α}
    (hreader : reader.Transfers t false f reader') :
    reader.TransfersIf t strict good f reader' where
  keeps := hreader.keeps
  ok _ _ _ hholds hread _ _ := hreader.ok hholds hread Bool.noConfusion (.inr trivial)
  error := hreader.error

/-- There is nothing to show for stretches of fewer than no tokens. -/
theorem Transfers.zero {f : α → α} {reader reader' : Reader α} (hkeeps : reader.Keeps) :
    reader.Transfers (t.upTo 0) strict f reader' where
  keeps := hkeeps
  ok _ _ _ hholds _ _ _ := absurd hholds.2 (Nat.not_lt_zero _)
  error _ _ _ hholds _ _ := absurd hholds.2 (Nat.not_lt_zero _)

/-- Steps in a row.  A strict first step may stand in a row that is not strict if
what follows it takes a token, and what follows a step that takes one need only
be read on shorter stretches. -/
theorem Transfers.bind_of {f : α → α} {g : β → β} {good : β → Prop} {first first' : Reader α}
    {next next' : α → Reader β} {firstStrict : Bool} (size : Nat)
    (hfirst : first.Transfers t firstStrict f first')
    (hnext : ∀ a, (next a).TransfersIf (t.upTo size) strict good g (next' (f a)))
    (hstrict : firstStrict = true → strict = true ∨ ∀ a, (next a).Advances)
    (hsize : t.size ≤ size ∨ first.Advances ∧ t.size ≤ size + 1) :
    (first >>= next).TransfersIf t strict good g (first' >>= next') := by
  -- What the first step leaves belongs to the shorter stretches.
  have hholdsNext : ∀ {before kept : List PlacedToken} {a : α}, t.Holds before →
      first (before ++ t.rest) = .ok (a, kept ++ t.rest) → kept <:+ before →
      (t.upTo size).Holds kept := by
    intro before kept a hholds hread hkept
    refine ⟨(hholds.mono hkept).1, ?_⟩
    have hlength := hholds.2
    rcases hsize with hsize | ⟨hadvances, hsize⟩
    · exact Nat.lt_of_lt_of_le (hholds.mono hkept).2 hsize
    · have hshorter := hadvances _ _ _ hread
      simp only [List.length_append] at hshorter
      change kept.length < size
      omega
  constructor
  · exact bind_keeps hfirst.keeps fun a => (hnext a).keeps
  · intro before left b hholds hread hfree hgood
    obtain ⟨a, middle, hreadFirst, hreadNext⟩ := bind_eq_ok hread
    obtain ⟨kept, rfl, hkept, hleft⟩ := Transfer.exists_left
      ((hfirst.keeps _).1 _ _ hreadFirst) (((hnext a).keeps _).1 _ _ hreadNext)
    have hfreeKept : firstStrict = true → t.Free kept := by
      intro htrue
      rcases hstrict htrue with hstrict | hadvances
      · exact (hfree hstrict).mono hleft
      · have hshorter := hadvances a _ _ _ hreadNext
        simp only [List.length_append] at hshorter
        refine .inr ?_
        rintro rfl
        simp at hshorter
    rw [bind_ok (hfirst.ok hholds hreadFirst hfreeKept (.inr trivial))]
    exact (hnext a).ok (hholdsNext hholds hreadFirst hkept) hreadNext hfree hgood
  · intro before left expected hholds hread hfree
    rcases bind_eq_error hread with hreadFirst | ⟨a, middle, hreadFirst, hreadNext⟩
    · exact bind_of_error (hfirst.error hholds hreadFirst hfree)
    · obtain ⟨kept, rfl, hkept, hleft⟩ := Transfer.exists_left
        ((hfirst.keeps _).1 _ _ hreadFirst) (((hnext a).keeps _).2 _ hreadNext)
      rw [bind_ok (hfirst.ok hholds hreadFirst (fun _ => hfree.mono hleft) (.inr trivial))]
      exact (hnext a).error (hholdsNext hholds hreadFirst hkept) hreadNext hfree

theorem Transfers.bind {f : α → α} {g : β → β} {good : β → Prop}
    {first first' : Reader α} {next next' : α → Reader β}
    (hfirst : first.Transfers t strict f first')
    (hnext : ∀ a, (next a).TransfersIf t strict good g (next' (f a))) :
    (first >>= next).TransfersIf t strict good g (first' >>= next') :=
  Transfers.bind_of t.size hfirst hnext .inl (.inl (Nat.le_refl _))

/-- A strict step in front of steps that take a token. -/
theorem Transfers.bind_of_advances {f : α → α} {g : β → β} {good : β → Prop}
    {first first' : Reader α} {next next' : α → Reader β} (hfirst : first.Transfers t true f first')
    (hnext : ∀ a, (next a).TransfersIf t strict good g (next' (f a)))
    (hadvances : ∀ a, (next a).Advances) :
    (first >>= next).TransfersIf t strict good g (first' >>= next') :=
  Transfers.bind_of t.size hfirst hnext (fun _ => .inr hadvances)
    (.inl (Nat.le_refl _))

/-- A step that takes a token, in front of steps that are read on shorter
stretches. -/
theorem Transfers.bind_below {f : α → α} {g : β → β} {good : β → Prop}
    {first first' : Reader α} {next next' : α → Reader β} {size : Nat}
    (hfirst : first.Transfers (t.upTo (size + 1)) strict f first') (hadvances : first.Advances)
    (hnext : ∀ a, (next a).TransfersIf (t.upTo size) strict good g (next' (f a))) :
    (first >>= next).TransfersIf (t.upTo (size + 1)) strict good g (first' >>= next') :=
  Transfers.bind_of size hfirst hnext .inl (.inr ⟨hadvances, Nat.le_refl _⟩)

theorem transfers_pure {f : α → α} {good : α → Prop} {a a' : α} (ha : a' = f a) :
    (pure a : Reader α).TransfersIf t strict good f (pure a') where
  keeps := pure_keeps a
  ok before left b _ hread _ _ := by
    change Except.ok (a, before ++ t.rest) = _ at hread
    simp only [Except.ok.injEq, Prod.mk.injEq, List.append_cancel_right_eq] at hread
    rw [ha, hread.1, hread.2]
    rfl
  error _ _ _ _ hread _ := by cases hread

/-- A step whose answer is made into something else. -/
theorem Transfers.make {f : α → α} {g : β → β} {good : β → Prop} {reader reader' : Reader α}
    {make make' : α → β} (hreader : reader.Transfers t strict f reader')
    (hmake : ∀ a, make' (f a) = g (make a)) :
    (do let a ← reader
        pure (make a)).TransfersIf t strict good g (do
          let a ← reader'
          pure (make' a)) :=
  hreader.bind fun a => transfers_pure (hmake a)

/-- The same where only good answers transfer. -/
theorem TransfersIf.make {f : α → α} {g : β → β} {good : α → Prop} {madeGood : β → Prop}
    {reader reader' : Reader α} {make make' : α → β}
    (hreader : reader.TransfersIf t strict good f reader')
    (hmake : ∀ a, make' (f a) = g (make a)) (hgood : ∀ a, madeGood (make a) → good a) :
    (do let a ← reader
        pure (make a)).TransfersIf t strict madeGood g (do
          let a ← reader'
          pure (make' a)) where
  keeps := bind_keeps hreader.keeps fun _ => pure_keeps _
  ok before left b hholds hread hfree hmade := by
    obtain ⟨a, middle, hreadFirst, hreadNext⟩ := bind_eq_ok hread
    cases hreadNext
    rw [bind_ok (hreader.ok hholds hreadFirst hfree (hmade.imp_right (hgood a))), hmake]
    rfl
  error before left expected hholds hread hfree := by
    rcases bind_eq_error hread with hreadFirst | ⟨a, middle, _, hreadNext⟩
    · exact bind_of_error (hreader.error hholds hreadFirst hfree)
    · cases hreadNext

theorem transfers_fail (expected : Expected) {f : α → α} {good : α → Prop} :
    (fail expected : Reader α).TransfersIf t strict good f (fail expected) where
  keeps := fail_keeps expected
  ok _ _ _ _ hread _ _ := by cases hread
  error before left expected' _ hread _ := by
    simp only [fail, Except.error.injEq, Mismatch.mk.injEq, List.append_cancel_right_eq] at hread
    rw [fail, hread.1, hread.2]

theorem transfers_ite {c c' : Prop} [Decidable c] [Decidable c'] {f : α → α} {good : α → Prop}
    {first first' second second' : Reader α} (hc : c ↔ c')
    (hfirst : first.TransfersIf t strict good f first')
    (hsecond : second.TransfersIf t strict good f second') :
    (if c then first else second).TransfersIf t strict good f
      (if c' then first' else second') := by
  by_cases htrue : c
  · rw [if_pos htrue, if_pos (hc.mp htrue)]
    exact hfirst
  · rw [if_neg htrue, if_neg fun htrue' => htrue (hc.mpr htrue')]
    exact hsecond

/-- Where the stretch is over, a step that takes a token takes what follows. -/
theorem Advances.not_ok_rest {reader : Reader α} (hadvances : reader.Advances) {a : α}
    {left : List PlacedToken} : reader t.rest ≠ .ok (a, left ++ t.rest) := by
  intro hread
  have hshorter := hadvances _ _ _ hread
  rw [List.length_append] at hshorter
  omega

/-- Where the stretch is over, a step fails within it only at the end of the
input. -/
theorem Keeps.error_rest {reader : Reader α} (hkeeps : reader.Keeps) {left : List PlacedToken}
    {expected : Expected} (hread : reader t.rest = .error ⟨expected, left ++ t.rest⟩)
    (hfree : t.Free left) : t.rest = [] ∧ left = [] := by
  have hleft : left = [] := Transfer.left_eq_nil ((hkeeps _).2 _ hread)
  rcases hfree with hrest | hne
  · exact ⟨hrest, hleft⟩
  · exact absurd hleft hne

/-- What is made of a token moves with it. -/
def Accepts (distance : Nat) (f : α → α) (accept : PlacedToken → Option α) : Prop :=
  ∀ placed, accept (placed.shift distance) = (accept placed).map f

/-- A step that takes a token, in front of steps that depend on it. -/
theorem transfers_expect_bind {expected : Expected} {accept : PlacedToken → Option α} {f : α → α}
    {g : β → β} {good : β → Prop} {next next' : α → Reader β}
    (haccept : Accepts t.distance f accept) (hkeeps : ∀ a, (next a).Keeps)
    (hnext : ∀ placed a, placed.span.stop ≤ t.bound → accept placed = some a →
      (next a).TransfersIf t strict good g (next' (f a))) :
    (expect expected accept >>= next).TransfersIf t strict good g
      (expect expected accept >>= next') := by
  have htaken : ∀ {before : List PlacedToken} {placed : PlacedToken} {a : α},
      accept placed = some a → ∀ next : α → Reader β,
      (expect expected accept >>= next) (placed :: before) = next a before := by
    intro before placed a ha next
    exact bind_ok (by rw [expect, ha])
  have hrefused : ∀ {before : List PlacedToken} {placed : PlacedToken},
      accept placed = none → ∀ next : α → Reader β,
      (expect expected accept >>= next) (placed :: before) =
        .error ⟨expected, placed :: before⟩ := by
    intro before placed hnone next
    exact bind_of_error (by rw [expect, hnone])
  have hadvances : (expect expected accept >>= next).Advances :=
    bind_advances_of_first (expect_advances expected accept) hkeeps
  constructor
  · exact bind_keeps (expect_keeps expected accept) hkeeps
  · intro before left b hholds hread hfree hgood
    cases before with
    | nil => exact absurd hread hadvances.not_ok_rest
    | cons placed others =>
        have hmoved := haccept placed
        cases ha : accept placed with
        | none =>
            rw [List.cons_append, hrefused ha] at hread
            cases hread
        | some a =>
            rw [ha] at hmoved
            rw [List.cons_append, htaken ha] at hread
            rw [Transfer.move_cons, htaken hmoved]
            exact (hnext placed a hholds.head ha).ok hholds.tail hread hfree hgood
  · intro before left expected' hholds hread hfree
    cases before with
    | nil =>
        have hkeepsAll := bind_keeps (expect_keeps expected accept) hkeeps
        obtain ⟨hrest, rfl⟩ := hkeepsAll.error_rest hread hfree
        rw [List.nil_append, hrest] at hread
        cases hread
        rw [Transfer.move_nil, Transfer.targetRest_of_rest_eq_nil hrest]
        rfl
    | cons placed others =>
        have hmoved := haccept placed
        cases ha : accept placed with
        | none =>
            rw [ha] at hmoved
            rw [List.cons_append, hrefused ha] at hread
            simp only [Except.error.injEq, Mismatch.mk.injEq, ← List.cons_append,
              List.append_cancel_right_eq] at hread
            rw [Transfer.move_cons, hrefused hmoved, hread.1, ← hread.2, Transfer.move_cons]
        | some a =>
            rw [ha] at hmoved
            rw [List.cons_append, htaken ha] at hread
            rw [Transfer.move_cons, htaken hmoved]
            exact (hnext placed a hholds.head ha).error hholds.tail hread hfree

theorem transfers_expect {expected : Expected} {accept : PlacedToken → Option α} {f : α → α}
    (haccept : Accepts t.distance f accept) :
    (expect expected accept).Transfers t strict f (expect expected accept) := by
  have hpure : expect expected accept = expect expected accept >>= pure := by
    funext tokens
    cases hread : expect expected accept tokens with
    | ok found => rw [bind_ok hread]; rfl
    | error mismatch => rw [bind_of_error hread]
  rw [hpure]
  exact transfers_expect_bind haccept pure_keeps fun _ _ _ _ => transfers_pure rfl

/-- A step that always succeeds and never goes past the end of a line. -/
theorem Transfers.of_stays {f : α → α} {reader reader' : Reader α} (hkeeps : reader.Keeps)
    (hstays : ∀ before, t.Holds before → ∃ a left, reader (before ++ t.rest) =
      .ok (a, left ++ t.rest) ∧ reader' (t.move before) = .ok (f a, t.move left)) :
    reader.Transfers t strict f reader' where
  keeps := hkeeps
  ok before left b hholds hread _ _ := by
    obtain ⟨a, kept, hok, hok'⟩ := hstays before hholds
    rw [hok] at hread
    simp only [Except.ok.injEq, Prod.mk.injEq, List.append_cancel_right_eq] at hread
    rw [hok', hread.1, hread.2]
  error before left expected hholds hread _ := by
    obtain ⟨a, kept, hok, _⟩ := hstays before hholds
    rw [hok] at hread
    cases hread

theorem transfers_optional {accept : PlacedToken → Option α} {f : α → α}
    (haccept : Accepts t.distance f accept)
    (hend : ∀ placed, endsLine placed.token = true → accept placed = none) :
    (optional accept).Transfers t strict (Option.map f) (optional accept) := by
  refine .of_stays (optional_keeps accept) fun before _ => ?_
  cases before with
  | nil =>
      refine ⟨none, [], ?_, ?_⟩
      · rcases t.rest_cases with ⟨hrest, _⟩ | ⟨last, others, _, _, hrest, _, hlast, _⟩
        · rw [hrest]
          rfl
        · rw [hrest, List.nil_append, optional, hend last hlast]
      · rcases t.rest_cases with ⟨_, htarget, _⟩ | ⟨_, _, last', others', _, htarget, _, hlast', _⟩
        · rw [Transfer.move_nil, htarget]
          rfl
        · rw [Transfer.move_nil, htarget, optional, hend last' hlast']
          rfl
  | cons placed others =>
      have hmoved := haccept placed
      cases ha : accept placed with
      | none =>
          rw [ha] at hmoved
          refine ⟨none, placed :: others, ?_, ?_⟩
          · rw [List.cons_append, optional, ha]
          · rw [Transfer.move_cons, optional, hmoved]
            rfl
      | some a =>
          rw [ha] at hmoved
          refine ⟨some a, others, ?_, ?_⟩
          · rw [List.cons_append, optional, ha]
          · rw [Transfer.move_cons, optional, hmoved]
            rfl

/-- Dropping tokens of the stretch that satisfy `test`, the end of the stretch
apart. -/
theorem dropWhile_move {test : Token → Bool} {before left : List PlacedToken}
    (hdrop : (before ++ t.rest).dropWhile (fun placed => test placed.token) = left ++ t.rest)
    (hend : left = [] → t.targetRest.dropWhile (fun placed => test placed.token) = t.targetRest) :
    (t.move before).dropWhile (fun placed => test placed.token) = t.move left := by
  induction before with
  | nil =>
      have hleft : left = [] := by
        apply Transfer.left_eq_nil (t := t)
        rw [← hdrop]
        exact List.dropWhile_suffix _
      rw [hleft]
      exact hend hleft
  | cons placed others ih =>
      rw [List.cons_append, List.dropWhile_cons] at hdrop
      rw [Transfer.move_cons, List.dropWhile_cons]
      by_cases htest : test placed.token = true
      · rw [if_pos htest] at hdrop
        rw [if_pos (by exact htest)]
        exact ih hdrop
      · rw [if_neg htest] at hdrop
        rw [if_neg (by exact htest)]
        rw [← List.cons_append, List.append_cancel_right_eq] at hdrop
        rw [← hdrop, Transfer.move_cons]

theorem isInlineTrivia_of_endsLine {token : Token} (hend : endsLine token = true) :
    token.isInlineTrivia = false := by
  cases token <;> simp_all [endsLine, Token.isInlineTrivia]

/-- A test that no end of a line satisfies stops within the stretch. -/
theorem dropWhile_stays (test : Token → Bool)
    (htest : ∀ token, endsLine token = true → test token = false) (before : List PlacedToken) :
    ∃ left, left <:+ before ∧
      (before ++ t.rest).dropWhile (fun placed => test placed.token) = left ++ t.rest ∧
      (t.move before).dropWhile (fun placed => test placed.token) = t.move left := by
  induction before with
  | nil =>
      refine ⟨[], List.suffix_refl _, ?_, ?_⟩
      · rcases t.rest_cases with ⟨hrest, _⟩ | ⟨last, others, _, _, hrest, _, hlast, _⟩
        · rw [hrest]
          rfl
        · rw [hrest, List.nil_append, List.dropWhile_cons_of_neg (by simp [htest _ hlast])]
      · rcases t.rest_cases with ⟨_, htarget, _⟩ | ⟨_, _, last', others', _, htarget, _, hlast', _⟩
        · rw [Transfer.move_nil, htarget]
          rfl
        · rw [Transfer.move_nil, htarget, List.dropWhile_cons_of_neg (by simp [htest _ hlast'])]
  | cons placed others ih =>
      by_cases hplaced : test placed.token = true
      · obtain ⟨left, hleft, hdrop, hdrop'⟩ := ih
        refine ⟨left, hleft.trans (List.suffix_cons placed others), ?_, ?_⟩
        · rw [List.cons_append, List.dropWhile_cons_of_pos (by exact hplaced), hdrop]
        · rw [Transfer.move_cons, List.dropWhile_cons_of_pos (by exact hplaced), hdrop']
      · refine ⟨placed :: others, List.suffix_refl _, ?_, ?_⟩
        · rw [List.cons_append, List.dropWhile_cons_of_neg (by exact hplaced)]
        · rw [Transfer.move_cons, List.dropWhile_cons_of_neg (by exact hplaced)]

theorem transfers_skipInline : skipInline.Transfers t strict id skipInline := by
  refine .of_stays skipInline_keeps fun before _ => ?_
  obtain ⟨left, _, hdrop, hdrop'⟩ :=
    dropWhile_stays (t := t) _ (fun _ => isInlineTrivia_of_endsLine) before
  exact ⟨(), left, congrArg (fun rest => Except.ok ((), rest)) hdrop,
    congrArg (fun rest => Except.ok ((), rest)) hdrop'⟩

/-- Trivia behind the stretch would be dropped as well, so this step is strict. -/
theorem transfers_skipTrivia : skipTrivia.Transfers t true id skipTrivia where
  keeps := skipTrivia_keeps
  ok before left a _ hread hfree _ := by
    have hdrop := (Prod.mk.inj (Except.ok.inj hread)).2
    have hend : left = [] → t.targetRest.dropWhile (fun placed => placed.token.isTrivia) =
        t.targetRest := by
      intro hleft
      rcases hfree rfl with hrest | hne
      · rw [Transfer.targetRest_of_rest_eq_nil hrest]
        rfl
      · exact absurd hleft hne
    exact congrArg (fun rest => Except.ok ((), rest)) (dropWhile_move hdrop hend)
  error _ _ _ _ hread _ := by cases hread

end Reader

/-- The next tokens of both sources: the same token, or the ends of both lines. -/
def Transfer.Alike (t : Transfer) (next next' : Option PlacedToken) : Prop :=
  next' = next.map (PlacedToken.shift t.distance) ∨
    ∃ last last', next = some last ∧ next' = some last' ∧ endsLine last.token = true ∧
      endsLine last'.token = true

namespace Transfer

variable {t : Transfer} {next next' : Option PlacedToken}

/-- A test that makes no difference between ends of lines does not tell the
sources apart. -/
theorem Alike.any_eq (halike : t.Alike next next') (test : Token → Bool) {answer : Bool}
    (htest : ∀ token, endsLine token = true → test token = answer) :
    (next'.any fun placed => test placed.token) = next.any fun placed => test placed.token := by
  rcases halike with rfl | ⟨last, last', rfl, rfl, hlast, hlast'⟩
  · cases next <;> rfl
  · simp [htest _ hlast, htest _ hlast']

theorem Alike.all_eq (halike : t.Alike next next') (test : Token → Bool) {answer : Bool}
    (htest : ∀ token, endsLine token = true → test token = answer) :
    (next'.all fun placed => test placed.token) = next.all fun placed => test placed.token := by
  rcases halike with rfl | ⟨last, last', rfl, rfl, hlast, hlast'⟩
  · cases next <;> rfl
  · simp [htest _ hlast, htest _ hlast']

theorem Alike.atLineEnd (halike : t.Alike next next') : atLineEnd next' = atLineEnd next :=
  halike.all_eq endsLine fun _ hend => hend

theorem isPunct_of_endsLine {token : Token} {mark : Punct} (hend : endsLine token = true)
    (hmark : mark ≠ .rightBrace) : token.isPunct mark = false := by
  rw [Token.isPunct, beq_eq_false_iff_ne]
  rintro rfl
  exact hmark (by simpa [endsLine] using hend)

theorem Alike.atPunct (halike : t.Alike next next') {mark : Punct} (hmark : mark ≠ .rightBrace) :
    atPunct mark next' = atPunct mark next :=
  halike.any_eq (fun token => token.isPunct mark) fun _ hend => isPunct_of_endsLine hend hmark

theorem alike_head? (before : List PlacedToken) :
    t.Alike (before ++ t.rest).head? (t.move before).head? := by
  cases before with
  | nil =>
      rw [List.nil_append, move_nil]
      rcases t.rest_cases with ⟨hrest, htarget, _⟩ |
        ⟨last, others, last', others', hrest, htarget, hlast, hlast', _⟩
      · rw [hrest, htarget]
        exact .inl rfl
      · rw [hrest, htarget]
        exact .inr ⟨last, last', rfl, rfl, hlast, hlast'⟩
  | cons placed others => exact .inl rfl

end Transfer

namespace Reader

variable {t : Transfer} {strict : Bool}

/-- Steps that depend on the next token. -/
theorem transfers_peek_bind {g : β → β} {good : β → Prop}
    {next next' : Option PlacedToken → Reader β}
    (hnext : ∀ token token', t.Alike token token' →
      (next token).TransfersIf t strict good g (next' token')) :
    (peek >>= next).TransfersIf t strict good g (peek >>= next') where
  keeps := by
    refine bind_keeps peek_keeps fun token => ?_
    exact (hnext token (token.map (PlacedToken.shift t.distance)) (.inl rfl)).keeps
  ok before left b hholds hread hfree hgood :=
    (hnext _ _ (Transfer.alike_head? before)).ok hholds hread hfree hgood
  error before left expected hholds hread hfree :=
    (hnext _ _ (Transfer.alike_head? before)).error hholds hread hfree

theorem accepts_if {distance : Nat} (test : Token → Bool) :
    Accepts distance (Span.shift distance)
      fun placed => if test placed.token then some placed.span else none := by
  intro placed
  by_cases htest : test placed.token = true <;> simp [htest]

theorem transfers_punct (mark : Punct) (expected : Expected) :
    (punct mark expected).Transfers t strict (Span.shift t.distance) (punct mark expected) :=
  transfers_expect (accepts_if fun token => token.isPunct mark)

theorem transfers_eatPunct {mark : Punct} (hmark : mark ≠ .rightBrace) :
    (eatPunct mark).Transfers t strict (Option.map (Span.shift t.distance)) (eatPunct mark) :=
  transfers_optional (accepts_if fun token => token.isPunct mark) fun placed hend =>
    if_neg (by simp [Transfer.isPunct_of_endsLine hend hmark])

theorem transfers_keyword (word : Keyword) (expected : Expected) :
    (keyword word expected).Transfers t strict (Span.shift t.distance) (keyword word expected) :=
  transfers_expect (accepts_if fun token => token.isKeyword word)

theorem accepts_word {distance : Nat} :
    Accepts distance (Spanned.shift distance)
      fun placed => placed.token.word?.map fun text => (⟨text, placed.span⟩ : Spanned String) := by
  intro placed
  cases hword : placed.token.word? <;> simp [hword, Spanned.shift]

theorem transfers_word (expected : Expected) :
    (word expected).Transfers t strict (Spanned.shift t.distance) (word expected) :=
  transfers_expect accepts_word

theorem accepts_identifier {distance : Nat} :
    Accepts distance (Spanned.shift distance) fun placed =>
      match placed.token with
      | .identifier name => some (⟨name, placed.span⟩ : Spanned String)
      | _ => none := by
  rintro ⟨token, span⟩
  cases token <;> rfl

theorem transfers_identifier (expected : Expected) :
    (identifier expected).Transfers t strict (Spanned.shift t.distance) (identifier expected) :=
  transfers_expect accepts_identifier

theorem transfers_stringLiteral (expected : Expected) :
    (stringLiteral expected).Transfers t strict (Spanned.shift t.distance)
      (stringLiteral expected) := by
  refine transfers_expect ?_
  rintro ⟨token, span⟩
  cases token <;> rfl

theorem transfers_endOfLine : endOfLine.Transfers t strict id endOfLine := by
  refine transfers_skipInline.bind fun _ => transfers_peek_bind fun next next' halike => ?_
  refine transfers_ite ?_ (transfers_pure rfl) (transfers_fail _)
  rw [halike.atLineEnd]

end Reader

end ApiLang
