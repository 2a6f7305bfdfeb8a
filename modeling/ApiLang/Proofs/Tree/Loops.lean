/-
The loops of the parser, taken apart.  One iteration of a loop leaves it, or adds an
item and goes on with fewer tokens.  Each recursive reader is the run of such a loop,
so what an iteration does can be said about the step alone; and a type calls itself
only for parts of its input that are shorter.
-/
import ApiLang.Proofs.Tree.ReadingTypes
import ApiLang.Tree.File

namespace ApiLang

variable {α σ β ε : Type}

/-- What is left is a rest of the input with fewer tokens. -/
def Fewer (before after : List PlacedToken) : Prop :=
  after <:+ before ∧ after.length < before.length

namespace Fewer

variable {tokens start left : List PlacedToken}

theorem within (hsuffix : start <:+ tokens) (hfewer : Fewer start left) : Fewer tokens left :=
  ⟨hfewer.1.trans hsuffix, Nat.lt_of_lt_of_le hfewer.2 hsuffix.length_le⟩

theorem behind (hfewer : Fewer tokens start) (hsuffix : left <:+ start) : Fewer tokens left :=
  ⟨hsuffix.trans hfewer.1, Nat.lt_of_le_of_lt hsuffix.length_le hfewer.2⟩

theorem cons (placed : PlacedToken) (rest : List PlacedToken) : Fewer (placed :: rest) rest :=
  ⟨List.suffix_cons placed rest, Nat.lt_succ_self _⟩

theorem of_read {reader : Reader α} (hkeeps : reader.Keeps) (hadvances : reader.Advances) {a : α}
    (hread : reader start = .ok (a, left)) : Fewer start left :=
  ⟨(hkeeps start).1 a left hread, hadvances start a left hread⟩

/-- Recovery gets past at least one token. -/
theorem of_resumed {reader : Reader α} (hkeeps : reader.Keeps) {mismatch : Mismatch}
    (hread : reader start = .error mismatch) (hstart : start ≠ []) :
    Fewer start (resumeAfter start mismatch.rest) := by
  have hwithin := (hkeeps start).2 mismatch hread
  exact ⟨resumeAfter_suffix start _ hwithin, resumeAfter_length_lt start _ hstart hwithin⟩

end Fewer

/-- A loop over the input.  An iteration leaves the loop with a result, or adds an item
and goes on with fewer tokens. -/
structure Loop (σ β ε : Type) where
  input : σ → List PlacedToken
  step : σ → ε ⊕ β × σ
  goesOn : ∀ {state : σ} {item : β} {next : σ},
    step state = .inr (item, next) → Fewer (input state) (input next)

namespace Loop

/-- The items that the iterations add, and the result of the last one. -/
def run (loop : Loop σ β ε) (state : σ) : List β × ε :=
  match _step : loop.step state with
  | .inl exit => ([], exit)
  | .inr (item, next) =>
    let (items, exit) := loop.run next
    (item :: items, exit)
termination_by (loop.input state).length
decreasing_by exact (loop.goesOn _step).2

/-- The states in which the iterations start, the one that leaves the loop included. -/
def passes (loop : Loop σ β ε) (state : σ) : List σ :=
  match _step : loop.step state with
  | .inl _ => [state]
  | .inr (_, next) => state :: loop.passes next
termination_by (loop.input state).length
decreasing_by exact (loop.goesOn _step).2

variable {loop : Loop σ β ε} {state next : σ} {item : β} {exit : ε}

theorem run_of_inl (hstep : loop.step state = .inl exit) : loop.run state = ([], exit) := by
  rw [run]
  split <;> simp_all

theorem run_of_inr (hstep : loop.step state = .inr (item, next)) :
    loop.run state = (item :: (loop.run next).1, (loop.run next).2) := by
  rw [run]
  split <;> simp_all

theorem head?_passes (loop : Loop σ β ε) (state : σ) :
    (loop.passes state).head? = some state := by
  rw [passes]
  split <;> rfl

/-- One iteration for each item, and one that leaves the loop. -/
theorem length_passes (loop : Loop σ β ε) (state : σ) :
    (loop.passes state).length = (loop.run state).1.length + 1 := by
  fun_induction passes loop state with
  | case1 state exit hstep => rw [run_of_inl hstep]; rfl
  | case2 state item next hstep ih => rw [run_of_inr hstep, List.length_cons, List.length_cons, ih]

/-- What the iterations contribute can be told from the items and the result of the run,
if it can be told of each iteration from what it does. -/
theorem flatMap_passes {γ : Type} (loop : Loop σ β ε) {pass : σ → List γ} {ofItem : β → List γ}
    {ofExit : ε → List γ}
    (hpass : ∀ state, pass state = (loop.step state).elim ofExit fun found => ofItem found.1)
    (state : σ) :
    (loop.passes state).flatMap pass =
      (loop.run state).1.flatMap ofItem ++ ofExit (loop.run state).2 := by
  fun_induction passes loop state with
  | case1 state exit hstep =>
      rw [run_of_inl hstep, List.flatMap_singleton, hpass, hstep]
      rfl
  | case2 state item next hstep ih =>
      rw [run_of_inr hstep, List.flatMap_cons, List.flatMap_cons, hpass, hstep, ih,
        List.append_assoc]
      rfl

/-- Iterations start at rests of the input. -/
theorem passes_suffix (loop : Loop σ β ε) (state : σ) :
    ∀ pass ∈ loop.passes state, loop.input pass <:+ loop.input state := by
  fun_induction passes loop state with
  | case1 state exit hstep => simp
  | case2 state item next hstep ih =>
      refine List.forall_mem_cons.mpr ⟨List.suffix_refl _, fun pass hpass => ?_⟩
      exact (ih pass hpass).trans (loop.goesOn hstep).1

/-- Each iteration starts with fewer tokens than the one before it. -/
theorem passes_fewer (loop : Loop σ β ε) (state : σ) :
    ((loop.passes state).map loop.input).IsChain Fewer := by
  fun_induction passes loop state with
  | case1 state exit hstep => exact .singleton _
  | case2 state item next hstep ih =>
      rw [List.map_cons, List.isChain_cons]
      refine ⟨fun input hinput => ?_, ih⟩
      rw [List.head?_map, head?_passes] at hinput
      cases hinput
      exact loop.goesOn hstep

end Loop

section Bodies

variable (source : List Char) (rules : BodyRules α)

/-- One line of a body. -/
def bodyStep (tokens : List PlacedToken) :
    (Option Span × List PlacedToken) ⊕ α × List PlacedToken :=
  match dropTrivia tokens with
  | [] => .inl (none, [])
  | placed :: rest =>
    if placed.token.isPunct rules.closer then .inl (some placed.span, rest)
    else if rules.stops (placed :: rest) then .inl (none, placed :: rest)
    else
      match rules.entry.read (placed :: rest) with
      | .ok (entry, left) => .inr (entry, left)
      | .error mismatch =>
        let left := dropLine rules.closer (resumeAfter (placed :: rest) mismatch.rest)
        .inr (rules.skipped (.between source (placed :: rest) left mismatch), left)

theorem bodyStep_fewer {tokens : List PlacedToken} {entry : α} {left : List PlacedToken}
    (hstep : bodyStep source rules tokens = .inr (entry, left)) : Fewer tokens left := by
  unfold bodyStep at hstep
  split at hstep
  · cases hstep
  · rename_i placed rest htrivia
    refine Fewer.within (htrivia ▸ dropTrivia_suffix tokens) ?_
    split at hstep
    · cases hstep
    · split at hstep
      · cases hstep
      · split at hstep
        · rename_i hread
          cases hstep
          exact .of_read rules.entry.keeps rules.entry.advances hread
        · rename_i mismatch hread
          cases hstep
          exact (Fewer.of_resumed rules.entry.keeps hread (List.cons_ne_nil placed rest)).behind
            (dropLine_suffix _ _)

/-- The loop over the lines of a body. -/
def bodyLoop : Loop (List PlacedToken) α (Option Span × List PlacedToken) where
  input := id
  step := bodyStep source rules
  goesOn := bodyStep_fewer source rules

theorem bodyEntries_eq_run (tokens : List PlacedToken) :
    bodyEntries source rules tokens = (bodyLoop source rules).run tokens := by
  fun_induction bodyEntries source rules tokens with
  | case1 tokens htrivia =>
      refine (Loop.run_of_inl ?_).symm
      simp only [bodyLoop, bodyStep, htrivia]
  | case2 tokens placed rest htrivia hclose =>
      refine (Loop.run_of_inl ?_).symm
      simp only [bodyLoop, bodyStep, htrivia, hclose, ↓reduceIte]
  | case3 tokens placed rest htrivia hclose hstop =>
      refine (Loop.run_of_inl ?_).symm
      simp only [bodyLoop, bodyStep, htrivia, hclose, hstop, ↓reduceIte, Bool.false_eq_true]
  | case4 tokens placed rest htrivia hclose hstop entry left hread entries close behind hrest ih =>
      have hstep : (bodyLoop source rules).step tokens = .inr (entry, left) := by
        simp only [bodyLoop, bodyStep, htrivia, hclose, hstop, hread, ↓reduceIte,
          Bool.false_eq_true]
      rw [Loop.run_of_inr hstep, ← ih, hrest]
  | case5 tokens placed rest htrivia hclose hstop mismatch hread left entries close behind hrest
      ih =>
      have hstep : (bodyLoop source rules).step tokens =
          .inr (rules.skipped (.between source (placed :: rest) left mismatch), left) := by
        simp only [bodyLoop, bodyStep, htrivia, hclose, hstop, hread, ↓reduceIte,
          Bool.false_eq_true, left]
      rw [Loop.run_of_inr hstep, ← ih, hrest]

end Bodies

section Lists

variable (item : ItemReader α)

/-- One item of a list, or the parenthesis that closes it. -/
def listStep (tokens : List PlacedToken) :
    Except Mismatch (Span × List PlacedToken) ⊕ α × List PlacedToken :=
  match (dropTrivia tokens).head?.filter fun placed => placed.token.isPunct .rightParen with
  | some close => .inl (.ok (close.span, (dropTrivia tokens).tail))
  | none =>
    match item.read (dropTrivia tokens) with
    | .error mismatch => .inl (.error mismatch)
    | .ok (first, rest) => .inr (first, rest)

theorem listStep_fewer {tokens : List PlacedToken} {first : α} {rest : List PlacedToken}
    (hstep : listStep item tokens = .inr (first, rest)) : Fewer tokens rest := by
  unfold listStep at hstep
  split at hstep
  · cases hstep
  · split at hstep
    · cases hstep
    · rename_i hread
      cases hstep
      exact (Fewer.of_read item.keeps item.advances hread).within (dropTrivia_suffix tokens)

/-- The loop over a list in parentheses. -/
def listLoop : Loop (List PlacedToken) α (Except Mismatch (Span × List PlacedToken)) where
  input := id
  step := listStep item
  goesOn := listStep_fewer item

/-- The answer of a list: its items, if the parenthesis was found. -/
def listAnswer :
    List α × Except Mismatch (Span × List PlacedToken) →
      Except Mismatch ((List α × Span) × List PlacedToken)
  | (_, .error mismatch) => .error mismatch
  | (items, .ok (close, left)) => .ok ((items, close), left)

theorem listAnswer_cons (first : α)
    (found : List α × Except Mismatch (Span × List PlacedToken)) :
    listAnswer (first :: found.1, found.2) =
      (listAnswer found).map fun answer => ((first :: answer.1.1, answer.1.2), answer.2) := by
  obtain ⟨items, exit⟩ := found
  cases exit <;> rfl

theorem untilRightParen_eq_run (tokens : List PlacedToken) :
    untilRightParen item tokens = listAnswer ((listLoop item).run tokens) := by
  fun_induction untilRightParen item tokens with
  | case1 tokens close hclose =>
      have hstep : (listLoop item).step tokens =
          .inl (.ok (close.span, (dropTrivia tokens).tail)) := by
        simp only [listLoop, listStep, hclose]
      rw [Loop.run_of_inl hstep, listAnswer]
  | case2 tokens hclose mismatch hread =>
      have hstep : (listLoop item).step tokens = .inl (.error mismatch) := by
        simp only [listLoop, listStep, hclose, hread]
      rw [Loop.run_of_inl hstep, listAnswer]
  | case3 tokens hclose first rest hread mismatch hrest ih =>
      have hstep : (listLoop item).step tokens = .inr (first, rest) := by
        simp only [listLoop, listStep, hclose, hread]
      rw [Loop.run_of_inr hstep, listAnswer_cons, ← ih, hrest]
      rfl
  | case4 tokens hclose first rest hread others close left hrest ih =>
      have hstep : (listLoop item).step tokens = .inr (first, rest) := by
        simp only [listLoop, listStep, hclose, hread]
      rw [Loop.run_of_inr hstep, listAnswer_cons, ← ih, hrest]
      rfl

end Lists

section Values

variable (source : List Char)

/-- One item of a value.  The last one is not followed by a comma. -/
def valueStep (tokens : List PlacedToken) :
    (Option (Spanned ValueItem) × List PlacedToken) ⊕ Spanned ValueItem × List PlacedToken :=
  match valueItem source (dropInline tokens) with
  | none => .inl (none, dropInline tokens)
  | some (item, left) =>
    match dropInline left with
    | [] => .inl (some item, [])
    | comma :: behind =>
      if comma.token.isPunct .comma then .inr (item, behind)
      else .inl (some item, comma :: behind)

theorem valueItem_fewer {tokens left : List PlacedToken} {item : Spanned ValueItem}
    (hread : valueItem source tokens = some (item, left)) : Fewer tokens left := by
  cases tokens with
  | nil => cases hread
  | cons placed rest => exact (Fewer.cons placed rest).behind (valueItem_suffix hread)

theorem valueStep_fewer {tokens behind : List PlacedToken} {item : Spanned ValueItem}
    (hstep : valueStep source tokens = .inr (item, behind)) : Fewer tokens behind := by
  unfold valueStep at hstep
  split at hstep
  · cases hstep
  · rename_i found left hread
    have hleft := (valueItem_fewer source hread).within (dropInline_suffix tokens)
    split at hstep
    · cases hstep
    · rename_i comma others hnext
      split at hstep
      · cases hstep
        have hcomma : comma :: behind <:+ left := hnext ▸ dropInline_suffix left
        exact hleft.behind ((List.suffix_cons comma behind).trans hcomma)
      · cases hstep

/-- The loop over the items of a value. -/
def valueLoop :
    Loop (List PlacedToken) (Spanned ValueItem)
      (Option (Spanned ValueItem) × List PlacedToken) where
  input := id
  step := valueStep source
  goesOn := valueStep_fewer source

/-- The items, with the last one. -/
def valueAnswer :
    List (Spanned ValueItem) × Option (Spanned ValueItem) × List PlacedToken →
      List (Spanned ValueItem) × List PlacedToken
  | (items, last, left) => (items ++ last.toList, left)

theorem valueAnswer_cons (first : Spanned ValueItem)
    (found : List (Spanned ValueItem) × Option (Spanned ValueItem) × List PlacedToken) :
    valueAnswer (first :: found.1, found.2) =
      (first :: (valueAnswer found).1, (valueAnswer found).2) := rfl

theorem valueItems_eq_run (tokens : List PlacedToken) :
    valueItems source tokens = valueAnswer ((valueLoop source).run tokens) := by
  fun_induction valueItems source tokens with
  | case1 tokens hinline =>
      have hstep : (valueLoop source).step tokens = .inl (none, []) := by
        simp only [valueLoop, valueStep, hinline, valueItem]
      rw [Loop.run_of_inl hstep]
      rfl
  | case2 tokens placed rest hinline hread =>
      have hstep : (valueLoop source).step tokens = .inl (none, placed :: rest) := by
        simp only [valueLoop, valueStep, hinline, hread]
      rw [Loop.run_of_inl hstep]
      rfl
  | case3 tokens placed rest hinline item left hread hnext =>
      have hstep : (valueLoop source).step tokens = .inl (some item, []) := by
        simp only [valueLoop, valueStep, hinline, hread, hnext]
      rw [Loop.run_of_inl hstep]
      rfl
  | case4 tokens placed rest hinline item left hread comma behind hnext hcomma items remaining
      hrest ih =>
      have hstep : (valueLoop source).step tokens = .inr (item, behind) := by
        simp only [valueLoop, valueStep, hinline, hread, hnext, hcomma, ↓reduceIte]
      rw [Loop.run_of_inr hstep, valueAnswer_cons, ← ih, hrest]
  | case5 tokens placed rest hinline item left hread comma behind hnext hcomma =>
      have hstep : (valueLoop source).step tokens = .inl (some item, comma :: behind) := by
        simp only [valueLoop, valueStep, hinline, hread, hnext, hcomma, ↓reduceIte,
          Bool.false_eq_true]
      rw [Loop.run_of_inl hstep]
      rfl

end Values

section Runs

/-- One more part of a qualified name. -/
def nameStep : Span × List PlacedToken → (Span × List PlacedToken) ⊕ Unit × Span × List PlacedToken
  | (span, dot :: next :: rest) =>
    if dot.token.isPunct .dot && dot.follows span && isIdentifier next.token &&
        next.follows dot.span then
      .inr ((), span.union next.span, rest)
    else .inl (span, dot :: next :: rest)
  | (span, rest) => .inl (span, rest)

/-- The loop over the parts of a qualified name. -/
def nameLoop : Loop (Span × List PlacedToken) Unit (Span × List PlacedToken) where
  input := Prod.snd
  step := nameStep
  goesOn := by
    intro state item next hstep
    unfold nameStep at hstep
    split at hstep
    · rename_i dot part rest
      split at hstep
      · cases hstep
        exact (Fewer.cons dot (part :: rest)).behind (List.suffix_cons part rest)
      · cases hstep
    · cases hstep

theorem extendName_eq_run (span : Span) (tokens : List PlacedToken) :
    extendName span tokens = (nameLoop.run (span, tokens)).2 := by
  fun_induction extendName span tokens with
  | case1 span dot next rest hfollows ih =>
      have hstep : nameLoop.step (span, dot :: next :: rest) =
          .inr ((), span.union next.span, rest) := by
        simp only [nameLoop, nameStep, hfollows, ↓reduceIte]
      rw [Loop.run_of_inr hstep, ih]
  | case2 span dot next rest hgap =>
      have hstep : nameLoop.step (span, dot :: next :: rest) =
          .inl (span, dot :: next :: rest) := by
        simp only [nameLoop, nameStep, hgap, ↓reduceIte, Bool.false_eq_true]
      rw [Loop.run_of_inl hstep]
  | case3 span rest hshort =>
      have hstep : nameLoop.step (span, rest) = .inl (span, rest) := by
        simp only [nameLoop]
        unfold nameStep
        split
        · rename_i heq
          cases heq
          exact absurd rfl (hshort _ _ _)
        · rename_i heq
          cases heq
          rfl
      rw [Loop.run_of_inl hstep]

variable (continues : Token → Bool)

/-- One more token of a run. -/
def runStep : Span × List PlacedToken → (Span × List PlacedToken) ⊕ Unit × Span × List PlacedToken
  | (span, []) => .inl (span, [])
  | (span, placed :: rest) =>
    if placed.span.start == span.stop && continues placed.token then
      .inr ((), span.union placed.span, rest)
    else .inl (span, placed :: rest)

/-- The loop over touching tokens. -/
def runLoop : Loop (Span × List PlacedToken) Unit (Span × List PlacedToken) where
  input := Prod.snd
  step := runStep continues
  goesOn := by
    intro state item next hstep
    unfold runStep at hstep
    split at hstep
    · cases hstep
    · rename_i placed rest
      split at hstep
      · cases hstep
        exact .cons placed rest
      · cases hstep

theorem extendRun_eq_run (span : Span) (tokens : List PlacedToken) :
    extendRun continues span tokens = ((runLoop continues).run (span, tokens)).2 := by
  fun_induction extendRun continues span tokens with
  | case1 span =>
      have hstep : (runLoop continues).step (span, []) = .inl (span, []) := rfl
      rw [Loop.run_of_inl hstep]
  | case2 span placed rest hfollows ih =>
      have hstep : (runLoop continues).step (span, placed :: rest) =
          .inr ((), span.union placed.span, rest) := by
        simp only [runLoop, runStep, hfollows, ↓reduceIte]
      rw [Loop.run_of_inr hstep, ih]
  | case3 span placed rest hgap =>
      have hstep : (runLoop continues).step (span, placed :: rest) =
          .inl (span, placed :: rest) := by
        simp only [runLoop, runStep, hgap, ↓reduceIte, Bool.false_eq_true]
      rw [Loop.run_of_inl hstep]

end Runs

section Annotations

variable (source : List Char)

theorem annotationStep_fewer {tokens rest : List PlacedToken} {note : Annotation}
    (hread : annotationStep source tokens = .ok (note, rest)) : Fewer tokens (dropTrivia rest) :=
  (Fewer.of_read (annotationStep_keeps source) (annotationStep_advances source) hread).behind
    (dropTrivia_suffix rest)

/-- One annotation of a row. -/
def annotationRowStep (tokens : List PlacedToken) :
    Except Mismatch (List PlacedToken) ⊕ Annotation × List PlacedToken :=
  if atPunct .atSign tokens.head? then
    match annotationStep source tokens with
    | .error mismatch => .inl (.error mismatch)
    | .ok (first, rest) => .inr (first, dropTrivia rest)
  else .inl (.ok tokens)

/-- The loop over the annotations in front of a service or a route. -/
def annotationLoop : Loop (List PlacedToken) Annotation (Except Mismatch (List PlacedToken)) where
  input := id
  step := annotationRowStep source
  goesOn := by
    intro tokens first next hstep
    unfold annotationRowStep at hstep
    split at hstep
    · split at hstep
      · cases hstep
      · rename_i hread
        cases hstep
        exact annotationStep_fewer source hread
    · cases hstep

/-- The answer of a row: its annotations, if each of them could be read. -/
def rowAnswer :
    List Annotation × Except Mismatch (List PlacedToken) →
      Except Mismatch (List Annotation × List PlacedToken)
  | (_, .error mismatch) => .error mismatch
  | (notes, .ok left) => .ok (notes, left)

theorem rowAnswer_cons (first : Annotation)
    (found : List Annotation × Except Mismatch (List PlacedToken)) :
    rowAnswer (first :: found.1, found.2) =
      (rowAnswer found).map fun answer => (first :: answer.1, answer.2) := by
  obtain ⟨notes, exit⟩ := found
  cases exit <;> rfl

theorem annotations_eq_run (tokens : List PlacedToken) :
    annotations source tokens = rowAnswer ((annotationLoop source).run tokens) := by
  fun_induction annotations source tokens with
  | case1 tokens hsign mismatch hread =>
      have hstep : (annotationLoop source).step tokens = .inl (.error mismatch) := by
        simp only [annotationLoop, annotationRowStep, hsign, ↓reduceIte, hread]
      rw [Loop.run_of_inl hstep, rowAnswer]
  | case2 tokens hsign first rest hread mismatch hrest ih =>
      have hstep : (annotationLoop source).step tokens = .inr (first, dropTrivia rest) := by
        simp only [annotationLoop, annotationRowStep, hsign, ↓reduceIte, hread]
      rw [Loop.run_of_inr hstep, rowAnswer_cons, ← ih, hrest]
      rfl
  | case3 tokens hsign first rest hread others left hrest ih =>
      have hstep : (annotationLoop source).step tokens = .inr (first, dropTrivia rest) := by
        simp only [annotationLoop, annotationRowStep, hsign, ↓reduceIte, hread]
      rw [Loop.run_of_inr hstep, rowAnswer_cons, ← ih, hrest]
      rfl
  | case4 tokens hsign =>
      have hstep : (annotationLoop source).step tokens = .inl (.ok tokens) := by
        simp only [annotationLoop, annotationRowStep, hsign, ↓reduceIte, Bool.false_eq_true]
      rw [Loop.run_of_inl hstep, rowAnswer]

/-- One annotation of a row that may announce a service. -/
def announceStep (tokens : List PlacedToken) : Bool ⊕ Annotation × List PlacedToken :=
  if atPunct .atSign tokens.head? then
    match annotationStep source tokens with
    | .error _ => .inl false
    | .ok (first, rest) =>
      if (dropTrivia rest).head?.any fun placed => placed.token.isKeyword .serviceWord then
        .inl true
      else .inr (first, dropTrivia rest)
  else .inl false

/-- The loop that looks for a service behind annotations. -/
def announceLoop : Loop (List PlacedToken) Annotation Bool where
  input := id
  step := announceStep source
  goesOn := by
    intro tokens first next hstep
    unfold announceStep at hstep
    split at hstep
    · split at hstep
      · cases hstep
      · rename_i hread
        split at hstep
        · cases hstep
        · cases hstep
          exact annotationStep_fewer source hread
    · cases hstep

theorem announcesService_eq_run (tokens : List PlacedToken) :
    announcesService source tokens = ((announceLoop source).run tokens).2 := by
  fun_induction announcesService source tokens with
  | case1 tokens hsign mismatch hread =>
      have hstep : (announceLoop source).step tokens = .inl false := by
        simp only [announceLoop, announceStep, hsign, ↓reduceIte, hread]
      rw [Loop.run_of_inl hstep]
  | case2 tokens hsign first rest hread hservice =>
      have hstep : (announceLoop source).step tokens = .inl true := by
        simp only [announceLoop, announceStep, hsign, ↓reduceIte, hread, hservice]
      rw [Loop.run_of_inl hstep]
  | case3 tokens hsign first rest hread hservice ih =>
      have hstep : (announceLoop source).step tokens = .inr (first, dropTrivia rest) := by
        simp only [announceLoop, announceStep, hsign, ↓reduceIte, hread, hservice,
          Bool.false_eq_true]
      rw [Loop.run_of_inr hstep, ih]
  | case4 tokens hsign =>
      have hstep : (announceLoop source).step tokens = .inl false := by
        simp only [announceLoop, announceStep, hsign, ↓reduceIte, Bool.false_eq_true]
      rw [Loop.run_of_inl hstep]

end Annotations

section Files

variable (source : List Char)

/-- One declaration of a file.  The loop is left with the tokens that remain. -/
def fileStep (tokens : List PlacedToken) : List PlacedToken ⊕ Declaration × List PlacedToken :=
  if (dropTrivia tokens).isEmpty then .inl (dropTrivia tokens)
  else
    match declaration source (dropTrivia tokens) with
    | .ok (found, left) => .inr (found, left)
    | .error mismatch =>
      let left := dropToDeclaration (resumeAfter (dropTrivia tokens) mismatch.rest)
      .inr (.skipped (.between source (dropTrivia tokens) left mismatch), left)

/-- The loop over the declarations of a file. -/
def fileLoop : Loop (List PlacedToken) Declaration (List PlacedToken) where
  input := id
  step := fileStep source
  goesOn := by
    intro tokens found left hstep
    unfold fileStep at hstep
    refine Fewer.within (dropTrivia_suffix tokens) ?_
    split at hstep
    · cases hstep
    · rename_i hsome
      split at hstep
      · rename_i hread
        cases hstep
        exact .of_read (declaration_keeps source) (declaration_advances source) hread
      · rename_i mismatch hread
        cases hstep
        have hne : dropTrivia tokens ≠ [] := fun hnil => hsome (List.isEmpty_iff.mpr hnil)
        exact (Fewer.of_resumed (declaration_keeps source) hread hne).behind
          (List.dropWhile_suffix _)

theorem declarations_eq_run (tokens : List PlacedToken) :
    declarations source tokens = ((fileLoop source).run tokens).1 := by
  fun_induction declarations source tokens with
  | case1 tokens htrivia =>
      have hstep : (fileLoop source).step tokens = .inl [] := by
        simp [fileLoop, fileStep, htrivia]
      rw [Loop.run_of_inl hstep]
  | case2 tokens placed rest htrivia found left hread ih =>
      have hstep : (fileLoop source).step tokens = .inr (found, left) := by
        simp [fileLoop, fileStep, htrivia, hread]
      rw [Loop.run_of_inr hstep, ih]
  | case3 tokens placed rest htrivia mismatch hread left ih =>
      have hstep : (fileLoop source).step tokens =
          .inr (.skipped (.between source (placed :: rest) left mismatch), left) := by
        simp [fileLoop, fileStep, htrivia, hread, left]
      rw [Loop.run_of_inr hstep, ih]

/-- The loop over a file is left when no token remains. -/
theorem fileLoop_exit (tokens : List PlacedToken) : ((fileLoop source).run tokens).2 = [] := by
  fun_induction Loop.run (fileLoop source) tokens with
  | case1 tokens exit hstep =>
      simp only [fileLoop, fileStep] at hstep
      split at hstep
      · rename_i hnone
        cases hstep
        exact List.isEmpty_iff.mp hnone
      · split at hstep <;> cases hstep
  | case2 tokens found left hstep items exit hrun ih =>
      rw [hrun] at ih
      exact ih

end Files

section Types

variable (source : List Char)

/-- One type, with the reader `self` for the types within it. -/
def typeStep (self : Reader TypeExpr) (tokens : List PlacedToken) :
    Except Mismatch (TypeExpr × List PlacedToken) :=
  match tokens with
  | [] => .error ⟨.typeExpr, []⟩
  | placed :: rest =>
    match placed.token with
    | .punct .star =>
      (do let inner ← self
          pure (.pointer inner (placed.span.union inner.span)) : Reader TypeExpr) rest
    | .punct .leftBracket =>
      (do let size ← bracketedSize
          let element ← self
          pure (.slice size element (placed.span.union element.span)) : Reader TypeExpr) rest
    | .identifier name =>
      if name = "map" ∧ atPunct .leftBracket rest.head? then
        (do let key ← self
            let _ ← Reader.punct .rightBracket .rightBracket
            let value ← self
            pure (.map key value (placed.span.union value.span)) : Reader TypeExpr) rest.tail
      else if name = "interface" ∧ atPunct .leftBrace rest.head? then
        (do let close ← emptyBraces
            pure (.interface (placed.span.union close)) : Reader TypeExpr) rest
      else
        (do let name ← qualifiedName source
            pure (.named name) : Reader TypeExpr) (placed :: rest)
    | _ => .error ⟨.typeExpr, placed :: rest⟩

/-- What the reader leaves, if it succeeds. -/
def Reader.leaves (reader : Reader α) (tokens : List PlacedToken) : List (List PlacedToken) :=
  match reader tokens with
  | .ok (_, rest) => [rest]
  | .error _ => []

/-- The inputs for which the reader of types calls itself. -/
def typeCalls : List PlacedToken → List (List PlacedToken)
  | [] => []
  | placed :: rest =>
    match placed.token with
    | .punct .star => [rest]
    | .punct .leftBracket => bracketedSize.leaves rest
    | .identifier name =>
      if name = "map" ∧ atPunct .leftBracket rest.head? then
        rest.tail :: Reader.leaves
          (do let _ ← typeExpr source
              Reader.punct .rightBracket .rightBracket) rest.tail
      else []
    | _ => []

theorem Reader.Keeps.leaves {reader : Reader α} (hkeeps : reader.Keeps)
    (tokens : List PlacedToken) : ∀ rest ∈ reader.leaves tokens, rest <:+ tokens := by
  intro rest hrest
  unfold Reader.leaves at hrest
  split at hrest
  · rename_i hread
    rw [List.mem_singleton.mp hrest]
    exact (hkeeps tokens).1 _ _ hread
  · cases hrest

/-- A type calls itself with fewer tokens. -/
theorem typeCalls_fewer (tokens : List PlacedToken) :
    ∀ callee ∈ typeCalls source tokens, Fewer tokens callee := by
  cases tokens with
  | nil => simp [typeCalls]
  | cons placed rest =>
      intro callee hcallee
      refine (Fewer.cons placed rest).behind ?_
      simp only [typeCalls] at hcallee
      split at hcallee
      · rw [List.mem_singleton.mp hcallee]
      · exact bracketedSize_keeps.leaves rest callee hcallee
      · split at hcallee
        · rcases List.mem_cons.mp hcallee with rfl | hcallee
          · exact List.tail_suffix rest
          · have hkeeps := Reader.bind_keeps (typeExpr_keeps source) fun _ =>
              Reader.expect_keeps .rightBracket fun placed =>
                if placed.token.isPunct .rightBracket then some placed.span else none
            exact (hkeeps.leaves rest.tail callee hcallee).trans (List.tail_suffix rest)
        · cases hcallee
      · cases hcallee

/-- Reading a type goes through the calls and no others: any reader that answers them
alike leads to the same type. -/
theorem typeStep_eq {self : Reader TypeExpr} {tokens : List PlacedToken}
    (hself : ∀ callee ∈ typeCalls source tokens, self callee = typeExpr source callee) :
    typeStep source self tokens = typeExpr source tokens := by
  have hunfold : typeExpr source tokens = typeStep source (typeExpr source) tokens :=
    typeExpr_eq tokens
  rw [hunfold]
  cases tokens with
  | nil => rfl
  | cons placed rest =>
      simp only [typeCalls] at hself
      simp only [typeStep]
      split
      · rename_i hstar
        simp only [hstar, List.forall_mem_singleton] at hself ⊢
        simp only [bind, Reader.andThen, hself]
      · rename_i hopener
        simp only [hopener] at hself ⊢
        cases hsize : bracketedSize rest with
        | error mismatch => simp only [bind, Reader.andThen, hsize]
        | ok found =>
            simp only [Reader.leaves, hsize, List.forall_mem_singleton] at hself
            simp only [bind, Reader.andThen, hsize, hself]
      · rename_i name hname
        simp only [hname] at hself ⊢
        split
        · rename_i hmap
          rw [if_pos hmap, List.forall_mem_cons] at hself
          obtain ⟨hkey, hvalue⟩ := hself
          cases hread : typeExpr source rest.tail with
          | error mismatch => simp only [bind, Reader.andThen, hkey, hread]
          | ok found =>
              cases hclose : Reader.punct .rightBracket .rightBracket found.2 with
              | error mismatch => simp only [bind, Reader.andThen, hkey, hread, hclose]
              | ok behind =>
                  simp only [Reader.leaves, bind, Reader.andThen, hread, hclose,
                    List.forall_mem_singleton] at hvalue
                  simp only [bind, Reader.andThen, hkey, hread, hclose, hvalue]
        · rfl
      · rfl

end Types

end ApiLang
