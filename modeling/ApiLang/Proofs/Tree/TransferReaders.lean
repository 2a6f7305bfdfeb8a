/-
The steps of the grammar transfer from one source to the other, up to whole
annotations, routes and lines of structs.
-/
import ApiLang.Proofs.Tree.Transfer

namespace ApiLang

variable {α : Type} {t : Transfer} {strict : Bool}

open Reader

theorem follows_shift (distance : Nat) (placed : PlacedToken) (span : Span) :
    (placed.shift distance).follows (span.shift distance) = placed.follows span := by
  simp [PlacedToken.follows]

theorem isIdentifier_of_endsLine {token : Token} (hend : endsLine token = true) :
    isIdentifier token = false := by
  cases token <;> simp_all [endsLine, isIdentifier]

/-- A name is not extended across the end of a line. -/
theorem extendName_of_end {span : Span} {dot next : PlacedToken} {others : List PlacedToken}
    (hend : endsLine dot.token = true ∨ endsLine next.token = true) :
    extendName span (dot :: next :: others) = (span, dot :: next :: others) := by
  rw [extendName, if_neg]
  rcases hend with hend | hend
  · simp [Transfer.isPunct_of_endsLine hend]
  · simp [isIdentifier_of_endsLine hend]

/-- At the end of the stretch no name is extended. -/
theorem extendName_rest (span : Span) : extendName span t.rest = (span, t.rest) := by
  rcases t.rest_cases with ⟨hrest, _⟩ | ⟨last, others, _, _, hrest, _, hlast, _⟩
  · rw [hrest]
    rfl
  · rw [hrest]
    cases others with
    | nil => rfl
    | cons next more => exact extendName_of_end (.inl hlast)

theorem extendName_targetRest (span : Span) :
    extendName span t.targetRest = (span, t.targetRest) := by
  rcases t.rest_cases with ⟨_, htarget, _⟩ | ⟨_, _, last', others', _, htarget, _, hlast', _⟩
  · rw [htarget]
    rfl
  · rw [htarget]
    cases others' with
    | nil => rfl
    | cons next more => exact extendName_of_end (.inl hlast')

theorem extendName_dot (span : Span) (dot : PlacedToken) :
    extendName span (dot :: t.rest) = (span, dot :: t.rest) ∧
      extendName (span.shift t.distance) (dot.shift t.distance :: t.targetRest) =
        (span.shift t.distance, dot.shift t.distance :: t.targetRest) := by
  rcases t.rest_cases with ⟨hrest, htarget, _⟩ |
    ⟨last, others, last', others', hrest, htarget, hlast, hlast', _⟩
  · rw [hrest, htarget]
    exact ⟨rfl, rfl⟩
  · rw [hrest, htarget]
    exact ⟨extendName_of_end (.inr hlast), extendName_of_end (.inr hlast')⟩

theorem extendName_stays {before : List PlacedToken} (hholds : t.Holds before) {span : Span}
    (hspan : span.stop ≤ t.bound) :
    ∃ found left, found.stop ≤ t.bound ∧
      extendName span (before ++ t.rest) = (found, left ++ t.rest) ∧
      extendName (span.shift t.distance) (t.move before) =
        (found.shift t.distance, t.move left) := by
  induction hlength : before.length using Nat.strong_induction_on generalizing before span with
  | _ length ih =>
  match before with
  | [] => exact ⟨span, [], hspan, extendName_rest span, extendName_targetRest _⟩
  | [dot] =>
      obtain ⟨hnear, hfar⟩ := extendName_dot (t := t) span dot
      exact ⟨span, [dot], hspan, hnear, hfar⟩
  | dot :: next :: more =>
      by_cases hextend : (dot.token.isPunct .dot && dot.follows span && isIdentifier next.token &&
          next.follows dot.span) = true
      · have hnext : next.span.stop ≤ t.bound := hholds.tail.head
        have hunion : (span.union next.span).stop ≤ t.bound := Nat.max_le.mpr ⟨hspan, hnext⟩
        obtain ⟨found, left, hfound, hnear, hfar⟩ :=
          ih more.length (by simp at hlength; omega) hholds.tail.tail hunion rfl
        refine ⟨found, left, hfound, ?_, ?_⟩
        · rw [List.cons_append, List.cons_append, extendName, if_pos hextend, hnear]
        · rw [Transfer.move_cons, Transfer.move_cons, extendName, if_pos, ← hfar]
          · simp
          · simpa [follows_shift] using hextend
      · refine ⟨span, dot :: next :: more, hspan, ?_, ?_⟩
        · rw [List.cons_append, List.cons_append, extendName, if_neg hextend]
        · rw [Transfer.move_cons, Transfer.move_cons, extendName, if_neg]
          simpa [follows_shift] using hextend

theorem transfers_restOfName {first : Span} (hfirst : first.stop ≤ t.bound) :
    (restOfName t.source first).Transfers t strict (Spanned.shift t.distance)
      (restOfName t.target (first.shift t.distance)) := by
  refine .of_stays (restOfName_keeps _ _) fun before hholds => ?_
  obtain ⟨found, left, hfound, hnear, hfar⟩ := extendName_stays hholds hfirst
  refine ⟨⟨sliceText t.source found, found⟩, left, ?_, ?_⟩
  · rw [restOfName, hnear]
  · rw [restOfName, hfar]
    simp only [t.slices found hfound]
    rfl

theorem span_of_accept_identifier {placed : PlacedToken} {name : Spanned String}
    (haccept : (match placed.token with
      | .identifier name => some (⟨name, placed.span⟩ : Spanned String)
      | _ => none) = some name) : name.span = placed.span := by
  split at haccept
  · cases haccept
    rfl
  · cases haccept

theorem transfers_qualifiedName :
    (qualifiedName t.source).Transfers t strict (Spanned.shift t.distance)
      (qualifiedName t.target) := by
  refine transfers_expect_bind accepts_identifier (fun _ => restOfName_keeps _ _) ?_
  intro placed name hplaced haccept
  have hspan := span_of_accept_identifier haccept
  exact transfers_restOfName (by rw [hspan]; exact hplaced)

theorem transfers_bracketedSize :
    bracketedSize.Transfers t strict (Option.map (Spanned.shift t.distance)) bracketedSize := by
  refine Transfers.bind (transfers_optional ?_ ?_) fun size =>
    (transfers_punct _ _).make fun _ => rfl
  · rintro ⟨token, span⟩
    cases token <;> rfl
  · rintro ⟨token, span⟩ hend
    cases token <;> simp_all [endsLine]

theorem transfers_emptyBraces :
    emptyBraces.Transfers t strict (Span.shift t.distance) emptyBraces :=
  (transfers_punct _ _).bind fun _ => transfers_skipInline.bind fun _ => transfers_punct _ _

/-- No mark but a closing brace follows the stretch. -/
theorem atPunct_rest {mark : Punct} (hmark : mark ≠ .rightBrace) :
    atPunct mark t.rest.head? = false := by
  rcases t.rest_cases with ⟨hrest, _⟩ | ⟨last, others, _, _, hrest, _, hlast, _⟩
  · rw [hrest]
    rfl
  · rw [hrest]
    exact Transfer.isPunct_of_endsLine hlast hmark

/-- Both sources go on with steps that transfer. -/
def GoOn (t : Transfer) (f : α → α) (outcome outcome' : Except Mismatch (α × List PlacedToken)) :
    Prop :=
  ∃ (size : Nat) (inner inner' : Reader α) (kept : List PlacedToken),
    inner.Transfers (t.upTo size) false f inner' ∧ (t.upTo size).Holds kept ∧
      outcome = inner (kept ++ t.rest) ∧ outcome' = inner' (t.move kept)

/-- Reading a type goes on in the same way in both sources, on shorter stretches
where it reads other types. -/
theorem typeExpr_goOn {size : Nat} {before : List PlacedToken} {placed : PlacedToken}
    (hsmaller : (typeExpr t.source).Transfers (t.upTo size) false (TypeExpr.shift t.distance)
      (typeExpr t.target)) (hholds : (t.upTo (size + 1)).Holds (placed :: before)) :
    GoOn t (TypeExpr.shift t.distance) (typeExpr t.source (placed :: (before ++ t.rest)))
      (typeExpr t.target (placed.shift t.distance :: t.move before)) := by
  have hbefore : (t.upTo size).Holds before :=
    ⟨hholds.tail.1, Nat.lt_of_succ_lt_succ hholds.2⟩
  rw [typeExpr_eq, typeExpr_eq]
  simp only [PlacedToken.token_shift, PlacedToken.span_shift]
  split
  · exact ⟨size, _, _, before, hsmaller.make fun inner => by simp [TypeExpr.shift], hbefore,
      rfl, rfl⟩
  · refine ⟨size, _, _, before, ?_, hbefore, rfl, rfl⟩
    exact transfers_bracketedSize.bind fun length =>
      hsmaller.make fun element => by simp [TypeExpr.shift]
  · rename_i name htoken
    have halike := Transfer.alike_head? (t := t) before
    rw [halike.atPunct (by decide), halike.atPunct (by decide)]
    split
    · rename_i hmap
      cases before with
      | nil =>
          have hrest := hmap.2
          rw [List.nil_append, atPunct_rest (by decide)] at hrest
          cases hrest
      | cons bracket others =>
          refine ⟨size, _, _, others, ?_, hbefore.tail, rfl, rfl⟩
          exact hsmaller.bind fun key => (transfers_punct _ _).bind fun _ =>
            hsmaller.make fun value => by simp [TypeExpr.shift]
    · split
      · exact ⟨size, _, _, before, transfers_emptyBraces.make fun close => by simp [TypeExpr.shift],
          hbefore, rfl, rfl⟩
      · exact ⟨size + 1, _, _, placed :: before, transfers_qualifiedName.make fun name => rfl,
          hholds, rfl, rfl⟩
  · exact ⟨size + 1, _, _, placed :: before, transfers_fail .typeExpr, hholds, rfl, rfl⟩

theorem typeExpr_transfers_upTo (t : Transfer) (size : Nat) :
    (typeExpr t.source).Transfers (t.upTo size) false (TypeExpr.shift t.distance)
      (typeExpr t.target) := by
  induction size with
  | zero => exact .zero (typeExpr_keeps _)
  | succ size ih =>
      constructor
      · exact typeExpr_keeps _
      · intro before left type hholds hread hfree hgood
        cases before with
        | nil => exact absurd hread (typeExpr_advances _).not_ok_rest
        | cons placed others =>
            obtain ⟨_, inner, inner', kept, hinner, hkept, hnear, hfar⟩ := typeExpr_goOn ih hholds
            exact hfar.trans (hinner.ok hkept (hnear.symm.trans hread) hfree hgood)
      · intro before left expected hholds hread hfree
        cases before with
        | nil =>
            obtain ⟨hrest, rfl⟩ := (typeExpr_keeps _).error_rest hread hfree
            rw [List.nil_append, show (t.upTo (size + 1)).rest = [] from hrest,
              typeExpr_eq] at hread
            cases hread
            rw [Transfer.move_nil, Transfer.targetRest_of_rest_eq_nil hrest, typeExpr_eq]
        | cons placed others =>
            obtain ⟨_, inner, inner', kept, hinner, hkept, hnear, hfar⟩ := typeExpr_goOn ih hholds
            exact hfar.trans (hinner.error hkept (hnear.symm.trans hread) hfree)

theorem transfers_typeExpr :
    (typeExpr t.source).Transfers t strict (TypeExpr.shift t.distance) (typeExpr t.target) :=
  (typeExpr_transfers_upTo t t.size).of_weak

theorem extendRun_stays {continues : Token → Bool}
    (hend : ∀ token, endsLine token = true → continues token = false)
    {before : List PlacedToken} (hholds : t.Holds before) {span : Span}
    (hspan : span.stop ≤ t.bound) :
    ∃ found left, found.stop ≤ t.bound ∧
      extendRun continues span (before ++ t.rest) = (found, left ++ t.rest) ∧
      extendRun continues (span.shift t.distance) (t.move before) =
        (found.shift t.distance, t.move left) := by
  induction before generalizing span with
  | nil =>
      refine ⟨span, [], hspan, ?_, ?_⟩
      · rcases t.rest_cases with ⟨hrest, _⟩ | ⟨last, others, _, _, hrest, _, hlast, _⟩
        · rw [hrest]
          rfl
        · rw [hrest, List.nil_append, extendRun, if_neg (by simp [hend _ hlast])]
      · rcases t.rest_cases with ⟨_, htarget, _⟩ | ⟨_, _, last', others', _, htarget, _, hlast', _⟩
        · rw [Transfer.move_nil, htarget]
          rfl
        · rw [Transfer.move_nil, htarget, extendRun, if_neg (by simp [hend _ hlast'])]
  | cons placed others ih =>
      by_cases hextend : (placed.span.start == span.stop && continues placed.token) = true
      · have hunion : (span.union placed.span).stop ≤ t.bound :=
          Nat.max_le.mpr ⟨hspan, hholds.head⟩
        obtain ⟨found, left, hfound, hnear, hfar⟩ := ih hholds.tail hunion
        refine ⟨found, left, hfound, ?_, ?_⟩
        · rw [List.cons_append, extendRun, if_pos hextend, hnear]
        · rw [Transfer.move_cons, extendRun, if_pos (by simpa using hextend), ← hfar]
          simp
      · refine ⟨span, placed :: others, hspan, ?_, ?_⟩
        · rw [List.cons_append, extendRun, if_neg hextend]
        · rw [Transfer.move_cons, extendRun, if_neg (by simpa using hextend)]

theorem transfers_restOfRun {continues : Token → Bool}
    (hend : ∀ token, endsLine token = true → continues token = false) {first : Span}
    (hfirst : first.stop ≤ t.bound) :
    (restOfRun t.source continues first).Transfers t strict (Spanned.shift t.distance)
      (restOfRun t.target continues (first.shift t.distance)) := by
  refine .of_stays (restOfRun_keeps _ _ _) fun before hholds => ?_
  obtain ⟨found, left, hfound, hnear, hfar⟩ := extendRun_stays hend hholds hfirst
  refine ⟨⟨sliceText t.source found, found⟩, left, ?_, ?_⟩
  · rw [restOfRun, hnear]
  · rw [restOfRun, hfar]
    simp only [t.slices found hfound]
    rfl

theorem coveredSpan_shift (distance offset : Nat) (tokens : List PlacedToken) :
    coveredSpan (offset + distance) (tokens.map (PlacedToken.shift distance)) =
      (coveredSpan offset tokens).shift distance := by
  have hsolid : (tokens.map (PlacedToken.shift distance)).filter
        (fun placed => !placed.token.isTrivia) =
      (tokens.filter fun placed => !placed.token.isTrivia).map (PlacedToken.shift distance) := by
    rw [List.filter_map]
    rfl
  simp only [coveredSpan, hsolid, List.head?_map, List.getLast?_map]
  cases (tokens.filter fun placed => !placed.token.isTrivia).head? with
  | none => rfl
  | some first =>
      cases (tokens.filter fun placed => !placed.token.isTrivia).getLast? with
      | none => rfl
      | some last => exact Span.union_shift _ _ _

/-- The tokens of the stretch cover a span within it. -/
theorem Transfer.Holds.coveredSpan_stop {tokens : List PlacedToken} (hholds : t.Holds tokens)
    {offset : Nat} (hoffset : offset ≤ t.bound) :
    (coveredSpan offset tokens).stop ≤ t.bound := by
  have hmem : ∀ placed ∈ tokens.filter (fun placed => !placed.token.isTrivia),
      placed.span.stop ≤ t.bound :=
    fun placed hplaced => (hholds.1 placed (List.mem_of_mem_filter hplaced)).2
  unfold coveredSpan
  simp only
  split
  · rename_i first last hfirst hlast
    exact Nat.max_le.mpr ⟨hmem first (List.mem_of_mem_head? hfirst),
      hmem last (List.mem_of_mem_getLast? hlast)⟩
  · exact hoffset

theorem Transfer.Holds.take {tokens run : List PlacedToken} (hholds : t.Holds tokens)
    (hrun : run.Sublist tokens) : t.Holds run :=
  ⟨fun placed hplaced => hholds.1 placed (hrun.subset hplaced),
    Nat.lt_of_le_of_lt hrun.length_le hholds.2⟩

/-- Taking tokens that no end of a line satisfies stops within the stretch. -/
theorem takeWhile_stays (test : Token → Bool)
    (htest : ∀ token, endsLine token = true → test token = false) (before : List PlacedToken) :
    (before ++ t.rest).takeWhile (fun placed => test placed.token) =
        before.takeWhile (fun placed => test placed.token) ∧
      (t.move before).takeWhile (fun placed => test placed.token) =
        (before.takeWhile fun placed => test placed.token).map
          (PlacedToken.shift t.distance) := by
  induction before with
  | nil =>
      constructor
      · rcases t.rest_cases with ⟨hrest, _⟩ | ⟨last, others, _, _, hrest, _, hlast, _⟩
        · rw [hrest]
          rfl
        · rw [hrest, List.nil_append, List.takeWhile_cons_of_neg (by simp [htest _ hlast])]
          rfl
      · rcases t.rest_cases with ⟨_, htarget, _⟩ | ⟨_, _, last', others', _, htarget, _, hlast', _⟩
        · rw [Transfer.move_nil, htarget]
          rfl
        · rw [Transfer.move_nil, htarget, List.takeWhile_cons_of_neg (by simp [htest _ hlast'])]
          rfl
  | cons placed others ih =>
      by_cases hplaced : test placed.token = true
      · simp [hplaced, ih]
      · simp [hplaced]

theorem endsValue_of_endsLine {token : Token} (hend : endsLine token = true) :
    endsValue token = true := by
  simp [endsValue, hend]

/-- One item of a value lies within the stretch. -/
theorem valueItem_stays {placed : PlacedToken} {others : List PlacedToken}
    (hholds : t.Holds (placed :: others)) :
    (valueItem t.source (placed :: (others ++ t.rest)) = none ∧
      valueItem t.target (placed.shift t.distance :: t.move others) = none) ∨
    ∃ item left, left <:+ others ∧
      valueItem t.source (placed :: (others ++ t.rest)) = some (item, left ++ t.rest) ∧
      valueItem t.target (placed.shift t.distance :: t.move others) =
        some (item.shift t.distance, t.move left) := by
  have hvalue : ∀ token, endsLine token = true → (!endsValue token) = false :=
    fun token hend => by rw [endsValue_of_endsLine hend]; rfl
  obtain ⟨left, hleft, hdrop, hdrop'⟩ :=
    dropWhile_stays (t := t) (fun token => !endsValue token) hvalue others
  obtain ⟨htake, htake'⟩ :=
    takeWhile_stays (t := t) (fun token => !endsValue token) hvalue others
  simp only [valueItem, PlacedToken.token_shift, PlacedToken.span_shift, htake, htake', hdrop,
    hdrop', Span.start_shift, ← List.map_cons, coveredSpan_shift]
  split
  · exact .inr ⟨_, others, List.suffix_refl _, rfl, rfl⟩
  · split
    · exact .inl ⟨rfl, rfl⟩
    · refine .inr ⟨_, left, hleft, rfl, ?_⟩
      have hrun : t.Holds (placed :: others.takeWhile fun next => !endsValue next.token) :=
        hholds.take ((List.takeWhile_sublist _).cons_cons placed)
      have hstop := hrun.coveredSpan_stop (hholds.1 placed List.mem_cons_self).1
      rw [t.slices _ hstop]
      rfl

theorem dropInline_stays (before : List PlacedToken) :
    ∃ left, left <:+ before ∧ dropInline (before ++ t.rest) = left ++ t.rest ∧
      dropInline (t.move before) = t.move left :=
  dropWhile_stays Token.isInlineTrivia (fun _ => isInlineTrivia_of_endsLine) before

theorem valueItem_of_endsLine (source : List Char) {last : PlacedToken}
    (others : List PlacedToken) (hlast : endsLine last.token = true) :
    valueItem source (last :: others) = none := by
  simp only [valueItem]
  split
  · simp_all [endsLine]
  · rw [if_pos (endsValue_of_endsLine hlast)]

/-- Trivia of the line makes no difference to a value. -/
theorem valueItems_congr {source : List Char} {tokens other : List PlacedToken}
    (hdrop : dropInline tokens = dropInline other) :
    valueItems source tokens = valueItems source other := by
  rw [valueItems_eq, hdrop, ← valueItems_eq]

theorem dropInline_rest :
    dropInline t.rest = t.rest ∧ dropInline t.targetRest = t.targetRest := by
  obtain ⟨left, hleft, hdrop, hdrop'⟩ := dropInline_stays (t := t) []
  rw [List.suffix_nil.mp hleft] at hdrop hdrop'
  exact ⟨hdrop, hdrop'⟩

/-- The end of the stretch ends a value. -/
theorem valueItems_rest :
    valueItems t.source t.rest = ([], t.rest) ∧
      valueItems t.target t.targetRest = ([], t.targetRest) := by
  rw [valueItems_eq, valueItems_eq, dropInline_rest.1, dropInline_rest.2]
  rcases t.rest_cases with ⟨hrest, htarget, _⟩ |
    ⟨last, others, last', others', hrest, htarget, hlast, hlast', _⟩
  · rw [hrest, htarget]
    exact ⟨rfl, rfl⟩
  · simp only [hrest, htarget, valueItem_of_endsLine _ _ hlast, valueItem_of_endsLine _ _ hlast',
      and_self]

theorem valueItems_stays {before : List PlacedToken} (hholds : t.Holds before) :
    ∃ items left, left <:+ before ∧
      valueItems t.source (before ++ t.rest) = (items, left ++ t.rest) ∧
      valueItems t.target (t.move before) =
        (items.map (Spanned.shift t.distance), t.move left) := by
  induction hlength : before.length using Nat.strong_induction_on generalizing before with
  | _ length ih =>
  obtain ⟨kept, hkept, hdrop, hdrop'⟩ := dropInline_stays (t := t) before
  cases kept with
  | nil =>
      refine ⟨[], [], List.nil_suffix, ?_, ?_⟩
      · exact (valueItems_congr (hdrop.trans dropInline_rest.1.symm)).trans valueItems_rest.1
      · exact (valueItems_congr (hdrop'.trans dropInline_rest.2.symm)).trans valueItems_rest.2
  | cons placed others =>
      rw [valueItems_eq, valueItems_eq, hdrop, hdrop', Transfer.move_cons, List.cons_append]
      rcases valueItem_stays (hholds.mono hkept) with ⟨hnone, hnone'⟩ |
        ⟨item, left, hleft, hitem, hitem'⟩
      · simp only [hnone, hnone']
        exact ⟨[], placed :: others, hkept, rfl, rfl⟩
      · have hbehind : left <:+ before := hleft.trans ((List.suffix_cons placed others).trans hkept)
        obtain ⟨behind, hsuffix, hnext, hnext'⟩ := dropInline_stays (t := t) left
        simp only [hitem, hitem', hnext, hnext']
        cases behind with
        | nil =>
            refine ⟨[item], [], List.nil_suffix, ?_, ?_⟩
            · rcases t.rest_cases with ⟨hrest, _⟩ | ⟨last, others, _, _, hrest, _, hlast, _⟩
              · simp only [hrest, List.append_nil]
              · simp only [hrest, List.nil_append, Transfer.isPunct_of_endsLine hlast
                  (by decide : Punct.comma ≠ .rightBrace), Bool.false_eq_true, if_false]
            · rcases t.rest_cases with ⟨_, htarget, _⟩ | ⟨_, _, last', _, _, htarget, _, hlast', _⟩
              · simp only [Transfer.move_nil, htarget, List.map_cons, List.map_nil]
              · simp only [Transfer.move_nil, htarget, Transfer.isPunct_of_endsLine hlast'
                  (by decide : Punct.comma ≠ .rightBrace), Bool.false_eq_true, if_false,
                  List.map_cons, List.map_nil]
        | cons comma more =>
            simp only [List.cons_append, Transfer.move_cons, PlacedToken.token_shift]
            by_cases hcomma : comma.token.isPunct .comma = true
            · have hmore : more <:+ before :=
                (List.suffix_cons comma more).trans (hsuffix.trans hbehind)
              have hshorter : more.length < length := by
                have hone := (hsuffix.trans hbehind).length_le
                rw [List.length_cons] at hone
                omega
              obtain ⟨items, left', hleft', hread, hread'⟩ :=
                ih more.length hshorter (hholds.mono hmore) rfl
              simp only [hcomma, if_true, hread, hread']
              exact ⟨item :: items, left', hleft'.trans hmore, rfl, rfl⟩
            · simp only [hcomma]
              exact ⟨[item], comma :: more, hsuffix.trans hbehind, rfl, rfl⟩

/-- Both sources go on at places that are `distance` apart. -/
theorem startOffset_move (left : List PlacedToken) :
    startOffset t.target (t.move left) = startOffset t.source (left ++ t.rest) + t.distance := by
  cases left with
  | nil =>
      rcases t.rest_cases with ⟨hrest, htarget, hwidth⟩ |
        ⟨last, others, last', others', hrest, htarget, _, _, hstart⟩
      · rw [Transfer.move_nil, htarget, hrest]
        exact hwidth
      · rw [Transfer.move_nil, htarget, hrest]
        exact hstart
  | cons placed others => rfl

theorem transfers_valueList :
    (valueList t.source).Transfers t strict (ValueList.shift t.distance) (valueList t.target) := by
  refine .of_stays (valueList_keeps _) fun before hholds => ?_
  obtain ⟨items, left, _, hread, hread'⟩ := valueItems_stays hholds
  refine ⟨⟨items, itemsSpan (startOffset t.source (left ++ t.rest)) items⟩, left, ?_, ?_⟩
  · rw [valueList, hread]
    rfl
  · rw [valueList, hread']
    simp only [ValueList.shift, itemsSpan, startOffset_move, List.head?_map, List.getLast?_map]
    cases items.head? with
    | none => rfl
    | some first =>
        cases items.getLast? with
        | none => rfl
        | some last =>
            simp only [Option.map_some, Spanned.span_shift, Span.union_shift]

theorem transfers_keyValue :
    (keyValue t.source).Transfers t strict (KeyValue.shift t.distance) (keyValue t.target) := by
  refine (transfers_word _).bind fun key => transfers_skipInline.bind fun _ =>
    (transfers_punct _ _).bind fun colon => transfers_valueList.make fun value => ?_
  have hempty : (value.items.map (Spanned.shift t.distance)).isEmpty = value.items.isEmpty :=
    List.isEmpty_map
  cases hitems : value.items.isEmpty <;>
    simp [KeyValue.shift, ValueList.shift, hempty, hitems]

theorem isDeclarationKeyword_of_endsLine {token : Token} (hend : endsLine token = true) :
    isDeclarationKeyword token = false := by
  cases token <;> simp_all [endsLine, isDeclarationKeyword]

theorem transfers_listedKeyValue :
    (listedKeyValue t.source).Transfers t strict (KeyValue.shift t.distance)
      (listedKeyValue t.target) := by
  refine transfers_peek_bind fun next next' halike => ?_
  refine transfers_ite ?_ (transfers_fail _) transfers_keyValue
  rw [halike.all_eq isDeclarationKeyword fun _ => isDeclarationKeyword_of_endsLine]

/-- Reading items up to a parenthesis, as steps in a row. -/
theorem untilRightParen_eq (item : ItemReader α) :
    untilRightParen item = (do
      Reader.skipTrivia
      let next ← Reader.peek
      if atPunct .rightParen next then do
        let close ← Reader.punct .rightParen .rightParen
        pure ([], close)
      else do
        let first ← item.read
        let (others, close) ← untilRightParen item
        pure (first :: others, close) : Reader (List α × Span)) := by
  funext tokens
  change _ = (if atPunct .rightParen (dropTrivia tokens).head? then do
      let close ← Reader.punct .rightParen .rightParen
      pure ([], close)
    else do
      let first ← item.read
      let (others, close) ← untilRightParen item
      pure (first :: others, close) : Reader (List α × Span)) (dropTrivia tokens)
  by_cases hclose : atPunct .rightParen (dropTrivia tokens).head? = true
  · rw [if_pos hclose]
    cases hdrop : dropTrivia tokens with
    | nil =>
        rw [hdrop] at hclose
        cases hclose
    | cons placed others =>
        rw [hdrop] at hclose
        have htoken : placed.token = .punct .rightParen := by
          simpa [atPunct, Token.isPunct] using hclose
        have hpunct : Reader.punct .rightParen .rightParen (placed :: others) =
            .ok (placed.span, others) := by
          simp [Reader.punct, Reader.expect, Token.isPunct, htoken]
        rw [untilRightParen_close item hdrop htoken, bind_ok hpunct]
        rfl
  · rw [if_neg hclose]
    exact untilRightParen_item item (by simpa using hclose)

/-- Items up to a parenthesis, where one item transfers. -/
theorem transfers_untilRightParen {item item' : ItemReader α} {f : α → α}
    (hitem : ∀ size, item.read.Transfers (t.upTo size) false f item'.read) :
    Reader.Transfers t strict (Prod.map (List.map f) (Span.shift t.distance))
      (untilRightParen item) (untilRightParen item') := by
  suffices hsizes : ∀ size, Reader.Transfers (t.upTo size) false
      (Prod.map (List.map f) (Span.shift t.distance)) (untilRightParen item)
      (untilRightParen item') from (hsizes t.size).of_weak
  intro size
  induction size with
  | zero => exact .zero (untilRightParen_keeps item)
  | succ size ih =>
      rw [untilRightParen_eq item, untilRightParen_eq item']
      refine transfers_skipTrivia.bind_of_advances (fun _ => ?_) fun _ => ?_
      · refine transfers_peek_bind fun next next' halike => transfers_ite ?_ ?_ ?_
        · rw [halike.atPunct (by decide)]
        · exact (transfers_punct _ _).make fun close => rfl
        · exact (hitem (size + 1)).bind_below item.advances fun first =>
            ih.make fun found => rfl
      · refine bind_advances_of_next peek_keeps fun next => ?_
        split
        · exact bind_advances_of_first (expect_advances _ _) fun _ => pure_keeps _
        · refine bind_advances_of_first item.advances fun _ => ?_
          exact bind_keeps (untilRightParen_keeps item) fun _ => pure_keeps _

theorem transfers_keyValues :
    (keyValues t.source).Transfers t strict
      (Prod.map (List.map (KeyValue.shift t.distance)) (Span.shift t.distance))
      (keyValues t.target) :=
  transfers_untilRightParen fun _ => transfers_listedKeyValue

/-- Steps that depend on the next token of the line. -/
theorem transfers_peekPastInline_bind {g : α → α} {next next' : Option PlacedToken → Reader α}
    (hnext : ∀ token token', t.Alike token token' →
      (next token).Transfers t strict g (next' token')) :
    (peekPastInline >>= next).Transfers t strict g (peekPastInline >>= next') := by
  have halike : ∀ before,
      t.Alike (dropInline (before ++ t.rest)).head? (dropInline (t.move before)).head? := by
    intro before
    obtain ⟨left, _, hdrop, hdrop'⟩ := dropInline_stays (t := t) before
    rw [hdrop, hdrop']
    exact Transfer.alike_head? left
  constructor
  · refine bind_keeps peekPastInline_keeps fun token => ?_
    exact (hnext token (token.map (PlacedToken.shift t.distance)) (.inl rfl)).keeps
  · intro before left b hholds hread hfree hgood
    exact (hnext _ _ (halike before)).ok hholds hread hfree hgood
  · intro before left expected hholds hread hfree
    exact (hnext _ _ (halike before)).error hholds hread hfree

theorem transfers_annotationBody :
    (annotationBody t.source).Transfers t strict
      (Prod.map (AnnotationBody.shift t.distance) (Option.map (Span.shift t.distance)))
      (annotationBody t.target) := by
  refine transfers_peekPastInline_bind fun next next' halike => transfers_ite ?_ ?_ ?_
  · rw [halike.atPunct (by decide)]
  · exact transfers_skipInline.bind fun _ => (transfers_punct _ _).bind fun _ =>
      transfers_keyValues.make fun found => rfl
  · refine transfers_ite ?_ (transfers_pure rfl) ?_
    · rw [halike.atLineEnd]
    · refine transfers_valueList.make fun value => ?_
      have hempty : (value.items.map (Spanned.shift t.distance)).isEmpty = value.items.isEmpty :=
        List.isEmpty_map
      cases hitems : value.items.isEmpty <;>
        simp [AnnotationBody.shift, ValueList.shift, hempty, hitems]

theorem transfers_annotationStep :
    (annotationStep t.source).Transfers t strict (fun note => note.shift t.distance)
      (annotationStep t.target) := by
  refine (transfers_punct _ _).bind fun sign => (transfers_word _).bind fun name =>
    transfers_annotationBody.make fun found => ?_
  obtain ⟨body, last⟩ := found
  unfold Annotation.shift
  cases last <;> simp

/-- Reading annotations, as steps in a row. -/
theorem annotations_eq_steps (source : List Char) :
    annotations source = (do
      let next ← Reader.peek
      if atPunct .atSign next then do
        let first ← annotationStep source
        Reader.skipTrivia
        let others ← annotations source
        pure (first :: others)
      else pure [] : Reader (List Annotation)) := by
  funext tokens
  rw [annotations_eq]
  change _ = (if atPunct .atSign tokens.head? then _ else _ : Reader (List Annotation)) tokens
  split <;> rfl

/-- Trivia behind the last annotation is dropped, so this step is strict. -/
theorem transfers_annotations :
    Reader.Transfers t true (List.map <| Annotation.shift t.distance) (annotations t.source)
      (annotations t.target) := by
  suffices hsizes : ∀ size, Reader.Transfers (t.upTo size) true
      (List.map <| Annotation.shift t.distance) (annotations t.source)
      (annotations t.target) from hsizes t.size
  intro size
  induction size with
  | zero => exact .zero (annotations_keeps _)
  | succ size ih =>
      rw [annotations_eq_steps t.source, annotations_eq_steps t.target]
      refine transfers_peek_bind fun next next' halike => transfers_ite ?_ ?_ (transfers_pure rfl)
      · rw [halike.atPunct (by decide)]
      · exact transfers_annotationStep.bind_below (annotationStep_advances _) fun first =>
          transfers_skipTrivia.bind fun _ => ih.make fun others => rfl

theorem transfers_fieldTag :
    fieldTag.Transfers t strict (Option.map (Spanned.shift t.distance)) fieldTag := by
  refine transfers_optional ?_ ?_
  · rintro ⟨token, span⟩
    cases token <;> rfl
  · rintro ⟨token, span⟩ hend
    cases token <;> simp_all [endsLine]

theorem transfers_embeddedPointer (star : Span) (name : Spanned String) :
    (embeddedPointer star name).Transfers t strict (Member.shift t.distance)
      (embeddedPointer (star.shift t.distance) (name.shift t.distance)) :=
  transfers_endOfLine.make fun _ => by simp [Member.shift, Embedded.shift]

theorem transfers_fieldOf (name : Spanned String) :
    (fieldOf t.source name).Transfers t strict (Member.shift t.distance)
      (fieldOf t.target (name.shift t.distance)) := by
  refine transfers_typeExpr.bind fun type => transfers_skipInline.bind fun _ =>
    transfers_fieldTag.bind fun tag => transfers_endOfLine.make fun _ => ?_
  cases tag <;> simp [Member.shift, Field.shift]

theorem transfers_fieldOrEmbedded (name : Spanned String) :
    (fieldOrEmbedded t.source name).Transfers t strict (Member.shift t.distance)
      (fieldOrEmbedded t.target (name.shift t.distance)) := by
  refine transfers_skipInline.bind fun _ => transfers_peek_bind fun next next' halike =>
    transfers_ite ?_ (transfers_pure ?_)
      (transfers_ite ?_ (transfers_fail _) (transfers_fieldOf name))
  · rw [halike.atLineEnd]
  · simp [Member.shift, Embedded.shift]
  · rw [Spanned.val_shift]

/-- A line of a struct is read up to the end of the line. -/
theorem transfers_member :
    (member t.source).Transfers t strict (Member.shift t.distance) (member t.target) := by
  refine (transfers_eatPunct (by decide)).bind fun star =>
    transfers_qualifiedName.bind fun name => ?_
  cases star with
  | none => exact transfers_fieldOrEmbedded name
  | some star => exact transfers_embeddedPointer star name

theorem transfers_structWord : structWord.Transfers t strict id structWord := by
  refine Transfers.bind (transfers_optional (f := id) ?_ ?_) fun found => ?_
  · intro placed
    by_cases hword : placed.token = .identifier "struct" <;> simp [hword]
  · intro placed hend
    rw [if_neg]
    intro hword
    simp [hword, endsLine] at hend
  · cases found with
    | none => exact transfers_pure rfl
    | some _ => exact transfers_skipInline

theorem transfers_serviceName :
    (serviceName t.source).Transfers t strict (Spanned.shift t.distance)
      (serviceName t.target) := by
  refine transfers_expect_bind accepts_word (fun _ => restOfRun_keeps _ _ _) ?_
  intro placed name hplaced haccept
  have hspan : name.span = placed.span := by
    obtain ⟨text, _, rfl⟩ := Option.map_eq_some_iff.mp haccept
    rfl
  refine transfers_restOfRun ?_ (by rw [hspan]; exact hplaced)
  intro token hend
  cases token <;> simp_all [endsLine, continuesServiceName]

theorem transfers_routePath :
    (routePath t.source).Transfers t strict (Spanned.shift t.distance) (routePath t.target) := by
  refine transfers_expect_bind (accepts_if fun token => token.isPunct .slash)
    (fun _ => restOfRun_keeps _ _ _) ?_
  intro placed slash hplaced haccept
  have hspan : slash = placed.span := by
    split at haccept
    · exact (Option.some.inj haccept).symm
    · cases haccept
  refine transfers_restOfRun ?_ (by rw [hspan]; exact hplaced)
  intro token hend
  cases token <;> simp_all [endsLine, continuesRoutePath, Token.isTrivia]

theorem transfers_routeMethod :
    routeMethod.Transfers t strict (Spanned.shift t.distance) routeMethod := by
  refine transfers_expect ?_
  rintro ⟨token, span⟩
  cases token with
  | identifier name =>
      by_cases hmethod : isHttpMethod name = true <;>
        simp [PlacedToken.shift, hmethod, Spanned.shift]
  | _ => rfl

theorem transfers_parenthesizedType :
    (parenthesizedType t.source).Transfers t strict
      (Prod.map (TypeExpr.shift t.distance) (Span.shift t.distance))
      (parenthesizedType t.target) :=
  transfers_skipInline.bind fun _ => transfers_typeExpr.bind fun _ =>
    transfers_skipInline.bind fun _ => (transfers_punct _ _).make fun _ => rfl

theorem transfers_routeRequest :
    (routeRequest t.source).Transfers t strict
      (Option.map (Prod.map (TypeExpr.shift t.distance) (Span.shift t.distance)))
      (routeRequest t.target) := by
  refine (transfers_eatPunct (by decide)).bind fun opener => ?_
  cases opener with
  | none => exact transfers_pure rfl
  | some _ =>
      exact transfers_parenthesizedType.bind fun request => transfers_skipInline.make fun _ => rfl

theorem transfers_routeResponse :
    (routeResponse t.source).Transfers t strict
      (Option.map (Prod.map (TypeExpr.shift t.distance) (Span.shift t.distance)))
      (routeResponse t.target) := by
  refine Transfers.bind (transfers_optional (f := id) ?_ ?_) fun found => ?_
  · intro placed
    by_cases hword : placed.token.isKeyword .returnsWord = true <;> simp [hword]
  · intro placed hend
    rw [if_neg]
    intro hword
    simp [Token.isKeyword, endsLine] at hword hend
    simp [hword] at hend
  · cases found with
    | none => exact transfers_pure rfl
    | some _ =>
        exact transfers_skipInline.bind fun _ => (transfers_punct _ _).bind fun _ =>
          transfers_parenthesizedType.make fun response => rfl

theorem routeLast_shift (distance : Nat) (path : Span)
    (request response : Option (TypeExpr × Span)) :
    routeLast (path.shift distance)
        (request.map (Prod.map (TypeExpr.shift distance) (Span.shift distance)))
        (response.map (Prod.map (TypeExpr.shift distance) (Span.shift distance))) =
      (routeLast path request response).shift distance := by
  cases response <;> cases request <;> rfl

theorem transfers_restOfRoute (notes : List Annotation) (method : Spanned String) :
    (restOfRoute t.source notes method).Transfers t strict (Route.shift t.distance)
      (restOfRoute t.target (notes.map <| Annotation.shift t.distance)
        (method.shift t.distance)) := by
  refine transfers_skipInline.bind fun _ => transfers_routePath.bind fun path =>
    transfers_skipInline.bind fun _ => transfers_routeRequest.bind fun request =>
      transfers_routeResponse.bind fun response => transfers_endOfLine.make fun _ => ?_
  simp [Route.shift, routeLast_shift, spanFrom_shift, Function.comp_def]

/-- A route is read up to the end of its line. -/
theorem transfers_route :
    (route t.source).Transfers t strict (Route.shift t.distance) (route t.target) := by
  refine transfers_annotations.bind_of_advances (fun notes => ?_) fun notes => ?_
  · exact transfers_routeMethod.bind fun method => transfers_restOfRoute notes method
  · exact bind_advances_of_first (expect_advances _ _) fun method =>
      restOfRoute_keeps _ notes method

end ApiLang
