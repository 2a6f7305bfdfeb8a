/-
Bodies in two sources.  Where the input ends with the stretch, bodies and their
recovery transfer as they are; in front of the end of a line, bodies transfer that
are whole.
-/
import ApiLang.Proofs.Tree.TransferReaders
import ApiLang.Proofs.Tree.Whole
import Mathlib.Data.List.DropRight

namespace ApiLang

variable {α : Type} {t : Transfer}

open Reader

section Recovery

theorem resumeAfter_map (g : PlacedToken → PlacedToken) (start stuck : List PlacedToken) :
    resumeAfter (start.map g) (stuck.map g) = (resumeAfter start stuck).map g := by
  simp only [resumeAfter, List.length_map]
  split
  · exact List.map_tail.symm
  · rfl

theorem dropLine_shift (closer : Punct) (distance : Nat) (tokens : List PlacedToken) :
    dropLine closer (tokens.map (PlacedToken.shift distance)) =
      (dropLine closer tokens).map (PlacedToken.shift distance) := by
  induction tokens with
  | nil => rfl
  | cons placed others ih =>
      by_cases hcloser : placed.token.isPunct closer = true
      · simp [dropLine, hcloser]
      · by_cases hbreak : placed.token = .newline
        · rw [hbreak] at hcloser
          simp [dropLine, hcloser, hbreak]
        · simp [dropLine, hcloser, hbreak, ih]

theorem dropToDeclaration_shift (distance : Nat) (tokens : List PlacedToken) :
    dropToDeclaration (tokens.map (PlacedToken.shift distance)) =
      (dropToDeclaration tokens).map (PlacedToken.shift distance) := by
  rw [dropToDeclaration, List.dropWhile_map]
  rfl

/-- What is skipped moves with the input. -/
theorem Skipped.between_shift {placed : PlacedToken} {others : List PlacedToken}
    (hholds : t.Holds (placed :: others)) (left : List PlacedToken) (expected : Expected)
    (stuck : List PlacedToken) :
    Skipped.between t.target ((placed :: others).map (PlacedToken.shift t.distance))
        (left.map (PlacedToken.shift t.distance))
        ⟨expected, stuck.map (PlacedToken.shift t.distance)⟩ =
      (Skipped.between t.source (placed :: others) left ⟨expected, stuck⟩).shift t.distance := by
  have htaken := hholds.take (List.take_sublist
    ((placed :: others).length - left.length) (placed :: others))
  have hstop := @Transfer.Holds.coveredSpan_stop t _ htaken
    (startOffset t.source (placed :: others)) (hholds.1 placed List.mem_cons_self).1
  have hoffset : startOffset t.target ((placed :: others).map (PlacedToken.shift t.distance)) =
      startOffset t.source (placed :: others) + t.distance := rfl
  simp only [Skipped.between, Skipped.shift, List.length_map, ← List.map_take, hoffset,
    coveredSpan_shift, List.head?_map]
  rw [t.slices _ hstop]

end Recovery

/-! ### Where the input ends with the stretch -/

theorem Transfer.move_of_rest_eq_nil (hrest : t.rest = []) (tokens : List PlacedToken) :
    t.move tokens = tokens.map (PlacedToken.shift t.distance) := by
  rw [Transfer.move, Transfer.targetRest_of_rest_eq_nil hrest, List.append_nil]

theorem Reader.TransfersIf.ok_shift {strict : Bool} {good : α → Prop} {f : α → α}
    {reader reader' : Reader α} (hreader : reader.TransfersIf t strict good f reader')
    (hrest : t.rest = []) {tokens left : List PlacedToken} {a : α} (hholds : t.Holds tokens)
    (hread : reader tokens = .ok (a, left)) :
    reader' (tokens.map (PlacedToken.shift t.distance)) =
      .ok (f a, left.map (PlacedToken.shift t.distance)) := by
  have hnear : reader (tokens ++ t.rest) = .ok (a, left ++ t.rest) := by
    rw [hrest, List.append_nil, List.append_nil]
    exact hread
  have hok := hreader.ok hholds hnear (fun _ => .inl hrest) (.inl hrest)
  rwa [Transfer.move_of_rest_eq_nil hrest, Transfer.move_of_rest_eq_nil hrest] at hok

theorem Reader.TransfersIf.error_shift {strict : Bool} {good : α → Prop} {f : α → α}
    {reader reader' : Reader α} (hreader : reader.TransfersIf t strict good f reader')
    (hrest : t.rest = []) {tokens : List PlacedToken} {mismatch : Mismatch}
    (hholds : t.Holds tokens) (hread : reader tokens = .error mismatch) :
    reader' (tokens.map (PlacedToken.shift t.distance)) =
      .error ⟨mismatch.expected, mismatch.rest.map (PlacedToken.shift t.distance)⟩ := by
  have hnear : reader (tokens ++ t.rest) =
      .error ⟨mismatch.expected, mismatch.rest ++ t.rest⟩ := by
    rw [hrest, List.append_nil, List.append_nil]
    exact hread
  have herror := hreader.error hholds hnear (.inl hrest)
  rwa [Transfer.move_of_rest_eq_nil hrest, Transfer.move_of_rest_eq_nil hrest] at herror

/-- The rules of a body transfer: its entries do, and it stops in the target where
it stops in the source. -/
structure BodyTransfer (t : Transfer) (whole : α → Prop) (f : α → α)
    (rules rules' : BodyRules α) : Prop where
  closer : rules'.closer = rules.closer
  skipped : ∀ input, rules'.skipped (input.shift t.distance) = f (rules.skipped input)
  notWhole : ∀ input, ¬ whole (rules.skipped input)
  entry : rules.entry.read.TransfersIf t false whole f rules'.entry.read
  stops : ∀ {tokens}, t.Holds tokens → t.rest = [] →
    rules'.stops (tokens.map (PlacedToken.shift t.distance)) = rules.stops tokens
  goesOn : ∀ {placed others entry left}, t.Holds (placed :: others) →
    rules.stops (placed :: others ++ t.rest) = false →
    rules.entry.read (placed :: others ++ t.rest) = .ok (entry, left ++ t.rest) →
    rules'.stops (t.move (placed :: others)) = false

theorem bodyEntries_of_nil (source : List Char) (rules : BodyRules α) {tokens : List PlacedToken}
    (hdrop : dropTrivia tokens = []) : bodyEntries source rules tokens = ([], none, []) := by
  rw [bodyEntries]
  split
  · rfl
  · rename_i hcons
    rw [hdrop] at hcons
    cases hcons

/-- Trivia in front of a body makes no difference. -/
theorem bodyEntries_congr (source : List Char) (rules : BodyRules α)
    {tokens other : List PlacedToken} (hdrop : dropTrivia tokens = dropTrivia other) :
    bodyEntries source rules tokens = bodyEntries source rules other := by
  cases hother : dropTrivia other with
  | nil =>
      rw [bodyEntries_of_nil source rules hother,
        bodyEntries_of_nil source rules (hdrop.trans hother)]
  | cons placed rest =>
      rw [bodyEntries_eq_of_cons source rules hother,
        bodyEntries_eq_of_cons source rules (hdrop.trans hother)]

theorem dropTrivia_dropTrivia (tokens : List PlacedToken) :
    dropTrivia (dropTrivia tokens) = dropTrivia tokens :=
  List.dropWhile_idempotent _ _

/-- What stands behind dropped trivia is none. -/
theorem isTrivia_of_dropTrivia {tokens others : List PlacedToken} {placed : PlacedToken}
    (hdrop : dropTrivia tokens = placed :: others) : placed.token.isTrivia = false := by
  have hhead := List.head?_dropWhile_not
    (fun placed : PlacedToken => placed.token.isTrivia) tokens
  rw [show tokens.dropWhile _ = placed :: others from hdrop] at hhead
  exact hhead

/-- Dropping the trivia of the stretch, if something of it is left. -/
theorem dropTrivia_move {before left : List PlacedToken}
    (hdrop : dropTrivia (before ++ t.rest) = left ++ t.rest) (hfree : t.Free left) :
    dropTrivia (t.move before) = t.move left := by
  refine dropWhile_move hdrop fun hleft => ?_
  rcases hfree with hrest | hne
  · rw [Transfer.targetRest_of_rest_eq_nil hrest]
    rfl
  · exact absurd hleft hne

/-- A step behind trivia that leaves the end of the stretch alone: where it starts
and what it leaves, in both sources. -/
theorem step_within {reader : Reader α} (hkeeps : reader.Keeps) (hadvances : reader.Advances)
    {before rest middle : List PlacedToken} {placed : PlacedToken} {a : α}
    (hdrop : dropTrivia (before ++ t.rest) = placed :: rest)
    (hread : reader (placed :: rest) = .ok (a, middle)) (hrest : t.rest <:+ middle) :
    ∃ more behind, rest = more ++ t.rest ∧ middle = behind ++ t.rest ∧
      placed :: more <:+ before ∧ behind <:+ before ∧ behind.length < before.length ∧
      dropTrivia (t.move before) = placed.shift t.distance :: t.move more := by
  have hall : placed :: rest <:+ before ++ t.rest := hdrop ▸ dropTrivia_suffix _
  have hmiddle := (hkeeps _).1 _ _ hread
  have hshorter := hadvances _ _ _ hread
  obtain ⟨behind, rfl, hbehind⟩ := Transfer.exists_kept (hmiddle.trans hall) hrest
  obtain ⟨ahead, hsplit, hahead⟩ := Transfer.exists_kept hall (hrest.trans hmiddle)
  cases ahead with
  | nil =>
      rw [hsplit] at hshorter
      simp at hshorter
  | cons first more =>
      rw [List.cons_append, List.cons.injEq] at hsplit
      obtain ⟨rfl, rfl⟩ := hsplit
      refine ⟨more, behind, rfl, rfl, hahead, hbehind, ?_,
        dropTrivia_move hdrop (.inr (List.cons_ne_nil placed more))⟩
      have hwithin := hahead.length_le
      simp only [List.length_append, List.length_cons] at hshorter hwithin
      omega

/-- A body that is closed takes at least its closing mark. -/
theorem bodyEntries_length_lt (source : List Char) (rules : BodyRules α)
    (tokens : List PlacedToken) (hclosed : (bodyEntries source rules tokens).2.1.isSome = true) :
    (bodyEntries source rules tokens).2.2.length < tokens.length := by
  fun_induction bodyEntries source rules tokens with
  | case1 tokens _ => cases hclosed
  | case2 tokens placed rest hdrop _ =>
      have hwithin := (dropTrivia_suffix tokens).length_le
      rw [hdrop, List.length_cons] at hwithin
      exact hwithin
  | case3 tokens placed rest _ _ _ => cases hclosed
  | case4 tokens placed rest hdrop _ _ entry left hread entries close behind hinner ih =>
      simp only [hinner] at ih
      have hshorter := rules.entry.advances _ _ _ hread
      have hwithin := (dropTrivia_suffix tokens).length_le
      have hbehind := ih hclosed
      rw [hdrop] at hwithin
      change behind.length < tokens.length
      omega
  | case5 tokens placed rest hdrop _ _ mismatch hread left entries close behind hinner ih =>
      simp only [hinner] at ih
      have hshorter := resumeAfter_length_lt (placed :: rest) mismatch.rest (by simp)
        ((rules.entry.keeps _).2 _ hread)
      have hdropped :=
        (dropLine_suffix rules.closer (resumeAfter (placed :: rest) mismatch.rest)).length_le
      have hwithin := (dropTrivia_suffix tokens).length_le
      have hbehind : behind.length < (dropLine rules.closer
        (resumeAfter (placed :: rest) mismatch.rest)).length := ih hclosed
      rw [hdrop] at hwithin
      change behind.length < tokens.length
      omega

section Bodies

variable {whole : α → Prop} {f : α → α} {rules rules' : BodyRules α}

theorem dropTrivia_shift (distance : Nat) (tokens : List PlacedToken) :
    dropTrivia (tokens.map (PlacedToken.shift distance)) =
      (dropTrivia tokens).map (PlacedToken.shift distance) := by
  rw [dropTrivia, List.dropWhile_map]
  rfl

/-- Where the input ends with the stretch, bodies and their recovery transfer as
they are. -/
theorem bodyEntries_shift (hrules : BodyTransfer t whole f rules rules') (hrest : t.rest = [])
    {tokens : List PlacedToken} (hholds : t.Holds tokens) :
    bodyEntries t.target rules' (tokens.map (PlacedToken.shift t.distance)) =
      ((bodyEntries t.source rules tokens).1.map f,
        (bodyEntries t.source rules tokens).2.1.map (Span.shift t.distance),
        (bodyEntries t.source rules tokens).2.2.map (PlacedToken.shift t.distance)) := by
  -- One round in the target, at the first token that is not trivia.
  have hround : ∀ {tokens rest : List PlacedToken} {placed : PlacedToken}, t.Holds tokens →
      dropTrivia tokens = placed :: rest →
      t.Holds (placed :: rest) ∧
        dropTrivia (tokens.map (PlacedToken.shift t.distance)) =
          placed.shift t.distance :: rest.map (PlacedToken.shift t.distance) ∧
        rules'.stops (placed.shift t.distance :: rest.map (PlacedToken.shift t.distance)) =
          rules.stops (placed :: rest) := by
    intro tokens rest placed hholds hdrop
    have hinner : t.Holds (placed :: rest) := hholds.mono (hdrop ▸ dropTrivia_suffix tokens)
    refine ⟨hinner, ?_, hrules.stops hinner hrest⟩
    rw [dropTrivia_shift, hdrop, List.map_cons]
  fun_induction bodyEntries t.source rules tokens with
  | case1 tokens hdrop =>
      rw [bodyEntries_of_nil t.target rules' (by rw [dropTrivia_shift, hdrop]; rfl)]
      rfl
  | case2 tokens placed rest hdrop hcloser =>
      obtain ⟨_, hdrop', _⟩ := hround hholds hdrop
      rw [bodyEntries_eq_of_cons t.target rules' hdrop', hrules.closer, if_pos (by exact hcloser)]
      rfl
  | case3 tokens placed rest hdrop hcloser hstops =>
      obtain ⟨_, hdrop', hstops'⟩ := hround hholds hdrop
      rw [bodyEntries_eq_of_cons t.target rules' hdrop', hrules.closer, if_neg (by exact hcloser),
        if_pos (hstops'.trans hstops)]
      rfl
  | case4 tokens placed rest hdrop hcloser hstops entry left hread entries close behind hinner ih =>
      obtain ⟨hholds', hdrop', hstops'⟩ := hround hholds hdrop
      have hothers := ih (hholds'.mono ((rules.entry.keeps _).1 _ _ hread))
      rw [hinner] at hothers
      have hread' := hrules.entry.ok_shift hrest hholds' hread
      rw [List.map_cons] at hread'
      rw [bodyEntries_eq_of_cons t.target rules' hdrop', hrules.closer, if_neg (by exact hcloser),
        if_neg (hstops' ▸ hstops), hread']
      simp only [hothers, List.map_cons]
  | case5 tokens placed rest hdrop hcloser hstops mismatch hread left entries close behind hinner
      ih =>
      obtain ⟨hholds', hdrop', hstops'⟩ := hround hholds hdrop
      have hleft : left <:+ placed :: rest :=
        (dropLine_suffix _ _).trans (resumeAfter_suffix _ _ ((rules.entry.keeps _).2 _ hread))
      have hothers := ih (hholds'.mono hleft)
      rw [hinner] at hothers
      have hread' := hrules.entry.error_shift hrest hholds' hread
      have hskipped := Skipped.between_shift hholds' left mismatch.expected mismatch.rest
      have hresume := resumeAfter_map (PlacedToken.shift t.distance) (placed :: rest) mismatch.rest
      rw [List.map_cons] at hread' hskipped hresume
      rw [bodyEntries_eq_of_cons t.target rules' hdrop', hrules.closer, if_neg (by exact hcloser),
        if_neg (hstops' ▸ hstops), hread']
      simp only [hresume, dropLine_shift]
      rw [show dropLine rules.closer (resumeAfter (placed :: rest) mismatch.rest) = left from rfl]
      simp only [hothers, hskipped, hrules.skipped, List.map_cons]

/-- A whole body that is closed: its mark comes next, or an entry and the rest of
the body. -/
theorem bodyEntries_closed_cases {source : List Char}
    (hskipped : ∀ input, ¬ whole (rules.skipped input)) {tokens after : List PlacedToken}
    {entries : List α} {closer : Span}
    (hread : bodyEntries source rules tokens = (entries, some closer, after))
    (hwhole : ∀ entry ∈ entries, whole entry) :
    (∃ mark, dropTrivia tokens = mark :: after ∧ mark.token.isPunct rules.closer = true ∧
      mark.span = closer ∧ entries = []) ∨
    ∃ placed rest entry behind others, dropTrivia tokens = placed :: rest ∧
      placed.token.isPunct rules.closer = false ∧ rules.stops (placed :: rest) = false ∧
      rules.entry.read (placed :: rest) = .ok (entry, behind) ∧ entries = entry :: others ∧
      bodyEntries source rules behind = (others, some closer, after) := by
  cases hdrop : dropTrivia tokens with
  | nil =>
      rw [bodyEntries_of_nil source rules hdrop] at hread
      cases hread
  | cons placed rest =>
      rw [bodyEntries_eq_of_cons source rules hdrop] at hread
      split at hread
      · rename_i hcloser
        cases hread
        exact .inl ⟨placed, rfl, hcloser, rfl, rfl⟩
      · rename_i hcloser
        split at hread
        · cases hread
        · rename_i hstops
          refine .inr ⟨placed, rest, ?_⟩
          split at hread
          · rename_i entry behind hentry
            simp only [Prod.mk.injEq] at hread
            obtain ⟨rfl, hclose, rfl⟩ := hread
            exact ⟨entry, behind, _, rfl, by simpa using hcloser, by simpa using hstops, hentry,
              rfl, Prod.ext rfl (Prod.ext hclose rfl)⟩
          · simp only [Prod.mk.injEq] at hread
            exact absurd (hwhole _ (hread.1 ▸ List.mem_cons_self)) (hskipped _)

/-- Entries read within the stretch are read in the target, up to the place where
the body is closed in the source.  The mark may be the first token behind the
stretch. -/
theorem bodyEntries_upToCloser (hrules : BodyTransfer t whole f rules rules')
    {before after : List PlacedToken} {entries : List α} {closer : Span} (hholds : t.Holds before)
    (hread : bodyEntries t.source rules (before ++ t.rest) = (entries, some closer, after))
    (hwhole : ∀ entry ∈ entries, whole entry) (hafter : t.rest.length ≤ after.length + 1) :
    ∃ kept mark, dropTrivia (kept ++ t.rest) = mark :: after ∧
      mark.token.isPunct rules.closer = true ∧ mark.span = closer ∧
      bodyEntries t.target rules' (t.move before) =
        (entries.map f ++ (bodyEntries t.target rules' (t.move kept)).1,
          (bodyEntries t.target rules' (t.move kept)).2) := by
  induction hlength : before.length using Nat.strong_induction_on
    generalizing before entries with
  | _ length ih =>
  rcases bodyEntries_closed_cases hrules.notWhole hread hwhole with
    ⟨mark, hdrop, hmark, hspan, rfl⟩ |
    ⟨placed, rest, entry, behind, others, hdrop, hcloser, hstops, hentry, rfl, hothers⟩
  · exact ⟨before, mark, hdrop, hmark, hspan, rfl⟩
  · -- The entry leaves more than the end of the body, so it lies within the stretch.
    have hclosed := bodyEntries_length_lt t.source rules behind (by rw [hothers]; rfl)
    rw [hothers] at hclosed
    change after.length < behind.length at hclosed
    have hbehind := ((rules.entry.keeps _).1 _ _ hentry).trans (hdrop ▸ dropTrivia_suffix _)
    have hrest : t.rest <:+ behind :=
      List.suffix_of_suffix_length_le (List.suffix_append before t.rest) hbehind (by omega)
    obtain ⟨more, left, rfl, rfl, hmore, hleft, hshorter, hdrop'⟩ :=
      step_within rules.entry.keeps rules.entry.advances hdrop hentry hrest
    have hinner := hholds.mono hmore
    have hread' := hrules.entry.ok hinner hentry Bool.noConfusion
      (.inr (hwhole entry List.mem_cons_self))
    have hstops' := hrules.goesOn hinner hstops hentry
    obtain ⟨kept, mark, hkept, hmark, hspan, hbody⟩ :=
      ih left.length (by omega) (hholds.mono hleft) hothers
        (fun other hother => hwhole other (List.mem_cons_of_mem entry hother)) rfl
    refine ⟨kept, mark, hkept, hmark, hspan, ?_⟩
    rw [Transfer.move_cons] at hread' hstops'
    rw [bodyEntries_eq_of_cons t.target rules' hdrop', hrules.closer, if_neg (by simp [hcloser]),
      if_neg (by simp [hstops']), hread']
    simp only [hbody, List.map_cons, List.cons_append]

/-- A whole body that is closed within the stretch. -/
theorem bodyEntries_whole (hrules : BodyTransfer t whole f rules rules')
    {before left : List PlacedToken} {entries : List α} {closer : Span} (hholds : t.Holds before)
    (hread : bodyEntries t.source rules (before ++ t.rest) =
      (entries, some closer, left ++ t.rest))
    (hwhole : ∀ entry ∈ entries, whole entry) :
    bodyEntries t.target rules' (t.move before) =
      (entries.map f, some (closer.shift t.distance), t.move left) := by
  obtain ⟨kept, mark, hdrop, hmark, rfl, hbody⟩ :=
    bodyEntries_upToCloser hrules hholds hread hwhole (by rw [List.length_append]; omega)
  have hdrop' : dropTrivia (t.move kept) = t.move (mark :: left) :=
    dropTrivia_move hdrop (.inr (List.cons_ne_nil mark left))
  rw [hbody, bodyEntries_eq_of_cons t.target rules' (hdrop'.trans (Transfer.move_cons ..)),
    hrules.closer, if_pos (by exact hmark)]
  simp

theorem transfers_body {shiftEntry : Nat → α → α}
    (hrules : BodyTransfer t whole (shiftEntry t.distance) rules rules') (opener : Span) :
    (body t.source rules opener).TransfersIf t false (Block.Whole whole)
      (Block.shift shiftEntry t.distance) (body t.target rules' (opener.shift t.distance)) where
  keeps := body_keeps _ _ _
  ok before left block hholds hread _ hwhole := by
    cases hentries : bodyEntries t.source rules (before ++ t.rest) with
    | mk entries behind =>
    obtain ⟨closer, after⟩ := behind
    rw [body, hentries] at hread
    cases hread
    rcases hwhole with hrest | ⟨hwhole, hclosed⟩
    · rw [hrest, List.append_nil, List.append_nil] at hentries
      have hbody := bodyEntries_shift hrules hrest hholds
      rw [hentries] at hbody
      rw [body, Transfer.move_of_rest_eq_nil hrest, Transfer.move_of_rest_eq_nil hrest, hbody]
      rfl
    · obtain ⟨mark, rfl⟩ := Option.isSome_iff_exists.mp hclosed
      rw [body, bodyEntries_whole hrules hholds hentries hwhole]
      rfl
  error _ _ _ _ hread _ := by cases hread

end Bodies

theorem head?_any_shift (test : Token → Bool) (distance : Nat) (tokens : List PlacedToken) :
    ((tokens.map (PlacedToken.shift distance)).head?.any fun placed => test placed.token) =
      tokens.head?.any fun placed => test placed.token := by
  cases tokens <;> rfl

theorem structRules_transfer :
    BodyTransfer t Member.Whole (Member.shift t.distance) (structRules t.source)
      (structRules t.target) where
  closer := rfl
  skipped _ := rfl
  notWhole _ := id
  entry := transfers_member.of_weak
  stops _ _ := head?_any_shift opensDeclaration _ _
  goesOn _ hstops _ := hstops

theorem transfers_structDef :
    (structDef t.source).TransfersIf t false StructDef.Whole (StructDef.shift t.distance)
      (structDef t.target) := by
  refine (transfers_identifier _).bind fun name => transfers_skipInline.bind fun _ =>
    transfers_structWord.bind fun _ => (transfers_punct _ _).bind fun opener => ?_
  exact (transfers_body structRules_transfer opener).make (fun _ => rfl) fun _ => id

end ApiLang
