/-
One line of a struct.  In front of a line break a line has the tokens it has alone, and it
is read as an entry that ends there, also where it fits no rule: nothing of it leaks into
the next line, and nothing of the next line is lost.
-/
import ApiLang.Proofs.Tree.Concatenation
import ApiLang.Proofs.Tree.Likeness

namespace ApiLang

variable {α β : Type}

/-- A line that a struct may hold: it has no brace that closes the struct and no comment
that goes on, and no declaration starts in it. -/
structure PlainLine (line : List Char) : Prop where
  unbroken : '\n' ∉ line
  noBrace : ∀ placed ∈ tokenize line, placed.token.isPunct .rightBrace = false
  noOpenComment : ∀ placed ∈ tokenize line, placed.token.isOpenComment = false
  noDeclaration : ∀ placed ∈ (dropTrivia (tokenize line)).head?,
    opensDeclaration placed.token = false

instance (line : List Char) : Decidable (PlainLine line) :=
  decidable_of_iff
    ('\n' ∉ line ∧ (∀ placed ∈ tokenize line, placed.token.isPunct .rightBrace = false) ∧
      (∀ placed ∈ tokenize line, placed.token.isOpenComment = false) ∧
      ∀ placed ∈ (dropTrivia (tokenize line)).head?, opensDeclaration placed.token = false)
    ⟨fun ⟨hunbroken, hbrace, hcomment, hopens⟩ => ⟨hunbroken, hbrace, hcomment, hopens⟩,
      fun hline => ⟨hline.1, hline.2, hline.3, hline.4⟩⟩

/-- Whether a line holds more than trivia. -/
def hasContent (line : List Char) : Bool :=
  (tokenize line).any fun placed => !placed.token.isTrivia

/-- The line break behind a line. -/
def breakBehind (line : List Char) : PlacedToken :=
  ⟨.newline, ⟨byteWidth line, byteWidth line + 1⟩⟩

/-- A property of all tokens, asked of the lexemes. -/
theorem forall_mem_placeLexemes (test : Token → Prop) (start : Nat) (run : List Lexeme) :
    (∀ placed ∈ placeLexemes start run, test placed.token) ↔
      ∀ lexeme ∈ run, test lexeme.token := by
  induction run generalizing start with
  | nil => simp
  | cons lexeme others ih => rw [placeLexemes_cons, List.forall_mem_cons, List.forall_mem_cons, ih]

theorem endsLine_ofWord (word : String) : endsLine (.ofWord word) = false := by
  unfold Token.ofWord
  split <;> rfl

/-- In front of a line break a line has the tokens it has alone, and so has what follows. -/
theorem tokenize_append_break {line : List Char}
    (hline : ∀ placed ∈ tokenize line, placed.token.isOpenComment = false) (behind : List Char) :
    tokenize (line ++ '\n' :: behind) =
      tokenize line ++ breakBehind line ::
        (tokenize behind).map (PlacedToken.shift (byteWidth line + 1)) := by
  have hclosed := (forall_mem_placeLexemes (fun token => token.isOpenComment = false) 0
    (lexemes line)).mp hline
  have hlexemes := lexemes_append_break (by rw [textOf_lexemes]) hclosed behind
  have hwidth : widthOf (lexemes line) = byteWidth line := by rw [widthOf, textOf_lexemes]
  rw [textOf_lexemes] at hlexemes
  rw [tokenize, hlexemes, placeLexemes_append, placeLexemes_cons, hwidth, Nat.zero_add]
  congr 1
  refine congrArg₂ List.cons rfl ?_
  have hshift := placeLexemes_shift (byteWidth line + 1) 0 (lexemes behind)
  rw [Nat.zero_add] at hshift
  exact hshift

namespace PlainLine

variable {line : List Char}

theorem tokenize_break (hline : PlainLine line) :
    tokenize (line ++ ['\n']) = tokenize line ++ [breakBehind line] := by
  have hnil : tokenize [] = [] := by simp [tokenize, lexemes]
  rw [tokenize_append_break hline.noOpenComment, hnil, List.map_nil]

/-- No token of the line ends it. -/
theorem endsLine_eq_false (hline : PlainLine line) {placed : PlacedToken}
    (hplaced : placed ∈ tokenize line) : endsLine placed.token = false := by
  refine (forall_mem_placeLexemes (fun token => endsLine token = false) 0
    (lexemes line)).mpr (fun lexeme hlexeme => ?_) placed hplaced
  have hbrace := (forall_mem_placeLexemes (fun token => token.isPunct .rightBrace = false) 0
    (lexemes line)).mp hline.noBrace lexeme hlexeme
  have hbreak : '\n' ∉ lexeme.text := by
    intro hmem
    refine hline.unbroken ?_
    rw [← textOf_lexemes line]
    exact List.mem_flatMap.mpr ⟨lexeme, hlexeme, hmem⟩
  obtain ⟨rest, hstands⟩ := standsBefore_of_mem_lexemes hlexeme
  cases hstands with
  | newline => exact absurd List.mem_cons_self hbreak
  | @blockComment body =>
      have hbody : '\n' ∉ body := fun hmem => hbreak (by simp [hmem])
      simpa [endsLine, Token.breaksLine] using hbody
  | @punct mark =>
      simpa [endsLine, Token.isPunct] using hbrace
  | word => exact endsLine_ofWord _
  | whitespace | lineComment | openComment | string | openString | rawString | openRawString
  | number | stray => rfl

end PlainLine

section OneLine

open Reader

/-- The tokens behind a line in the midst of a text. -/
def tokensBehind (before line behind : List Char) : List PlacedToken :=
  (tokenize behind).map (PlacedToken.shift (byteWidth line + 1 + byteWidth before))

/-- The tokens from inside a line on: a run of the line, its break, and what is behind. -/
def tokensFrom (before line behind : List Char) (run : List PlacedToken) : List PlacedToken :=
  run.map (PlacedToken.shift (byteWidth before)) ++
    (breakBehind line).shift (byteWidth before) :: tokensBehind before line behind

theorem dropTrivia_append_of_cons {run others : List PlacedToken} {placed : PlacedToken}
    (hdrop : dropTrivia run = placed :: others) (more : List PlacedToken) :
    dropTrivia (run ++ more) = placed :: (others ++ more) := by
  simp only [dropTrivia] at hdrop ⊢
  rw [List.dropWhile_append, hdrop]
  rfl

theorem tokensFrom_cons (before line behind : List Char) (placed : PlacedToken)
    (run : List PlacedToken) :
    tokensFrom before line behind (placed :: run) =
      placed.shift (byteWidth before) :: tokensFrom before line behind run := rfl

/-- A line of trivia is left behind together with its break. -/
theorem dropTrivia_tokensFrom_of_nil {run : List PlacedToken} (hdrop : dropTrivia run = [])
    (before line behind : List Char) :
    dropTrivia (tokensFrom before line behind run) =
      dropTrivia (tokensBehind before line behind) := by
  have hblank : dropTrivia (run.map (PlacedToken.shift (byteWidth before))) = [] := by
    rw [dropTrivia_shift, hdrop]
    rfl
  exact dropTrivia_append_of_eq_nil hblank _

theorem dropTrivia_tokensFrom_of_cons {run others : List PlacedToken} {placed : PlacedToken}
    (hdrop : dropTrivia run = placed :: others) (before line behind : List Char) :
    dropTrivia (tokensFrom before line behind run) =
      placed.shift (byteWidth before) :: tokensFrom before line behind others := by
  refine dropTrivia_append_of_cons ?_ _
  rw [dropTrivia_shift, hdrop]
  rfl

/-- A line with its break, and the same in the midst of a text. -/
def lineIn (before line behind : List Char) : Likeness where
  source := line ++ ['\n']
  target := before ++ (line ++ '\n' :: behind)
  distance := byteWidth before
  bound := byteWidth (line ++ ['\n'])
  change := PlacedToken.shift (byteWidth before)
  rest := [breakBehind line]
  targetRest := (breakBehind line).shift (byteWidth before) :: tokensBehind before line behind
  span_change _ := rfl
  token_change _ := .inl rfl
  slices span hstop := by
    rw [sliceText_append_shift, List.append_cons]
    have hslice := sliceText_append_of_le hstop behind []
    rwa [List.append_nil] at hslice
  ends := .line rfl

variable {before line behind : List Char}

theorem alike_line {run : List PlacedToken} (hrun : run <:+ tokenize line) :
    (lineIn before line behind).Alike (run ++ [breakBehind line])
      (tokensFrom before line behind run) := by
  induction run with
  | nil => exact .done
  | cons placed others ih =>
      have hplaced : placed.span.stop ≤ byteWidth (line ++ ['\n']) := by
        have hbounds := stop_le_of_mem_tokenize (hrun.subset List.mem_cons_self)
        rw [byteWidth_append]
        omega
      exact Likeness.Alike.cons (l := lineIn before line behind) hplaced (.inl rfl)
        (ih ((List.suffix_cons placed others).trans hrun))

/-- The line was read, or skipped because of a token and not because the input ends. -/
def Member.Anchored : Member → Prop
  | .field _ | .embedded _ => True
  | .skipped input => input.found.isSome = true

/-- The complaints about such a line are about its tokens, and move with them. -/
theorem Member.Anchored.diagnostics_shift {line : Member} (hline : line.Anchored)
    (distance sourceEnd sourceEnd' : Nat) :
    (line.shift distance).diagnostics sourceEnd' =
      (line.diagnostics sourceEnd).map (Diagnostic.shift distance) := by
  cases line with
  | field | embedded => rfl
  | skipped input =>
      obtain ⟨text, span, expected, found⟩ := input
      cases found with
      | none => cases hline
      | some placed =>
          exact Skipped.diagnostics_shift distance sourceEnd ⟨text, span, expected, some placed⟩

theorem Member.Anchored.shift {line : Member} (hline : line.Anchored) (distance : Nat) :
    (line.shift distance).Anchored := by
  cases line with
  | field | embedded => trivial
  | skipped input => simpa [Member.shift, Skipped.shift, Member.Anchored] using hline

/-- A step that stops at the end of a line when it succeeds, with a good answer. -/
def Reader.EndsLine (good : α → Prop) (reader : Reader α) : Prop :=
  ∀ tokens a left, reader tokens = .ok (a, left) → good a ∧ atLineEnd left.head? = true

theorem Reader.EndsLine.bind {good : β → Prop} {first : Reader α} {next : α → Reader β}
    (hnext : ∀ a, (next a).EndsLine good) : (first >>= next).EndsLine good := by
  intro tokens b left hread
  obtain ⟨a, middle, _, hread⟩ := bind_eq_ok hread
  exact hnext a middle b left hread

theorem Reader.EndsLine.make {good : α → Prop} {madeGood : β → Prop} {reader : Reader α}
    (hreader : reader.EndsLine good) {make : α → β} (hmake : ∀ a, madeGood (make a)) :
    (do let a ← reader
        pure (make a)).EndsLine madeGood := by
  intro tokens b left hread
  obtain ⟨a, middle, hfirst, hread⟩ := bind_eq_ok hread
  cases hread
  exact ⟨hmake a, (hreader tokens a _ hfirst).2⟩

/-- A look at the next token, which may be the end of the line. -/
theorem Reader.endsLine_peek_bind {good : α → Prop} {a : α} (ha : good a) {next : Reader α}
    (hnext : next.EndsLine good) :
    (do let found ← Reader.peek
        if atLineEnd found then pure a else next).EndsLine good := by
  intro tokens b left hread
  change (if atLineEnd tokens.head? then pure a else next : Reader α) tokens = _ at hread
  split at hread
  · rename_i hend
    cases hread
    exact ⟨ha, hend⟩
  · exact hnext tokens b left hread

theorem Reader.endsLine_fail (good : α → Prop) (expected : Expected) :
    (fail expected : Reader α).EndsLine good := by
  rintro tokens a left ⟨⟩

theorem Reader.endsLine_endOfLine : endOfLine.EndsLine fun _ => True :=
  .bind fun _ => endsLine_peek_bind trivial (endsLine_fail _ _)

theorem fieldOf_endsLine (source : List Char) (name : Spanned String) :
    (fieldOf source name).EndsLine Member.Anchored :=
  .bind fun _ => .bind fun _ => .bind fun _ => endsLine_endOfLine.make fun _ => trivial

/-- A line of a struct is read to its end. -/
theorem member_endsLine (source : List Char) : (member source).EndsLine Member.Anchored := by
  refine .bind fun star => .bind fun name => ?_
  cases star with
  | some star => exact endsLine_endOfLine.make fun _ => trivial
  | none =>
      refine .bind fun _ => endsLine_peek_bind trivial ?_
      split
      · exact endsLine_fail _ _
      · exact fieldOf_endsLine source name

/-- One round of reading a body: the entry at the front of the tokens, or the line that
fits no rule, and what is left. -/
def readEntry (source : List Char) (rules : BodyRules α) (start : List PlacedToken) :
    α × List PlacedToken :=
  match rules.entry.read start with
  | .ok found => found
  | .error mismatch =>
    let left := dropLine rules.closer (resumeAfter start mismatch.rest)
    (rules.skipped (.between source start left mismatch), left)

theorem bodyEntries_eq_readEntry (source : List Char) (rules : BodyRules α)
    {tokens rest : List PlacedToken} {placed : PlacedToken}
    (hdrop : dropTrivia tokens = placed :: rest)
    (hcloser : placed.token.isPunct rules.closer = false)
    (hstops : rules.stops (placed :: rest) = false) :
    bodyEntries source rules tokens =
      ((readEntry source rules (placed :: rest)).1 ::
          (bodyEntries source rules (readEntry source rules (placed :: rest)).2).1,
        (bodyEntries source rules (readEntry source rules (placed :: rest)).2).2) := by
  rw [bodyEntries_eq_of_cons source rules hdrop, if_neg (by simp [hcloser]),
    if_neg (by simp [hstops]), readEntry]
  cases rules.entry.read (placed :: rest) <;> rfl

theorem readEntry_of_ok {source : List Char} {rules : BodyRules α} {start left : List PlacedToken}
    {entry : α} (hread : rules.entry.read start = .ok (entry, left)) :
    readEntry source rules start = (entry, left) := by
  rw [readEntry, hread]

theorem readEntry_of_error {source : List Char} {rules : BodyRules α}
    {start left : List PlacedToken} {mismatch : Mismatch}
    (hread : rules.entry.read start = .error mismatch)
    (hleft : dropLine rules.closer (resumeAfter start mismatch.rest) = left) :
    readEntry source rules start =
      (rules.skipped (.between source start left mismatch), left) := by
  rw [readEntry, hread, ← hleft]

/-- Recovery drops the rest of a line and its break. -/
theorem dropLine_of_line {run : List PlacedToken}
    (hrun : ∀ placed ∈ run, endsLine placed.token = false) {last : PlacedToken}
    (hlast : last.token = .newline) (others : List PlacedToken) :
    dropLine .rightBrace (run ++ last :: others) = others := by
  induction run with
  | nil => simp [dropLine, hlast, Token.isPunct]
  | cons placed run ih =>
      have hplaced := hrun placed List.mem_cons_self
      have hbrace : placed.token.isPunct .rightBrace = false := by
        by_contra hbrace
        simp [Token.isPunct] at hbrace
        simp [hbrace, endsLine] at hplaced
      have hbreak : placed.token ≠ .newline := by
        intro hbreak
        simp [hbreak, endsLine] at hplaced
      rw [List.cons_append, dropLine, if_neg (by simp [hbrace]), if_neg hbreak]
      exact ih fun other hother => hrun other (List.mem_cons_of_mem placed hother)

/-- What follows the line does not change where recovery starts. -/
theorem resumeAfter_append {start stuck : List PlacedToken} (hne : start ≠ [])
    (tail : List PlacedToken) :
    resumeAfter (start ++ tail) (stuck ++ tail) = resumeAfter start stuck ++ tail := by
  simp only [resumeAfter, List.length_append, Nat.add_right_cancel_iff]
  split
  · rename_i hlength
    cases stuck with
    | nil =>
        rw [List.length_nil, eq_comm, List.length_eq_zero_iff] at hlength
        exact absurd hlength hne
    | cons placed others => rfl
  · rfl

/-- The skipped line moves with its tokens, whatever follows it. -/
theorem Skipped.between_line (hline : PlainLine line) {placed : PlacedToken}
    {others : List PlacedToken} (hstart : placed :: others <:+ tokenize line)
    (run : List PlacedToken) (expected : Expected) (before behind : List Char) :
    Skipped.between (before ++ (line ++ '\n' :: behind))
        (tokensFrom before line behind (placed :: others))
        (tokensBehind before line behind)
        ⟨expected, tokensFrom before line behind run⟩ =
      (Skipped.between (line ++ ['\n']) (placed :: others ++ [breakBehind line]) []
        ⟨expected, run ++ [breakBehind line]⟩).shift (byteWidth before) := by
  have hwhole : placed :: others ++ [breakBehind line] <:+ tokenize (line ++ ['\n']) := by
    rw [hline.tokenize_break]
    exact List.suffix_append_self_iff.mpr hstart
  have hholds := (Transfer.behind_holds before (line ++ ['\n'])).mono hwhole
  have hstop := hholds.coveredSpan_stop (hholds.1 placed List.mem_cons_self).1
  have hslice : sliceText (before ++ (line ++ '\n' :: behind))
      ((coveredSpan placed.span.start (placed :: others ++ [breakBehind line])).shift
        (byteWidth before)) = _ := (lineIn before line behind).slices _ hstop
  have htake : (tokensFrom before line behind (placed :: others)).take
      ((tokensFrom before line behind (placed :: others)).length -
          (tokensBehind before line behind).length) =
      (placed :: others ++ [breakBehind line]).map (PlacedToken.shift (byteWidth before)) := by
    rw [tokensFrom, List.append_cons, List.length_append, Nat.add_sub_cancel,
      List.take_left' rfl, List.map_append]
    rfl
  have hoffset : startOffset (before ++ (line ++ '\n' :: behind))
      (tokensFrom before line behind (placed :: others)) =
      placed.span.start + byteWidth before := rfl
  have hfound : (tokensFrom before line behind run).head? =
      (run ++ [breakBehind line]).head?.map (PlacedToken.shift (byteWidth before)) := by
    cases run <;> rfl
  simp only [Skipped.between, htake, hoffset, coveredSpan_shift, hslice, hfound, List.length_nil,
    Nat.sub_zero, List.take_length]
  rfl

variable {start : List PlacedToken}

/-- Whether a line is read or not depends on nothing behind it. -/
theorem member_outcome (before behind : List Char) (hstart : start <:+ tokenize line) :
    (lineIn before line behind).Outcome (Member.shift (byteWidth before))
      (member (line ++ ['\n']) (start ++ [breakBehind line]))
      (member (before ++ (line ++ '\n' :: behind))
        (tokensFrom before line behind start)) :=
  follows_member (l := lineIn before line behind) (fun _ => rfl) (fun _ => rfl)
    (alike_line hstart)

/-- A line that is read is read up to its break. -/
theorem member_ok_line (hline : PlainLine line) (hstart : start <:+ tokenize line)
    {entry : Member} {left : List PlacedToken}
    (hread : member (line ++ ['\n']) (start ++ [breakBehind line]) = .ok (entry, left))
    (before behind : List Char) :
    left = [breakBehind line] ∧
      member (before ++ (line ++ '\n' :: behind))
          (tokensFrom before line behind start) =
        .ok (entry.shift (byteWidth before),
          (breakBehind line).shift (byteWidth before) :: tokensBehind before line behind) := by
  have houtcome := member_outcome before behind hstart
  rw [hread] at houtcome
  obtain ⟨left', hread', halike⟩ := houtcome.of_ok
  obtain ⟨run, rfl, rfl⟩ := halike.split
  have hrun : run <:+ tokenize line :=
    (List.suffix_append_self_iff.mp (((structRules _).entry.keeps _).1 _ _ hread)).trans hstart
  have hend := (member_endsLine _ _ _ _ hread).2
  cases run with
  | nil => exact ⟨rfl, hread'⟩
  | cons placed others =>
      -- A token of the line itself does not end it, so reading cannot have stopped here.
      have hplaced := hline.endsLine_eq_false (hrun.subset List.mem_cons_self)
      simp [atLineEnd, hplaced] at hend

/-- A line that fits no rule fails at the same token. -/
theorem member_error_line (hstart : start <:+ tokenize line) {mismatch : Mismatch}
    (hread : member (line ++ ['\n']) (start ++ [breakBehind line]) = .error mismatch)
    (before behind : List Char) :
    ∃ run, run <:+ start ∧ mismatch.rest = run ++ [breakBehind line] ∧
      member (before ++ (line ++ '\n' :: behind))
          (tokensFrom before line behind start) =
        .error ⟨mismatch.expected, tokensFrom before line behind run⟩ := by
  have houtcome := member_outcome before behind hstart
  rw [hread] at houtcome
  obtain ⟨stuck', hread', halike⟩ := houtcome.of_error
  obtain ⟨run, hrest, rfl⟩ := halike.split
  have hwithin := ((structRules _).entry.keeps _).2 _ hread
  rw [hrest] at hwithin
  exact ⟨run, List.suffix_append_self_iff.mp hwithin, hrest, hread'⟩

/-- Recovery from a line that fits no rule goes on behind its break. -/
theorem dropLine_resumeAfter (hline : PlainLine line) (hstart : start <:+ tokenize line)
    (hne : start ≠ []) {run : List PlacedToken} (hrun : run <:+ start) (distance : Nat)
    (more : List PlacedToken) :
    dropLine .rightBrace (resumeAfter
        (start.map (PlacedToken.shift distance) ++ (breakBehind line).shift distance :: more)
        (run.map (PlacedToken.shift distance) ++ (breakBehind line).shift distance :: more)) =
      more := by
  rw [resumeAfter_append (by simpa using hne), resumeAfter_map]
  refine dropLine_of_line ?_ rfl more
  intro placed hplaced
  obtain ⟨token, htoken, rfl⟩ := List.mem_map.mp hplaced
  have hinside : token ∈ tokenize line :=
    ((resumeAfter_suffix _ _ hrun).trans hstart).subset htoken
  rw [PlacedToken.token_shift]
  exact hline.endsLine_eq_false hinside

/-- One line of a struct, read by itself and in the midst of a text. -/
theorem readEntry_line (hline : PlainLine line) {placed : PlacedToken} {others : List PlacedToken}
    (hstart : placed :: others <:+ tokenize line) (before behind : List Char) :
    let near := readEntry (line ++ ['\n']) (structRules (line ++ ['\n']))
      (placed :: others ++ [breakBehind line])
    let far := readEntry (before ++ (line ++ '\n' :: behind))
      (structRules (before ++ (line ++ '\n' :: behind)))
      (tokensFrom before line behind (placed :: others))
    far.1 = near.1.shift (byteWidth before) ∧ near.1.Anchored ∧ dropTrivia near.2 = [] ∧
      dropTrivia far.2 = dropTrivia (tokensBehind before line behind) := by
  intro near far
  cases hread : member (line ++ ['\n']) (placed :: others ++ [breakBehind line]) with
  | ok found =>
      obtain ⟨entry, left⟩ := found
      obtain ⟨rfl, hread'⟩ := member_ok_line hline hstart hread before behind
      have hnear : near = _ := readEntry_of_ok hread
      have hfar : far = _ := readEntry_of_ok hread'
      rw [hnear, hfar]
      exact ⟨rfl, (member_endsLine _ _ _ _ hread).1, rfl, rfl⟩
  | error mismatch =>
      obtain ⟨expected, stuck⟩ := mismatch
      obtain ⟨run, hrun, rfl, hread'⟩ := member_error_line hstart hread before behind
      -- The line by itself is the case of a text with nothing in front and nothing behind.
      have hleft := dropLine_resumeAfter hline hstart (List.cons_ne_nil _ _) hrun 0 []
      rw [map_eq_self PlacedToken.shift_zero, map_eq_self PlacedToken.shift_zero,
        PlacedToken.shift_zero] at hleft
      have hnear : near = _ := readEntry_of_error hread hleft
      have hfar : far = _ := readEntry_of_error hread'
        (dropLine_resumeAfter hline hstart (List.cons_ne_nil _ _) hrun _ _)
      rw [hnear, hfar]
      refine ⟨congrArg Member.skipped
        (Skipped.between_line hline hstart run expected before behind), ?_, rfl, rfl⟩
      -- What was found is a token of the line or its break, never the end of the input.
      cases run <;> rfl

/-- What a struct makes of a line by itself. -/
def lineMembers (line : List Char) : List Member :=
  (bodyEntries (line ++ ['\n']) (structRules (line ++ ['\n'])) (tokenize (line ++ ['\n']))).1

/-- The tokens of a text from a line on. -/
theorem PlainLine.map_tokenize_append (hline : PlainLine line) (before behind : List Char) :
    (tokenize (line ++ '\n' :: behind)).map (PlacedToken.shift (byteWidth before)) =
      tokensFrom before line behind (tokenize line) := by
  rw [tokenize_append_break hline.noOpenComment, List.map_append, List.map_cons, List.map_map,
    tokensFrom, tokensBehind]
  simp only [Function.comp_def, PlacedToken.shift_shift]

/-- A struct goes on at the first token of a line that is not trivia. -/
theorem PlainLine.goesOn (hline : PlainLine line) {placed : PlacedToken}
    {others : List PlacedToken} (hdrop : dropTrivia (tokenize line) = placed :: others)
    (source : List Char) (distance : Nat) (more : List PlacedToken) :
    (placed.shift distance).token.isPunct (structRules source).closer = false ∧
      (structRules source).stops (placed.shift distance :: more) = false := by
  have hmem : placed ∈ tokenize line :=
    (dropTrivia_suffix _).subset (by rw [hdrop]; exact List.mem_cons_self)
  exact ⟨hline.noBrace placed hmem, hline.noDeclaration placed (by rw [hdrop]; rfl)⟩

/-- A line by itself makes one member, or none if it holds trivia only. -/
theorem lineMembers_eq (hline : PlainLine line) :
    lineMembers line =
      match dropTrivia (tokenize line) with
      | [] => []
      | placed :: others =>
        [(readEntry (line ++ ['\n']) (structRules (line ++ ['\n']))
          (placed :: others ++ [breakBehind line])).1] := by
  rw [lineMembers, hline.tokenize_break]
  cases hdrop : dropTrivia (tokenize line) with
  | nil =>
      rw [bodyEntries_of_nil _ _ ((dropTrivia_append_of_eq_nil hdrop _).trans rfl)]
  | cons placed others =>
      obtain ⟨hcloser, hstops⟩ := hline.goesOn hdrop (line ++ ['\n']) 0
        (others ++ [breakBehind line])
      have hstart : placed :: others <:+ tokenize line := hdrop ▸ dropTrivia_suffix _
      obtain ⟨_, _, hleft, _⟩ := readEntry_line hline hstart [] []
      rw [List.cons_append] at hleft
      rw [bodyEntries_eq_readEntry _ _ (dropTrivia_append_of_cons hdrop _) hcloser hstops,
        bodyEntries_of_nil _ _ hleft]
      rfl

theorem anchored_of_mem_lineMembers (hline : PlainLine line) {found : Member}
    (hfound : found ∈ lineMembers line) : found.Anchored := by
  rw [lineMembers_eq hline] at hfound
  cases hdrop : dropTrivia (tokenize line) with
  | nil => simp [hdrop] at hfound
  | cons placed others =>
      have hstart : placed :: others <:+ tokenize line := hdrop ▸ dropTrivia_suffix _
      simp only [hdrop, List.mem_singleton] at hfound
      rw [hfound]
      exact (readEntry_line hline hstart [] []).2.1

theorem length_lineMembers (hline : PlainLine line) :
    (lineMembers line).length = (hasContent line).toNat := by
  rw [lineMembers_eq hline]
  cases hdrop : dropTrivia (tokenize line) with
  | nil =>
      have htrivia := List.dropWhile_eq_nil_iff.mp hdrop
      have hempty : hasContent line = false := by
        simpa [hasContent] using htrivia
      rw [hempty]
      rfl
  | cons placed others =>
      have hcontent : hasContent line = true := by
        refine List.any_eq_true.mpr ⟨placed, ?_, by simp [isTrivia_of_dropTrivia hdrop]⟩
        exact (dropTrivia_suffix _).subset (by rw [hdrop]; exact List.mem_cons_self)
      rw [hcontent]
      rfl

/-- In the midst of a text a line makes what it makes by itself, and the body goes on
behind it. -/
theorem bodyEntries_line (hline : PlainLine line) (before behind : List Char) :
    let target := before ++ (line ++ '\n' :: behind)
    let rest := bodyEntries target (structRules target) (tokensBehind before line behind)
    bodyEntries target (structRules target)
        ((tokenize (line ++ '\n' :: behind)).map (PlacedToken.shift (byteWidth before))) =
      ((lineMembers line).map (Member.shift (byteWidth before)) ++ rest.1, rest.2) := by
  intro target rest
  rw [hline.map_tokenize_append, lineMembers_eq hline]
  cases hdrop : dropTrivia (tokenize line) with
  | nil =>
      rw [bodyEntries_congr target _ (dropTrivia_tokensFrom_of_nil hdrop before line behind)]
      rfl
  | cons placed others =>
      have hstart : placed :: others <:+ tokenize line := hdrop ▸ dropTrivia_suffix _
      obtain ⟨hcloser, hstops⟩ := hline.goesOn hdrop target (byteWidth before) _
      obtain ⟨hentry, _, _, hleft⟩ := readEntry_line hline hstart before behind
      rw [tokensFrom_cons] at hentry hleft
      rw [bodyEntries_eq_readEntry _ _ (dropTrivia_tokensFrom_of_cons hdrop before line behind)
        hcloser hstops, bodyEntries_congr _ _ hleft, hentry]
      rfl

end OneLine

end ApiLang
