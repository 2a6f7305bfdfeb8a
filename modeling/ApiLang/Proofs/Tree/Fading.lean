/-
Comments that fade.  Chosen comments of a line become white space in their place.  The
steps of the grammar do not see it, up to whole annotations and routes.  A comment to the
end of the line ends a value and white space does not, but what stands behind such a
comment is the end of the line, which ends the value as well.
-/
import ApiLang.Proofs.Tree.Likeness

namespace ApiLang

variable {α β : Type}

/-- A comment that does not reach the next line. -/
def Token.isInlineComment : Token → Bool
  | .lineComment _ => true
  | .blockComment text => !breaksLine text
  | _ => false

/-- The token, or white space in its place if it is a chosen comment of a line. -/
def fade (chosen : PlacedToken → Bool) (placed : PlacedToken) : PlacedToken :=
  if chosen placed && placed.token.isInlineComment then ⟨.whitespace, placed.span⟩ else placed

theorem span_fade (chosen : PlacedToken → Bool) (placed : PlacedToken) :
    (fade chosen placed).span = placed.span := by
  unfold fade
  split <;> rfl

theorem fade_cases (chosen : PlacedToken → Bool) (placed : PlacedToken) :
    fade chosen placed = placed ∨
      placed.token.isInlineComment = true ∧ (fade chosen placed).token = .whitespace := by
  unfold fade
  split
  · rename_i hcomment
    exact .inr ⟨(Bool.and_eq_true_iff.mp hcomment).2, rfl⟩
  · exact .inl rfl

theorem isInlineTrivia_of_isInlineComment {token : Token}
    (hcomment : token.isInlineComment = true) : token.isInlineTrivia = true := by
  cases token with
  | lineComment | blockComment => exact hcomment
  | keyword | identifier | number | string | rawString | punct | whitespace | newline | invalid =>
      cases hcomment

theorem token_fade (chosen : PlacedToken → Bool) (placed : PlacedToken) :
    (fade chosen placed).token = placed.token ∨
      placed.token.isInlineTrivia = true ∧ (fade chosen placed).token = .whitespace := by
  rcases fade_cases chosen placed with hsame | ⟨hcomment, hblank⟩
  · exact .inl (by rw [hsame])
  · exact .inr ⟨isInlineTrivia_of_isInlineComment hcomment, hblank⟩

/-- A source and itself, with comments faded up to its end. -/
def fading (source : List Char) (chosen : PlacedToken → Bool) : Likeness where
  source := source
  target := source
  distance := 0
  bound := byteWidth source
  change := fade chosen
  rest := []
  targetRest := []
  span_change := span_fade chosen
  token_change := token_fade chosen
  slices _ _ := rfl
  ends := .input rfl

section Rows

variable {source : List Char} {chosen : PlacedToken → Bool} {tokens tokens' : List PlacedToken}

/-- Behind a comment to the end of the line stands a line break, if anything. -/
theorem newline_of_lineComment {comment : Lexeme} {others : List Lexeme} {text : String}
    (hread : lexemes (textOf (comment :: others)) = comment :: others)
    (hcomment : comment.token = .lineComment text) :
    ∀ next ∈ others.head?, next.token = .newline := by
  intro next hnext
  obtain ⟨more, rfl⟩ := List.head?_eq_some_iff.mp hnext
  have hstands := standsBefore_of_lexemes hread
  have hothers : lexemes (textOf (next :: more)) = next :: more :=
    lexemes_textOf_right [comment] hread
  cases hchars : textOf (next :: more) with
  | nil =>
      rw [hchars, lexemes] at hothers
      cases hothers
  | cons c cs =>
      have hbreak : c = '\n' := by
        have hends := hstands.not_absorbs c (by rw [hchars]; rfl)
        rw [hcomment] at hends
        simpa [Token.absorbs] using hends
      rw [hchars, hbreak, lexemes] at hothers
      rw [← (List.cons.inj hothers).1]
      rfl

/-- Comments fade in every row of lexemes that was read. -/
theorem placeLexemes_alike {start : Nat} {run : List Lexeme} (hread : lexemes (textOf run) = run)
    (hstop : start + byteWidth (textOf run) ≤ byteWidth source) :
    (fading source chosen).Alike (placeLexemes start run)
      ((placeLexemes start run).map (fade chosen)) := by
  induction run generalizing start with
  | nil => exact .done
  | cons lexeme others ih =>
      have hwidth : start + byteWidth lexeme.text + byteWidth (textOf others) ≤
          byteWidth source := by
        rw [textOf_cons, byteWidth_append] at hstop
        omega
      have hothers := ih (lexemes_textOf_right [lexeme] hread) hwidth
      refine Likeness.Alike.cons (l := fading source chosen)
        (le_trans (Nat.le_add_right _ _) hwidth) ?_ hothers
      rcases fade_cases chosen ⟨lexeme.token, _⟩ with hsame | ⟨hcomment, _⟩
      · exact .inl (congrArg PlacedToken.token hsame)
      · refine .inr ?_
        cases htoken : lexeme.token with
        | lineComment text =>
            refine .inr fun next hnext => ?_
            have hbreak := newline_of_lineComment hread htoken
            cases others with
            | nil => cases hnext
            | cons second more =>
                cases hnext
                exact hbreak second rfl
        | blockComment text =>
            refine .inl ?_
            simp only [htoken, Token.isInlineComment] at hcomment
            simp only [endsValue, endsLine, Bool.or_false]
            simpa using hcomment
        | keyword | identifier | number | string | rawString | punct | whitespace | newline
        | invalid => simp [htoken, Token.isInlineComment] at hcomment

theorem tokenize_alike (source : List Char) (chosen : PlacedToken → Bool) :
    (fading source chosen).Alike (tokenize source) ((tokenize source).map (fade chosen)) :=
  placeLexemes_alike (by rw [textOf_lexemes]) (by rw [textOf_lexemes, Nat.zero_add])

/-- Up to the end of the input, comments fade one by one. -/
theorem eq_map_of_alike (halike : (fading source chosen).Alike tokens tokens') :
    tokens' = tokens.map (fade chosen) := by
  induction halike with
  | done => rfl
  | cons hbound hchange hothers ih =>
      rw [ih]
      rfl

theorem alike_of_suffix (halike : (fading source chosen).Alike tokens tokens')
    {left : List PlacedToken} (hleft : left <:+ tokens) :
    (fading source chosen).Alike left (left.map (fade chosen)) := by
  induction halike with
  | done =>
      rw [List.suffix_nil.mp hleft]
      exact .done
  | @cons placed others others' hbound hchange hothers ih =>
      rcases List.suffix_cons_iff.mp hleft with rfl | hshorter
      · rw [List.map_cons, ← eq_map_of_alike hothers]
        exact Likeness.Alike.cons (l := fading source chosen) hbound hchange hothers
      · exact ih hshorter

theorem startOffset_alike (halike : (fading source chosen).Alike tokens tokens') :
    startOffset source tokens' = startOffset source tokens := by
  cases halike with
  | done => rfl
  | @cons placed => exact congrArg Span.start (span_fade chosen placed)

end Rows

namespace Reader

/-- The step comes to the same, whether comments have faded or not. -/
abbrev Overlooks (source : List Char) (chosen : PlacedToken → Bool) (reader : Reader α) : Prop :=
  reader.Follows (fading source chosen) id reader

variable {source : List Char} {chosen : PlacedToken → Bool}

theorem Follows.overlooks {f : α → α} {reader : Reader α}
    (hreader : reader.Follows (fading source chosen) f reader) (hf : ∀ a, f a = a) :
    reader.Overlooks source chosen := by
  rwa [show f = id from funext hf] at hreader

theorem selects_id {accept : PlacedToken → Option α}
    (hsolid : ∀ placed, placed.token.isTrivia = true → accept placed = none) :
    Selects (fading source chosen) id accept where
  moves _ := Option.map_id'.symm
  solid := hsolid

theorem overlooks_expect {expected : Expected} {accept : PlacedToken → Option α}
    (hsolid : ∀ placed, placed.token.isTrivia = true → accept placed = none) :
    (expect expected accept).Overlooks source chosen :=
  follows_expect (selects_id hsolid)

theorem overlooks_optional {accept : PlacedToken → Option α}
    (hsolid : ∀ placed, placed.token.isTrivia = true → accept placed = none) :
    (optional accept).Overlooks source chosen :=
  (follows_optional (selects_id hsolid)).overlooks fun _ => Option.map_id'

theorem overlooks_skipTrivia : skipTrivia.Overlooks source chosen :=
  fun _ _ halike =>
    .ok () (halike.dropWhile (fun _ => isTrivia_of_isInlineTrivia) (.inl rfl))

theorem overlooks_punct (mark : Punct) (expected : Expected) :
    (punct mark expected).Overlooks source chosen :=
  (follows_punct mark expected).overlooks fun _ => rfl

theorem overlooks_eatPunct (mark : Punct) : (eatPunct mark).Overlooks source chosen :=
  (follows_eatPunct mark).overlooks fun _ => Option.map_id'

theorem overlooks_keyword (word : Keyword) (expected : Expected) :
    (keyword word expected).Overlooks source chosen := by
  refine overlooks_expect ?_
  rintro ⟨token, span⟩ htrivia
  cases token <;> simp_all [Token.isTrivia, Token.isKeyword]

theorem overlooks_word (expected : Expected) : (word expected).Overlooks source chosen := by
  refine overlooks_expect ?_
  rintro ⟨token, span⟩ htrivia
  cases token <;> simp_all [Token.isTrivia, Token.word?]

theorem overlooks_identifier (expected : Expected) :
    (identifier expected).Overlooks source chosen :=
  (follows_identifier expected).overlooks fun _ => rfl

theorem overlooks_stringLiteral (expected : Expected) :
    (stringLiteral expected).Overlooks source chosen := by
  refine overlooks_expect ?_
  rintro ⟨token, span⟩ htrivia
  cases token <;> simp_all [Token.isTrivia]

theorem overlooks_typeExpr : (typeExpr source).Overlooks source chosen :=
  (follows_typeExpr (l := fading source chosen)).overlooks TypeExpr.shift_zero

end Reader

section Values

open Reader

variable {source : List Char} {chosen : PlacedToken → Bool} {tokens tokens' : List PlacedToken}

theorem fade_of_solid {placed : PlacedToken} (hsolid : placed.token.isTrivia = false) :
    fade chosen placed = placed := by
  rcases fade_cases chosen placed with hsame | ⟨hcomment, _⟩
  · exact hsame
  · rw [isTrivia_of_isInlineTrivia (isInlineTrivia_of_isInlineComment hcomment)] at hsolid
    cases hsolid

/-- What is not trivia has not faded. -/
theorem filter_fade_cons (placed : PlacedToken) {run run' : List PlacedToken}
    (hrun : (run'.filter fun placed => !placed.token.isTrivia) =
      run.filter fun placed => !placed.token.isTrivia) :
    ((fade chosen placed :: run').filter fun placed => !placed.token.isTrivia) =
      (placed :: run).filter fun placed => !placed.token.isTrivia := by
  have htrivia : (fade chosen placed).token.isTrivia = placed.token.isTrivia :=
    isTrivia_change (l := fading [] chosen)
  rw [List.filter_cons, List.filter_cons, htrivia, hrun]
  split
  · rename_i hsolid
    rw [fade_of_solid (by simpa using hsolid)]
  · rfl

theorem endsValue_fade {placed : PlacedToken} (hvalue : endsValue placed.token = false) :
    endsValue (fade chosen placed).token = false := by
  rcases fade_cases chosen placed with hsame | ⟨_, hblank⟩
  · rw [hsame, hvalue]
  · rw [hblank]
    rfl

theorem dropInline_alike (halike : (fading source chosen).Alike tokens tokens') :
    (fading source chosen).Alike (dropInline tokens) (dropInline tokens') :=
  halike.dropWhile (fun _ htrivia => htrivia) (.inr rfl)

/-- Nothing of a value stands in front of its end. -/
theorem value_of_end (tokens : List PlacedToken)
    (hends : ∀ next ∈ tokens.head?, endsValue next.token = true) :
    tokens.takeWhile (fun placed => !endsValue placed.token) = [] ∧
      tokens.dropWhile (fun placed => !endsValue placed.token) = tokens := by
  cases tokens with
  | nil => exact ⟨rfl, rfl⟩
  | cons next more =>
      have hnext := hends next rfl
      exact ⟨List.takeWhile_cons_of_neg (by simp [hnext]),
        List.dropWhile_cons_of_neg (by simp [hnext])⟩

/-- A comment to the end of the line has faded: the value goes on to the end of the
line. -/
theorem value_of_faded {placed : PlacedToken} {others others' : List PlacedToken}
    (hothers : (fading source chosen).Alike others others')
    (hblank : (fade chosen placed).token = .whitespace)
    (hnext : ∀ next ∈ others.head?, next.token = .newline) :
    ((fade chosen placed :: others').takeWhile fun placed => !endsValue placed.token) =
        [fade chosen placed] ∧
      ((fade chosen placed :: others').dropWhile fun placed => !endsValue placed.token) =
        others' := by
  have hbreak : ∀ next ∈ others'.head?, endsValue next.token = true := by
    rw [hothers.head?]
    intro next hmem
    obtain ⟨last, hlast, rfl⟩ := Option.map_eq_some_iff.mp hmem
    rw [change_newline (hnext last hlast)]
    rfl
  obtain ⟨htake, hdrop⟩ := value_of_end others' hbreak
  have hgoes : endsValue (fade chosen placed).token = false := by
    rw [hblank]
    rfl
  rw [List.takeWhile_cons_of_pos (by simp [hgoes]), List.dropWhile_cons_of_pos (by simp [hgoes]),
    htake, hdrop]
  exact ⟨rfl, rfl⟩

/-- The tokens up to the end of a value are the same but for trivia, and so is what
follows the trivia behind them. -/
theorem value_alike (halike : (fading source chosen).Alike tokens tokens') :
    ((tokens'.takeWhile fun placed => !endsValue placed.token).filter fun placed =>
        !placed.token.isTrivia) =
      ((tokens.takeWhile fun placed => !endsValue placed.token).filter fun placed =>
        !placed.token.isTrivia) ∧
    (fading source chosen).Alike
      (dropInline (tokens.dropWhile fun placed => !endsValue placed.token))
      (dropInline (tokens'.dropWhile fun placed => !endsValue placed.token)) := by
  induction halike with
  | done => exact ⟨rfl, .done⟩
  | @cons placed others others' hbound hchange hothers ih =>
      have halike : (fading source chosen).Alike (placed :: others)
        (fade chosen placed :: others') := .cons hbound hchange hothers
      change (((fade chosen placed :: others').takeWhile _).filter _) = _ ∧
        (fading source chosen).Alike _ (dropInline ((fade chosen placed :: others').dropWhile _))
      by_cases hends : endsValue placed.token = true
      · obtain ⟨htake, hdrop⟩ := value_of_end (placed :: others) (by simp [hends])
        rw [htake, hdrop]
        by_cases hsame : (fade chosen placed).token = placed.token
        · obtain ⟨htake', hdrop'⟩ := value_of_end (fade chosen placed :: others')
            (by simp [hsame, hends])
          rw [htake', hdrop']
          exact ⟨rfl, dropInline_alike halike⟩
        · obtain ⟨htrivia, hblank⟩ := (token_fade chosen placed).resolve_left hsame
          have hnext := (hchange.resolve_left hsame).resolve_left (by simp [hends])
          obtain ⟨htake', hdrop'⟩ := value_of_faded hothers hblank hnext
          have hskip : dropInline (placed :: others) = dropInline others :=
            List.dropWhile_cons_of_pos htrivia
          rw [htake', hdrop', hskip]
          exact ⟨by simp [hblank, Token.isTrivia], dropInline_alike hothers⟩
      · have hgoes : endsValue (fade chosen placed).token = false :=
          endsValue_fade (Bool.eq_false_iff.mpr hends)
        rw [List.takeWhile_cons_of_pos (by simp [hgoes]),
          List.takeWhile_cons_of_pos (by simp [hends]),
          List.dropWhile_cons_of_pos (by simp [hends]),
          List.dropWhile_cons_of_pos (by simp [hgoes])]
        exact ⟨filter_fade_cons placed ih.1, ih.2⟩

theorem coveredSpan_congr (offset : Nat) {run run' : List PlacedToken}
    (hsolid : (run'.filter fun placed => !placed.token.isTrivia) =
      run.filter fun placed => !placed.token.isTrivia) :
    coveredSpan offset run' = coveredSpan offset run := by
  simp only [coveredSpan, hsolid]

/-- One item of a value is the same, and so is what follows the trivia behind it. -/
theorem valueItem_alike (placed : PlacedToken) {others others' : List PlacedToken}
    (hothers : (fading source chosen).Alike others others') :
    (valueItem source (placed :: others) = none ∧ valueItem source (placed :: others') = none) ∨
    ∃ item left left', valueItem source (placed :: others) = some (item, left) ∧
      valueItem source (placed :: others') = some (item, left') ∧
      (fading source chosen).Alike (dropInline left) (dropInline left') := by
  obtain ⟨hsolid, hleft⟩ := value_alike hothers
  have hspan : coveredSpan placed.span.start
        (placed :: others'.takeWhile fun next => !endsValue next.token) =
      coveredSpan placed.span.start
        (placed :: others.takeWhile fun next => !endsValue next.token) :=
    coveredSpan_congr _ (by rw [List.filter_cons, List.filter_cons, hsolid])
  simp only [valueItem, hspan]
  split
  · exact .inr ⟨_, others, others', rfl, rfl, dropInline_alike hothers⟩
  · split
    · exact .inl ⟨rfl, rfl⟩
    · exact .inr ⟨_, _, _, rfl, rfl, hleft⟩

theorem isInlineTrivia_of_dropInline {placed : PlacedToken} {others : List PlacedToken}
    (hdrop : dropInline tokens = placed :: others) : placed.token.isInlineTrivia = false := by
  have hhead := List.head?_dropWhile_not
    (fun placed : PlacedToken => placed.token.isInlineTrivia) tokens
  rw [show tokens.dropWhile _ = placed :: others from hdrop] at hhead
  exact hhead

/-- Up to the end of the input, a row goes on in both. -/
theorem alike_of_cons {placed : PlacedToken} {others : List PlacedToken}
    (halike : (fading source chosen).Alike (placed :: others) tokens') :
    ∃ others', tokens' = fade chosen placed :: others' ∧
      (fading source chosen).Alike others others' := by
  obtain ⟨others', htokens, ⟨_, hrest⟩ | ⟨_, hothers⟩⟩ := halike.of_cons
  · exact absurd rfl hrest
  · exact ⟨others', htokens, hothers⟩

/-- The items of a value are the same. -/
theorem valueItems_alike (halike : (fading source chosen).Alike tokens tokens') :
    ∃ items left left', valueItems source tokens = (items, left) ∧
      valueItems source tokens' = (items, left') ∧ (fading source chosen).Alike left left' := by
  induction hlength : tokens.length using Nat.strong_induction_on generalizing tokens tokens' with
  | _ length ih =>
  have hinline := dropInline_alike halike
  have hwithin := (dropInline_suffix tokens).length_le
  rw [valueItems_eq, valueItems_eq]
  cases hdrop : dropInline tokens with
  | nil =>
      rw [hdrop] at hinline
      rw [hinline.of_nil]
      exact ⟨[], [], [], rfl, rfl, .done⟩
  | cons placed others =>
      rw [hdrop] at hinline hwithin
      obtain ⟨others', hdrop', hothers⟩ := alike_of_cons hinline
      -- An item starts with no comment, so its first token has not faded.
      have hplaced : fade chosen placed = placed := by
        refine (fade_cases chosen placed).resolve_right fun hfaded => ?_
        have htrivia := isInlineTrivia_of_isInlineComment hfaded.1
        rw [isInlineTrivia_of_dropInline hdrop] at htrivia
        cases htrivia
      rw [hplaced] at hdrop'
      rw [hdrop'] at hinline ⊢
      rcases valueItem_alike placed hothers with ⟨hnone, hnone'⟩ |
        ⟨item, left, left', hitem, hitem', hleft⟩
      · simp only [hnone, hnone']
        exact ⟨[], _, _, rfl, rfl, hinline⟩
      · have hbehind := (valueItem_suffix hitem).length_le
        have hnext := (dropInline_suffix left).length_le
        simp only [hitem, hitem']
        cases hcomma : dropInline left with
        | nil =>
            rw [hcomma] at hleft
            rw [hleft.of_nil]
            exact ⟨[item], [], [], rfl, rfl, .done⟩
        | cons comma more =>
            rw [hcomma] at hleft hnext
            obtain ⟨more', hcomma', hmore⟩ := alike_of_cons hleft
            have hmark : (fade chosen comma).token.isPunct .comma = comma.token.isPunct .comma :=
              Likeness.test_change (l := fading source chosen)
                (fun _ => Likeness.isPunct_of_isInlineTrivia Punct.comma) comma
            rw [hcomma'] at hleft ⊢
            simp only [hmark]
            split
            · have hshorter : more.length < length := by
                simp only [List.length_cons] at hwithin hnext
                omega
              obtain ⟨items, left, left', hread, hread', hleft⟩ := ih _ hshorter hmore rfl
              rw [hread, hread']
              exact ⟨item :: items, left, left', rfl, rfl, hleft⟩
            · exact ⟨[item], _, _, rfl, rfl, hleft⟩

theorem overlooks_valueList : (valueList source).Overlooks source chosen := by
  intro tokens tokens' halike
  obtain ⟨items, left, left', hread, hread', hleft⟩ := valueItems_alike halike
  simp only [valueList, hread, hread', startOffset_alike hleft]
  exact .ok _ hleft

theorem overlooks_keyValue : (keyValue source).Overlooks source chosen :=
  (overlooks_word _).bind fun _ => follows_skipInline.bind fun _ =>
    (overlooks_punct _ _).bind fun _ => overlooks_valueList.make fun _ => rfl

theorem isDeclarationKeyword_of_isInlineTrivia {token : Token}
    (htrivia : token.isInlineTrivia = true) : isDeclarationKeyword token = false := by
  cases token with
  | keyword => cases htrivia
  | identifier | number | string | rawString | punct | lineComment | blockComment | whitespace
  | newline | invalid => rfl

theorem overlooks_listedKeyValue : (listedKeyValue source).Overlooks source chosen := by
  refine follows_peek_bind fun tokens tokens' halike => ?_
  refine follows_ite ?_ (follows_fail _) overlooks_keyValue
  rw [halike.all_head? fun _ => isDeclarationKeyword_of_isInlineTrivia]

/-- Items up to a parenthesis, where one item is read the same. -/
theorem overlooks_untilRightParen {item : ItemReader α}
    (hitem : item.read.Overlooks source chosen) :
    Reader.Overlooks source chosen (untilRightParen item) := by
  intro tokens tokens' halike
  induction hlength : tokens.length using Nat.strong_induction_on generalizing tokens tokens' with
  | _ length ih =>
  rw [untilRightParen_eq]
  refine (overlooks_skipTrivia halike).bind fun _ start start' hstart halike => ?_
  have hwithin := ((skipTrivia_keeps tokens).1 _ _ hstart).length_le
  change Likeness.Outcome _ _ ((if atPunct .rightParen start.head? then _ else _ : Reader _) start)
    ((if atPunct .rightParen start'.head? then _ else _ : Reader _) start')
  rw [halike.atPunct]
  split
  · exact (overlooks_punct _ _ halike).bind fun _ _ _ _ hleft => .ok _ hleft
  · refine (hitem halike).bind fun first left left' hfirst hleft => ?_
    have hshorter := item.advances _ _ _ hfirst
    exact (ih left.length (by omega) hleft rfl).bind fun _ _ _ _ hleft => .ok _ hleft

theorem overlooks_keyValues : (keyValues source).Overlooks source chosen :=
  overlooks_untilRightParen overlooks_listedKeyValue

end Values

section Annotations

open Reader

variable {source : List Char} {chosen : PlacedToken → Bool}

/-- Steps that depend on the next token of the line. -/
theorem follows_peekPastInline_bind {g : β → β} {next : Option PlacedToken → Reader β}
    (hnext : ∀ ⦃tokens tokens' : List PlacedToken⦄, (fading source chosen).Alike tokens tokens' →
      (next tokens.head?).Follows (fading source chosen) g (next tokens'.head?)) :
    (peekPastInline >>= next).Follows (fading source chosen) g (peekPastInline >>= next) :=
  fun _ _ halike => hnext (dropInline_alike halike) halike

theorem overlooks_annotationBody : (annotationBody source).Overlooks source chosen := by
  refine follows_peekPastInline_bind fun tokens tokens' halike => follows_ite ?_ ?_ ?_
  · rw [halike.atPunct]
  · exact follows_skipInline.bind fun _ => (overlooks_punct _ _).bind fun _ =>
      overlooks_keyValues.make fun _ => rfl
  · refine follows_ite ?_ (follows_pure rfl) (overlooks_valueList.make fun _ => rfl)
    rw [halike.atLineEnd]

theorem overlooks_annotationStep : (annotationStep source).Overlooks source chosen :=
  (overlooks_punct _ _).bind fun _ => (overlooks_word _).bind fun _ =>
    overlooks_annotationBody.make fun _ => rfl

theorem overlooks_annotations : Reader.Overlooks source chosen (annotations source) := by
  intro tokens tokens' halike
  induction hlength : tokens.length using Nat.strong_induction_on generalizing tokens tokens' with
  | _ length ih =>
  rw [annotations_eq, annotations_eq, halike.atPunct]
  split
  · refine (overlooks_annotationStep halike).bind fun first left left' hfirst hleft => ?_
    have hshorter := annotationStep_advances source _ _ _ hfirst
    refine (overlooks_skipTrivia hleft).bind fun _ behind behind' hbehind hleft => ?_
    have hwithin := ((skipTrivia_keeps left).1 _ _ hbehind).length_le
    exact (ih behind.length (by omega) hleft rfl).bind fun _ _ _ _ hleft => .ok _ hleft
  · exact .ok [] halike

end Annotations

section Routes

open Reader

variable {source : List Char} {chosen : PlacedToken → Bool} {tokens tokens' : List PlacedToken}

/-- A run of touching tokens ends where trivia stand. -/
theorem extendRun_alike {continues : Token → Bool}
    (htrivia : ∀ token, token.isTrivia = true → continues token = false)
    (halike : (fading source chosen).Alike tokens tokens') (span : Span) :
    ∃ found left left', extendRun continues span tokens = (found, left) ∧
      extendRun continues span tokens' = (found, left') ∧
      (fading source chosen).Alike left left' := by
  induction halike generalizing span with
  | done => exact ⟨span, [], [], rfl, rfl, .done⟩
  | @cons placed others others' hbound hchange hothers ih =>
      have hcontinues : continues (fade chosen placed).token = continues placed.token :=
        Likeness.test_change (l := fading source chosen)
          (fun token htoken => htrivia token (isTrivia_of_isInlineTrivia htoken)) placed
      change ∃ found left left', _ ∧
        extendRun continues span (fade chosen placed :: others') = (found, left') ∧ _
      simp only [extendRun, span_fade, hcontinues]
      split
      · exact ih _
      · exact ⟨span, _, _, rfl, rfl, .cons hbound hchange hothers⟩

theorem overlooks_restOfRun {continues : Token → Bool}
    (htrivia : ∀ token, token.isTrivia = true → continues token = false) (first : Span) :
    (restOfRun source continues first).Overlooks source chosen := by
  intro tokens tokens' halike
  obtain ⟨found, left, left', hread, hread', hleft⟩ := extendRun_alike htrivia halike first
  simp only [restOfRun, hread, hread']
  exact .ok _ hleft

theorem overlooks_serviceName : (serviceName source).Overlooks source chosen := by
  refine (overlooks_word _).bind fun _ => overlooks_restOfRun ?_ _
  intro token htrivia
  cases token <;> simp_all [Token.isTrivia, continuesServiceName]

theorem overlooks_routePath : (routePath source).Overlooks source chosen := by
  refine (overlooks_punct _ _).bind fun _ => overlooks_restOfRun ?_ _
  intro token htrivia
  cases token <;> simp_all [Token.isTrivia, continuesRoutePath]

theorem overlooks_routeMethod : routeMethod.Overlooks source chosen := by
  refine overlooks_expect ?_
  rintro ⟨token, span⟩ htrivia
  cases token <;> simp_all [Token.isTrivia]

theorem overlooks_parenthesizedType : (parenthesizedType source).Overlooks source chosen :=
  follows_skipInline.bind fun _ => overlooks_typeExpr.bind fun _ =>
    follows_skipInline.bind fun _ => (overlooks_punct _ _).make fun _ => rfl

theorem overlooks_routeRequest : (routeRequest source).Overlooks source chosen := by
  refine (overlooks_eatPunct _).bind fun opener => ?_
  cases opener with
  | none => exact follows_pure rfl
  | some _ =>
      exact overlooks_parenthesizedType.bind fun _ => follows_skipInline.make fun _ => rfl

theorem overlooks_routeResponse : (routeResponse source).Overlooks source chosen := by
  refine (overlooks_optional ?_).bind fun found => ?_
  · rintro ⟨token, span⟩ htrivia
    cases token <;> simp_all [Token.isTrivia, Token.isKeyword]
  · cases found with
    | none => exact follows_pure rfl
    | some _ =>
        exact follows_skipInline.bind fun _ => (overlooks_punct _ _).bind fun _ =>
          overlooks_parenthesizedType.make fun _ => rfl

theorem overlooks_route : (route source).Overlooks source chosen :=
  overlooks_annotations.bind fun _ => overlooks_routeMethod.bind fun _ =>
    follows_skipInline.bind fun _ => overlooks_routePath.bind fun _ =>
      follows_skipInline.bind fun _ => overlooks_routeRequest.bind fun _ =>
        overlooks_routeResponse.bind fun _ => follows_endOfLine.make fun _ => rfl

end Routes

end ApiLang
