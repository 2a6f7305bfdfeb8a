/-
Reading structs, services and whole files.  Every source, however broken, is
read as the grammar spells it: as declarations and skipped pieces in a row, with
trivia between them.
-/
import ApiLang.Proofs.Tree.Extent
import ApiLang.Proofs.Tree.ReadingValues

namespace ApiLang

variable {source : List Char}

theorem embeddedPointer_spells {start : Nat} {row : List Lexeme} {star : Lexeme}
    {run : List Lexeme} {name : Spanned String} {line : Member} {rest : List PlacedToken}
    (hstar : star.token = .punct .star) (hname : SpellsName (start + widthOf [star]) run name)
    (hsource : Located source (start + widthOf (star :: run)) row)
    (hread : embeddedPointer (spanAt start [star]) name
      (placeLexemes (start + widthOf (star :: run)) row) = .ok (line, rest)) :
    ∃ trail left, row = trail ++ left ∧
      rest = placeLexemes (start + widthOf (star :: (run ++ trail))) left ∧
      SpellsMember start (star :: (run ++ trail)) line := by
  obtain ⟨_, _, hreadLine, ⟨⟩⟩ := Reader.bind_eq_ok hread
  obtain ⟨trail, left, rfl, rfl, htrail⟩ := Reader.endOfLine_spells hsource hreadLine
  refine ⟨trail, left, rfl, by simp [Nat.add_assoc], ?_⟩
  rw [hname.span_eq, spanAt_union_next]
  exact .pointer hstar hname htrail

theorem fieldTag_spells :
    fieldTag.Spells source fun start run tag _ =>
      (∃ lexeme text, run = [lexeme] ∧ lexeme.token = .rawString text ∧
        tag = some ⟨text, spanAt start [lexeme]⟩) ∨ run = [] ∧ tag = none := by
  refine (Reader.optional_spells _).imp ?_
  rintro start run tag left (⟨lexeme, found, rfl, haccept, rfl⟩ | hnone)
  · split at haccept
    · rename_i text htoken
      cases haccept
      exact .inl ⟨lexeme, text, rfl, htoken, rfl⟩
    · cases haccept
  · exact .inr hnone

/-- A line that starts with a name. -/
theorem fieldOrEmbedded_spells {start : Nat} {run row : List Lexeme} {name : Spanned String}
    {line : Member} {rest : List PlacedToken} (hname : SpellsName start run name)
    (hsource : Located source (start + widthOf run) row)
    (hread : fieldOrEmbedded source name (placeLexemes (start + widthOf run) row) =
      .ok (line, rest)) :
    ∃ others left, row = others ++ left ∧
      rest = placeLexemes (start + widthOf (run ++ others)) left ∧
      SpellsMember start (run ++ others) line := by
  obtain ⟨_, _, hreadGap, hread⟩ := Reader.bind_eq_ok hread
  obtain ⟨next, _, ⟨⟩, hread⟩ := Reader.bind_eq_ok hread
  obtain ⟨gap, _, rfl, rfl, hgap⟩ := Reader.skipInline_spells hsource hreadGap
  split at hread
  · cases hread
    rw [hname.span_eq]
    exact ⟨gap, _, rfl, by simp [Nat.add_assoc], .embedded hname hgap⟩
  · split at hread
    · cases hread
    · rename_i hplain
      obtain ⟨type, _, hreadType, hread⟩ := Reader.bind_eq_ok hread
      obtain ⟨_, _, hreadSpace, hread⟩ := Reader.bind_eq_ok hread
      obtain ⟨tag, _, hreadTag, hread⟩ := Reader.bind_eq_ok hread
      obtain ⟨_, _, hreadLine, ⟨⟩⟩ := Reader.bind_eq_ok hread
      obtain ⟨typeRun, _, rfl, rfl, htype⟩ := typeExpr_spells hsource.right hreadType
      obtain ⟨space, _, rfl, rfl, hspace⟩ :=
        Reader.skipInline_spells hsource.right.right hreadSpace
      obtain ⟨tagRun, _, rfl, rfl, htag⟩ := fieldTag_spells hsource.right.right.right hreadTag
      obtain ⟨trail, left, rfl, rfl, htrail⟩ :=
        Reader.endOfLine_spells hsource.right.right.right.right hreadLine
      have hdotless : '.' ∉ name.val.toList := by simpa using hplain
      rw [Nat.add_assoc, ← widthOf_append] at htype
      rcases htag with ⟨lexeme, text, rfl, hlexeme, rfl⟩ | ⟨rfl, rfl⟩
      · refine ⟨gap ++ (typeRun ++ (space ++ lexeme :: trail)), left, by simp,
          by simp [Nat.add_assoc], ?_⟩
        have hline := SpellsMember.tagged hname hdotless hgap htype hspace hlexeme htrail
        have hplace : start + widthOf run + widthOf gap + widthOf typeRun + widthOf space =
            start + widthOf (run ++ (gap ++ (typeRun ++ space))) := by
          simp [Nat.add_assoc]
        simp only [hplace, hname.span_eq]
        rw [spanAt_union]
        simpa using hline
      · refine ⟨gap ++ (typeRun ++ (space ++ trail)), left, by simp, by simp [Nat.add_assoc], ?_⟩
        have hline := SpellsMember.field hname hdotless hgap htype (hspace.append htrail)
        simp only [hname.span_eq, htype.span_eq]
        rw [spanAt_union]
        exact hline

/-- A line of a struct body is read as the grammar spells it. -/
theorem member_spells :
    (member source).Spells source fun start run line _ => SpellsMember start run line := by
  intro start row line rest hsource hread
  obtain ⟨star, _, hreadStar, hread⟩ := Reader.bind_eq_ok hread
  obtain ⟨name, _, hreadName, hread⟩ := Reader.bind_eq_ok hread
  obtain ⟨starRun, _, rfl, rfl, hstar⟩ := Reader.eatPunct_spells _ hsource hreadStar
  obtain ⟨run, row, rfl, rfl, hname⟩ := qualifiedName_spells hsource.right hreadName
  have hbehind := hsource.right.right
  rw [Nat.add_assoc, ← widthOf_append] at hread hbehind
  rcases hstar with ⟨lexeme, rfl, hstar, rfl⟩ | ⟨rfl, rfl⟩
  · obtain ⟨trail, left, rfl, rfl, hline⟩ := embeddedPointer_spells hstar hname hbehind hread
    exact ⟨lexeme :: (run ++ trail), left, by simp, rfl, hline⟩
  · obtain ⟨others, left, rfl, rfl, hline⟩ := fieldOrEmbedded_spells hname hbehind hread
    exact ⟨run ++ others, left, by simp, rfl, hline⟩

theorem structWord_spells :
    structWord.Spells source fun _ run _ _ => ∀ lexeme ∈ run,
      lexeme.token.isInlineTrivia = true ∨ lexeme.token = .identifier "struct" := by
  intro start row _ rest hsource hread
  obtain ⟨found, _, hreadWord, hread⟩ := Reader.bind_eq_ok hread
  obtain ⟨run, left, rfl, rfl, hrun⟩ := Reader.optional_spells _ hsource hreadWord
  rcases hrun with ⟨lexeme, found, rfl, haccept, rfl⟩ | ⟨rfl, rfl⟩
  · obtain ⟨gap, left, rfl, rfl, hgap⟩ := Reader.skipInline_spells hsource.right hread
    refine ⟨lexeme :: gap, left, by simp, by simp [Nat.add_assoc], ?_⟩
    intro other hother
    rcases List.mem_cons.mp hother with rfl | hother
    · exact .inr (by simpa using haccept)
    · exact .inl (hgap other hother)
  · cases hread
    exact ⟨[], left, by simp, by simp, by simp⟩

/-- A struct is read as the grammar spells it. -/
theorem structDef_spells :
    (structDef source).Spells source fun start run struct _ => SpellsStruct start run struct := by
  intro start row struct rest hsource hread
  obtain ⟨name, _, hreadName, hread⟩ := Reader.bind_eq_ok hread
  obtain ⟨_, _, hreadGap, hread⟩ := Reader.bind_eq_ok hread
  obtain ⟨_, _, hreadWord, hread⟩ := Reader.bind_eq_ok hread
  obtain ⟨opener, _, hreadOpener, hread⟩ := Reader.bind_eq_ok hread
  obtain ⟨block, _, hreadBody, ⟨⟩⟩ := Reader.bind_eq_ok hread
  obtain ⟨_, _, rfl, rfl, lexeme, text, rfl, hname, rfl⟩ :=
    Reader.identifier_spells _ hsource hreadName
  obtain ⟨gap, _, rfl, rfl, hgap⟩ := Reader.skipInline_spells hsource.right hreadGap
  obtain ⟨space, row, rfl, rfl, hspace⟩ := structWord_spells hsource.right.right hreadWord
  have hbehind := hsource.right.right.right
  have hplace : start + widthOf [lexeme] + widthOf gap + widthOf space =
      start + widthOf (lexeme :: (gap ++ space)) := by
    simp [Nat.add_assoc]
  rw [hplace] at hreadOpener hbehind
  obtain ⟨_, _, rfl, rfl, mark, rfl, hmark, rfl⟩ := Reader.punct_spells _ _ hbehind hreadOpener
  obtain ⟨run, left, rfl, rfl, hopener, hbody⟩ :=
    body_spells (structRules source) member_spells _ hbehind.right hreadBody
  refine ⟨lexeme :: (gap ++ space ++ mark :: run), left, by simp, by simp [Nat.add_assoc], ?_⟩
  refine .intro hname ?_ (hbody.block hmark hopener)
  intro other hother
  rcases List.mem_append.mp hother with hother | hother
  · exact .inl (hgap other hother)
  · exact hspace other hother

theorem extendRun_placeLexemes {continues : Token → Bool} {tail left : List Lexeme}
    (htail : ∀ lexeme ∈ tail, continues lexeme.token = true)
    (hleft : ∀ lexeme ∈ left.head?, continues lexeme.token = false) (start : Nat)
    (taken : List Lexeme) :
    extendRun continues (spanAt start taken)
        (placeLexemes (start + widthOf taken) (tail ++ left)) =
      (spanAt start (taken ++ tail), placeLexemes (start + widthOf (taken ++ tail)) left) := by
  induction tail generalizing taken with
  | nil =>
      cases left with
      | nil => simp [extendRun]
      | cons lexeme others => simp [extendRun, hleft lexeme rfl]
  | cons lexeme tail ih =>
      obtain ⟨hlexeme, htail⟩ := List.forall_mem_cons.mp htail
      have hextend := ih htail (taken ++ [lexeme])
      rw [List.cons_append, placeLexemes_cons, extendRun, if_pos (by simp [spanAt, hlexeme]),
        spanAt_union_next, Nat.add_assoc, ← widthOf_append, hextend]
      simp

theorem restOfRun_eq {continues : Token → Bool} {first : Lexeme} {tail left : List Lexeme}
    (htail : ∀ lexeme ∈ tail, continues lexeme.token = true)
    (hleft : ∀ lexeme ∈ left.head?, continues lexeme.token = false) {start : Nat}
    (hsource : Located source start (first :: (tail ++ left))) :
    restOfRun source continues (spanAt start [first])
        (placeLexemes (start + widthOf [first]) (tail ++ left)) =
      .ok (nameAt start (first :: tail), placeLexemes (start + widthOf (first :: tail)) left) := by
  have hlocated : Located source start ((first :: tail) ++ left) := hsource
  rw [restOfRun, extendRun_placeLexemes htail hleft start [first], nameAt,
    ← hlocated.sliceText]
  rfl

/-- The text of a run of touching tokens is the text of what was taken. -/
theorem restOfRun_spells {continues : Token → Bool} {start : Nat} {first : Lexeme}
    {row : List Lexeme} {name : Spanned String} {rest : List PlacedToken}
    (hsource : Located source start (first :: row))
    (hread : restOfRun source continues (spanAt start [first])
      (placeLexemes (start + widthOf [first]) row) = .ok (name, rest)) :
    ∃ tail left, row = tail ++ left ∧ rest = placeLexemes (start + widthOf (first :: tail)) left ∧
      (∀ lexeme ∈ tail, continues lexeme.token = true) ∧ name = nameAt start (first :: tail) := by
  obtain ⟨tail, left, rfl, htail, hleft⟩ := exists_run_left continues row
  rw [restOfRun_eq htail hleft hsource] at hread
  cases hread
  exact ⟨tail, left, rfl, rfl, htail, rfl⟩

theorem serviceName_spells :
    (serviceName source).Spells source fun start run name _ =>
      ∃ first tail, run = first :: tail ∧ first.token.word?.isSome = true ∧
        (∀ lexeme ∈ tail, continuesServiceName lexeme.token = true) ∧
        name = nameAt start (first :: tail) := by
  intro start row name rest hsource hread
  obtain ⟨word, _, hreadWord, hread⟩ := Reader.bind_eq_ok hread
  obtain ⟨_, _, rfl, rfl, first, text, rfl, hfirst, rfl⟩ := Reader.word_spells _ hsource hreadWord
  obtain ⟨tail, left, rfl, rfl, htail, rfl⟩ := restOfRun_spells hsource hread
  exact ⟨first :: tail, left, rfl, rfl, first, tail, rfl, by simp [hfirst], htail, rfl⟩

theorem routePath_spells :
    (routePath source).Spells source fun start run path _ =>
      ∃ slash tail, run = slash :: tail ∧ slash.token = .punct .slash ∧
        (∀ lexeme ∈ tail, continuesRoutePath lexeme.token = true) ∧
        path = nameAt start (slash :: tail) := by
  intro start row name rest hsource hread
  obtain ⟨mark, _, hreadMark, hread⟩ := Reader.bind_eq_ok hread
  obtain ⟨_, _, rfl, rfl, slash, rfl, hslash, rfl⟩ := Reader.punct_spells _ _ hsource hreadMark
  obtain ⟨tail, left, rfl, rfl, htail, rfl⟩ := restOfRun_spells hsource hread
  exact ⟨slash :: tail, left, rfl, rfl, slash, tail, rfl, hslash, htail, rfl⟩

/-- A type and the closing parenthesis, behind an opening one. -/
theorem parenthesizedType_spells {start : Nat} {opener : Lexeme} {row : List Lexeme}
    {found : TypeExpr × Span} {rest : List PlacedToken} (hopener : opener.token = .punct .leftParen)
    (hsource : Located source (start + widthOf [opener]) row)
    (hread : parenthesizedType source (placeLexemes (start + widthOf [opener]) row) =
      .ok (found, rest)) :
    ∃ run left, row = run ++ left ∧ rest = placeLexemes (start + widthOf (opener :: run)) left ∧
      SpellsParenthesized start (opener :: run) found.1 ∧
      ClosesAt start (opener :: run) found.2 := by
  obtain ⟨_, _, hreadGap, hread⟩ := Reader.bind_eq_ok hread
  obtain ⟨type, _, hreadType, hread⟩ := Reader.bind_eq_ok hread
  obtain ⟨_, _, hreadTrail, hread⟩ := Reader.bind_eq_ok hread
  obtain ⟨close, _, hreadClose, ⟨⟩⟩ := Reader.bind_eq_ok hread
  obtain ⟨gap, _, rfl, rfl, hgap⟩ := Reader.skipInline_spells hsource hreadGap
  obtain ⟨run, _, rfl, rfl, htype⟩ := typeExpr_spells hsource.right hreadType
  obtain ⟨trail, _, rfl, rfl, htrail⟩ := Reader.skipInline_spells hsource.right.right hreadTrail
  obtain ⟨_, left, rfl, rfl, mark, rfl, hmark, rfl⟩ :=
    Reader.punct_spells _ _ hsource.right.right.right hreadClose
  rw [Nat.add_assoc, ← widthOf_append] at htype
  refine ⟨gap ++ (run ++ (trail ++ [mark])), left, by simp, by simp [Nat.add_assoc],
    .intro hopener hgap htype htrail hmark, opener :: (gap ++ (run ++ trail)), mark, by simp, ?_⟩
  simp [Nat.add_assoc]

theorem routeRequest_spells :
    (routeRequest source).Spells source fun start run request _ =>
      (run = [] ∧ request = none) ∨
        ∃ typeRun middle type close, run = typeRun ++ middle ∧ request = some (type, close) ∧
          SpellsParenthesized start typeRun type ∧ ClosesAt start typeRun close ∧
          AllInline middle := by
  intro start row request rest hsource hread
  obtain ⟨opener, _, hreadOpener, hread⟩ := Reader.bind_eq_ok hread
  obtain ⟨_, _, rfl, rfl, hopener⟩ := Reader.eatPunct_spells _ hsource hreadOpener
  rcases hopener with ⟨mark, rfl, hmark, rfl⟩ | ⟨rfl, rfl⟩
  · obtain ⟨found, _, hreadType, hread⟩ := Reader.bind_eq_ok hread
    obtain ⟨_, _, hreadGap, ⟨⟩⟩ := Reader.bind_eq_ok hread
    obtain ⟨run, row, rfl, rfl, htype, hcloses⟩ :=
      parenthesizedType_spells hmark hsource.right hreadType
    have hbehind : Located source (start + widthOf (mark :: run)) row := by
      rw [← List.append_assoc] at hsource
      exact hsource.right
    obtain ⟨middle, left, rfl, rfl, hmiddle⟩ := Reader.skipInline_spells hbehind hreadGap
    exact ⟨mark :: run ++ middle, left, by simp, by simp [Nat.add_assoc],
      .inr ⟨mark :: run, middle, found.1, found.2, rfl, rfl, htype, hcloses, hmiddle⟩⟩
  · cases hread
    exact ⟨[], _, rfl, by simp, .inl ⟨rfl, rfl⟩⟩

theorem routeResponse_spells :
    (routeResponse source).Spells source fun start run response _ =>
      (run = [] ∧ response = none) ∨
        ∃ word space typeRun type close, run = word :: (space ++ typeRun) ∧
          response = some (type, close) ∧ word.token = .keyword .returnsWord ∧ AllInline space ∧
          SpellsParenthesized (start + widthOf (word :: space)) typeRun type ∧
          ClosesAt start run close := by
  intro start row response rest hsource hread
  obtain ⟨found, _, hreadWord, hread⟩ := Reader.bind_eq_ok hread
  obtain ⟨_, _, rfl, rfl, hfound⟩ := Reader.optional_spells _ hsource hreadWord
  rcases hfound with ⟨word, found, rfl, haccept, rfl⟩ | ⟨rfl, rfl⟩
  · obtain ⟨_, _, hreadGap, hread⟩ := Reader.bind_eq_ok hread
    obtain ⟨opener, _, hreadOpener, hread⟩ := Reader.bind_eq_ok hread
    obtain ⟨found, _, hreadType, ⟨⟩⟩ := Reader.bind_eq_ok hread
    obtain ⟨space, row, rfl, rfl, hspace⟩ := Reader.skipInline_spells hsource.right hreadGap
    have hbehind := hsource.right.right
    rw [Nat.add_assoc, ← widthOf_append] at hreadOpener hbehind
    obtain ⟨_, row, rfl, rfl, mark, rfl, hmark, _⟩ := Reader.punct_spells _ _ hbehind hreadOpener
    obtain ⟨run, left, rfl, rfl, htype, hcloses⟩ :=
      parenthesizedType_spells hmark hbehind.right hreadType
    have hword : word.token = .keyword .returnsWord := by
      simpa [Token.isKeyword] using haccept
    refine ⟨word :: (space ++ mark :: run), left, by simp, by simp [Nat.add_assoc],
      .inr ⟨word, space, mark :: run, found.1, found.2, rfl, rfl, hword, hspace, htype, ?_⟩⟩
    simpa using hcloses.prepend
  · cases hread
    exact ⟨[], _, rfl, by simp, .inl ⟨rfl, rfl⟩⟩

/-- The request and the response of a route, up to the end of the line. -/
theorem signature_spells {start : Nat} {row : List Lexeme}
    {request response : Option (TypeExpr × Span)} {tokens₁ tokens₂ tokens₃ rest : List PlacedToken}
    (hsource : Located source start row)
    (hreadGap : Reader.skipInline (placeLexemes start row) = .ok ((), tokens₁))
    (hreadRequest : routeRequest source tokens₁ = .ok (request, tokens₂))
    (hreadResponse : routeResponse source tokens₂ = .ok (response, tokens₃))
    (hreadLine : Reader.endOfLine tokens₃ = .ok ((), rest)) :
    ∃ signature trail left, row = signature ++ (trail ++ left) ∧
      rest = placeLexemes (start + widthOf (signature ++ trail)) left ∧
      SpellsSignature start signature (request.map Prod.fst) (response.map Prod.fst) ∧
      AllInline trail ∧
      ∀ path, (signature = [] ∧ routeLast path request response = path) ∨
        ClosesAt start signature (routeLast path request response) := by
  obtain ⟨gap, _, rfl, rfl, hgap⟩ := Reader.skipInline_spells hsource hreadGap
  obtain ⟨requestRun, _, rfl, rfl, hrequest⟩ := routeRequest_spells hsource.right hreadRequest
  obtain ⟨responseRun, _, rfl, rfl, hresponse⟩ :=
    routeResponse_spells hsource.right.right hreadResponse
  obtain ⟨trail, left, rfl, rfl, htrail⟩ :=
    Reader.endOfLine_spells hsource.right.right.right hreadLine
  rcases hrequest with ⟨rfl, rfl⟩ | ⟨typeRun, middle, type, close, rfl, rfl, htype, hcloses,
    hmiddle⟩
  · rcases hresponse with ⟨rfl, rfl⟩ | ⟨word, space, run, type, close, rfl, rfl, hword, hspace,
      htype, hcloses⟩
    · exact ⟨[], gap ++ trail, left, by simp, by simp [Nat.add_assoc], .none,
        hgap.append htrail, fun path => .inl ⟨rfl, rfl⟩⟩
    · refine ⟨gap ++ word :: (space ++ run), trail, left, by simp, by simp [Nat.add_assoc],
        .response hgap hword hspace ?_, htrail, fun path => .inr ?_⟩
      · simpa [Nat.add_assoc] using htype
      · simpa [routeLast] using hcloses.prepend.prepend
  · rcases hresponse with ⟨rfl, rfl⟩ | ⟨word, space, run, response, last, rfl, rfl, hword, hspace,
      hresponse, hlast⟩
    · exact ⟨gap ++ typeRun, middle ++ trail, left, by simp, by simp [Nat.add_assoc],
        .request hgap htype, hmiddle.append htrail, fun path => .inr hcloses.prepend⟩
    · refine ⟨gap ++ (typeRun ++ (middle ++ word :: (space ++ run))), trail, left, by simp,
        by simp [Nat.add_assoc], .both hgap htype hmiddle hword hspace ?_, htrail,
        fun path => .inr ?_⟩
      · simpa [Nat.add_assoc] using hresponse
      · simpa [routeLast] using hlast.prepend.prepend

theorem routeMethod_spells :
    routeMethod.Spells source fun start run method _ =>
      ∃ lexeme name, run = [lexeme] ∧ lexeme.token = .identifier name ∧
        isHttpMethod name = true ∧ method = ⟨name, spanAt start [lexeme]⟩ := by
  refine (Reader.expect_spells _ _).imp ?_
  rintro start run method left ⟨lexeme, rfl, haccept⟩
  split at haccept
  · rename_i name htoken
    split at haccept
    · rename_i hmethod
      cases haccept
      exact ⟨lexeme, name, rfl, htoken, hmethod, rfl⟩
    · cases haccept
  · cases haccept

/-- Annotations in front of anything but a comma or a parenthesis have no value
without items. -/
theorem not_isHollow_of_next {notes : List Annotation} {next : Lexeme} {left : List Lexeme}
    (hseparator : (∃ note ∈ notes, isHollow note = true) → AtSeparator (next :: left))
    (hnext : ∀ mark, next.token ≠ .punct mark) : ∀ note ∈ notes, isHollow note = false := by
  intro note hnote
  by_contra hhollow
  obtain ⟨mark, _, hrow, hmark⟩ := hseparator ⟨note, hnote, by simpa using hhollow⟩
  cases hrow
  rcases hmark with hmark | hmark
  · exact hnext _ hmark
  · exact hnext _ hmark

/-- A route is read as the grammar spells it. -/
theorem route_spells :
    (route source).Spells source fun start run route _ => SpellsRoute start run route := by
  intro start row route rest hsource hread
  obtain ⟨notes, _, hreadNotes, hread⟩ := Reader.bind_eq_ok hread
  obtain ⟨method, _, hreadMethod, hread⟩ := Reader.bind_eq_ok hread
  obtain ⟨_, _, hreadGap, hread⟩ := Reader.bind_eq_ok hread
  obtain ⟨path, _, hreadPath, hread⟩ := Reader.bind_eq_ok hread
  obtain ⟨_, _, hreadSpace, hread⟩ := Reader.bind_eq_ok hread
  obtain ⟨request, _, hreadRequest, hread⟩ := Reader.bind_eq_ok hread
  obtain ⟨response, _, hreadResponse, hread⟩ := Reader.bind_eq_ok hread
  obtain ⟨_, _, hreadLine, ⟨⟩⟩ := Reader.bind_eq_ok hread
  obtain ⟨notesRun, _, rfl, rfl, hnotes, hseparator⟩ := annotations_spells hsource hreadNotes
  obtain ⟨_, _, rfl, rfl, lexeme, name, rfl, hname, hmethod, rfl⟩ :=
    routeMethod_spells hsource.right hreadMethod
  obtain ⟨gap, row, rfl, rfl, hgap⟩ := Reader.skipInline_spells hsource.right.right hreadGap
  have hpathPlace : start + widthOf notesRun + widthOf [lexeme] + widthOf gap =
      start + widthOf (notesRun ++ lexeme :: gap) := by
    simp [Nat.add_assoc]
  have hpathSource := hsource.right.right.right
  rw [hpathPlace] at hreadPath hpathSource
  obtain ⟨_, row, rfl, rfl, slash, tail, rfl, hslash, htail, rfl⟩ :=
    routePath_spells hpathSource hreadPath
  have hplace : start + widthOf (notesRun ++ lexeme :: gap) + widthOf (slash :: tail) =
      start + widthOf (notesRun ++ lexeme :: (gap ++ slash :: tail)) := by
    simp [Nat.add_assoc]
  have hbehind := hpathSource.right
  rw [hplace] at hreadSpace hbehind
  obtain ⟨signature, trail, left, rfl, rfl, hsignature, htrail, hlast⟩ :=
    signature_spells hbehind hreadSpace hreadRequest hreadResponse hreadLine
  have hfull := not_isHollow_of_next hseparator (by simp [hname])
  refine ⟨notesRun ++ lexeme :: (gap ++ slash :: (tail ++ (signature ++ trail))), left, by simp,
    by simp [Nat.add_assoc], ?_⟩
  have hspan : spanFrom notes (spanAt (start + widthOf notesRun) [lexeme])
      (routeLast (spanAt (start + widthOf (notesRun ++ lexeme :: gap)) (slash :: tail)) request
        response) =
        spanAt start (notesRun ++ lexeme :: (gap ++ slash :: (tail ++ signature))) := by
    rcases hlast (spanAt (start + widthOf (notesRun ++ lexeme :: gap)) (slash :: tail)) with
      ⟨rfl, hspan⟩ | ⟨inside, close, rfl, hspan⟩
    all_goals
      rw [hspan]
      apply spanFrom_eq hnotes
      all_goals
        simp only [spanAt, widthOf_append, widthOf_cons, widthOf_nil]
        omega
  have hroute := SpellsRoute.intro hnotes hfull hname hmethod hgap hslash htail hsignature htrail
  rw [← hspan] at hroute
  exact hroute

theorem serviceEntry_spells :
    (serviceRules source).entry.read.Spells source fun start run entry _ =>
      SpellsServiceEntry start run entry := by
  intro start row entry rest hsource hread
  obtain ⟨found, _, hreadRoute, ⟨⟩⟩ := Reader.bind_eq_ok hread
  obtain ⟨run, left, rfl, rfl, hroute⟩ := route_spells hsource hreadRoute
  exact ⟨run, left, rfl, rfl, .route hroute⟩

/-- A service is read as the grammar spells it. -/
theorem service_spells :
    (service source).Spells source fun start run service _ => SpellsService start run service := by
  intro start row service rest hsource hread
  obtain ⟨notes, _, hreadNotes, hread⟩ := Reader.bind_eq_ok hread
  obtain ⟨keyword, _, hreadKeyword, hread⟩ := Reader.bind_eq_ok hread
  obtain ⟨_, _, hreadGap, hread⟩ := Reader.bind_eq_ok hread
  obtain ⟨name, _, hreadName, hread⟩ := Reader.bind_eq_ok hread
  obtain ⟨_, _, hreadSpace, hread⟩ := Reader.bind_eq_ok hread
  obtain ⟨opener, _, hreadOpener, hread⟩ := Reader.bind_eq_ok hread
  obtain ⟨block, _, hreadBody, ⟨⟩⟩ := Reader.bind_eq_ok hread
  obtain ⟨notesRun, _, rfl, rfl, hnotes, hseparator⟩ := annotations_spells hsource hreadNotes
  obtain ⟨_, _, rfl, rfl, word, rfl, hword, rfl⟩ :=
    Reader.keyword_spells _ _ hsource.right hreadKeyword
  obtain ⟨gap, row, rfl, rfl, hgap⟩ := Reader.skipInline_spells hsource.right.right hreadGap
  have hnamePlace : start + widthOf notesRun + widthOf [word] + widthOf gap =
      start + widthOf (notesRun ++ word :: gap) := by
    simp [Nat.add_assoc]
  have hnameSource := hsource.right.right.right
  rw [hnamePlace] at hreadName hnameSource
  obtain ⟨_, _, rfl, rfl, first, tail, rfl, hfirst, htail, rfl⟩ :=
    serviceName_spells hnameSource hreadName
  obtain ⟨space, row, rfl, rfl, hspace⟩ := Reader.skipTrivia_spells hnameSource.right hreadSpace
  have hplace : start + widthOf (notesRun ++ word :: gap) + widthOf (first :: tail) +
      widthOf space =
        start + widthOf (notesRun ++ word :: (gap ++ first :: (tail ++ space))) := by
    simp [Nat.add_assoc]
  have hbehind := hnameSource.right.right
  rw [hplace] at hreadOpener hbehind
  obtain ⟨_, _, rfl, rfl, mark, rfl, hmark, rfl⟩ := Reader.punct_spells _ _ hbehind hreadOpener
  obtain ⟨run, left, rfl, rfl, hopener, hbody⟩ :=
    body_spells (serviceRules source) serviceEntry_spells _ hbehind.right hreadBody
  have hfull := not_isHollow_of_next hseparator (by simp [hword])
  refine ⟨notesRun ++ word :: (gap ++ first :: (tail ++ (space ++ mark :: run))), left, by simp,
    by simp [Nat.add_assoc], ?_⟩
  exact .intro hnotes hfull hword hgap hfirst htail hspace (hbody.block hmark hopener)

theorem versionDecl_spells {start : Nat} {word : Lexeme} {row : List Lexeme}
    {found : Declaration} {rest : List PlacedToken} (hword : word.token = .keyword .syntaxWord)
    (hsource : Located source (start + widthOf [word]) row)
    (hread : versionDecl (spanAt start [word]) (placeLexemes (start + widthOf [word]) row) =
      .ok (found, rest)) :
    ∃ run left, row = run ++ left ∧ rest = placeLexemes (start + widthOf (word :: run)) left ∧
      SpellsDeclaration start (word :: run) found := by
  obtain ⟨_, _, hreadGap, hread⟩ := Reader.bind_eq_ok hread
  obtain ⟨_, _, hreadEquals, hread⟩ := Reader.bind_eq_ok hread
  obtain ⟨_, _, hreadSpace, hread⟩ := Reader.bind_eq_ok hread
  obtain ⟨version, _, hreadVersion, ⟨⟩⟩ := Reader.bind_eq_ok hread
  obtain ⟨gap, _, rfl, rfl, hgap⟩ := Reader.skipTrivia_spells hsource hreadGap
  obtain ⟨_, _, rfl, rfl, equals, rfl, hequals, _⟩ :=
    Reader.punct_spells _ _ hsource.right hreadEquals
  obtain ⟨space, _, rfl, rfl, hspace⟩ :=
    Reader.skipTrivia_spells hsource.right.right hreadSpace
  obtain ⟨_, left, rfl, rfl, lexeme, text, rfl, hversion, rfl⟩ :=
    Reader.stringLiteral_spells _ hsource.right.right.right hreadVersion
  refine ⟨gap ++ equals :: (space ++ [lexeme]), left, by simp, by simp [Nat.add_assoc], ?_⟩
  have hplace : start + widthOf [word] + widthOf gap + widthOf [equals] + widthOf space =
      start + widthOf ([word] ++ (gap ++ equals :: space)) := by
    simp [Nat.add_assoc]
  rw [hplace, spanAt_union]
  simpa using SpellsDeclaration.version hword hgap hequals hspace hversion

theorem infoDecl_spells {start : Nat} {word : Lexeme} {row : List Lexeme}
    {found : Declaration} {rest : List PlacedToken} (hword : word.token = .keyword .infoWord)
    (hsource : Located source (start + widthOf [word]) row)
    (hread : infoDecl source (spanAt start [word]) (placeLexemes (start + widthOf [word]) row) =
      .ok (found, rest)) :
    ∃ run left, row = run ++ left ∧ rest = placeLexemes (start + widthOf (word :: run)) left ∧
      SpellsDeclaration start (word :: run) found := by
  obtain ⟨_, _, hreadGap, hread⟩ := Reader.bind_eq_ok hread
  obtain ⟨_, _, hreadOpener, hread⟩ := Reader.bind_eq_ok hread
  obtain ⟨⟨entries, close⟩, _, hreadEntries, ⟨⟩⟩ := Reader.bind_eq_ok hread
  obtain ⟨gap, _, rfl, rfl, hgap⟩ := Reader.skipTrivia_spells hsource hreadGap
  obtain ⟨_, _, rfl, rfl, opener, rfl, hopener, _⟩ :=
    Reader.punct_spells _ _ hsource.right hreadOpener
  obtain ⟨run, left, rfl, rfl, hentries, hcloses⟩ :=
    keyValues_spells hsource.right.right hreadEntries
  refine ⟨gap ++ opener :: run, left, by simp, by simp [Nat.add_assoc], ?_⟩
  have hspan : (spanAt start [word]).union close = spanAt start (word :: (gap ++ opener :: run)) :=
    hcloses.prepend.prepend.union
  have hplace : start + widthOf [word] + widthOf gap + widthOf [opener] =
      start + widthOf (word :: (gap ++ [opener])) := by
    simp [Nat.add_assoc]
  rw [hplace] at hentries
  rw [hspan]
  exact .info hword hgap hopener hentries

theorem importPath_spells :
    importPath.read.Spells source fun start run path _ => SpellsImportPath start run path := by
  refine (Reader.stringLiteral_spells _).imp ?_
  rintro start run path left ⟨lexeme, text, rfl, htoken, rfl⟩
  exact .intro htoken

theorem importDecl_spells {start : Nat} {word : Lexeme} {row : List Lexeme}
    {found : Declaration} {rest : List PlacedToken} (hword : word.token = .keyword .importWord)
    (hsource : Located source (start + widthOf [word]) row)
    (hread : importDecl (spanAt start [word]) (placeLexemes (start + widthOf [word]) row) =
      .ok (found, rest)) :
    ∃ run left, row = run ++ left ∧ rest = placeLexemes (start + widthOf (word :: run)) left ∧
      SpellsDeclaration start (word :: run) found := by
  obtain ⟨_, _, hreadGap, hread⟩ := Reader.bind_eq_ok hread
  obtain ⟨opener, _, hreadOpener, hread⟩ := Reader.bind_eq_ok hread
  obtain ⟨gap, _, rfl, rfl, hgap⟩ := Reader.skipTrivia_spells hsource hreadGap
  obtain ⟨_, _, rfl, rfl, hopener⟩ := Reader.eatPunct_spells _ hsource.right hreadOpener
  rcases hopener with ⟨mark, rfl, hmark, rfl⟩ | ⟨rfl, rfl⟩
  · obtain ⟨⟨paths, close⟩, _, hreadPaths, ⟨⟩⟩ := Reader.bind_eq_ok hread
    obtain ⟨run, left, rfl, rfl, hpaths, hcloses⟩ :=
      untilRightParen_spells importPath_spells hsource.right.right hreadPaths
    refine ⟨gap ++ mark :: run, left, by simp, by simp [Nat.add_assoc], ?_⟩
    have hspan : (spanAt start [word]).union close =
        spanAt start (word :: (gap ++ mark :: run)) :=
      hcloses.prepend.prepend.union
    have hplace : start + widthOf [word] + widthOf gap + widthOf [mark] =
        start + widthOf (word :: (gap ++ [mark])) := by
      simp [Nat.add_assoc]
    rw [hplace] at hpaths
    rw [hspan]
    exact .imports hword hgap hmark hpaths
  · obtain ⟨path, _, hreadPath, ⟨⟩⟩ := Reader.bind_eq_ok hread
    obtain ⟨_, left, rfl, rfl, lexeme, text, rfl, hpath, rfl⟩ :=
      Reader.stringLiteral_spells _ hsource.right.right hreadPath
    refine ⟨gap ++ [lexeme], left, by simp, by simp [Nat.add_assoc], ?_⟩
    have hplace : start + widthOf [word] + widthOf gap + widthOf ([] : List Lexeme) =
        start + widthOf ([word] ++ gap) := by
      simp [Nat.add_assoc]
    rw [hplace, spanAt_union]
    exact .importOne hword hgap hpath

theorem typeEntry_spells :
    (typeGroupRules source).entry.read.Spells source fun start run entry _ =>
      SpellsTypeEntry start run entry := by
  intro start row entry rest hsource hread
  obtain ⟨found, _, hreadStruct, ⟨⟩⟩ := Reader.bind_eq_ok hread
  obtain ⟨run, left, rfl, rfl, hstruct⟩ := structDef_spells hsource hreadStruct
  exact ⟨run, left, rfl, rfl, .struct hstruct⟩

theorem typeDecl_spells {start : Nat} {word : Lexeme} {row : List Lexeme}
    {found : Declaration} {rest : List PlacedToken} (hword : word.token = .keyword .typeWord)
    (hsource : Located source (start + widthOf [word]) row)
    (hread : typeDecl source (spanAt start [word]) (placeLexemes (start + widthOf [word]) row) =
      .ok (found, rest)) :
    ∃ run left, row = run ++ left ∧ rest = placeLexemes (start + widthOf (word :: run)) left ∧
      SpellsDeclaration start (word :: run) found := by
  obtain ⟨_, _, hreadGap, hread⟩ := Reader.bind_eq_ok hread
  obtain ⟨opener, _, hreadOpener, hread⟩ := Reader.bind_eq_ok hread
  obtain ⟨gap, row, rfl, rfl, hgap⟩ := Reader.skipTrivia_spells hsource hreadGap
  have hbehind := hsource.right
  rw [Nat.add_assoc, ← widthOf_append] at hreadOpener hbehind
  obtain ⟨_, _, rfl, rfl, hopener⟩ := Reader.eatPunct_spells _ hbehind hreadOpener
  rcases hopener with ⟨mark, rfl, hmark, rfl⟩ | ⟨rfl, rfl⟩
  · obtain ⟨block, _, hreadBody, ⟨⟩⟩ := Reader.bind_eq_ok hread
    obtain ⟨run, left, rfl, rfl, hopener, hbody⟩ :=
      body_spells (typeGroupRules source) typeEntry_spells _ hbehind.right hreadBody
    exact ⟨gap ++ mark :: run, left, by simp, by simp [Nat.add_assoc],
      .types hword hgap (hbody.block hmark hopener)⟩
  · obtain ⟨struct, _, hreadStruct, ⟨⟩⟩ := Reader.bind_eq_ok hread
    obtain ⟨run, left, rfl, rfl, hstruct⟩ := structDef_spells hbehind.right hreadStruct
    refine ⟨gap ++ run, left, by simp, by simp [Nat.add_assoc], ?_⟩
    exact .struct hword hgap (by simpa using hstruct)

theorem plainKeyword_eq_some {placed : PlacedToken} {word : Keyword} {span : Span}
    (hfound : plainKeyword placed = some (word, span)) :
    placed.token = .keyword word ∧ placed.span = span := by
  unfold plainKeyword at hfound
  split at hfound
  · rename_i htoken
    split at hfound
    · cases hfound
    · cases hfound
      exact ⟨htoken, rfl⟩
  · cases hfound

/-- A declaration is read as the grammar spells it. -/
theorem declaration_spells :
    (declaration source).Spells source fun start run found _ =>
      SpellsDeclaration start run found := by
  intro start row found rest hsource hread
  obtain ⟨next, _, ⟨⟩, hread⟩ := Reader.bind_eq_ok hread
  split at hread
  · obtain ⟨service, _, hreadService, ⟨⟩⟩ := Reader.bind_eq_ok hread
    obtain ⟨run, left, rfl, rfl, hservice⟩ := service_spells hsource hreadService
    exact ⟨run, left, rfl, rfl, .service hservice⟩
  · obtain ⟨⟨word, span⟩, _, hreadWord, hread⟩ := Reader.bind_eq_ok hread
    obtain ⟨_, row, rfl, rfl, lexeme, rfl, haccept⟩ := Reader.expect_spells _ _ hsource hreadWord
    obtain ⟨hword, rfl⟩ := plainKeyword_eq_some haccept
    have hbehind := hsource.right
    have hrest : ∃ run left, row = run ++ left ∧
        rest = placeLexemes (start + widthOf (lexeme :: run)) left ∧
        SpellsDeclaration start (lexeme :: run) found := by
      cases word with
      | syntaxWord => exact versionDecl_spells hword hbehind hread
      | infoWord => exact infoDecl_spells hword hbehind hread
      | importWord => exact importDecl_spells hword hbehind hread
      | typeWord => exact typeDecl_spells hword hbehind hread
      | serviceWord | returnsWord => cases hread
    obtain ⟨run, left, rfl, rfl, hfound⟩ := hrest
    exact ⟨lexeme :: run, left, rfl, rfl, hfound⟩

/-- One declaration, as a step that a loop may repeat. -/
def declarationItem (source : List Char) : ItemReader Declaration where
  read := declaration source
  keeps := declaration_keeps source
  advances := declaration_advances source

/-- One round of reading a file, at its first token that is not trivia. -/
theorem declarations_eq_of_cons (source : List Char) {tokens rest : List PlacedToken}
    {placed : PlacedToken} (hdrop : dropTrivia tokens = placed :: rest) :
    declarations source tokens =
      match declaration source (placed :: rest) with
      | .ok (found, left) => found :: declarations source left
      | .error mismatch =>
        let left := dropToDeclaration (resumeAfter (placed :: rest) mismatch.rest)
        .skipped (.between source (placed :: rest) left mismatch) ::
          declarations source left := by
  rw [declarations]
  split
  · rename_i hnil
    rw [hdrop] at hnil
    cases hnil
  · rename_i hcons
    rw [hdrop] at hcons
    cases hcons
    split <;> simp_all

theorem declarations_spells {start : Nat} {row : List Lexeme}
    (hsource : Located source start row) :
    SpellsEntries SpellsDeclaration Declaration.skipped start row
      (declarations source (placeLexemes start row)) := by
  induction hlength : row.length using Nat.strong_induction_on generalizing start row with
  | _ length ih =>
  obtain ⟨gap, inner, rfl, hgap, hhead, hdrop⟩ := dropTrivia_placeLexemes start row
  rw [List.length_append] at hlength
  cases inner with
  | nil =>
      rw [declarations, hdrop, List.append_nil]
      exact .nil hgap
  | cons first others =>
      obtain ⟨entry, run, left, hrow, hrun, hone, hround⟩ :=
        round_spells (declarationItem source) declaration_spells dropToDeclaration_recovers
          Declaration.skipped hsource.right (List.cons_ne_nil first others) hhead
      have hstep : declarations source (placeLexemes start (gap ++ first :: others)) =
          entry :: declarations source (placeLexemes (start + widthOf gap + widthOf run) left) := by
        rw [declarations_eq_of_cons source (hdrop.trans (placeLexemes_cons ..)),
          ← placeLexemes_cons]
        rcases hround with hread | ⟨mismatch, hread, hleft, rfl⟩
        · rw [show declaration source _ = _ from hread]
        · rw [show declaration source _ = _ from hread]
          simp only [hleft]
      have hpositive := List.length_pos_iff.mpr hrun
      rw [hrow, List.length_append] at hlength
      rw [hstep, hrow]
      rw [hrow, ← List.append_assoc] at hsource
      rw [Nat.add_assoc, ← widthOf_append]
      exact .cons hgap hone (ih left.length (by omega) hsource.right rfl)

/-- Every source is read as the grammar spells it. -/
theorem parseTokens_spells (source : List Char) :
    SpellsFile (lexemes source) (parseTokens source (tokenize source)) :=
  declarations_spells (located_lexemes source)

end ApiLang
