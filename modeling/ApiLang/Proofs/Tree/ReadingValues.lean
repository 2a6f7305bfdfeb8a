/-
Reading values, entries of key and value, and annotations.
-/
import ApiLang.Proofs.Tree.ReadingLists
import ApiLang.Proofs.Tree.ReadingTypes

namespace ApiLang

variable {source : List Char}

theorem dropInline_placeLexemes (start : Nat) (row : List Lexeme) :
    ∃ gap left, row = gap ++ left ∧ AllInline gap ∧
      (∀ lexeme ∈ left.head?, lexeme.token.isInlineTrivia = false) ∧
      dropInline (placeLexemes start row) = placeLexemes (start + widthOf gap) left :=
  dropWhile_placeLexemes Token.isInlineTrivia start row

/-- Trivia that goes over the end of a line ends a value. -/
theorem isTrivia_of_not_endsValue {token : Token} (hinline : token.isInlineTrivia = false)
    (hvalue : endsValue token = false) : token.isTrivia = false := by
  cases token <;>
    simp_all [Token.isInlineTrivia, Token.isTrivia, endsValue, endsLine]

theorem takeWhile_placeLexemes_append {test : Token → Bool} {run left : List Lexeme}
    (hrun : ∀ lexeme ∈ run, test lexeme.token = true)
    (hleft : ∀ lexeme ∈ left.head?, test lexeme.token = false) (start : Nat) :
    (placeLexemes start (run ++ left)).takeWhile (fun placed => test placed.token) =
      placeLexemes start run := by
  have hwhole := List.takeWhile_append_dropWhile
    (p := fun placed : PlacedToken => test placed.token) (l := placeLexemes start (run ++ left))
  rw [dropWhile_placeLexemes_append hrun hleft, placeLexemes_append start run left] at hwhole
  rw [placeLexemes_append start run left]
  exact List.append_cancel_right hwhole

/-- An item of a value is spelled by what was taken. -/
theorem valueItem_spells {start : Nat} {row : List Lexeme} {item : Spanned ValueItem}
    {rest : List PlacedToken} (hsource : Located source start row)
    (hhead : ∀ first ∈ row.head?, first.token.isInlineTrivia = false)
    (hread : valueItem source (placeLexemes start row) = some (item, rest)) :
    ∃ run left, row = run ++ left ∧ run ≠ [] ∧ rest = placeLexemes (start + widthOf run) left ∧
      SpellsItem start run item := by
  cases row with
  | nil => cases hread
  | cons first others =>
      simp only [placeLexemes_cons, valueItem] at hread
      split at hread
      · rename_i text htoken
        cases hread
        exact ⟨[first], others, rfl, by simp, rfl, .quoted htoken⟩
      · rename_i token hnotString
        split at hread
        · cases hread
        · rename_i hvalue
          cases hread
          let inValue := fun token => !endsValue token
          obtain ⟨others, left, rfl, hothers, hleft⟩ := exists_run_left inValue others
          have htake := takeWhile_placeLexemes_append hothers hleft (start + widthOf [first])
          have hdrop := dropWhile_placeLexemes_append hothers hleft (start + widthOf [first])
          have hsolid : ∀ lexeme ∈ (first :: others).head?, lexeme.token.isTrivia = false := by
            rintro lexeme ⟨⟩
            exact isTrivia_of_not_endsValue (hhead first rfl) (by simpa using hvalue)
          obtain ⟨core, trail, hsplit, hcore, htrail, hspan⟩ :=
            coveredSpan_placeLexemes start start (List.cons_ne_nil first others) hsolid
          rw [placeLexemes_cons] at hspan
          have hstart : (spanAt start [first]).start = start := rfl
          rw [htake, hdrop, hstart, hspan]
          refine ⟨first :: others, left, rfl, by simp, by simp [Nat.add_assoc], ?_⟩
          rw [← List.cons_append, hsplit, List.append_assoc] at hsource
          rw [hsource.sliceText, hsplit]
          refine .bare hcore ?_ ?_ htrail
          · intro lexeme hlexeme text htoken
            have hmem : lexeme ∈ (core ++ trail).head? :=
              (List.head?_append_of_ne_nil _ hcore.ne_nil).symm ▸ hlexeme
            rw [← hsplit] at hmem
            cases hmem
            exact hnotString text htoken
          · intro lexeme hlexeme
            have hmem : lexeme ∈ first :: others := hsplit ▸ List.mem_append_left trail hlexeme
            rcases List.mem_cons.mp hmem with rfl | hmem
            · simpa using hvalue
            · simpa [inValue] using hothers lexeme hmem

theorem valueItems_eq (source : List Char) (tokens : List PlacedToken) :
    valueItems source tokens =
      match dropInline tokens with
      | [] => ([], [])
      | placed :: rest =>
        match valueItem source (placed :: rest) with
        | none => ([], placed :: rest)
        | some (item, left) =>
          match dropInline left with
          | [] => ([item], [])
          | comma :: behind =>
            if comma.token.isPunct .comma then
              (item :: (valueItems source behind).1, (valueItems source behind).2)
            else ([item], comma :: behind) := by
  rw [valueItems]
  split
  · simp_all
  · split
    · simp_all
    · split <;> simp_all

/-- Where the first item of a value would stand, an end of the value stands. -/
theorem endsValue_of_valueItem_eq_none {source : List Char} {placed : PlacedToken}
    {rest : List PlacedToken} (hread : valueItem source (placed :: rest) = none) :
    endsValue placed.token = true := by
  simp only [valueItem] at hread
  split at hread
  · cases hread
  · split at hread
    · assumption
    · cases hread

/-- The items of a value are read one after the other.  A value has none only in
front of a token that ends values. -/
theorem valueItems_spells {start : Nat} {row : List Lexeme} (hsource : Located source start row) :
    ∃ run left, row = run ++ left ∧
      (valueItems source (placeLexemes start row)).2 = placeLexemes (start + widthOf run) left ∧
      SpellsItems start run (valueItems source (placeLexemes start row)).1 ∧
      ((valueItems source (placeLexemes start row)).1 = [] →
        ∀ lexeme ∈ left.head?, endsValue lexeme.token = true ∧
          lexeme.token.isInlineTrivia = false) := by
  induction hlength : row.length using Nat.strong_induction_on generalizing start row with
  | _ length ih =>
  obtain ⟨gap, inner, rfl, hgap, hhead, hdrop⟩ := dropInline_placeLexemes start row
  rw [List.length_append] at hlength
  rw [valueItems_eq, hdrop]
  cases inner with
  | nil => exact ⟨gap, [], rfl, by simp, .nil hgap, by simp⟩
  | cons first others =>
      rw [placeLexemes_cons]
      simp only
      rw [← placeLexemes_cons]
      cases hread : valueItem source (placeLexemes (start + widthOf gap) (first :: others)) with
      | none =>
          refine ⟨gap, first :: others, rfl, rfl, .nil hgap, ?_⟩
          rintro _ lexeme ⟨⟩
          rw [placeLexemes_cons] at hread
          exact ⟨endsValue_of_valueItem_eq_none hread, hhead first rfl⟩
      | some found =>
          obtain ⟨item, middle⟩ := found
          obtain ⟨run, left, hrow, hne, rfl, hitem⟩ := valueItem_spells hsource.right hhead hread
          have hbehind : Located source (start + widthOf (gap ++ run)) left := by
            rw [hrow, ← List.append_assoc] at hsource
            exact hsource.right
          have hpositive := List.length_pos_iff.mpr hne
          rw [hrow, List.length_append] at hlength
          rw [Nat.add_assoc, ← widthOf_append]
          obtain ⟨trail, next, rfl, htrail, -, hnext⟩ :=
            dropInline_placeLexemes (start + widthOf (gap ++ run)) left
          rw [List.length_append] at hlength
          simp only [hrow, hnext]
          cases next with
          | nil =>
              exact ⟨gap ++ (run ++ trail), [], by simp, by simp, .last hgap hitem htrail, by simp⟩
          | cons comma behind =>
              rw [placeLexemes_cons]
              simp only
              split
              · rename_i hcomma
                rw [List.length_cons] at hlength
                obtain ⟨others, left, rfl, hleft, hothers, -⟩ :=
                  ih behind.length (by omega) hbehind.right.tail rfl
                refine ⟨gap ++ (run ++ (trail ++ comma :: others)), left, by simp, ?_, ?_, by simp⟩
                · rw [hleft]
                  simp [Nat.add_assoc]
                · apply SpellsItems.more hgap hitem htrail (by simpa [Token.isPunct] using hcomma)
                  have hplace : start + widthOf (gap ++ run) + widthOf trail + widthOf [comma] =
                      start + widthOf (gap ++ (run ++ (trail ++ [comma]))) := by
                    simp [Nat.add_assoc]
                  rw [← hplace]
                  exact hothers
              · refine ⟨gap ++ (run ++ trail), comma :: behind, by simp, ?_,
                  .last hgap hitem htrail, by simp⟩
                simp [Nat.add_assoc]

theorem valueList_spells :
    (valueList source).Spells source fun start run value left =>
      SpellsValue start run value ∧
        (value.items = [] → ∀ lexeme ∈ left.head?, endsValue lexeme.token = true ∧
          lexeme.token.isInlineTrivia = false) := by
  rintro start row value rest hsource ⟨⟩
  obtain ⟨run, left, rfl, hleft, hitems, hempty⟩ := valueItems_spells hsource
  refine ⟨run, left, rfl, hleft, ?_, hempty⟩
  rw [hleft, hsource.right.startOffset]
  exact .intro hitems

/-- An entry of a parenthesised list. -/
theorem listedKeyValue_spells :
    (listedKeyValue source).Spells source fun start run entry _ =>
      SpellsKeyValue start run entry := by
  intro start row entry rest hsource hread
  obtain ⟨next, _, ⟨⟩, hread⟩ := Reader.bind_eq_ok hread
  split at hread
  · cases hread
  · rename_i hplain
    obtain ⟨key, _, hreadKey, hread⟩ := Reader.bind_eq_ok hread
    obtain ⟨_, _, hreadGap, hread⟩ := Reader.bind_eq_ok hread
    obtain ⟨colon, _, hreadColon, hread⟩ := Reader.bind_eq_ok hread
    obtain ⟨value, _, hreadValue, ⟨⟩⟩ := Reader.bind_eq_ok hread
    obtain ⟨_, _, rfl, rfl, word, text, rfl, hword, rfl⟩ := Reader.word_spells _ hsource hreadKey
    obtain ⟨gap, _, rfl, rfl, hgap⟩ := Reader.skipInline_spells hsource.right hreadGap
    obtain ⟨_, _, rfl, rfl, mark, rfl, hmark, rfl⟩ :=
      Reader.punct_spells _ _ hsource.right.right hreadColon
    obtain ⟨run, left, rfl, rfl, hvalue, -⟩ :=
      valueList_spells hsource.right.right.right hreadValue
    refine ⟨word :: (gap ++ mark :: run), left, by simp, by simp [Nat.add_assoc], ?_⟩
    have hkey : isDeclarationKeyword word.token = false := by
      simpa using hplain
    have hplace : start + widthOf [word] + widthOf gap + widthOf [mark] =
        start + widthOf (word :: (gap ++ [mark])) := by
      simp [Nat.add_assoc]
    rw [hplace] at hvalue
    have hspells := SpellsKeyValue.intro hword hkey hgap hmark hvalue
    rw [Nat.add_assoc, ← widthOf_append]
    exact hspells

theorem keyValues_spells :
    (keyValues source).Spells source fun start run found _ =>
      SpellsListed SpellsKeyValue start run found.1 ∧ ClosesAt start run found.2 :=
  untilRightParen_spells listedKeyValue_spells

/-- The next lexeme is a comma or a closing parenthesis, which no annotation, no
method and no keyword is. -/
def AtSeparator (row : List Lexeme) : Prop :=
  ∃ mark others, row = mark :: others ∧
    (mark.token = .punct .comma ∨ mark.token = .punct .rightParen)

theorem AtSeparator.behindTrivia {gap row : List Lexeme} (hseparator : AtSeparator (gap ++ row))
    (hgap : AllTrivia gap) : AtSeparator row := by
  cases gap with
  | nil => exact hseparator
  | cons first others =>
      have htrivia := hgap first List.mem_cons_self
      obtain ⟨mark, _, hrow, hmark | hmark⟩ := hseparator
      all_goals
        cases hrow
        simp [hmark, Token.isTrivia] at htrivia

theorem separator_of_endsValue {token : Token} (hvalue : endsValue token = true)
    (hinline : token.isInlineTrivia = false) (hline : endsLine token = false) :
    token = .punct .comma ∨ token = .punct .rightParen := by
  cases token <;>
    simp_all [endsValue, endsLine, Token.isInlineTrivia]

theorem SpellsItems.allInline_of_nil {start : Nat} {run : List Lexeme}
    (hitems : SpellsItems start run []) : AllInline run := by
  cases hitems
  assumption

theorem dropInline_placeLexemes_append {gap left : List Lexeme} (hgap : AllInline gap)
    (hleft : ∀ lexeme ∈ left.head?, lexeme.token.isInlineTrivia = false) (start : Nat) :
    dropInline (placeLexemes start (gap ++ left)) = placeLexemes (start + widthOf gap) left :=
  dropWhile_placeLexemes_append hgap hleft start

/-- A value behind the name of an annotation, where neither a parenthesis nor the
end of the line comes next. -/
theorem inlineValue_spells {start : Nat} {row : List Lexeme} {value : ValueList}
    {rest : List PlacedToken} (hsource : Located source start row)
    (hopener : atPunct .leftParen (dropInline (placeLexemes start row)).head? = false)
    (hline : atLineEnd (dropInline (placeLexemes start row)).head? = false)
    (hread : valueList source (placeLexemes start row) = .ok (value, rest)) :
    ∃ run left, row = run ++ left ∧ rest = placeLexemes (start + widthOf run) left ∧
      SpellsValue start run value ∧
      (∀ gap first others, run = gap ++ first :: others → AllInline gap →
        first.token ≠ .punct .leftParen) ∧
      (value.items = [] → AtSeparator left) := by
  obtain ⟨run, left, rfl, rfl, hvalue, hempty⟩ := valueList_spells hsource hread
  refine ⟨run, left, rfl, rfl, hvalue, ?_, ?_⟩
  · rintro gap first others rfl hgap hfirst
    rw [List.append_assoc, List.cons_append, dropInline_placeLexemes_append hgap (by
      rintro lexeme ⟨⟩
      rw [hfirst]
      rfl)] at hopener
    simp [atPunct, hfirst, Token.isPunct] at hopener
  · intro hnil
    obtain ⟨hitems⟩ := hvalue
    obtain rfl := hnil
    have hleft : ∀ lexeme ∈ left.head?, lexeme.token.isInlineTrivia = false :=
      fun lexeme hmem => (hempty rfl lexeme hmem).2
    rw [dropInline_placeLexemes_append hitems.allInline_of_nil hleft] at hline
    cases left with
    | nil => cases hline
    | cons first others =>
        refine ⟨first, others, rfl, ?_⟩
        apply separator_of_endsValue (hempty rfl first rfl).1 (hleft first rfl)
        simpa [atLineEnd] using hline

/-- An annotation is read as the grammar spells it, and one with a value without
items stands before a comma or a closing parenthesis. -/
theorem annotationStep_spells :
    (annotationStep source).Spells source fun start run note left =>
      SpellsAnnotation start run note ∧ (isHollow note = true → AtSeparator left) := by
  intro start row note rest hsource hread
  obtain ⟨sign, _, hreadSign, hread⟩ := Reader.bind_eq_ok hread
  obtain ⟨name, _, hreadName, hread⟩ := Reader.bind_eq_ok hread
  obtain ⟨⟨body, last⟩, _, hreadBody, ⟨⟩⟩ := Reader.bind_eq_ok hread
  obtain ⟨_, _, rfl, rfl, mark, rfl, hmark, rfl⟩ := Reader.punct_spells _ _ hsource hreadSign
  obtain ⟨_, row, rfl, rfl, word, text, rfl, hword, rfl⟩ :=
    Reader.word_spells _ hsource.right hreadName
  have hbehind := hsource.right.right
  rw [Nat.add_assoc, ← widthOf_append] at hreadBody hbehind
  obtain ⟨next, _, ⟨⟩, hreadBody⟩ := Reader.bind_eq_ok hreadBody
  split at hreadBody
  · obtain ⟨_, _, hreadGap, hreadBody⟩ := Reader.bind_eq_ok hreadBody
    obtain ⟨_, _, hreadOpener, hreadBody⟩ := Reader.bind_eq_ok hreadBody
    obtain ⟨⟨entries, close⟩, _, hreadEntries, ⟨⟩⟩ := Reader.bind_eq_ok hreadBody
    obtain ⟨gap, _, rfl, rfl, hgap⟩ := Reader.skipInline_spells hbehind hreadGap
    obtain ⟨_, _, rfl, rfl, opener, rfl, hopener, _⟩ :=
      Reader.punct_spells _ _ hbehind.right hreadOpener
    obtain ⟨run, left, rfl, rfl, hentries, hcloses⟩ :=
      keyValues_spells hbehind.right.right hreadEntries
    refine ⟨mark :: word :: (gap ++ opener :: run), left, by simp, by simp [Nat.add_assoc], ?_,
      by simp [isHollow]⟩
    rw [Option.getD_some]
    have hspan : (spanAt start [mark]).union close =
        spanAt start (mark :: word :: (gap ++ opener :: run)) := by
      rw [widthOf_append, ← Nat.add_assoc] at hcloses
      exact hcloses.prepend.prepend.prepend.union
    have hplace : start + widthOf ([mark] ++ [word]) + widthOf gap + widthOf [opener] =
        start + widthOf (mark :: word :: (gap ++ [opener])) := by
      simp [Nat.add_assoc]
    rw [hplace] at hentries
    rw [hspan]
    exact .block hmark hword hgap hopener hentries
  · rename_i hparen
    split at hreadBody
    · cases hreadBody
      refine ⟨[mark, word], row, rfl, rfl, ?_, by simp [isHollow]⟩
      rw [Option.getD_none, spanAt_union_next]
      exact .empty hmark hword
    · rename_i hline
      obtain ⟨value, _, hreadValue, ⟨⟩⟩ := Reader.bind_eq_ok hreadBody
      obtain ⟨run, left, rfl, rfl, hvalue, hplain, hempty⟩ :=
        inlineValue_spells hbehind (by simpa using hparen) (by simpa using hline) hreadValue
      refine ⟨mark :: word :: run, left, rfl, by simp [Nat.add_assoc], ?_, ?_⟩
      · have hnote := SpellsAnnotation.inline hmark hword hplain hvalue
        cases hitems : value.items.isEmpty <;> simpa [hitems] using hnote
      · simpa [isHollow] using hempty

theorem SpellsAnnotation.startsWithSign {start : Nat} {run : List Lexeme} {note : Annotation}
    (hnote : SpellsAnnotation start run note) :
    ∃ sign others, run = sign :: others ∧ sign.token = .punct .atSign := by
  cases hnote with
  | empty hsign _ | inline hsign _ _ _ | block hsign _ _ _ _ => exact ⟨_, _, rfl, hsign⟩

theorem annotations_eq (source : List Char) (tokens : List PlacedToken) :
    annotations source tokens =
      if atPunct .atSign tokens.head? then
        (do let first ← annotationStep source
            Reader.skipTrivia
            let others ← annotations source
            pure (first :: others) : Reader (List Annotation)) tokens
      else .ok ([], tokens) := by
  rw [annotations]
  split
  · simp only [bind, Reader.andThen, Reader.skipTrivia, Reader.skipWhile]
    split
    · rename_i mismatch hread
      simp only [hread]
    · rename_i first rest hread
      simp only [hread, dropTrivia]
      cases annotations source (rest.dropWhile fun placed => placed.token.isTrivia) <;> rfl
  · rfl

/-- Annotations in a row are read as the grammar spells them.  If one of them has a
value without items, a comma or a closing parenthesis comes next. -/
theorem annotations_spells :
    Reader.Spells source (annotations source) fun start run notes left =>
      SpellsAnnotations start run notes ∧
        ((∃ note ∈ notes, isHollow note = true) → AtSeparator left) := by
  intro start row notes rest hsource hread
  induction hlength : row.length using Nat.strong_induction_on
    generalizing start row notes rest with
  | _ length ih =>
  rw [annotations_eq] at hread
  split at hread
  · obtain ⟨first, _, hreadFirst, hread⟩ := Reader.bind_eq_ok hread
    obtain ⟨_, _, hreadGap, hread⟩ := Reader.bind_eq_ok hread
    obtain ⟨others, _, hreadOthers, ⟨⟩⟩ := Reader.bind_eq_ok hread
    have hshorter := annotationStep_advances source _ _ _ hreadFirst
    obtain ⟨run, _, rfl, rfl, hfirst, hhollow⟩ := annotationStep_spells hsource hreadFirst
    obtain ⟨gap, row, rfl, rfl, hgap⟩ := Reader.skipTrivia_spells hsource.right hreadGap
    simp only [length_placeLexemes, List.length_append] at hshorter hlength
    obtain ⟨others, left, rfl, rfl, hothers, hseparator⟩ :=
      ih row.length (by omega) hsource.right.right hreadOthers rfl
    rw [Nat.add_assoc, ← widthOf_append] at hothers
    refine ⟨run ++ (gap ++ others), left, by simp, by simp [Nat.add_assoc],
      .cons hfirst hgap hothers, ?_⟩
    rintro ⟨note, hnote, hnoteHollow⟩
    rcases List.mem_cons.mp hnote with rfl | hnote
    · have hnext := (hhollow hnoteHollow).behindTrivia hgap
      cases hothers with
      | nil => exact hnext
      | cons hother _ _ =>
          obtain ⟨sign, more, rfl, hsign⟩ := hother.startsWithSign
          obtain ⟨mark, _, hrow, hmark⟩ := hnext
          cases hrow
          simp [hsign] at hmark
    · exact hseparator ⟨note, hnote, hnoteHollow⟩
  · cases hread
    exact ⟨[], row, rfl, by simp, .nil, by simp⟩

end ApiLang
