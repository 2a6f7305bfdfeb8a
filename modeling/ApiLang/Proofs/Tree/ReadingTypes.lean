/-
Reading names and types.  What the readers of names and types take from the
source is what the grammar allows, and the text they keep is the text they took.
-/
import ApiLang.Proofs.Tree.Located

namespace ApiLang

variable {source : List Char}

/-- A dot and a name that touch what was taken extend it. -/
theorem extendName_step (start : Nat) (taken more : List Lexeme) {dot part : Lexeme}
    (hdot : dot.token = .punct .dot) (hpart : isIdentifier part.token = true) :
    extendName (spanAt start taken) (placeLexemes (start + widthOf taken) (dot :: part :: more)) =
      extendName (spanAt start (taken ++ [dot, part]))
        (placeLexemes (start + widthOf (taken ++ [dot, part])) more) := by
  have hspan : (spanAt start taken).union
      (spanAt (start + widthOf taken + widthOf [dot]) [part]) =
        spanAt start (taken ++ [dot, part]) := by
    have hunion := spanAt_union start taken [dot] [part]
    rwa [widthOf_append, ← Nat.add_assoc] at hunion
  rw [placeLexemes_cons, placeLexemes_cons, extendName, if_pos (by
    simp [hdot, hpart, Token.isPunct, PlacedToken.follows, spanAt]), hspan]
  simp [Nat.add_assoc]

theorem extendName_placeLexemes (start : Nat) (taken row : List Lexeme) :
    ∃ tail left, row = tail ++ left ∧ NameTail tail ∧
      extendName (spanAt start taken) (placeLexemes (start + widthOf taken) row) =
        (spanAt start (taken ++ tail),
          placeLexemes (start + widthOf (taken ++ tail)) left) := by
  match row with
  | [] => exact ⟨[], [], rfl, .nil, by simp [extendName]⟩
  | [lexeme] => exact ⟨[], [lexeme], rfl, .nil, by simp [extendName]⟩
  | dot :: part :: more =>
      by_cases hmore : dot.token = .punct .dot ∧ isIdentifier part.token = true
      · obtain ⟨tail, left, rfl, htail, hextend⟩ :=
          extendName_placeLexemes start (taken ++ [dot, part]) more
        refine ⟨dot :: part :: tail, left, rfl, .cons hmore.1 hmore.2 htail, ?_⟩
        rw [extendName_step start taken _ hmore.1 hmore.2, hextend]
        simp
      · refine ⟨[], dot :: part :: more, rfl, .nil, ?_⟩
        rw [placeLexemes_cons, placeLexemes_cons, extendName, if_neg (by
          simp only [Token.isPunct, Bool.and_eq_true, beq_iff_eq]
          exact fun hcond => hmore ⟨hcond.1.1.1, hcond.1.2⟩)]
        simp

theorem isIdentifier_of_eq {token : Token} {text : String} (htoken : token = .identifier text) :
    isIdentifier token = true := by
  rw [htoken]
  rfl

theorem qualifiedName_spells :
    (qualifiedName source).Spells source fun start run name _ => SpellsName start run name := by
  intro start row name rest hsource hread
  obtain ⟨first, middle, hfirst, hrest⟩ := Reader.bind_eq_ok hread
  obtain ⟨_, left, rfl, rfl, lexeme, text, rfl, htoken, rfl⟩ :=
    Reader.identifier_spells _ hsource hfirst
  obtain ⟨tail, behind, rfl, htail, hextend⟩ := extendName_placeLexemes start [lexeme] left
  simp only [restOfName, hextend, Except.ok.injEq, Prod.mk.injEq] at hrest
  obtain ⟨rfl, rfl⟩ := hrest
  refine ⟨lexeme :: tail, behind, by simp, rfl, ?_⟩
  have hlocated : Located source start ((lexeme :: tail) ++ behind) := by simpa using hsource
  rw [List.singleton_append, hlocated.sliceText]
  exact .intro (isIdentifier_of_eq htoken) htail

theorem typeExpr_eq_map (tokens : List PlacedToken) :
    typeExpr source tokens =
      (readType source tokens).map fun found => (found.1, found.2.val) := by
  rw [typeExpr]
  cases readType source tokens <;> rfl

/-- Reading a type, without the bookkeeping about what is left. -/
theorem typeExpr_eq (tokens : List PlacedToken) :
    typeExpr source tokens =
      match tokens with
      | [] => .error ⟨.typeExpr, []⟩
      | placed :: rest =>
        match placed.token with
        | .punct .star =>
          (do let inner ← typeExpr source
              pure (.pointer inner (placed.span.union inner.span)) : Reader TypeExpr) rest
        | .punct .leftBracket =>
          (do let size ← bracketedSize
              let element ← typeExpr source
              pure (.slice size element (placed.span.union element.span)) : Reader TypeExpr) rest
        | .identifier name =>
          if name = "map" ∧ atPunct .leftBracket rest.head? then
            (do let key ← typeExpr source
                let _ ← Reader.punct .rightBracket .rightBracket
                let value ← typeExpr source
                pure (.map key value (placed.span.union value.span)) : Reader TypeExpr) rest.tail
          else if name = "interface" ∧ atPunct .leftBrace rest.head? then
            (do let close ← emptyBraces
                pure (.interface (placed.span.union close)) : Reader TypeExpr) rest
          else
            (do let name ← qualifiedName source
                pure (.named name) : Reader TypeExpr) (placed :: rest)
        | _ => .error ⟨.typeExpr, placed :: rest⟩ := by
  simp only [bind, Reader.andThen, typeExpr_eq_map]
  fun_induction readType source tokens with
  | case1 => rfl
  | case2 placed rest htoken mismatch hread =>
      simp only [htoken, hread, Except.map]
  | case3 placed rest htoken inner left _ hread =>
      simp only [htoken, hread, Except.map]
      rfl
  | case4 placed rest htoken mismatch hsize =>
      simp only [htoken, hsize, Except.map]
  | case5 placed rest htoken size behind hsize _ mismatch hread =>
      simp only [htoken, hsize, hread, Except.map]
  | case6 placed rest htoken size behind hsize _ element left _ hread =>
      simp only [htoken, hsize, hread, Except.map]
      rfl
  | case7 placed rest name htoken hword mismatch hread =>
      simp only [htoken, if_pos hword, hread, Except.map]
  | case8 placed rest name htoken hword key afterKey _ hkey mismatch hclose =>
      simp only [htoken, if_pos hword, hkey, hclose, Except.map]
  | case9 placed rest name htoken hword key afterKey _ hkey _ behind hclose _ mismatch hread =>
      simp only [htoken, if_pos hword, hkey, hclose, hread, Except.map]
  | case10 placed rest name htoken hword key afterKey _ hkey _ behind hclose _ value left _
      hread =>
      simp only [htoken, if_pos hword, hkey, hclose, hread, Except.map]
      rfl
  | case11 placed rest name htoken hmap hword mismatch hbraces =>
      simp only [htoken, if_neg hmap, if_pos hword, hbraces, Except.map]
  | case12 placed rest name htoken hmap hword close left hbraces =>
      simp only [htoken, if_neg hmap, if_pos hword, hbraces, Except.map]
      rfl
  | case13 placed rest name htoken hmap hword mismatch hname =>
      simp only [htoken, if_neg hmap, if_neg hword, hname, Except.map]
  | case14 placed rest name htoken hmap hword found left hname =>
      simp only [htoken, if_neg hmap, if_neg hword, hname, Except.map]
      rfl
  | case15 placed rest hstar hbracket hname =>
      simp only [Except.map]

theorem bracketedSize_spells :
    bracketedSize.Spells source fun start run size _ =>
      (∃ close, run = [close] ∧ close.token = .punct .rightBracket ∧ size = none) ∨
        ∃ number close digits, run = [number, close] ∧ number.token = .number digits ∧
          close.token = .punct .rightBracket ∧ size = some ⟨digits, spanAt start [number]⟩ := by
  intro start row size rest hsource hread
  obtain ⟨found, middle, hsize, hread⟩ := Reader.bind_eq_ok hread
  obtain ⟨close, behind, hclose, ⟨⟩⟩ := Reader.bind_eq_ok hread
  obtain ⟨run, left, rfl, rfl, hrun⟩ := Reader.optional_spells _ hsource hsize
  obtain ⟨_, left, rfl, rfl, mark, rfl, hmark, _⟩ := Reader.punct_spells _ _ hsource.right hclose
  rcases hrun with ⟨number, found, rfl, haccept, rfl⟩ | ⟨rfl, rfl⟩
  · split at haccept
    · rename_i digits hdigits
      cases haccept
      exact ⟨[number, mark], left, rfl, by simp [Nat.add_assoc],
        .inr ⟨number, mark, digits, rfl, hdigits, hmark, rfl⟩⟩
    · cases haccept
  · exact ⟨[mark], left, rfl, by simp, .inl ⟨mark, rfl, hmark, rfl⟩⟩

theorem emptyBraces_spells :
    emptyBraces.Spells source fun start run span _ =>
      ∃ opener gap close, run = opener :: (gap ++ [close]) ∧ opener.token = .punct .leftBrace ∧
        AllInline gap ∧ close.token = .punct .rightBrace ∧
        span = spanAt (start + widthOf (opener :: gap)) [close] := by
  refine ((Reader.punct_spells _ _).bind fun _ => Reader.skipInline_spells.bind fun _ =>
    Reader.punct_spells _ _).imp ?_
  rintro start _ span left ⟨_, _, _, rfl, ⟨opener, rfl, hopener, _⟩, gap, _, _, rfl, hgap, close,
    rfl, hclose, rfl⟩
  exact ⟨opener, gap, close, rfl, hopener, hgap, hclose, by simp [Nat.add_assoc]⟩

theorem SpellsName.span_eq {start : Nat} {run : List Lexeme} {name : Spanned String}
    (hname : SpellsName start run name) : name.span = spanAt start run := by
  cases hname
  rfl

theorem SpellsType.span_eq {start : Nat} {run : List Lexeme} {type : TypeExpr}
    (htype : SpellsType start run type) : type.span = spanAt start run := by
  cases htype with
  | named hname => exact hname.span_eq
  | pointer | slice | array | map | interface => rfl

/-- In rows of less than `length` lexemes, types are read as the grammar spells
them. -/
def ReadsTypesBelow (source : List Char) (length : Nat) : Prop :=
  ∀ (start : Nat) (row : List Lexeme) (type : TypeExpr) (rest : List PlacedToken),
    row.length < length → Located source start row →
    typeExpr source (placeLexemes start row) = .ok (type, rest) →
    ∃ run left, row = run ++ left ∧ rest = placeLexemes (start + widthOf run) left ∧
      SpellsType start run type

section Compound

variable {start length : Nat} {word : Lexeme} {row : List Lexeme} {type : TypeExpr}
  {rest : List PlacedToken}

theorem sliceType_spells (hbelow : ReadsTypesBelow source length) (hlength : row.length < length)
    (hsource : Located source start (word :: row)) (hopener : word.token = .punct .leftBracket)
    (hread : (do
      let size ← bracketedSize
      let element ← typeExpr source
      pure (.slice size element ((spanAt start [word]).union element.span)) : Reader TypeExpr)
      (placeLexemes (start + widthOf [word]) row) = .ok (type, rest)) :
    ∃ run left, word :: row = run ++ left ∧ rest = placeLexemes (start + widthOf run) left ∧
      SpellsType start run type := by
  obtain ⟨size, _, hreadSize, hread⟩ := Reader.bind_eq_ok hread
  obtain ⟨element, _, helement, ⟨⟩⟩ := Reader.bind_eq_ok hread
  obtain ⟨sizeRun, behind, rfl, rfl, hsize⟩ := bracketedSize_spells hsource.tail hreadSize
  rw [List.length_append] at hlength
  obtain ⟨run, left, rfl, rfl, htype⟩ :=
    hbelow _ _ _ _ (by omega) hsource.tail.right helement
  rw [Nat.add_assoc, ← widthOf_append] at htype
  rw [htype.span_eq, spanAt_union]
  refine ⟨word :: (sizeRun ++ run), left, by simp, by simp [Nat.add_assoc], ?_⟩
  rcases hsize with ⟨close, rfl, hclose, rfl⟩ | ⟨number, close, digits, rfl, hnumber, hclose, rfl⟩
  · exact .slice hopener hclose htype
  · exact .array hopener hnumber hclose htype

theorem mapType_spells (hbelow : ReadsTypesBelow source length) (hlength : row.length < length)
    (hsource : Located source start (word :: row)) (hword : word.token = .identifier "map")
    (hnext : atPunct .leftBracket (placeLexemes (start + widthOf [word]) row).head? = true)
    (hread : (do
      let key ← typeExpr source
      let _ ← Reader.punct .rightBracket .rightBracket
      let value ← typeExpr source
      pure (.map key value ((spanAt start [word]).union value.span)) : Reader TypeExpr)
      (placeLexemes (start + widthOf [word]) row).tail = .ok (type, rest)) :
    ∃ run left, word :: row = run ++ left ∧ rest = placeLexemes (start + widthOf run) left ∧
      SpellsType start run type := by
  obtain ⟨opener, inside, rfl, hopener⟩ := atPunct_head?_placeLexemes hnext
  rw [placeLexemes_cons, List.tail_cons] at hread
  obtain ⟨key, _, hreadKey, hread⟩ := Reader.bind_eq_ok hread
  obtain ⟨_, _, hreadClose, hread⟩ := Reader.bind_eq_ok hread
  obtain ⟨value, _, hreadValue, ⟨⟩⟩ := Reader.bind_eq_ok hread
  have hinside := hsource.tail.tail
  rw [List.length_cons] at hlength
  obtain ⟨keyRun, behind, rfl, rfl, hkey⟩ := hbelow _ _ _ _ (by omega) hinside hreadKey
  obtain ⟨_, behind, rfl, rfl, close, rfl, hclose, _⟩ :=
    Reader.punct_spells _ _ hinside.right hreadClose
  rw [List.length_append, List.length_append] at hlength
  obtain ⟨run, left, rfl, rfl, htype⟩ :=
    hbelow _ _ _ _ (by omega) hinside.right.right hreadValue
  have hplace : start + widthOf [word] + widthOf [opener] + widthOf keyRun + widthOf [close] =
      start + widthOf ([word] ++ (opener :: (keyRun ++ [close]))) := by
    simp [Nat.add_assoc]
  rw [hplace] at htype
  rw [htype.span_eq, spanAt_union]
  refine ⟨word :: opener :: (keyRun ++ close :: run), left, by simp, by simp [Nat.add_assoc], ?_⟩
  rw [Nat.add_assoc, ← widthOf_append] at hkey
  simpa using SpellsType.map hword hopener hkey hclose htype

end Compound

/-- If shorter types are read as spelled, so are types one lexeme longer. -/
theorem ReadsTypesBelow.succ {length : Nat} (hbelow : ReadsTypesBelow source length) :
    ReadsTypesBelow source (length + 1) := by
  intro start row type rest hlength hsource hread
  cases row with
  | nil =>
      rw [placeLexemes_nil, typeExpr_eq] at hread
      cases hread
  | cons lexeme others =>
      rw [List.length_cons, Nat.add_lt_add_iff_right] at hlength
      rw [placeLexemes_cons, typeExpr_eq] at hread
      simp only at hread
      split at hread
      · rename_i hstar
        obtain ⟨inner, _, hinner, ⟨⟩⟩ := Reader.bind_eq_ok hread
        obtain ⟨run, left, rfl, rfl, htype⟩ := hbelow _ _ _ _ hlength hsource.tail hinner
        refine ⟨lexeme :: run, left, rfl, by simp [Nat.add_assoc], ?_⟩
        rw [htype.span_eq, spanAt_union_next]
        exact .pointer hstar htype
      · rename_i hopener
        exact sliceType_spells hbelow hlength hsource hopener hread
      · rename_i name hname
        split at hread
        · rename_i hmap
          rw [hmap.1] at hname
          exact mapType_spells hbelow hlength hsource hname hmap.2 hread
        · split at hread
          · rename_i hinterface
            obtain ⟨close, _, hreadBraces, ⟨⟩⟩ := Reader.bind_eq_ok hread
            obtain ⟨_, left, rfl, rfl, opener, gap, mark, rfl, hopener, hgap, hclose, rfl⟩ :=
              emptyBraces_spells hsource.tail hreadBraces
            refine ⟨lexeme :: opener :: (gap ++ [mark]), left, rfl, by simp [Nat.add_assoc], ?_⟩
            rw [Nat.add_assoc, ← widthOf_append, spanAt_union]
            rw [hinterface.1] at hname
            simpa using SpellsType.interface hname hopener hgap hclose
          · obtain ⟨found, _, hreadName, ⟨⟩⟩ := Reader.bind_eq_ok hread
            rw [← placeLexemes_cons] at hreadName
            obtain ⟨run, left, hrow, hrest, hspells⟩ := qualifiedName_spells hsource hreadName
            exact ⟨run, left, hrow, hrest, .named hspells⟩
      · cases hread

/-- A type is read as the grammar spells it. -/
theorem typeExpr_spells :
    (typeExpr source).Spells source fun start run type _ => SpellsType start run type := by
  have hbelow : ∀ length, ReadsTypesBelow source length := by
    intro length
    induction length with
    | zero =>
        intro start row type rest hlength
        cases hlength
    | succ length ih => exact ih.succ
  intro start row type rest hsource hread
  exact hbelow (row.length + 1) start row type rest (Nat.lt_succ_self _) hsource hread

end ApiLang
