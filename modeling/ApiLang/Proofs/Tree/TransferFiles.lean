/-
Declarations and files in two sources.  A file reads the same at another place,
and whole declarations read the same in front of more.
-/
import ApiLang.Proofs.Tree.QuietReaders
import ApiLang.Proofs.Tree.TransferBodies

namespace ApiLang

variable {α : Type} {t : Transfer}

open Reader

theorem announcesService_eq (source : List Char) (tokens : List PlacedToken) :
    announcesService source tokens =
      if atPunct .atSign tokens.head? then
        match annotationStep source tokens with
        | .error _ => false
        | .ok (_, rest) =>
          ((dropTrivia rest).head?.any fun placed => placed.token.isKeyword .serviceWord) ||
            announcesService source (dropTrivia rest)
      else false := by
  rw [announcesService]
  split
  · split
    · rename_i hread
      rw [hread]
    · rename_i hread
      rw [hread]
      split <;> simp_all
  · rfl

/-- Where the input ends with the stretch, a service is announced in the target
as in the source. -/
theorem announcesService_shift (hrest : t.rest = []) {tokens : List PlacedToken}
    (hholds : t.Holds tokens) :
    announcesService t.target (tokens.map (PlacedToken.shift t.distance)) =
      announcesService t.source tokens := by
  induction hlength : tokens.length using Nat.strong_induction_on generalizing tokens with
  | _ length ih =>
  rw [announcesService_eq, announcesService_eq t.source]
  have hsign : atPunct .atSign (tokens.map (PlacedToken.shift t.distance)).head? =
      atPunct .atSign tokens.head? := by
    cases tokens <;> rfl
  rw [hsign]
  congr 1
  cases hread : annotationStep t.source tokens with
  | error mismatch =>
      have hstep : (annotationStep t.source).Transfers t false _ _ := transfers_annotationStep
      rw [hstep.error_shift hrest hholds hread]
  | ok found =>
      obtain ⟨note, left⟩ := found
      have hstep : (annotationStep t.source).Transfers t false _ _ := transfers_annotationStep
      have hleft := (annotationStep_keeps t.source tokens).1 _ _ hread
      have hbehind := (dropTrivia_suffix left).trans hleft
      have hshorter := annotationStep_advances t.source _ _ _ hread
      have hwithin := (dropTrivia_suffix left).length_le
      rw [hstep.ok_shift hrest hholds hread]
      simp only [dropTrivia_shift, head?_any_shift fun token => token.isKeyword .serviceWord]
      rw [ih (dropTrivia left).length (by omega) (hholds.mono hbehind) rfl]

/-- No annotations are read exactly where there is no sign. -/
theorem annotations_ok_nil {source : List Char} {tokens left : List PlacedToken}
    (hread : annotations source tokens = .ok ([], left)) :
    atPunct .atSign tokens.head? = false ∧ left = tokens := by
  rw [annotations_eq] at hread
  split at hread
  · obtain ⟨_, _, _, hread⟩ := bind_eq_ok hread
    obtain ⟨_, _, _, hread⟩ := bind_eq_ok hread
    obtain ⟨_, _, _, hread⟩ := bind_eq_ok hread
    cases hread
  · rename_i hsign
    cases hread
    exact ⟨Bool.eq_false_iff.mpr hsign, rfl⟩

theorem annotations_ok_cons {source : List Char} {tokens left : List PlacedToken}
    {note : Annotation} {others : List Annotation}
    (hread : annotations source tokens = .ok (note :: others, left)) :
    atPunct .atSign tokens.head? = true ∧
      ∃ rest, annotationStep source tokens = .ok (note, rest) ∧
        annotations source (dropTrivia rest) = .ok (others, left) := by
  rw [annotations_eq] at hread
  split at hread
  · rename_i hsign
    obtain ⟨first, rest, hfirst, hread⟩ := bind_eq_ok hread
    obtain ⟨_, middle, hskip, hread⟩ := bind_eq_ok hread
    obtain ⟨more, behind, hmore, hread⟩ := bind_eq_ok hread
    cases hread
    rw [← (Prod.mk.inj (Except.ok.inj hskip)).2] at hmore
    exact ⟨hsign, rest, hfirst, hmore⟩
  · cases hread

/-- Annotations that are read, with no service behind them, announce none. -/
theorem announcesService_eq_false {source : List Char} {tokens left : List PlacedToken}
    {notes : List Annotation} (hread : annotations source tokens = .ok (notes, left))
    (hnext : (left.head?.any fun placed => placed.token.isKeyword .serviceWord) = false) :
    announcesService source tokens = false := by
  induction notes generalizing tokens with
  | nil => rw [announcesService_eq, (annotations_ok_nil hread).1, if_neg Bool.false_ne_true]
  | cons note others ih =>
      obtain ⟨hsign, rest, hfirst, hothers⟩ := annotations_ok_cons hread
      rw [announcesService_eq, if_pos hsign, hfirst]
      simp only [ih hothers, Bool.or_false]
      -- At the word `service` no further annotation is read.
      by_contra hword
      rw [Bool.not_eq_false] at hword
      cases others with
      | nil =>
          rw [(annotations_ok_nil hothers).2, hword] at hnext
          cases hnext
      | cons other more =>
          obtain ⟨hother, _⟩ := annotations_ok_cons hothers
          cases hhead : (dropTrivia rest).head? with
          | none => simp [hhead] at hword
          | some placed =>
              simp only [hhead, atPunct, Option.any_some, Token.isPunct, Token.isKeyword,
                beq_iff_eq] at hother hword
              rw [hword] at hother
              cases hother

/-- Annotations that are read, with the word `service` behind them, announce a
service. -/
theorem announcesService_eq_true {source : List Char} {tokens left : List PlacedToken}
    {notes : List Annotation} (hread : annotations source tokens = .ok (notes, left))
    (hnotes : notes ≠ [])
    (hnext : (left.head?.any fun placed => placed.token.isKeyword .serviceWord) = true) :
    announcesService source tokens = true := by
  induction notes generalizing tokens with
  | nil => exact absurd rfl hnotes
  | cons note others ih =>
      obtain ⟨hsign, rest, hfirst, hothers⟩ := annotations_ok_cons hread
      rw [announcesService_eq, if_pos hsign, hfirst]
      cases others with
      | nil =>
          rw [(annotations_ok_nil hothers).2] at hnext
          simp only [hnext, Bool.true_or]
      | cons other more =>
          simp only [ih hothers (List.cons_ne_nil other more), Bool.or_true]

theorem serviceEntry_transfers {strict : Bool} {good : ServiceEntry → Prop} :
    (serviceRules t.source).entry.read.TransfersIf t strict good (ServiceEntry.shift t.distance)
      (serviceRules t.target).entry.read :=
  Transfers.make (@transfers_route t strict) fun _ => rfl

/-- A method is no reserved word. -/
theorem isKeyword_of_routeMethod {placed : PlacedToken} {rest behind : List PlacedToken}
    {method : Spanned String} (hread : routeMethod (placed :: rest) = .ok (method, behind))
    (word : Keyword) : placed.token.isKeyword word = false := by
  simp only [routeMethod, Reader.expect] at hread
  split at hread
  · rename_i haccept
    have hname := isIdentifier_of_accept_method haccept
    rw [Token.isKeyword, beq_eq_false_iff_ne]
    intro htoken
    rw [htoken] at hname
    cases hname
  · cases hread

/-- Where a route is read, no service is announced. -/
theorem serviceRules_goesOn {placed : PlacedToken} {others left : List PlacedToken}
    {entry : ServiceEntry} (hholds : t.Holds (placed :: others))
    (hstops : (serviceRules t.source).stops (placed :: others ++ t.rest) = false)
    (hread : (serviceRules t.source).entry.read (placed :: others ++ t.rest) =
      .ok (entry, left ++ t.rest)) :
    (serviceRules t.target).stops (t.move (placed :: others)) = false := by
  obtain ⟨found, _, hroute, ⟨⟩⟩ := bind_eq_ok hread
  obtain ⟨notes, middle, hnotes, hline⟩ := bind_eq_ok hroute
  have hadvances : Reader.Advances (do
      let method ← routeMethod
      restOfRoute t.source notes method) :=
    bind_advances_of_first (expect_advances _ _) fun _ => restOfRoute_keeps _ _ _
  have hkeeps : Reader.Keeps (do
      let method ← routeMethod
      restOfRoute t.source notes method) :=
    bind_keeps (expect_keeps _ _) fun _ => restOfRoute_keeps _ _ _
  obtain ⟨kept, rfl, _, _⟩ := Transfer.exists_left
    ((annotations_keeps t.source _).1 _ _ hnotes) ((hkeeps _).1 _ _ hline)
  cases kept with
  | nil => exact absurd hline hadvances.not_ok_rest
  | cons word more =>
      obtain ⟨method, behind, hmethod, _⟩ := bind_eq_ok hline
      have hnotes' := transfers_annotations.ok hholds hnotes
        (fun _ => .inr (List.cons_ne_nil word more)) (.inr trivial)
      have hquiet := announcesService_eq_false hnotes'
        (by exact isKeyword_of_routeMethod hmethod .serviceWord)
      exact Bool.or_eq_false_iff.mpr ⟨(Bool.or_eq_false_iff.mp hstops).1, hquiet⟩

theorem serviceRules_transfer :
    BodyTransfer t ServiceEntry.Whole (ServiceEntry.shift t.distance) (serviceRules t.source)
      (serviceRules t.target) where
  closer := rfl
  skipped _ := rfl
  notWhole _ := id
  entry := serviceEntry_transfers
  stops hholds hrest := congrArg₂ or (head?_any_shift isDeclarationKeyword _ _)
    (announcesService_shift hrest hholds)
  goesOn := serviceRules_goesOn

theorem transfers_restOfService (notes : List Annotation) (keyword : Span) :
    (restOfService t.source notes keyword).TransfersIf t false
      (fun service => service.body.Whole ServiceEntry.Whole) (Service.shift t.distance)
      (restOfService t.target (notes.map <| Annotation.shift t.distance)
        (keyword.shift t.distance)) := by
  refine transfers_skipInline.bind fun _ => transfers_serviceName.bind fun name =>
    transfers_skipTrivia.bind_of_advances (fun _ => ?_) fun _ => ?_
  · exact (transfers_punct _ _).bind fun opener =>
      (transfers_body serviceRules_transfer opener).make (fun _ => rfl) fun _ => id
  · exact bind_advances_of_first (expect_advances _ _) fun _ =>
      bind_keeps (body_keeps _ _ _) fun _ => pure_keeps _

theorem transfers_service :
    (service t.source).TransfersIf t false (fun service => service.body.Whole ServiceEntry.Whole)
      (Service.shift t.distance) (service t.target) := by
  refine transfers_annotations.bind_of_advances (fun notes => ?_) fun notes => ?_
  · exact (transfers_keyword _ _).bind fun keyword => transfers_restOfService notes keyword
  · exact bind_advances_of_first (expect_advances _ _) fun _ => restOfService_keeps _ _ _

theorem transfers_versionDecl (start : Span) :
    (versionDecl start).Transfers t false (Declaration.shift t.distance)
      (versionDecl (start.shift t.distance)) := by
  refine transfers_skipTrivia.bind_of_advances (fun _ => ?_) fun _ => ?_
  · refine (transfers_punct _ _).bind fun _ =>
      transfers_skipTrivia.bind_of_advances (fun _ => ?_) fun _ => ?_
    · exact (transfers_stringLiteral _).make fun text => by simp [Declaration.shift]
    · exact bind_advances_of_first (expect_advances _ _) fun _ => pure_keeps _
  · exact bind_advances_of_first (expect_advances _ _) fun _ =>
      bind_keeps skipTrivia_keeps fun _ => bind_keeps (expect_keeps _ _) fun _ => pure_keeps _

theorem transfers_infoDecl (start : Span) :
    (infoDecl t.source start).Transfers t false (Declaration.shift t.distance)
      (infoDecl t.target (start.shift t.distance)) := by
  refine transfers_skipTrivia.bind_of_advances (fun _ => ?_) fun _ => ?_
  · refine (transfers_punct _ _).bind fun _ => transfers_keyValues.make fun found => ?_
    simp [Declaration.shift]
  · exact bind_advances_of_first (expect_advances _ _) fun _ =>
      bind_keeps (keyValues_keeps _) fun _ => pure_keeps _

/-- A step that may take a mark takes a token if what follows without the mark
does. -/
theorem eatPunct_bind_advances {mark : Punct} {next : Option Span → Reader α}
    (hnone : (next none).Advances) (hsome : ∀ span, (next (some span)).Keeps) :
    (eatPunct mark >>= next).Advances := by
  intro tokens a rest hread
  rcases eatPunct_cases mark next tokens with ⟨placed, others, rfl, _, heq⟩ | heq
  · rw [heq] at hread
    exact Nat.lt_succ_of_le ((hsome _ _).1 _ _ hread).length_le
  · rw [heq] at hread
    exact hnone _ _ _ hread

theorem transfers_importDecl (start : Span) :
    (importDecl start).Transfers t false (Declaration.shift t.distance)
      (importDecl (start.shift t.distance)) := by
  refine transfers_skipTrivia.bind_of_advances (fun _ => ?_) fun _ => ?_
  · refine (transfers_eatPunct (by decide)).bind fun opener => ?_
    cases opener with
    | none => exact (transfers_stringLiteral _).make fun path => by simp [Declaration.shift]
    | some _ =>
        have hpath : ∀ size, importPath.read.Transfers (t.upTo size) false
            (Spanned.shift t.distance) importPath.read := fun _ => transfers_stringLiteral _
        exact (transfers_untilRightParen hpath).make fun found => by simp [Declaration.shift]
  · refine eatPunct_bind_advances ?_ fun _ => ?_
    · exact bind_advances_of_first (expect_advances _ _) fun _ => pure_keeps _
    · exact bind_keeps (untilRightParen_keeps importPath) fun _ => pure_keeps _

theorem typeGroupRules_transfer :
    BodyTransfer t TypeEntry.Whole (TypeEntry.shift t.distance) (typeGroupRules t.source)
      (typeGroupRules t.target) where
  closer := rfl
  skipped _ := rfl
  notWhole _ := id
  entry := transfers_structDef.make (fun _ => rfl) fun _ => id
  stops _ _ := head?_any_shift opensDeclaration _ _
  goesOn _ hstops _ := hstops

theorem transfers_typeDecl (start : Span) :
    (typeDecl t.source start).TransfersIf t false Declaration.Whole (Declaration.shift t.distance)
      (typeDecl t.target (start.shift t.distance)) := by
  refine transfers_skipTrivia.bind_of_advances (fun _ => ?_) fun _ => ?_
  · refine (transfers_eatPunct (by decide)).bind fun opener => ?_
    cases opener with
    | none => exact transfers_structDef.make (fun _ => rfl) fun _ => id
    | some opener =>
        exact (transfers_body typeGroupRules_transfer opener).make (fun _ => rfl) fun _ => id
  · refine eatPunct_bind_advances ?_ fun _ => ?_
    · exact bind_advances_of_first (structDef_advances _) fun _ => pure_keeps _
    · exact bind_keeps (body_keeps _ _ _) fun _ => pure_keeps _

theorem transfers_restOfDeclaration (word : Keyword) (start : Span) :
    (restOfDeclaration t.source word start).TransfersIf t false Declaration.Whole
      (Declaration.shift t.distance)
      (restOfDeclaration t.target word (start.shift t.distance)) := by
  cases word with
  | syntaxWord => exact (transfers_versionDecl start).of_weak
  | infoWord => exact (transfers_infoDecl start).of_weak
  | importWord => exact (transfers_importDecl start).of_weak
  | typeWord => exact transfers_typeDecl start
  | serviceWord => exact transfers_fail _
  | returnsWord => exact transfers_fail _

theorem transfers_plainKeyword {strict : Bool} :
    (expect .declaration plainKeyword).Transfers t strict (Prod.map id (Span.shift t.distance))
      (expect .declaration plainKeyword) := by
  refine transfers_expect ?_
  rintro ⟨token, span⟩
  cases token with
  | keyword word =>
      by_cases hword : word = .serviceWord ∨ word = .returnsWord <;>
        simp [plainKeyword, PlacedToken.shift, hword]
  | _ => rfl

/-- A declaration that is whole, or any if the input ends with the stretch, is
read in the target as in the source. -/
theorem transfers_declaration :
    (declaration t.source).TransfersIf t false Declaration.Whole (Declaration.shift t.distance)
      (declaration t.target) := by
  refine transfers_peek_bind fun next next' halike => transfers_ite ?_ ?_ ?_
  · have hplain : ∀ token, endsLine token = true →
        (token.isKeyword .serviceWord || token.isPunct .atSign) = false := by
      intro token hend
      rw [Transfer.isPunct_of_endsLine hend (by decide), Bool.or_false, Token.isKeyword,
        beq_eq_false_iff_ne]
      rintro rfl
      cases hend
    rw [atService, atService, halike.any_eq _ hplain]
  · exact transfers_service.make (fun _ => rfl) fun _ => id
  · exact transfers_plainKeyword.bind fun found => transfers_restOfDeclaration found.1 found.2

theorem declarations_of_nil (source : List Char) {tokens : List PlacedToken}
    (hdrop : dropTrivia tokens = []) : declarations source tokens = [] := by
  rw [declarations]
  split
  · rfl
  · rename_i hcons
    rw [hdrop] at hcons
    cases hcons

/-- Trivia in front of a file makes no difference. -/
theorem declarations_congr (source : List Char) {tokens other : List PlacedToken}
    (hdrop : dropTrivia tokens = dropTrivia other) :
    declarations source tokens = declarations source other := by
  cases hother : dropTrivia other with
  | nil =>
      rw [declarations_of_nil source hother, declarations_of_nil source (hdrop.trans hother)]
  | cons placed rest =>
      rw [declarations_eq_of_cons source hother,
        declarations_eq_of_cons source (hdrop.trans hother)]

/-- Where the input ends with the stretch, all its declarations are read in the
target as in the source, recovery included. -/
theorem declarations_shift (hrest : t.rest = []) {tokens : List PlacedToken}
    (hholds : t.Holds tokens) :
    declarations t.target (tokens.map (PlacedToken.shift t.distance)) =
      (declarations t.source tokens).map (Declaration.shift t.distance) := by
  have hround : ∀ {tokens rest : List PlacedToken} {placed : PlacedToken}, t.Holds tokens →
      dropTrivia tokens = placed :: rest →
      t.Holds (placed :: rest) ∧
        dropTrivia (tokens.map (PlacedToken.shift t.distance)) =
          placed.shift t.distance :: rest.map (PlacedToken.shift t.distance) := by
    intro tokens rest placed hholds hdrop
    refine ⟨hholds.mono (hdrop ▸ dropTrivia_suffix tokens), ?_⟩
    rw [dropTrivia_shift, hdrop, List.map_cons]
  fun_induction declarations t.source tokens with
  | case1 tokens hdrop =>
      exact declarations_of_nil t.target (by rw [dropTrivia_shift, hdrop]; rfl)
  | case2 tokens placed rest hdrop found left hread ih =>
      obtain ⟨hholds', hdrop'⟩ := hround hholds hdrop
      have hread' := transfers_declaration.ok_shift hrest hholds' hread
      rw [List.map_cons] at hread'
      rw [declarations_eq_of_cons t.target hdrop', hread', List.map_cons]
      simp only [ih (hholds'.mono ((declaration_keeps _ _).1 _ _ hread))]
  | case3 tokens placed rest hdrop mismatch hread left ih =>
      obtain ⟨hholds', hdrop'⟩ := hround hholds hdrop
      have hread' := transfers_declaration.error_shift hrest hholds' hread
      have hleft : left <:+ placed :: rest := (dropToDeclaration_recovers.suffix _).trans
        (resumeAfter_suffix _ _ ((declaration_keeps _ _).2 _ hread))
      have hskipped := Skipped.between_shift hholds' left mismatch.expected mismatch.rest
      have hresume := resumeAfter_map (PlacedToken.shift t.distance) (placed :: rest) mismatch.rest
      rw [List.map_cons] at hread' hskipped hresume
      rw [declarations_eq_of_cons t.target hdrop', hread', List.map_cons]
      simp only [hresume, dropToDeclaration_shift]
      rw [show dropToDeclaration (resumeAfter (placed :: rest) mismatch.rest) = left from rfl,
        hskipped, ih (hholds'.mono hleft)]
      rfl

/-- From `tokens` on, the declarations are read one after the other, and `left` is
left. -/
def ReadsInTurn (source : List Char) (tokens : List PlacedToken) :
    (founds : List Declaration) → (left : List PlacedToken) → Prop
  | [], left => left = tokens
  | found :: others, left =>
    ∃ placed rest middle, dropTrivia tokens = placed :: rest ∧
      declaration source (placed :: rest) = .ok (found, middle) ∧
        ReadsInTurn source middle others left

theorem ReadsInTurn.suffix {source : List Char} {founds : List Declaration}
    {tokens left : List PlacedToken} (hreads : ReadsInTurn source tokens founds left) :
    left <:+ tokens := by
  induction founds generalizing tokens with
  | nil =>
      rw [show left = tokens from hreads]
  | cons found others ih =>
      obtain ⟨placed, rest, middle, hdrop, hread, hothers⟩ := hreads
      have hmiddle := (declaration_keeps source _).1 _ _ hread
      exact (ih hothers).trans (hmiddle.trans (hdrop ▸ dropTrivia_suffix tokens))

/-- Whole declarations at the front of a file are read in turn. -/
theorem exists_readsInTurn {source : List Char} {founds others : List Declaration}
    {tokens : List PlacedToken} (hall : declarations source tokens = founds ++ others)
    (hwhole : ∀ found ∈ founds, found.Whole) :
    ∃ left, ReadsInTurn source tokens founds left ∧ declarations source left = others := by
  induction founds generalizing tokens with
  | nil => exact ⟨tokens, rfl, hall⟩
  | cons found more ih =>
      cases hdrop : dropTrivia tokens with
      | nil =>
          rw [declarations_of_nil source hdrop] at hall
          cases hall
      | cons placed rest =>
          rw [declarations_eq_of_cons source hdrop, List.cons_append] at hall
          cases hread : declaration source (placed :: rest) with
          | error mismatch =>
              simp only [hread, List.cons.injEq] at hall
              have hfound := hwhole found List.mem_cons_self
              rw [← hall.1] at hfound
              exact hfound.elim
          | ok read =>
              obtain ⟨first, middle⟩ := read
              simp only [hread, List.cons.injEq] at hall
              obtain ⟨rfl, hmore⟩ := hall
              obtain ⟨left, hleft, hothers⟩ := ih hmore
                fun other hother => hwhole other (List.mem_cons_of_mem first hother)
              exact ⟨left, ⟨placed, rest, middle, hdrop, hread, hleft⟩, hothers⟩

/-- Whole declarations within the stretch are read in the target as in the
source. -/
theorem declarations_inTurn {founds : List Declaration} {before kept : List PlacedToken}
    (hholds : t.Holds before)
    (hreads : ReadsInTurn t.source (before ++ t.rest) founds (kept ++ t.rest))
    (hwhole : ∀ found ∈ founds, found.Whole) :
    declarations t.target (t.move before) =
      founds.map (Declaration.shift t.distance) ++ declarations t.target (t.move kept) := by
  induction founds generalizing before with
  | nil =>
      rw [List.append_cancel_right (show kept ++ t.rest = before ++ t.rest from hreads)]
      rfl
  | cons found others ih =>
      obtain ⟨placed, rest, middle, hdrop, hread, hothers⟩ := hreads
      have hrest : t.rest <:+ middle := (List.suffix_append kept t.rest).trans hothers.suffix
      obtain ⟨more, behind, rfl, rfl, hmore, hbehind, _, hdrop'⟩ :=
        step_within (declaration_keeps t.source) (declaration_advances t.source) hdrop hread hrest
      have hread' := transfers_declaration.ok (hholds.mono hmore) hread Bool.noConfusion
        (.inr (hwhole found List.mem_cons_self))
      rw [Transfer.move_cons] at hread'
      rw [declarations_eq_of_cons t.target hdrop', hread', List.map_cons, List.cons_append]
      simp only [ih (hholds.mono hbehind) hothers
        fun other hother => hwhole other (List.mem_cons_of_mem found hother)]

end ApiLang
