/-
Comments on a line are transparent.  If chosen comments of a source become white space in
their place, the same tree is read, and the complaints about it differ at most in the
word for what was found.
-/
import ApiLang.Proofs.Tree.Fading
import ApiLang.Proofs.Tree.TransferFiles

namespace ApiLang

variable {α : Type}

section Found

variable (f g : Option PlacedToken → Option PlacedToken)

/-- The skipped input, with another token as the one found there. -/
def Skipped.mapFound (input : Skipped) : Skipped :=
  { input with found := f input.found }

def Block.mapEntries (change : α → α) (block : Block α) : Block α :=
  { block with entries := block.entries.map change }

def Member.mapFound : Member → Member
  | .field line => .field line
  | .embedded line => .embedded line
  | .skipped input => .skipped (input.mapFound f)

def StructDef.mapFound (struct : StructDef) : StructDef :=
  ⟨struct.name, struct.body.mapEntries (Member.mapFound f)⟩

def TypeEntry.mapFound : TypeEntry → TypeEntry
  | .struct definition => .struct (definition.mapFound f)
  | .skipped input => .skipped (input.mapFound f)

def TypeBody.mapFound : TypeBody → TypeBody
  | .single struct => .single (struct.mapFound f)
  | .group block => .group (block.mapEntries (TypeEntry.mapFound f))

def ServiceEntry.mapFound : ServiceEntry → ServiceEntry
  | .route line => .route line
  | .skipped input => .skipped (input.mapFound f)

def Service.mapFound (service : Service) : Service :=
  { service with body := service.body.mapEntries (ServiceEntry.mapFound f) }

def Declaration.mapFound : Declaration → Declaration
  | .version text span => .version text span
  | .info entries span => .info entries span
  | .imports paths span => .imports paths span
  | .types keyword body => .types keyword (body.mapFound f)
  | .service block => .service (block.mapFound f)
  | .skipped input => .skipped (input.mapFound f)

def SourceFile.mapFound (file : SourceFile) : SourceFile :=
  { file with declarations := file.declarations.map (Declaration.mapFound f) }

/-- The tree alone: all texts and spans, without the tokens that were found where
something else was expected. -/
def SourceFile.withoutFound : SourceFile → SourceFile :=
  SourceFile.mapFound fun _ => none

variable {f g}

theorem Block.mapEntries_mapEntries {first second both : α → α}
    (hboth : ∀ entry, second (first entry) = both entry) (block : Block α) :
    (block.mapEntries first).mapEntries second = block.mapEntries both := by
  simp [Block.mapEntries, hboth]

theorem Member.mapFound_mapFound (line : Member) :
    (line.mapFound g).mapFound f = line.mapFound (f ∘ g) := by
  cases line <;> rfl

theorem StructDef.mapFound_mapFound (struct : StructDef) :
    (struct.mapFound g).mapFound f = struct.mapFound (f ∘ g) := by
  simp only [StructDef.mapFound, Block.mapEntries_mapEntries Member.mapFound_mapFound]

theorem TypeEntry.mapFound_mapFound (entry : TypeEntry) :
    (entry.mapFound g).mapFound f = entry.mapFound (f ∘ g) := by
  cases entry with
  | struct definition => exact congrArg _ definition.mapFound_mapFound
  | skipped input => rfl

theorem ServiceEntry.mapFound_mapFound (entry : ServiceEntry) :
    (entry.mapFound g).mapFound f = entry.mapFound (f ∘ g) := by
  cases entry <;> rfl

theorem Declaration.mapFound_mapFound (found : Declaration) :
    (found.mapFound g).mapFound f = found.mapFound (f ∘ g) := by
  cases found with
  | version | info | imports | skipped => rfl
  | types keyword body =>
      cases body with
      | single struct =>
          simp only [Declaration.mapFound, TypeBody.mapFound, StructDef.mapFound_mapFound]
      | group block =>
          simp only [Declaration.mapFound, TypeBody.mapFound,
            Block.mapEntries_mapEntries TypeEntry.mapFound_mapFound]
  | service block =>
      simp only [Declaration.mapFound, Service.mapFound,
        Block.mapEntries_mapEntries ServiceEntry.mapFound_mapFound]

theorem SourceFile.withoutFound_mapFound (file : SourceFile) :
    (file.mapFound g).withoutFound = file.withoutFound := by
  simp [SourceFile.withoutFound, SourceFile.mapFound, Declaration.mapFound_mapFound,
    Function.comp_def]

end Found

section Bodies

open Reader

theorem isKeyword_of_isInlineTrivia (word : Keyword) {token : Token}
    (htrivia : token.isInlineTrivia = true) : token.isKeyword word = false := by
  cases token with
  | keyword => cases htrivia
  | identifier | number | string | rawString | punct | lineComment | blockComment | whitespace
  | newline | invalid => rfl

theorem opensDeclaration_of_isInlineTrivia {token : Token}
    (htrivia : token.isInlineTrivia = true) : opensDeclaration token = false := by
  rw [opensDeclaration, isDeclarationKeyword_of_isInlineTrivia htrivia,
    Likeness.isPunct_of_isInlineTrivia _ htrivia]
  rfl

variable {source : List Char} {chosen : PlacedToken → Bool} {tokens tokens' : List PlacedToken}

theorem dropTrivia_alike (halike : (fading source chosen).Alike tokens tokens') :
    (fading source chosen).Alike (dropTrivia tokens) (dropTrivia tokens') :=
  halike.dropWhile (fun _ => isTrivia_of_isInlineTrivia) (.inl rfl)

/-- Behind trivia the same token comes next. -/
theorem dropTrivia_alike_cons (halike : (fading source chosen).Alike tokens tokens')
    {placed : PlacedToken} {others : List PlacedToken}
    (hdrop : dropTrivia tokens = placed :: others) :
    fade chosen placed = placed ∧
      dropTrivia tokens' = placed :: others.map (fade chosen) ∧
      (fading source chosen).Alike (placed :: others) (placed :: others.map (fade chosen)) := by
  have hplaced : fade chosen placed = placed := fade_of_solid (isTrivia_of_dropTrivia hdrop)
  have hrow := dropTrivia_alike halike
  rw [hdrop] at hrow
  have hmap := eq_map_of_alike hrow
  rw [List.map_cons, hplaced] at hmap
  rw [hmap] at hrow
  exact ⟨hplaced, hmap, hrow⟩

theorem filter_map_fade (chosen : PlacedToken → Bool) (run : List PlacedToken) :
    ((run.map (fade chosen)).filter fun placed => !placed.token.isTrivia) =
      run.filter fun placed => !placed.token.isTrivia := by
  induction run with
  | nil => rfl
  | cons placed others ih => exact filter_fade_cons placed ih

theorem dropLine_fade (closer : Punct) (tokens : List PlacedToken) :
    dropLine closer (tokens.map (fade chosen)) = (dropLine closer tokens).map (fade chosen) := by
  induction tokens with
  | nil => rfl
  | cons placed others ih =>
      have hcloser : (fade chosen placed).token.isPunct closer = placed.token.isPunct closer :=
        Likeness.test_change (l := fading [] chosen)
          (fun _ => Likeness.isPunct_of_isInlineTrivia closer) placed
      have hbreak : (fade chosen placed).token = .newline ↔ placed.token = .newline := by
        rcases token_fade chosen placed with hsame | ⟨htrivia, hblank⟩
        · rw [hsame]
        · rw [hblank]
          constructor
          · intro hline
            cases hline
          · intro hline
            rw [hline] at htrivia
            cases htrivia
      rw [List.map_cons, dropLine, dropLine, hcloser]
      simp only [hbreak]
      split
      · rfl
      · split
        · rfl
        · exact ih

theorem dropToDeclaration_fade (tokens : List PlacedToken) :
    dropToDeclaration (tokens.map (fade chosen)) =
      (dropToDeclaration tokens).map (fade chosen) := by
  rw [dropToDeclaration, List.dropWhile_map]
  refine congrArg (fun test => (tokens.dropWhile test).map (fade chosen)) (funext fun placed => ?_)
  have hopens : opensDeclaration (fade chosen placed).token = opensDeclaration placed.token :=
    Likeness.test_change (l := fading [] chosen)
      (fun _ => opensDeclaration_of_isInlineTrivia) placed
  simp [hopens]

/-- The same input is skipped, and what was found may have faded. -/
theorem Skipped.between_fade (source : List Char) (placed : PlacedToken)
    (others left : List PlacedToken) (expected : Expected) (stuck : List PlacedToken)
    (hplaced : fade chosen placed = placed) :
    Skipped.between source (placed :: others.map (fade chosen)) (left.map (fade chosen))
        ⟨expected, stuck.map (fade chosen)⟩ =
      (Skipped.between source (placed :: others) left ⟨expected, stuck⟩).mapFound
        (Option.map (fade chosen)) := by
  have hstart : placed :: others.map (fade chosen) = (placed :: others).map (fade chosen) := by
    rw [List.map_cons, hplaced]
  have hspan := fun count => coveredSpan_congr placed.span.start
    (filter_map_fade chosen ((placed :: others).take count))
  simp only [Skipped.between, Skipped.mapFound, startOffset, List.length_map, List.length_cons,
    List.head?_map]
  rw [hstart, ← List.map_take, hspan]

/-- What a body is made of does not depend on comments of a line: its entries are read
alike, and it stops alike. -/
structure BodyRules.Overlook (source : List Char) (chosen : PlacedToken → Bool) (f : α → α)
    (rules : BodyRules α) : Prop where
  entry : rules.entry.read.Follows (fading source chosen) f rules.entry.read
  stops : ∀ ⦃tokens tokens' : List PlacedToken⦄, (fading source chosen).Alike tokens tokens' →
    rules.stops tokens' = rules.stops tokens
  skipped : ∀ input, rules.skipped (input.mapFound (Option.map (fade chosen))) =
    f (rules.skipped input)

/-- A body has the same entries, with and without comments. -/
theorem bodyEntries_alike {rules : BodyRules α} {f : α → α}
    (hrules : rules.Overlook source chosen f)
    (halike : (fading source chosen).Alike tokens tokens') :
    (bodyEntries source rules tokens').1 = (bodyEntries source rules tokens).1.map f ∧
      (bodyEntries source rules tokens').2.1 = (bodyEntries source rules tokens).2.1 ∧
      (fading source chosen).Alike (bodyEntries source rules tokens).2.2
        (bodyEntries source rules tokens').2.2 := by
  obtain rfl := eq_map_of_alike halike
  fun_induction bodyEntries source rules tokens with
  | case1 tokens hdrop =>
      have hnil := dropTrivia_alike halike
      rw [hdrop] at hnil
      rw [bodyEntries_of_nil source rules hnil.of_nil]
      exact ⟨rfl, rfl, .done⟩
  | case2 tokens placed rest hdrop hcloser =>
      obtain ⟨_, hdrop', hrow⟩ := dropTrivia_alike_cons halike hdrop
      rw [bodyEntries_eq_of_cons source rules hdrop', if_pos hcloser]
      exact ⟨rfl, rfl, alike_of_suffix hrow (List.suffix_cons placed rest)⟩
  | case3 tokens placed rest hdrop hcloser hstops =>
      obtain ⟨_, hdrop', hrow⟩ := dropTrivia_alike_cons halike hdrop
      rw [bodyEntries_eq_of_cons source rules hdrop', if_neg hcloser,
        if_pos ((hrules.stops hrow).trans hstops)]
      exact ⟨rfl, rfl, hrow⟩
  | case4 tokens placed rest hdrop hcloser hstops entry left hread entries close behind hinner ih =>
      obtain ⟨_, hdrop', hrow⟩ := dropTrivia_alike_cons halike hdrop
      have hentry := hrules.entry hrow
      rw [hread] at hentry
      obtain ⟨left', hread', hleft⟩ := hentry.of_ok
      obtain rfl := eq_map_of_alike hleft
      obtain ⟨hentries, hclose, hbehind⟩ := ih hleft
      rw [hinner] at hentries hclose hbehind
      rw [bodyEntries_eq_of_cons source rules hdrop', if_neg hcloser,
        if_neg (by rw [hrules.stops hrow]; exact hstops), hread']
      exact ⟨congrArg (f entry :: ·) hentries, hclose, hbehind⟩
  | case5 tokens placed rest hdrop hcloser hstops mismatch hread left entries close behind hinner
      ih =>
      obtain ⟨hplaced, hdrop', hrow⟩ := dropTrivia_alike_cons halike hdrop
      have hentry := hrules.entry hrow
      rw [hread] at hentry
      obtain ⟨stuck', hread', hstuck⟩ := hentry.of_error
      obtain rfl := eq_map_of_alike hstuck
      -- Recovery counts tokens, and fading keeps their number and the ends of lines.
      have hresume := resumeAfter_map (fade chosen) (placed :: rest) mismatch.rest
      rw [List.map_cons, hplaced] at hresume
      have hsuffix : left <:+ placed :: rest :=
        (dropLine_suffix _ _).trans (resumeAfter_suffix _ _ ((rules.entry.keeps _).2 _ hread))
      obtain ⟨hentries, hclose, hbehind⟩ := ih (alike_of_suffix hrow hsuffix)
      rw [hinner] at hentries hclose hbehind
      have hskipped := fun left => Skipped.between_fade source placed rest left
        mismatch.expected mismatch.rest hplaced
      rw [bodyEntries_eq_of_cons source rules hdrop', if_neg hcloser,
        if_neg (by rw [hrules.stops hrow]; exact hstops), hread']
      simp only [hresume, dropLine_fade, hskipped, hrules.skipped]
      exact ⟨congrArg (f (rules.skipped _) :: ·) hentries, hclose, hbehind⟩

theorem follows_body {rules : BodyRules α} {f : α → α} (hrules : rules.Overlook source chosen f)
    (opener : Span) :
    (body source rules opener).Follows (fading source chosen) (Block.mapEntries f)
      (body source rules opener) := by
  intro tokens tokens' halike
  obtain ⟨hentries, hclose, hleft⟩ := bodyEntries_alike hrules halike
  simp only [body]
  rw [hentries, hclose]
  exact .ok (Block.mk opener _ _) hleft

end Bodies

section Files

open Reader

variable {source : List Char} {chosen : PlacedToken → Bool} {tokens tokens' : List PlacedToken}

theorem structRules_overlook :
    (structRules source).Overlook source chosen
      (Member.mapFound (Option.map (fade chosen))) where
  entry := follows_member (l := fading source chosen)
    (fun line => congrArg Member.field line.shift_zero.symm) fun _ => rfl
  stops _ _ halike := halike.any_head? fun _ => opensDeclaration_of_isInlineTrivia
  skipped _ := rfl

theorem overlooks_structWord : structWord.Overlooks source chosen := by
  refine (overlooks_optional ?_).bind fun found => ?_
  · rintro ⟨token, span⟩ htrivia
    cases token <;> simp_all [Token.isTrivia]
  · cases found with
    | none => exact follows_pure rfl
    | some _ => exact follows_skipInline

theorem follows_structDef :
    (structDef source).Follows (fading source chosen)
      (StructDef.mapFound (Option.map (fade chosen))) (structDef source) :=
  (overlooks_identifier _).bind fun _ => follows_skipInline.bind fun _ =>
    overlooks_structWord.bind fun _ => (overlooks_punct _ _).bind fun opener =>
      (follows_body structRules_overlook opener).make fun _ => rfl

theorem typeGroupRules_overlook :
    (typeGroupRules source).Overlook source chosen
      (TypeEntry.mapFound (Option.map (fade chosen))) where
  entry := follows_structDef.make fun _ => rfl
  stops _ _ halike := halike.any_head? fun _ => opensDeclaration_of_isInlineTrivia
  skipped _ := rfl

/-- Annotations of another service are announced in both. -/
theorem announcesService_alike (halike : (fading source chosen).Alike tokens tokens') :
    announcesService source tokens' = announcesService source tokens := by
  induction hlength : tokens.length using Nat.strong_induction_on generalizing tokens tokens' with
  | _ length ih =>
  rw [announcesService_eq, announcesService_eq source tokens, halike.atPunct]
  have hstep := overlooks_annotationStep halike
  cases hread : annotationStep source tokens with
  | error mismatch =>
      rw [hread] at hstep
      obtain ⟨_, hread', _⟩ := hstep.of_error
      rw [hread']
  | ok found =>
      obtain ⟨note, left⟩ := found
      rw [hread] at hstep
      obtain ⟨left', hread', hleft⟩ := hstep.of_ok
      have hbehind := dropTrivia_alike hleft
      have hshorter := annotationStep_advances source _ _ _ hread
      have hwithin := (dropTrivia_suffix left).length_le
      rw [hread']
      simp only [hbehind.any_head? fun _ => isKeyword_of_isInlineTrivia .serviceWord,
        ih (dropTrivia left).length (by omega) hbehind rfl]

theorem serviceRules_overlook :
    (serviceRules source).Overlook source chosen
      (ServiceEntry.mapFound (Option.map (fade chosen))) where
  entry := overlooks_route.make fun _ => rfl
  stops _ _ halike := by
    simp only [serviceRules, announcesService_alike halike,
      halike.any_head? fun _ => isDeclarationKeyword_of_isInlineTrivia]
  skipped _ := rfl

theorem follows_service :
    (service source).Follows (fading source chosen)
      (Service.mapFound (Option.map (fade chosen))) (service source) :=
  overlooks_annotations.bind fun _ => (overlooks_keyword _ _).bind fun _ =>
    follows_skipInline.bind fun _ => overlooks_serviceName.bind fun _ =>
      overlooks_skipTrivia.bind fun _ => (overlooks_punct _ _).bind fun opener =>
        (follows_body serviceRules_overlook opener).make fun _ => rfl

/-- A declaration without annotations, behind its keyword. -/
theorem follows_restOfDeclaration (word : Keyword) (start : Span) :
    (restOfDeclaration source word start).Follows (fading source chosen)
      (Declaration.mapFound (Option.map (fade chosen)))
      (restOfDeclaration source word start) := by
  cases word with
  | syntaxWord =>
      exact overlooks_skipTrivia.bind fun _ => (overlooks_punct _ _).bind fun _ =>
        overlooks_skipTrivia.bind fun _ => (overlooks_stringLiteral _).make fun _ => rfl
  | infoWord =>
      exact overlooks_skipTrivia.bind fun _ => (overlooks_punct _ _).bind fun _ =>
        overlooks_keyValues.make fun _ => rfl
  | importWord =>
      refine overlooks_skipTrivia.bind fun _ => (overlooks_eatPunct _).bind fun opener => ?_
      cases opener with
      | none => exact (overlooks_stringLiteral _).make fun _ => rfl
      | some _ =>
          have hpaths : Reader.Overlooks source chosen (untilRightParen importPath) :=
            overlooks_untilRightParen (overlooks_stringLiteral _)
          exact hpaths.make fun _ => rfl
  | typeWord =>
      refine overlooks_skipTrivia.bind fun _ => (overlooks_eatPunct _).bind fun opener => ?_
      cases opener with
      | none => exact follows_structDef.make fun _ => rfl
      | some opener => exact (follows_body typeGroupRules_overlook opener).make fun _ => rfl
  | serviceWord | returnsWord => exact follows_fail _

theorem follows_declaration :
    (declaration source).Follows (fading source chosen)
      (Declaration.mapFound (Option.map (fade chosen))) (declaration source) := by
  refine follows_peek_bind fun tokens tokens' halike => follows_ite ?_ ?_ ?_
  · have hservice : atService tokens'.head? = atService tokens.head? :=
      @Likeness.Alike.any_head? _ _ _ halike
        (fun token => token.isKeyword .serviceWord || token.isPunct .atSign) false
        fun _ htrivia => by
          rw [isKeyword_of_isInlineTrivia _ htrivia, Likeness.isPunct_of_isInlineTrivia _ htrivia]
          rfl
    rw [hservice]
  · exact follows_service.make fun _ => rfl
  · refine (overlooks_expect ?_).bind fun found => follows_restOfDeclaration found.1 found.2
    rintro ⟨token, span⟩ htrivia
    cases token <;> simp_all [Token.isTrivia, plainKeyword]

/-- The same declarations are read, with and without comments. -/
theorem declarations_alike (halike : (fading source chosen).Alike tokens tokens') :
    declarations source tokens' =
      (declarations source tokens).map (Declaration.mapFound (Option.map (fade chosen))) := by
  obtain rfl := eq_map_of_alike halike
  fun_induction declarations source tokens with
  | case1 tokens hdrop =>
      have hnil := dropTrivia_alike halike
      rw [hdrop] at hnil
      rw [declarations_of_nil source hnil.of_nil]
      rfl
  | case2 tokens placed rest hdrop found left hread ih =>
      obtain ⟨_, hdrop', hrow⟩ := dropTrivia_alike_cons halike hdrop
      have hfound := follows_declaration hrow
      rw [hread] at hfound
      obtain ⟨left', hread', hleft⟩ := hfound.of_ok
      obtain rfl := eq_map_of_alike hleft
      rw [declarations_eq_of_cons source hdrop', hread']
      exact congrArg (_ :: ·) (ih hleft)
  | case3 tokens placed rest hdrop mismatch hread left ih =>
      obtain ⟨hplaced, hdrop', hrow⟩ := dropTrivia_alike_cons halike hdrop
      have hfound := follows_declaration hrow
      rw [hread] at hfound
      obtain ⟨stuck', hread', hstuck⟩ := hfound.of_error
      obtain rfl := eq_map_of_alike hstuck
      have hresume := resumeAfter_map (fade chosen) (placed :: rest) mismatch.rest
      rw [List.map_cons, hplaced] at hresume
      have hsuffix : left <:+ placed :: rest :=
        (List.dropWhile_suffix _).trans
          (resumeAfter_suffix _ _ ((declaration_keeps source _).2 _ hread))
      have hskipped := Skipped.between_fade source placed rest left
        mismatch.expected mismatch.rest hplaced
      rw [declarations_eq_of_cons source hdrop', hread']
      simp only [hresume, dropToDeclaration_fade]
      rw [show dropToDeclaration (resumeAfter (placed :: rest) mismatch.rest) = left from rfl,
        hskipped, ih (alike_of_suffix hrow hsuffix)]
      rfl

theorem parseTokens_fade (source : List Char) (chosen : PlacedToken → Bool) :
    parseTokens source ((tokenize source).map (fade chosen)) =
      (parseTokens source (tokenize source)).mapFound (Option.map (fade chosen)) := by
  rw [parseTokens, declarations_alike (tokenize_alike source chosen)]
  rfl

end Files

section Complaints

/-- Two complaints that agree but for the word for what was found. -/
structure Diagnostic.AgreeButFound (left right : Diagnostic) : Prop where
  severity : right.severity = left.severity
  code : right.code = left.code
  labels : right.labels = left.labels
  help : right.help = left.help
  message : right.message = left.message ∨
    ∃ front, left.message = front ++ ", found comment" ∧
      right.message = front ++ ", found whitespace"

variable {chosen : PlacedToken → Bool}

theorem Diagnostic.AgreeButFound.refl (diagnostic : Diagnostic) :
    diagnostic.AgreeButFound diagnostic :=
  ⟨rfl, rfl, rfl, rfl, .inl rfl⟩

theorem describe_of_isInlineComment {token : Token} (hcomment : token.isInlineComment = true) :
    token.describe = "comment" := by
  cases token with
  | lineComment | blockComment => rfl
  | keyword | identifier | number | string | rawString | punct | whitespace | newline | invalid =>
      cases hcomment

theorem isInvalid_of_isInlineComment {token : Token} (hcomment : token.isInlineComment = true) :
    token.isInvalid = false := by
  cases token with
  | invalid => cases hcomment
  | keyword | identifier | number | string | rawString | punct | lineComment | blockComment
  | whitespace | newline => rfl

theorem Skipped.diagnostics_of_valid (sourceEnd : Nat) {input : Skipped} {placed : PlacedToken}
    (hfound : input.found = some placed) (hvalid : placed.token.isInvalid = false) :
    input.diagnostics sourceEnd =
      [.located .error .unexpectedToken
        ("expected " ++ input.expected.label ++ ", found " ++ placed.token.describe)
        placed.span ("expected " ++ input.expected.label)] := by
  simp [Skipped.diagnostics, Expected.diagnostics, hfound, hvalid]

/-- Complaints about what is missing agree, whether comments have faded or not. -/
theorem Skipped.agreeButFound (sourceEnd : Nat) (input : Skipped) :
    List.Forall₂ Diagnostic.AgreeButFound (input.diagnostics sourceEnd)
      ((input.mapFound (Option.map (fade chosen))).diagnostics sourceEnd) := by
  obtain ⟨text, span, expected, found⟩ := input
  cases found with
  | none => exact .cons (.refl _) .nil
  | some placed =>
      rcases fade_cases chosen placed with hsame | ⟨hcomment, hblank⟩
      · simp only [Skipped.mapFound, Option.map_some, hsame]
        exact List.forall₂_same.mpr fun diagnostic _ => .refl diagnostic
      · -- A comment that faded: the one case in which the word for what was found changes.
        rw [Skipped.diagnostics_of_valid sourceEnd rfl (isInvalid_of_isInlineComment hcomment),
          Skipped.diagnostics_of_valid sourceEnd rfl (by rw [hblank]; rfl),
          describe_of_isInlineComment hcomment, hblank, span_fade]
        refine .cons ⟨rfl, rfl, rfl, rfl, .inr ⟨"expected " ++ expected.label, ?_, ?_⟩⟩ .nil
        · exact String.append_assoc
        · exact String.append_assoc

/-- Complaints of entries in a row agree one by one, if those of each entry do. -/
theorem flatMap_agreeButFound {ofEntry : α → List Diagnostic} {f : α → α}
    (hentry : ∀ entry, List.Forall₂ Diagnostic.AgreeButFound (ofEntry entry) (ofEntry (f entry)))
    (entries : List α) :
    List.Forall₂ Diagnostic.AgreeButFound (entries.flatMap ofEntry)
      ((entries.map f).flatMap ofEntry) := by
  induction entries with
  | nil => exact .nil
  | cons entry others ih => exact List.rel_append (hentry entry) ih

theorem Block.agreeButFound {ofEntry : α → List Diagnostic} {f : α → α}
    (hentry : ∀ entry, List.Forall₂ Diagnostic.AgreeButFound (ofEntry entry) (ofEntry (f entry)))
    (opening closing : Punct) (block : Block α) :
    List.Forall₂ Diagnostic.AgreeButFound (block.diagnostics ofEntry opening closing)
      ((block.mapEntries f).diagnostics ofEntry opening closing) :=
  List.rel_append (flatMap_agreeButFound hentry block.entries)
    (List.forall₂_same.mpr fun diagnostic _ => .refl diagnostic)

theorem StructDef.agreeButFound (sourceEnd : Nat) (struct : StructDef) :
    List.Forall₂ Diagnostic.AgreeButFound (struct.diagnostics sourceEnd)
      ((struct.mapFound (Option.map (fade chosen))).diagnostics sourceEnd) := by
  refine Block.agreeButFound (fun line => ?_) _ _ struct.body
  cases line with
  | field | embedded => exact .nil
  | skipped input => exact input.agreeButFound sourceEnd

theorem Declaration.agreeButFound (sourceEnd : Nat) (found : Declaration) :
    List.Forall₂ Diagnostic.AgreeButFound (found.diagnostics sourceEnd)
      ((found.mapFound (Option.map (fade chosen))).diagnostics sourceEnd) := by
  cases found with
  | version | info | imports => exact .nil
  | types keyword body =>
      cases body with
      | single struct => exact struct.agreeButFound sourceEnd
      | group block =>
          refine Block.agreeButFound (fun entry => ?_) _ _ block
          cases entry with
          | struct definition => exact definition.agreeButFound sourceEnd
          | skipped input => exact input.agreeButFound sourceEnd
  | service block =>
      refine Block.agreeButFound (fun entry => ?_) _ _ block.body
      cases entry with
      | route => exact .nil
      | skipped input => exact input.agreeButFound sourceEnd
  | skipped input => exact input.agreeButFound sourceEnd

/-- Comments on a line are transparent: with any of them replaced by white space in their
place, the same tree is read, and the complaints agree one by one, but for the word for
what was found. -/
theorem parseTokens_transparent (source : List Char) (chosen : PlacedToken → Bool) :
    (parseTokens source ((tokenize source).map (fade chosen))).withoutFound =
        (parseTokens source (tokenize source)).withoutFound ∧
      List.Forall₂ Diagnostic.AgreeButFound (parseTokens source (tokenize source)).diagnostics
        (parseTokens source ((tokenize source).map (fade chosen))).diagnostics := by
  rw [parseTokens_fade]
  refine ⟨SourceFile.withoutFound_mapFound _, ?_⟩
  exact flatMap_agreeButFound (Declaration.agreeButFound _) _

end Complaints

end ApiLang
