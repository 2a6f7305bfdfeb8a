/-
Findings: what is wrong with a tree.  Every skipped piece and every body without
its closing mark is a finding, in the order in which reading met them.  Main
statements: the complaints of the parser are those about the findings, and each
finding can be traced to the place of the input where reading went wrong.
-/
import ApiLang.Proofs.Tree.Whole

namespace ApiLang

variable {α β : Type} {source : List Char}

/-- The lists of entries in which input may be skipped. -/
inductive Scope where
  | file
  | group
  | struct
  | service
deriving DecidableEq

/-- One thing that is wrong with a tree. -/
inductive Finding where
  | skipped (scope : Scope) (input : Skipped)
  | unclosed (opening closing : Punct) (opener : Span)
deriving DecidableEq

/-- The findings in a body: those of its entries, then that of the body itself. -/
def Block.findings (ofEntry : α → List Finding) (opening closing : Punct) (block : Block α) :
    List Finding :=
  block.entries.flatMap ofEntry ++
    match block.closer with
    | some _ => []
    | none => [.unclosed opening closing block.opener]

def Member.findings : Member → List Finding
  | .skipped input => [.skipped .struct input]
  | .field _ | .embedded _ => []

def StructDef.findings (struct : StructDef) : List Finding :=
  struct.body.findings Member.findings .leftBrace .rightBrace

def TypeEntry.findings : TypeEntry → List Finding
  | .struct definition => definition.findings
  | .skipped input => [.skipped .group input]

def TypeBody.findings : TypeBody → List Finding
  | .single struct => struct.findings
  | .group block => block.findings TypeEntry.findings .leftParen .rightParen

def ServiceEntry.findings : ServiceEntry → List Finding
  | .route _ => []
  | .skipped input => [.skipped .service input]

def Declaration.findings : Declaration → List Finding
  | .version .. | .info .. | .imports .. => []
  | .types _ body => body.findings
  | .service block => block.body.findings ServiceEntry.findings .leftBrace .rightBrace
  | .skipped input => [.skipped .file input]

/-- All that is wrong with a file, in the order in which reading met it. -/
def SourceFile.findings (file : SourceFile) : List Finding :=
  file.declarations.flatMap Declaration.findings

/-- The complaints about a finding. -/
def Finding.diagnostics (sourceEnd : Nat) : Finding → List Diagnostic
  | .skipped _ input => input.diagnostics sourceEnd
  | .unclosed opening closing opener => [unclosedDiagnostic opener opening closing]

theorem Block.diagnostics_eq_findings {ofEntry : α → List Finding}
    {complain : α → List Diagnostic} {sourceEnd : Nat}
    (hentry : ∀ entry, complain entry = (ofEntry entry).flatMap (Finding.diagnostics sourceEnd))
    (opening closing : Punct) (block : Block α) :
    block.diagnostics complain opening closing =
      (block.findings ofEntry opening closing).flatMap (Finding.diagnostics sourceEnd) := by
  rw [Block.diagnostics, Block.findings, List.flatMap_append, List.flatMap_assoc]
  congr 1
  · exact List.flatMap_congr fun entry _ => hentry entry
  · cases block.closer <;> rfl

theorem StructDef.diagnostics_eq_findings (sourceEnd : Nat) (struct : StructDef) :
    struct.diagnostics sourceEnd = struct.findings.flatMap (Finding.diagnostics sourceEnd) := by
  apply Block.diagnostics_eq_findings
  intro line
  cases line <;> simp [Member.diagnostics, Member.findings, Finding.diagnostics]

theorem Declaration.diagnostics_eq_findings (sourceEnd : Nat) (found : Declaration) :
    found.diagnostics sourceEnd = found.findings.flatMap (Finding.diagnostics sourceEnd) := by
  cases found with
  | version | info | imports => rfl
  | types keyword body =>
      cases body with
      | single struct => exact struct.diagnostics_eq_findings sourceEnd
      | group block =>
          apply Block.diagnostics_eq_findings
          intro entry
          cases entry with
          | struct definition => exact definition.diagnostics_eq_findings sourceEnd
          | skipped input => simp [TypeEntry.diagnostics, TypeEntry.findings, Finding.diagnostics]
  | service block =>
      apply Block.diagnostics_eq_findings
      intro entry
      cases entry <;> simp [ServiceEntry.diagnostics, ServiceEntry.findings, Finding.diagnostics]
  | skipped input => simp [Declaration.diagnostics, Declaration.findings, Finding.diagnostics]

/-- The parser complains about its findings and about nothing else. -/
theorem SourceFile.diagnostics_eq_findings (file : SourceFile) :
    file.diagnostics = file.findings.flatMap (Finding.diagnostics file.span.stop) := by
  rw [SourceFile.diagnostics, SourceFile.findings, List.flatMap_assoc]
  exact List.flatMap_congr fun found _ => found.diagnostics_eq_findings file.span.stop

/-- The code of the diagnostic is about words or grammar. -/
def Diagnostic.isSyntactic (diagnostic : Diagnostic) : Bool :=
  diagnostic.code.any DiagnosticCode.isSyntactic

theorem tokenDiagnostics_isSyntactic (tokens : List PlacedToken) :
    ∀ diagnostic ∈ tokenDiagnostics tokens, diagnostic.isSyntactic = true := by
  intro diagnostic hdiagnostic
  obtain ⟨placed, _, hfound⟩ := List.mem_filterMap.mp hdiagnostic
  split at hfound
  · cases hfound
    unfold invalidTokenDiagnostic
    split <;> rfl
  · cases hfound

theorem SourceFile.diagnostics_isSyntactic (file : SourceFile) :
    ∀ diagnostic ∈ file.diagnostics, diagnostic.isSyntactic = true := by
  intro diagnostic hdiagnostic
  rw [SourceFile.diagnostics_eq_findings] at hdiagnostic
  obtain ⟨finding, _, hdiagnostic⟩ := List.mem_flatMap.mp hdiagnostic
  cases finding with
  | skipped scope input =>
      rw [Finding.diagnostics, Skipped.diagnostics] at hdiagnostic
      unfold Expected.diagnostics at hdiagnostic
      split at hdiagnostic
      · split at hdiagnostic
        · cases hdiagnostic
        · rw [List.mem_singleton.mp hdiagnostic]
          rfl
      · rw [List.mem_singleton.mp hdiagnostic]
        rfl
  | unclosed opening closing opener =>
      rw [List.mem_singleton.mp hdiagnostic]
      rfl

/-- The attempt to read an entry at `start` fails. -/
def Scope.Fails (source : List Char) (scope : Scope) (start : List PlacedToken)
    (mismatch : Mismatch) : Prop :=
  match scope with
  | .file => declaration source start = .error mismatch
  | .group => structDef source start = .error mismatch
  | .struct => member source start = .error mismatch
  | .service => route source start = .error mismatch

/-- How reading gets past an entry that could not be read. -/
def Scope.recover : Scope → List PlacedToken → List PlacedToken
  | .file => dropToDeclaration
  | .group => dropLine .rightParen
  | .struct | .service => dropLine .rightBrace

theorem Scope.recovers (scope : Scope) : Recovers scope.recover := by
  cases scope with
  | file => exact dropToDeclaration_recovers
  | group | struct | service => exact dropLine_recovers _

theorem Scope.Fails.suffix {scope : Scope} {start : List PlacedToken} {mismatch : Mismatch}
    (hfails : scope.Fails source start mismatch) : mismatch.rest <:+ start := by
  cases scope with
  | file => exact (declaration_keeps source start).2 mismatch hfails
  | group => exact (structDef_keeps source start).2 mismatch hfails
  | struct => exact ((structRules source).entry.keeps start).2 mismatch hfails
  | service =>
      have hroute : (route source).Keeps :=
        Reader.bind_keeps (annotations_keeps source) fun _ =>
          Reader.bind_keeps (Reader.expect_keeps _ _) fun _ => restOfRoute_keeps source _ _
      exact (hroute start).2 mismatch hfails

/-- Where a finding comes from: skipped input from an attempt to read that failed
somewhere in `tokens`, and a body without closing mark from its opening mark. -/
def Finding.Traced (source : List Char) (tokens : List PlacedToken) : Finding → Prop
  | .skipped scope input => ∃ placed others mismatch,
      placed :: others <:+ tokens ∧ placed.token.isTrivia = false ∧
        scope.Fails source (placed :: others) mismatch ∧
        input = .between source (placed :: others)
          (scope.recover (resumeAfter (placed :: others) mismatch.rest)) mismatch
  | .unclosed opening _ opener => ∃ placed ∈ tokens,
      placed.token = .punct opening ∧ placed.span = opener

theorem Finding.Traced.mono {finding : Finding} {tokens more : List PlacedToken}
    (htraced : finding.Traced source tokens) (hmore : tokens <:+ more) :
    finding.Traced source more := by
  cases finding with
  | skipped scope input =>
      obtain ⟨placed, others, mismatch, hsuffix, hattempt⟩ := htraced
      exact ⟨placed, others, mismatch, hsuffix.trans hmore, hattempt⟩
  | unclosed opening closing opener =>
      obtain ⟨placed, hplaced, hopener⟩ := htraced
      exact ⟨placed, hmore.mem hplaced, hopener⟩

/-- What a step makes of its input has no finding that cannot be traced. -/
def Reader.Traces (source : List Char) (reader : Reader α) (findings : α → List Finding) :
    Prop :=
  ∀ tokens a rest, reader tokens = .ok (a, rest) →
    ∀ finding ∈ findings a, finding.Traced source tokens

namespace Reader

theorem Traces.behind {first : Reader α} {next : α → Reader β} {findings : β → List Finding}
    (hkeeps : first.Keeps) (hnext : ∀ a, (next a).Traces source findings) :
    (first >>= next).Traces source findings := by
  intro tokens b rest hread finding hfinding
  obtain ⟨a, middle, hfirst, hread⟩ := bind_eq_ok hread
  exact (hnext a middle b rest hread finding hfinding).mono ((hkeeps tokens).1 a middle hfirst)

theorem Traces.make {reader : Reader α} (make : α → β) {findings : β → List Finding}
    (hreader : reader.Traces source fun a => findings (make a)) :
    (do let a ← reader
        return make a).Traces source findings := by
  intro tokens b rest hread
  obtain ⟨a, _, hfirst, ⟨⟩⟩ := bind_eq_ok hread
  exact hreader tokens a _ hfirst

/-- Nothing is to be traced where nothing is wrong. -/
theorem Traces.of_none {reader : Reader α} {findings : α → List Finding}
    (hnone : ∀ a, findings a = []) : reader.Traces source findings := by
  intro tokens a rest _ finding hfinding
  rw [hnone a] at hfinding
  cases hfinding

theorem make_eq_error {reader : Reader α} {make : α → β} {tokens : List PlacedToken}
    {mismatch : Mismatch} (hread : (do let a ← reader; return make a) tokens = .error mismatch) :
    reader tokens = .error mismatch := by
  change andThen reader _ tokens = .error mismatch at hread
  unfold andThen at hread
  split at hread
  · cases hread
  · rename_i hreader
    cases hread
    exact hreader

/-- A mark that was taken is a token of the input. -/
theorem punct_mem {mark : Punct} {expected : Expected} {tokens rest : List PlacedToken}
    {span : Span} (hread : punct mark expected tokens = .ok (span, rest)) :
    ∃ placed ∈ tokens, placed.token = .punct mark ∧ placed.span = span := by
  cases tokens with
  | nil => cases hread
  | cons placed others =>
      simp only [punct, expect] at hread
      split at hread
      · rename_i found haccept
        cases hread
        simp only [Token.isPunct, beq_iff_eq, Option.ite_none_right_eq_some, Option.some.injEq]
          at haccept
        exact ⟨placed, List.mem_cons_self, haccept⟩
      · cases hread

theorem eatPunct_mem {mark : Punct} {tokens rest : List PlacedToken} {span : Span}
    (hread : eatPunct mark tokens = .ok (some span, rest)) :
    ∃ placed ∈ tokens, placed.token = .punct mark ∧ placed.span = span := by
  cases tokens with
  | nil => cases hread
  | cons placed others =>
      simp only [eatPunct, optional] at hread
      split at hread
      · rename_i found haccept
        cases hread
        simp only [Token.isPunct, beq_iff_eq, Option.ite_none_right_eq_some, Option.some.injEq]
          at haccept
        exact ⟨placed, List.mem_cons_self, haccept⟩
      · cases hread

end Reader

/-- The findings among the entries of a body can be traced if those of each entry
can. -/
theorem bodyEntries_traced (scope : Scope) {rules : BodyRules α} {ofEntry : α → List Finding}
    (hskip : ∀ input, ofEntry (rules.skipped input) = [.skipped scope input])
    (hrecover : scope.recover = dropLine rules.closer)
    (hfails : ∀ start mismatch, rules.entry.read start = .error mismatch →
      scope.Fails source start mismatch)
    (hentry : rules.entry.read.Traces source ofEntry) (tokens : List PlacedToken) :
    ∀ entry ∈ (bodyEntries source rules tokens).1, ∀ finding ∈ ofEntry entry,
      finding.Traced source tokens := by
  fun_induction bodyEntries source rules tokens with
  | case1 | case2 | case3 => simp
  | case4 tokens placed others hdrop _ _ entry left hread entries close behind hinner ih =>
      have hsuffix : placed :: others <:+ tokens := hdrop ▸ dropTrivia_suffix tokens
      have hleft : left <:+ tokens := ((rules.entry.keeps _).1 _ _ hread).trans hsuffix
      simp only [hinner] at ih
      intro other hother finding hfinding
      rcases List.mem_cons.mp hother with rfl | hother
      · exact (hentry _ _ _ hread finding hfinding).mono hsuffix
      · exact (ih other hother finding hfinding).mono hleft
  | case5 tokens placed others hdrop _ _ mismatch hread left entries close behind hinner ih =>
      have hsuffix : placed :: others <:+ tokens := hdrop ▸ dropTrivia_suffix tokens
      have hstuck := resumeAfter_suffix _ _ ((rules.entry.keeps _).2 _ hread)
      have hleft : left <:+ tokens := ((dropLine_suffix _ _).trans hstuck).trans hsuffix
      simp only [hinner] at ih
      intro other hother finding hfinding
      rcases List.mem_cons.mp hother with rfl | hother
      · rw [hskip, List.mem_singleton] at hfinding
        rw [hfinding]
        refine ⟨placed, others, mismatch, hsuffix, ?_, hfails _ _ hread, ?_⟩
        · have hhead := List.head?_dropWhile_not (fun placed => placed.token.isTrivia) tokens
          rw [show tokens.dropWhile _ = placed :: others from hdrop] at hhead
          simpa using hhead
        · rw [hrecover]
      · exact (ih other hother finding hfinding).mono hleft

/-- A body behind an opening mark of the input, whatever was read in between. -/
theorem body_traced (scope : Scope) {rules : BodyRules α} {ofEntry : α → List Finding}
    (hskip : ∀ input, ofEntry (rules.skipped input) = [.skipped scope input])
    (hrecover : scope.recover = dropLine rules.closer)
    (hfails : ∀ start mismatch, rules.entry.read start = .error mismatch →
      scope.Fails source start mismatch)
    (hentry : rules.entry.read.Traces source ofEntry) {opening closing : Punct}
    {tokens start rest : List PlacedToken} {placed : PlacedToken} {block : Block α}
    (hplaced : placed ∈ tokens) (hopening : placed.token = .punct opening)
    (hstart : start <:+ tokens)
    (hread : body source rules placed.span start = .ok (block, rest)) :
    ∀ finding ∈ block.findings ofEntry opening closing, finding.Traced source tokens := by
  cases hread
  intro finding hfinding
  rcases List.mem_append.mp hfinding with hfinding | hfinding
  · obtain ⟨entry, hmem, hfinding⟩ := List.mem_flatMap.mp hfinding
    exact (bodyEntries_traced scope hskip hrecover hfails hentry start entry hmem finding
      hfinding).mono hstart
  · split at hfinding
    · cases hfinding
    · rw [List.mem_singleton.mp hfinding]
      exact ⟨placed, hplaced, hopening, rfl⟩

theorem structDef_traces : (structDef source).Traces source StructDef.findings := by
  refine .behind (Reader.expect_keeps _ _) fun name =>
    .behind Reader.skipInline_keeps fun _ => .behind structWord_keeps fun _ => ?_
  intro tokens struct rest hread
  obtain ⟨opener, middle, hopener, hread⟩ := Reader.bind_eq_ok hread
  obtain ⟨block, behind, hbody, ⟨⟩⟩ := Reader.bind_eq_ok hread
  obtain ⟨placed, hplaced, htoken, rfl⟩ := Reader.punct_mem hopener
  apply body_traced .struct (fun _ => rfl) rfl (fun _ _ => id) ?_ hplaced htoken
    ((Reader.expect_keeps _ _ tokens).1 _ _ hopener) hbody
  -- A line that was read has no finding of its own.
  intro tokens line rest hline finding hfinding
  cases line with
  | field | embedded => cases hfinding
  | skipped input =>
      obtain ⟨star, _, _, hline⟩ := Reader.bind_eq_ok hline
      obtain ⟨name, _, _, hline⟩ := Reader.bind_eq_ok hline
      cases star with
      | some star =>
          obtain ⟨_, _, _, ⟨⟩⟩ := Reader.bind_eq_ok hline
      | none =>
          obtain ⟨_, _, _, hline⟩ := Reader.bind_eq_ok hline
          obtain ⟨_, _, _, hline⟩ := Reader.bind_eq_ok hline
          split at hline
          · cases hline
          · split at hline
            · cases hline
            · obtain ⟨_, _, _, hline⟩ := Reader.bind_eq_ok hline
              obtain ⟨_, _, _, hline⟩ := Reader.bind_eq_ok hline
              obtain ⟨_, _, _, hline⟩ := Reader.bind_eq_ok hline
              obtain ⟨_, _, _, ⟨⟩⟩ := Reader.bind_eq_ok hline

theorem service_traces :
    (service source).Traces source fun block =>
      block.body.findings ServiceEntry.findings .leftBrace .rightBrace := by
  refine .behind (annotations_keeps source) fun notes =>
    .behind (Reader.expect_keeps _ _) fun keyword => .behind Reader.skipInline_keeps fun _ =>
      .behind (serviceName_keeps source) fun name => .behind Reader.skipTrivia_keeps fun _ => ?_
  intro tokens found rest hread
  obtain ⟨opener, middle, hopener, hread⟩ := Reader.bind_eq_ok hread
  obtain ⟨block, behind, hbody, ⟨⟩⟩ := Reader.bind_eq_ok hread
  obtain ⟨placed, hplaced, htoken, rfl⟩ := Reader.punct_mem hopener
  apply body_traced .service (fun _ => rfl) rfl
    (fun _ _ hfails => Reader.make_eq_error hfails) ?_ hplaced htoken
    ((Reader.expect_keeps _ _ tokens).1 _ _ hopener) hbody
  exact Reader.Traces.make ServiceEntry.route (.of_none fun _ => rfl)

theorem typeDecl_traces (start : Span) :
    (typeDecl source start).Traces source Declaration.findings := by
  refine .behind Reader.skipTrivia_keeps fun _ => ?_
  intro tokens found rest hread
  obtain ⟨opener, middle, hopener, hread⟩ := Reader.bind_eq_ok hread
  have hmiddle := (Reader.optional_keeps _ tokens).1 _ _ hopener
  cases opener with
  | none =>
      intro finding hfinding
      obtain ⟨struct, _, hstruct, ⟨⟩⟩ := Reader.bind_eq_ok hread
      exact (structDef_traces middle struct _ hstruct finding hfinding).mono hmiddle
  | some opener =>
      obtain ⟨block, behind, hbody, ⟨⟩⟩ := Reader.bind_eq_ok hread
      obtain ⟨placed, hplaced, htoken, rfl⟩ := Reader.eatPunct_mem hopener
      exact body_traced .group (fun _ => rfl) rfl
        (fun _ _ hfails => Reader.make_eq_error hfails)
        (Reader.Traces.make TypeEntry.struct structDef_traces) hplaced htoken hmiddle hbody

theorem declaration_traces : (declaration source).Traces source Declaration.findings := by
  refine .behind Reader.peek_keeps fun next => ?_
  split
  · exact Reader.Traces.make _ service_traces
  · refine .behind (Reader.expect_keeps _ _) fun found => ?_
    obtain ⟨word, start⟩ := found
    -- Only a declaration of types has lists of entries with recovery.
    cases word with
    | typeWord => exact typeDecl_traces start
    | syntaxWord =>
        refine .behind Reader.skipTrivia_keeps fun _ => .behind (Reader.expect_keeps _ _) fun _ =>
          .behind Reader.skipTrivia_keeps fun _ => ?_
        exact .make _ (.of_none fun _ => rfl)
    | infoWord =>
        refine .behind Reader.skipTrivia_keeps fun _ =>
          .behind (Reader.expect_keeps _ _) fun _ => ?_
        exact .make _ (.of_none fun _ => rfl)
    | importWord =>
        refine .behind Reader.skipTrivia_keeps fun _ =>
          .behind (Reader.optional_keeps _) fun opener => ?_
        cases opener with
        | none | some _ =>
            exact .make _ (.of_none fun _ => rfl)
    | serviceWord | returnsWord =>
        intro _ _ _ hread
        cases hread

theorem declarations_traced (tokens : List PlacedToken) :
    ∀ found ∈ declarations source tokens, ∀ finding ∈ found.findings,
      finding.Traced source tokens := by
  fun_induction declarations source tokens with
  | case1 => simp
  | case2 tokens placed others hdrop found left hread ih =>
      have hsuffix : placed :: others <:+ tokens := hdrop ▸ dropTrivia_suffix tokens
      have hleft : left <:+ tokens := ((declaration_keeps source _).1 _ _ hread).trans hsuffix
      intro other hother finding hfinding
      rcases List.mem_cons.mp hother with rfl | hother
      · exact (declaration_traces _ _ _ hread finding hfinding).mono hsuffix
      · exact (ih other hother finding hfinding).mono hleft
  | case3 tokens placed others hdrop mismatch hread left ih =>
      have hsuffix : placed :: others <:+ tokens := hdrop ▸ dropTrivia_suffix tokens
      have hstuck := resumeAfter_suffix _ _ ((declaration_keeps source _).2 _ hread)
      have hleft : left <:+ tokens := ((List.dropWhile_suffix _).trans hstuck).trans hsuffix
      intro other hother finding hfinding
      rcases List.mem_cons.mp hother with rfl | hother
      · rw [List.mem_singleton.mp hfinding]
        refine ⟨placed, others, mismatch, hsuffix, ?_, hread, rfl⟩
        have hhead := List.head?_dropWhile_not (fun placed => placed.token.isTrivia) tokens
        rw [show tokens.dropWhile _ = placed :: others from hdrop] at hhead
        simpa using hhead
      · exact (ih other hother finding hfinding).mono hleft

/-- Every finding in the tree of a source comes from its tokens. -/
theorem findings_traced (source : List Char) :
    ∀ finding ∈ (treeOf source).findings, finding.Traced source (tokenize source) := by
  intro finding hfinding
  obtain ⟨found, hfound, hfinding⟩ := List.mem_flatMap.mp hfinding
  exact declarations_traced (tokenize source) found hfound finding hfinding

end ApiLang
