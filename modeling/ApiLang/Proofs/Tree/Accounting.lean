/-
Accounting for what is wrong.  The complaints of the parser are matched with the
bodies left open and the pieces skipped, piece by piece: the only piece without a
complaint of its own is one where reading got stuck at an invalid token, and that
token lies in this piece and in no other.
-/
import ApiLang.Proofs.Tree.Findings

namespace ApiLang

variable {α : Type} {source : List Char}

/-- The complaint is about a mark that is never closed. -/
def Diagnostic.reportsUnclosed (report : Diagnostic) : Bool :=
  report.code == some .incompleteInput && "unclosed ".toList.isPrefixOf report.message.toList

def Finding.isUnclosed : Finding → Bool
  | .skipped .. => false
  | .unclosed .. => true

def Finding.piece? : Finding → Option Skipped
  | .skipped _ input => some input
  | .unclosed .. => none

/-- The pieces that were skipped. -/
def skippedOf (findings : List Finding) : List Skipped :=
  findings.filterMap Finding.piece?

/-- The pieces that were skipped at any level of the tree, from left to right. -/
def SourceFile.pieces (file : SourceFile) : List Skipped :=
  skippedOf file.findings

/-- The number of struct bodies, service bodies and groups of types that ended
without their closing mark. -/
def SourceFile.openBodies (file : SourceFile) : Nat :=
  file.findings.countP Finding.isUnclosed

/-- The complaints of the parser that are not about an open mark. -/
def SourceFile.otherDiagnostics (file : SourceFile) : List Diagnostic :=
  file.diagnostics.filter (!·.reportsUnclosed)

/-- Reading got stuck at an invalid token. -/
def Skipped.stuckAtInvalid (input : Skipped) : Bool :=
  input.found.any fun placed => placed.token.isInvalid

/-- A piece has one complaint, and none if the lexer has spoken already. -/
theorem Skipped.diagnostics_length (sourceEnd : Nat) (input : Skipped) :
    (input.diagnostics sourceEnd).length = if input.stuckAtInvalid then 0 else 1 := by
  unfold Skipped.diagnostics Expected.diagnostics Skipped.stuckAtInvalid
  split
  · rename_i placed hfound
    by_cases hinvalid : placed.token.isInvalid = true <;> simp [hfound, hinvalid]
  · rename_i hfound
    simp [hfound]

theorem Skipped.not_reportsUnclosed {sourceEnd : Nat} {input : Skipped} {report : Diagnostic}
    (hreport : report ∈ input.diagnostics sourceEnd) : report.reportsUnclosed = false := by
  unfold Skipped.diagnostics Expected.diagnostics at hreport
  split at hreport
  · split at hreport
    · cases hreport
    · rw [List.mem_singleton.mp hreport]
      simp [Diagnostic.located, Diagnostic.reportsUnclosed, List.isPrefixOf]
  · rw [List.mem_singleton.mp hreport]
    simp [Diagnostic.located, Diagnostic.reportsUnclosed, List.isPrefixOf]

theorem unclosedDiagnostic_reportsUnclosed (opener : Span) (opening closing : Punct) :
    (unclosedDiagnostic opener opening closing).reportsUnclosed = true := by
  simp [unclosedDiagnostic, Diagnostic.withHelp, Diagnostic.located, Diagnostic.reportsUnclosed]

/-- Among the complaints, those about open marks are as many as the marks left
open. -/
theorem countP_reportsUnclosed (sourceEnd : Nat) (findings : List Finding) :
    (findings.flatMap (Finding.diagnostics sourceEnd)).countP Diagnostic.reportsUnclosed =
      findings.countP Finding.isUnclosed := by
  induction findings with
  | nil => rfl
  | cons finding others ih =>
      rw [List.flatMap_cons, List.countP_append, List.countP_cons, ih, Nat.add_comm]
      congr 1
      cases finding with
      | skipped scope input =>
          simpa [Finding.diagnostics, Finding.isUnclosed, List.countP_eq_zero] using
            fun report => Skipped.not_reportsUnclosed
      | unclosed opening closing opener =>
          simp [Finding.diagnostics, Finding.isUnclosed, unclosedDiagnostic_reportsUnclosed]

/-- The other complaints are those about the pieces. -/
theorem filter_not_reportsUnclosed (sourceEnd : Nat) (findings : List Finding) :
    (findings.flatMap (Finding.diagnostics sourceEnd)).filter (!·.reportsUnclosed) =
      (skippedOf findings).flatMap (Skipped.diagnostics sourceEnd) := by
  induction findings with
  | nil => rfl
  | cons finding others ih =>
      rw [List.flatMap_cons, List.filter_append, ih]
      cases finding with
      | skipped scope input =>
          have hkept : (input.diagnostics sourceEnd).filter (!·.reportsUnclosed) =
              input.diagnostics sourceEnd := by
            apply List.filter_eq_self.mpr
            intro report hreport
            simp [Skipped.not_reportsUnclosed hreport]
          simp [Finding.diagnostics, skippedOf, Finding.piece?, hkept]
      | unclosed opening closing opener =>
          have hnone : skippedOf (.unclosed opening closing opener :: others) =
              skippedOf others := List.filterMap_cons_none rfl
          simp [Finding.diagnostics, hnone, unclosedDiagnostic_reportsUnclosed]

/-- Complaint by complaint, the pieces about which the lexer has not spoken. -/
theorem pieces_match (sourceEnd : Nat) (pieces : List Skipped) :
    List.Forall₂ (fun piece report => piece.diagnostics sourceEnd = [report])
      (pieces.filter (!·.stuckAtInvalid)) (pieces.flatMap (Skipped.diagnostics sourceEnd)) := by
  induction pieces with
  | nil => exact .nil
  | cons piece others ih =>
      have hlength := piece.diagnostics_length sourceEnd
      rw [List.flatMap_cons]
      by_cases hstuck : piece.stuckAtInvalid = true
      · rw [if_pos hstuck, List.length_eq_zero_iff] at hlength
        rw [List.filter_cons_of_neg (by simp [hstuck]), hlength]
        exact ih
      · rw [if_neg hstuck, List.length_eq_one_iff] at hlength
        obtain ⟨report, hreport⟩ := hlength
        rw [List.filter_cons_of_pos (by simp [hstuck]), hreport]
        exact .cons hreport ih

theorem skippedOf_append (left right : List Finding) :
    skippedOf (left ++ right) = skippedOf left ++ skippedOf right :=
  List.filterMap_append

/-- The pieces of a body are those of its entries. -/
theorem Block.skippedOf_findings (ofEntry : α → List Finding) (opening closing : Punct)
    (block : Block α) :
    skippedOf (block.findings ofEntry opening closing) =
      block.entries.flatMap fun entry => skippedOf (ofEntry entry) := by
  have hentries : skippedOf (block.entries.flatMap ofEntry) =
      block.entries.flatMap fun entry => skippedOf (ofEntry entry) :=
    List.filterMap_flatMap ..
  obtain ⟨opener, entries, closer⟩ := block
  cases closer <;> simp only [Block.findings, skippedOf_append, hentries] <;>
    exact List.append_nil _

/-- The spans of the pieces among findings. -/
def pieceSpans (findings : List Finding) : List Span :=
  (skippedOf findings).map Skipped.span

theorem SpellsBlock.pieceSpans_in {Item : Nat → List Lexeme → α → Prop} {skip : Skipped → α}
    {opening closing : Punct} {start : Nat} {run : List Lexeme} {block : Block α}
    (hblock : SpellsBlock Item skip opening closing start run block) (ofEntry : α → List Finding)
    (hitem : ∀ start run entry, Item start run entry →
      SpansIn start (start + widthOf run) (pieceSpans (ofEntry entry)))
    (hskip : ∀ input, pieceSpans (ofEntry (skip input)) = [input.span]) :
    SpansIn start (start + widthOf run) (pieceSpans (block.findings ofEntry opening closing)) := by
  rw [pieceSpans, block.skippedOf_findings, List.map_flatMap]
  cases hblock with
  | @closed opener close run entries _ hentries _ =>
      have hspans := hentries.spansIn (fun entry => pieceSpans (ofEntry entry)) hitem hskip
      simp only [widthOf_cons, widthOf_append, widthOf_nil] at hspans ⊢
      exact hspans.mono (by omega) (by omega)
  | @unclosed opener run entries _ hentries =>
      have hspans := hentries.spansIn (fun entry => pieceSpans (ofEntry entry)) hitem hskip
      simp only [widthOf_cons, widthOf_nil] at hspans ⊢
      exact hspans.mono (by omega) (by omega)

theorem SpellsStruct.pieceSpans_in {start : Nat} {run : List Lexeme} {struct : StructDef}
    (hstruct : SpellsStruct start run struct) :
    SpansIn start (start + widthOf run) (pieceSpans struct.findings) := by
  obtain ⟨_, _, hbody⟩ := hstruct
  have hspans := hbody.pieceSpans_in Member.findings
    (fun _ _ line hline => by cases hline <;> exact .nil _ _) (fun _ => rfl)
  simp only [widthOf_cons, widthOf_append] at hspans ⊢
  exact hspans.mono (by omega) (by omega)

/-- The pieces of a declaration lie in order within its row. -/
theorem SpellsDeclaration.pieceSpans_in {start : Nat} {run : List Lexeme} {found : Declaration}
    (hfound : SpellsDeclaration start run found) :
    SpansIn start (start + widthOf run) (pieceSpans found.findings) := by
  cases hfound with
  | version | info | importOne | imports => exact .nil _ _
  | struct _ _ hstruct =>
      have hspans := hstruct.pieceSpans_in
      simp only [widthOf_cons, widthOf_append] at hspans ⊢
      exact hspans.mono (by omega) (by omega)
  | types _ _ hblock =>
      have hspans := hblock.pieceSpans_in TypeEntry.findings
        (fun _ _ _ ⟨hstruct⟩ => hstruct.pieceSpans_in) (fun _ => rfl)
      simp only [widthOf_cons, widthOf_append] at hspans ⊢
      exact hspans.mono (by omega) (by omega)
  | service hservice =>
      obtain ⟨_, _, _, _, _, _, _, hbody⟩ := hservice
      have hspans := hbody.pieceSpans_in ServiceEntry.findings
        (fun _ _ _ ⟨_⟩ => .nil _ _) (fun _ => rfl)
      simp only [widthOf_cons, widthOf_append] at hspans ⊢
      exact hspans.mono (by omega) (by omega)

/-- The pieces of a file lie one behind the other. -/
theorem pieces_ordered (source : List Char) :
    (treeOf source).pieces.Pairwise fun left right => left.span.stop ≤ right.span.start := by
  have hspans := SpellsEntries.spansIn (parseTokens_spells source)
    (fun found => pieceSpans found.findings) (fun _ _ _ hfound => hfound.pieceSpans_in)
    (fun _ => rfl)
  have hpieces : ((treeOf source).declarations.flatMap fun found => pieceSpans found.findings) =
      (treeOf source).pieces.map Skipped.span := by
    rw [SourceFile.pieces, SourceFile.findings, skippedOf, List.filterMap_flatMap,
      List.map_flatMap]
    rfl
  have hordered := hspans.ordered
  rw [← treeOf, hpieces, List.pairwise_map] at hordered
  exact hordered

/-- Tokens that tile stand one behind the other. -/
theorem Tiles.ordered {start stop : Nat} {tokens : List PlacedToken}
    (htiles : Tiles start stop tokens) :
    (∀ placed ∈ tokens, start ≤ placed.span.start ∧ placed.span.start < placed.span.stop ∧
      placed.span.stop ≤ stop) ∧
    tokens.Pairwise fun left right => left.span.stop ≤ right.span.start := by
  induction tokens generalizing start with
  | nil => exact ⟨by simp, .nil⟩
  | cons first others ih =>
      obtain ⟨hstart, hwidth, hothers⟩ := htiles
      obtain ⟨hbounds, hordered⟩ := ih hothers
      have hfirst : ∀ placed ∈ others, first.span.stop ≤ placed.span.start :=
        fun placed hplaced => (hbounds placed hplaced).1
      refine ⟨?_, List.pairwise_cons.mpr ⟨hfirst, hordered⟩⟩
      intro placed hplaced
      rcases List.mem_cons.mp hplaced with rfl | hplaced
      · cases others with
        | nil =>
            have hstop : placed.span.stop = stop := hothers
            omega
        | cons next _ =>
            have hnext := hbounds next List.mem_cons_self
            have hbefore := hfirst next List.mem_cons_self
            omega
      · have hbound := hbounds placed hplaced
        omega

theorem Span.overlaps_comm (left right : Span) : left.overlaps right = right.overlaps left := by
  simp only [Span.overlaps, Bool.and_comm]

/-- Two tokens of a source share no byte unless they are the same. -/
theorem tokenize_disjoint {left right : PlacedToken} (hleft : left ∈ tokenize source)
    (hright : right ∈ tokenize source) (hne : left ≠ right) :
    left.span.overlaps right.span = false := by
  have hapart : (tokenize source).Pairwise fun first second =>
      first.span.overlaps second.span = false := by
    refine (tokenize_tiles source).ordered.2.imp fun hbefore => ?_
    simp only [Span.overlaps, Bool.and_eq_false_iff, decide_eq_false_iff_not]
    omega
  have : Std.Symm fun first second : PlacedToken => first.span.overlaps second.span = false :=
    ⟨fun first second h => (Span.overlaps_comm second.span first.span).trans h⟩
  exact hapart.forall hleft hright hne

/-- The token a piece stopped at is a token of the source. -/
theorem Finding.Traced.found_mem {scope : Scope} {input : Skipped} {tokens : List PlacedToken}
    (htraced : (Finding.skipped scope input).Traced source tokens) {placed : PlacedToken}
    (hfound : input.found = some placed) : placed ∈ tokens := by
  obtain ⟨first, others, mismatch, hsuffix, _, hfails, rfl⟩ := htraced
  have hrest : mismatch.rest.head? = some placed := hfound
  exact hsuffix.mem (hfails.suffix.mem (List.mem_of_mem_head? hrest))

/-- An invalid token at which reading got stuck lies within the piece. -/
theorem Finding.Traced.contains_invalid {scope : Scope} {input : Skipped}
    (htraced : (Finding.skipped scope input).Traced source (tokenize source))
    {placed : PlacedToken} (hfound : input.found = some placed)
    (hinvalid : placed.token.isInvalid = true) : input.span.contains placed.span = true := by
  obtain ⟨first, others, mismatch, hsuffix, hsolid, hfails, rfl⟩ := htraced
  obtain ⟨before, row, hrow, hplace⟩ := placeLexemes_suffix hsuffix
  have hstuck := hfails.suffix
  rw [hplace] at hfound hstuck
  have hsource := (hrow ▸ located_lexemes source).right
  have hhead : ∀ lexeme ∈ row.head?, lexeme.token.isTrivia = false := by
    intro lexeme hlexeme
    obtain ⟨others, rfl⟩ := List.head?_eq_some_iff.mp hlexeme
    cases hplace
    exact hsolid
  obtain ⟨run, left, _, hleft, _, hskipped⟩ := skipped_spells scope.recovers hsource
    (by rintro rfl; cases hplace) hhead hstuck
  rw [hleft] at hfound
  rw [hplace, hleft]
  obtain ⟨_, _, _, hspan, hcore⟩ := hskipped
  obtain ⟨earlier, lexeme, later, rfl, _, hat⟩ :=
    mem_placeLexemes (hcore placed hfound hinvalid)
  rw [hspan, hat]
  simp only [Span.contains, spanAt, widthOf_append, widthOf_cons, Bool.and_eq_true,
    decide_eq_true_eq]
  simp only [widthOf]
  omega

/-- The complaint of a piece stands at the token where reading got stuck, or
behind all tokens. -/
theorem Skipped.label_of_mem {sourceEnd : Nat} {input : Skipped} {report : Diagnostic}
    {label : Label} (hreport : report ∈ input.diagnostics sourceEnd)
    (hlabel : label ∈ report.labels) :
    (∃ placed, input.found = some placed ∧ placed.token.isInvalid = false ∧
      label.span = placed.span) ∨ label.span = Span.empty sourceEnd := by
  unfold Skipped.diagnostics Expected.diagnostics at hreport
  split at hreport
  · rename_i placed hfound
    split at hreport
    · cases hreport
    · rename_i hvalid
      rw [List.mem_singleton.mp hreport] at hlabel
      rw [List.mem_singleton.mp hlabel]
      exact .inl ⟨placed, hfound, Bool.eq_false_iff.mpr hvalid, rfl⟩
  · rw [List.mem_singleton.mp hreport] at hlabel
    rw [List.mem_singleton.mp hlabel]
    exact .inr rfl

/-- No complaint about a finding is placed on an invalid token. -/
theorem Finding.Traced.label_not_on_invalid {finding : Finding}
    (htraced : finding.Traced source (tokenize source)) {report : Diagnostic} {label : Label}
    (hreport : report ∈ finding.diagnostics (byteWidth source)) (hlabel : label ∈ report.labels)
    {placed : PlacedToken} (hplaced : placed ∈ tokenize source)
    (hinvalid : placed.token.isInvalid = true) : label.span.overlaps placed.span = false := by
  have happart : ∀ other ∈ tokenize source, other.token.isInvalid = false →
      other.span.overlaps placed.span = false := by
    intro other hother hvalid
    refine tokenize_disjoint hother hplaced ?_
    rintro rfl
    rw [hvalid] at hinvalid
    cases hinvalid
  cases finding with
  | skipped scope input =>
      rcases Skipped.label_of_mem hreport hlabel with ⟨other, hfound, hvalid, hspan⟩ | hspan
      · rw [hspan]
        exact happart other (htraced.found_mem hfound) hvalid
      · have hstop := ((tokenize_tiles source).ordered.1 placed hplaced).2.2
        simp only [hspan, Span.overlaps, Span.empty, Bool.and_eq_false_iff,
          decide_eq_false_iff_not]
        omega
  | unclosed opening closing opener =>
      obtain ⟨other, hother, htoken, hspan⟩ := htraced
      rw [List.mem_singleton.mp hreport] at hlabel
      rw [List.mem_singleton.mp hlabel]
      have hapart := happart other hother (by simp [htoken, Token.isInvalid])
      rw [hspan] at hapart
      exact hapart

/-- A complaint about a piece names the token that does not fit, or the end of the
input. -/
theorem Skipped.code_of_mem {sourceEnd : Nat} {input : Skipped} {report : Diagnostic}
    (hreport : report ∈ input.diagnostics sourceEnd) :
    report.code = some .unexpectedToken ∨
      report.code = some .incompleteInput ∧
        report.message = "expected " ++ input.expected.label ++ ", found end of input" := by
  unfold Skipped.diagnostics Expected.diagnostics at hreport
  split at hreport
  · split at hreport
    · cases hreport
    · rw [List.mem_singleton.mp hreport]
      exact .inl rfl
  · rw [List.mem_singleton.mp hreport]
    exact .inr ⟨rfl, rfl⟩

/-- How the complaints of the parser about a source answer to what is wrong with
its tree. -/
structure Accounts (source : List Char) : Prop where
  /-- There is one complaint about an open mark for each body left open. -/
  unclosed : (treeOf source).diagnostics.countP Diagnostic.reportsUnclosed =
    (treeOf source).openBodies
  /-- The others are about a token that does not fit or about the end of input. -/
  codes : ∀ report ∈ (treeOf source).otherDiagnostics, report.code = some .unexpectedToken ∨
    report.code = some .incompleteInput ∧
      ∃ expected : Expected,
        report.message = "expected " ++ expected.label ++ ", found end of input"
  /-- Without invalid tokens there is one for each piece that was skipped. -/
  others_of_valid : (∀ placed ∈ tokenize source, placed.token.isInvalid = false) →
    (treeOf source).otherDiagnostics.length = (treeOf source).pieces.length
  others_le : (treeOf source).otherDiagnostics.length ≤ (treeOf source).pieces.length
  /-- In general each piece that is not stuck at an invalid token has one, and in
  the same order. -/
  others_match : List.Forall₂ (fun piece report => piece.diagnostics (byteWidth source) = [report])
    ((treeOf source).pieces.filter (!·.stuckAtInvalid)) (treeOf source).otherDiagnostics
  missing : ∀ piece ∈ (treeOf source).pieces,
    piece.diagnostics (byteWidth source) = [] ↔ piece.stuckAtInvalid = true
  /-- Every piece comes from an attempt to read that failed, and remembers the
  token at which it did. -/
  traced : ∀ finding ∈ (treeOf source).findings, finding.Traced source (tokenize source)
  /-- An invalid token at which reading got stuck lies in its piece alone. -/
  stuck : ∀ piece ∈ (treeOf source).pieces, ∀ placed, piece.found = some placed →
    placed.token.isInvalid = true →
      placed ∈ tokenize source ∧ piece.span.contains placed.span = true ∧
        (treeOf source).pieces.countP (fun other => other.span.contains placed.span) = 1
  /-- No complaint is placed on an invalid token. -/
  labels : ∀ report ∈ (treeOf source).diagnostics, ∀ label ∈ report.labels,
    label.primary = true → ∀ placed ∈ tokenize source, placed.token.isInvalid = true →
      label.span.overlaps placed.span = false
  /-- Silence means that nothing was skipped and every body was closed. -/
  silent : Accepted source → (treeOf source).pieces = [] ∧ (treeOf source).openBodies = 0

theorem otherDiagnostics_eq (source : List Char) :
    (treeOf source).otherDiagnostics =
      (treeOf source).pieces.flatMap (Skipped.diagnostics (byteWidth source)) := by
  rw [SourceFile.otherDiagnostics, SourceFile.diagnostics_eq_findings]
  exact filter_not_reportsUnclosed _ _

theorem mem_pieces {file : SourceFile} {piece : Skipped} :
    piece ∈ file.pieces ↔ ∃ scope, Finding.skipped scope piece ∈ file.findings := by
  rw [SourceFile.pieces, skippedOf, List.mem_filterMap]
  constructor
  · rintro ⟨finding, hfinding, hpiece⟩
    cases finding with
    | skipped scope input =>
        cases hpiece
        exact ⟨scope, hfinding⟩
    | unclosed => cases hpiece
  · rintro ⟨scope, hfinding⟩
    exact ⟨_, hfinding, rfl⟩

/-- Without invalid tokens no piece is stuck at one. -/
theorem stuckAtInvalid_of_valid
    (hvalid : ∀ placed ∈ tokenize source, placed.token.isInvalid = false) {piece : Skipped}
    (hpiece : piece ∈ (treeOf source).pieces) : piece.stuckAtInvalid = false := by
  obtain ⟨scope, hfinding⟩ := mem_pieces.mp hpiece
  have htraced := findings_traced source _ hfinding
  rw [Skipped.stuckAtInvalid, Option.any_eq_false]
  intro placed hfound
  simp [hvalid placed (htraced.found_mem hfound)]

/-- The parser accounts for all it complains about. -/
theorem parser_accounts (source : List Char) : Accounts source := by
  have hpieces := pieces_match (byteWidth source) (treeOf source).pieces
  rw [← otherDiagnostics_eq] at hpieces
  have hcount : (treeOf source).diagnostics.countP Diagnostic.reportsUnclosed =
      (treeOf source).openBodies := by
    rw [SourceFile.diagnostics_eq_findings]
    exact countP_reportsUnclosed _ _
  have hvalid : (∀ placed ∈ tokenize source, placed.token.isInvalid = false) →
      (treeOf source).otherDiagnostics.length = (treeOf source).pieces.length := by
    intro hvalid
    rw [← hpieces.length_eq, List.filter_eq_self.mpr]
    intro piece hpiece
    simp [stuckAtInvalid_of_valid hvalid hpiece]
  constructor
  case unclosed => exact hcount
  case codes =>
    intro report hreport
    rw [otherDiagnostics_eq, List.mem_flatMap] at hreport
    obtain ⟨piece, _, hreport⟩ := hreport
    rcases Skipped.code_of_mem hreport with hcode | ⟨hcode, hmessage⟩
    · exact .inl hcode
    · exact .inr ⟨hcode, piece.expected, hmessage⟩
  case others_of_valid => exact hvalid
  case others_le =>
    rw [← hpieces.length_eq]
    exact List.length_filter_le _ _
  case others_match => exact hpieces
  case missing =>
    intro piece _
    rw [← List.length_eq_zero_iff, piece.diagnostics_length]
    cases piece.stuckAtInvalid <;> simp
  case traced => exact findings_traced source
  case stuck =>
    intro piece hpiece placed hfound hinvalid
    obtain ⟨scope, hfinding⟩ := mem_pieces.mp hpiece
    have htraced := findings_traced source _ hfinding
    have hmem := htraced.found_mem hfound
    have hcontains := htraced.contains_invalid hfound hinvalid
    have hwidth := ((tokenize_tiles source).ordered.1 placed hmem).2.1
    refine ⟨hmem, hcontains, Nat.le_antisymm ?_ ?_⟩
    · exact countP_contains_le_one (pieces_ordered source) hwidth
    · exact List.countP_pos_iff.mpr ⟨piece, hpiece, hcontains⟩
  case labels =>
    intro report hreport label hlabel _ placed hplaced hinvalid
    rw [SourceFile.diagnostics_eq_findings, List.mem_flatMap] at hreport
    obtain ⟨finding, hfinding, hreport⟩ := hreport
    exact (findings_traced source finding hfinding).label_not_on_invalid hreport hlabel hplaced
      hinvalid
  case silent =>
    rintro ⟨hlexer, hparser⟩
    have hother := hvalid ((tokenDiagnostics_eq_nil_iff _).mp hlexer)
    rw [SourceFile.otherDiagnostics, hparser] at hother
    rw [hparser] at hcount
    exact ⟨List.length_eq_zero_iff.mp hother.symm, hcount.symm⟩

end ApiLang
