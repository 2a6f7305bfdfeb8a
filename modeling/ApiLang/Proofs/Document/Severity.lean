/-
Who reports errors.  Every complaint about words, grammar and names is an error,
and every remark about the value of an annotation is a warning; so a rule adds no
error exactly if it is silent.
-/
import ApiLang.Proofs.Document.Duplicates
import ApiLang.Proofs.Tree.Whole

namespace ApiLang

namespace Diagnostic

@[simp] theorem isError_located (severity : Severity) (code : DiagnosticCode) (message : String)
    (span : Span) (remark : String) :
    (located severity code message span remark).isError = (severity == .error) := rfl

@[simp] theorem isError_withHelp (diagnostic : Diagnostic) (help : String) :
    (diagnostic.withHelp help).isError = diagnostic.isError := rfl

end Diagnostic

/-- No diagnostic is an error. -/
def ErrorFree (diagnostics : List Diagnostic) : Prop :=
  ∀ diagnostic ∈ diagnostics, diagnostic.isError = false

/-- Every diagnostic is an error. -/
def AllErrors (diagnostics : List Diagnostic) : Prop :=
  ∀ diagnostic ∈ diagnostics, diagnostic.isError = true

theorem errorFree_append {left right : List Diagnostic} :
    ErrorFree (left ++ right) ↔ ErrorFree left ∧ ErrorFree right :=
  List.forall_mem_append

theorem errorFree_sortByPlace {diagnostics : List Diagnostic} :
    ErrorFree (Diagnostic.sortByPlace diagnostics) ↔ ErrorFree diagnostics := by
  simp [ErrorFree, Diagnostic.sortByPlace]

/-- Where all that can be said is an error, no error means silence. -/
theorem AllErrors.errorFree_iff {diagnostics : List Diagnostic} (hall : AllErrors diagnostics) :
    ErrorFree diagnostics ↔ diagnostics = [] := by
  constructor
  · intro hfree
    rw [List.eq_nil_iff_forall_not_mem]
    intro diagnostic hmem
    have herror := hall diagnostic hmem
    rw [hfree diagnostic hmem] at herror
    cases herror
  · rintro rfl
    simp [ErrorFree]

theorem allErrors_nil : AllErrors [] := by
  simp [AllErrors]

theorem allErrors_singleton {diagnostic : Diagnostic} (herror : diagnostic.isError = true) :
    AllErrors [diagnostic] := by
  simpa [AllErrors] using herror

theorem AllErrors.append {left right : List Diagnostic} (hleft : AllErrors left)
    (hright : AllErrors right) : AllErrors (left ++ right) :=
  List.forall_mem_append.mpr ⟨hleft, hright⟩

theorem allErrors_flatMap {α : Type} {inputs : List α} {complain : α → List Diagnostic}
    (hall : ∀ input ∈ inputs, AllErrors (complain input)) :
    AllErrors (inputs.flatMap complain) :=
  List.forall_mem_flatMap.mpr hall

theorem invalidTokenDiagnostic_isError (text : String) (span : Span) :
    (invalidTokenDiagnostic text span).isError = true := by
  unfold invalidTokenDiagnostic
  split <;> rfl

theorem tokenDiagnostics_allErrors (tokens : List PlacedToken) :
    AllErrors (tokenDiagnostics tokens) := by
  intro diagnostic hmem
  obtain ⟨placed, _, hfound⟩ := List.mem_filterMap.mp hmem
  split at hfound
  · cases hfound
    exact invalidTokenDiagnostic_isError _ _
  · cases hfound

section Grammar

variable (sourceEnd : Nat)

theorem Skipped.diagnostics_allErrors (input : Skipped) :
    AllErrors (input.diagnostics sourceEnd) := by
  unfold Skipped.diagnostics Expected.diagnostics
  split
  · split
    · exact allErrors_nil
    · exact allErrors_singleton rfl
  · exact allErrors_singleton rfl

theorem Block.diagnostics_allErrors {α : Type} {ofEntry : α → List Diagnostic}
    (hentry : ∀ entry, AllErrors (ofEntry entry)) (opening closing : Punct) (block : Block α) :
    AllErrors (block.diagnostics ofEntry opening closing) := by
  have hentries : AllErrors (block.entries.flatMap ofEntry) :=
    allErrors_flatMap fun entry _ => hentry entry
  apply hentries.append
  cases block.closer with
  | some _ => exact allErrors_nil
  | none => exact allErrors_singleton rfl

theorem StructDef.diagnostics_allErrors (struct : StructDef) :
    AllErrors (struct.diagnostics sourceEnd) := by
  apply Block.diagnostics_allErrors
  intro line
  cases line with
  | field _ | embedded _ => exact allErrors_nil
  | skipped input => exact input.diagnostics_allErrors sourceEnd

theorem Declaration.diagnostics_allErrors (found : Declaration) :
    AllErrors (found.diagnostics sourceEnd) := by
  cases found with
  | version _ _ | info _ _ | imports _ _ => exact allErrors_nil
  | types _ body =>
      cases body with
      | single struct => exact struct.diagnostics_allErrors sourceEnd
      | group block =>
          apply Block.diagnostics_allErrors
          intro entry
          cases entry with
          | struct definition => exact definition.diagnostics_allErrors sourceEnd
          | skipped input => exact input.diagnostics_allErrors sourceEnd
  | service block =>
      apply Block.diagnostics_allErrors
      intro entry
      cases entry with
      | route _ => exact allErrors_nil
      | skipped input => exact input.diagnostics_allErrors sourceEnd
  | skipped input => exact input.diagnostics_allErrors sourceEnd

end Grammar

theorem SourceFile.diagnostics_allErrors (file : SourceFile) : AllErrors file.diagnostics :=
  allErrors_flatMap fun found _ => found.diagnostics_allErrors _

theorem errorFree_flatMap {α : Type} {inputs : List α} {remark : α → List Diagnostic}
    (hfree : ∀ input ∈ inputs, ErrorFree (remark input)) : ErrorFree (inputs.flatMap remark) :=
  List.forall_mem_flatMap.mpr hfree

theorem valueWarning_errorFree (key : String) (value : ValueList) :
    ErrorFree (valueWarning key value) := by
  simp only [valueWarning]
  split
  · simp [ErrorFree]
  · simp [ErrorFree]

theorem entryWarnings_errorFree (entries : List KeyValue) : ErrorFree (entryWarnings entries) :=
  errorFree_flatMap fun entry _ => valueWarning_errorFree entry.key.val entry.value

theorem annotationWarnings_errorFree (note : Annotation) :
    ErrorFree (annotationWarnings note) := by
  unfold annotationWarnings
  split
  · simp [ErrorFree]
  · exact valueWarning_errorFree _ _
  · exact entryWarnings_errorFree _

theorem Declaration.warnings_errorFree (found : Declaration) : ErrorFree found.warnings := by
  cases found with
  | info entries _ => exact entryWarnings_errorFree entries
  | service block =>
      rw [Declaration.warnings, errorFree_append]
      refine ⟨errorFree_flatMap fun note _ => annotationWarnings_errorFree note, ?_⟩
      apply errorFree_flatMap
      intro entry _
      cases entry with
      | route line => exact errorFree_flatMap fun note _ => annotationWarnings_errorFree note
      | skipped _ => simp [ServiceEntry.warnings, ErrorFree]
  | version _ _ | imports _ _ | types _ _ | skipped _ => simp [Declaration.warnings, ErrorFree]

/-- Nothing said about a document on its own is an error exactly if lexer and
parser were silent. -/
theorem parse_diagnostics_errorFree_iff (source path : String) :
    ErrorFree (Document.parse source path).diagnostics ↔ Accepted source.toList := by
  have hwarnings : ErrorFree ((treeOf source.toList).declarations.flatMap Declaration.warnings) :=
    errorFree_flatMap fun found _ => found.warnings_errorFree
  rw [parse_eq, errorFree_sortByPlace, fileComplaints, errorFree_append, errorFree_append,
    (tokenDiagnostics_allErrors _).errorFree_iff,
    (SourceFile.diagnostics_allErrors _).errorFree_iff, Accepted]
  simp [hwarnings]

theorem duplicateComplaints_allErrors (document : Document) :
    AllErrors (duplicateComplaints document) := by
  have hdeclarations : ∀ kind code, AllErrors (duplicateDeclarations document kind code) := by
    intro kind code
    apply allErrors_flatMap
    intro entry _
    exact List.forall_mem_map.mpr fun node _ => rfl
  have hfields : AllErrors (duplicateFields document) := by
    apply allErrors_flatMap
    intro struct _
    apply allErrors_flatMap
    intro entry _
    exact List.forall_mem_map.mpr fun span _ => rfl
  exact (hdeclarations _ _).append
    ((hdeclarations _ _).append ((hdeclarations _ _).append hfields))

end ApiLang
