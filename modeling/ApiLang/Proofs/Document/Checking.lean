/-
What a passing check means.  A check finds no error exactly if the source is made
of valid tokens, its tree is whole, its names differ, its uses of types point at
one declaration each and its imports can be read.
-/
import ApiLang.CheckReport
import ApiLang.Proofs.Document.Imports
import ApiLang.Proofs.Document.Severity

namespace ApiLang

variable {document : Document}

theorem referenceComplaint_allErrors (name : String) (span : Span) (found : Resolution) :
    AllErrors (referenceComplaint document name span found) := by
  cases found with
  | resolved _ => exact allErrors_nil
  | unresolved | ambiguous _ => exact allErrors_singleton rfl

theorem referenceComplaint_eq_nil_iff (name : String) (span : Span) (found : Resolution) :
    referenceComplaint document name span found = [] ↔ found.isResolved = true := by
  cases found with
  | resolved _ | unresolved | ambiguous _ =>
      simp [referenceComplaint, Resolution.isResolved, Resolution.target?]

section Rules

variable (loader : Loader) (document : Document)

theorem checkReference_steady (id : NodeId) (node : Node) :
    Steady loader (checkReference loader document id node) := by
  unfold checkReference
  split
  · exact (resolve_steady document id).bind fun _ => .pure _
  · exact .pure _

/-- What is said about a use of a type. -/
theorem freshAnswer_checkReference {id : NodeId} {node : Node} {name : Spanned String}
    {role : ReferenceRole} (hkind : node.kind = .typeRef name role) :
    freshAnswer (checkReference loader document id node) =
      referenceComplaint document name.val node.span
        (freshAnswer (resolve loader document id)) := by
  simp only [checkReference, hkind]
  exact freshAnswer_bind (resolve_steady document id) fun _ => .pure _

/-- A use of a type is not complained about exactly if it is resolved. -/
theorem checkReference_errorFree_iff (id : NodeId) (node : Node) :
    ErrorFree (freshAnswer (checkReference loader document id node)) ↔
      ∀ name role, node.kind = .typeRef name role →
        (freshAnswer (resolve loader document id)).isResolved = true := by
  cases hkind : node.kind with
  | typeRef name role =>
      rw [freshAnswer_checkReference loader document hkind,
        (referenceComplaint_allErrors _ _ _).errorFree_iff, referenceComplaint_eq_nil_iff]
      simp
  | _ =>
      have hanswer : freshAnswer (checkReference loader document id node) = [] := by
        simp only [checkReference, hkind]
        rfl
      simp [hanswer, ErrorFree]

theorem checkImport_steady (node : Node) : Steady loader (checkImport loader document node) := by
  unfold checkImport
  split
  · split
    · exact .pure _
    · refine (importDocument_steady document _).bind ?_
      intro answer
      cases answer with
      | ok _ | error _ => exact .pure _
  · exact .pure _

/-- What is said about an import that names a path. -/
theorem freshAnswer_checkImport {node : Node} {written : Spanned String}
    (hkind : node.kind = .importPath written) (hfull : written.val ≠ "") :
    freshAnswer (checkImport loader document node) =
      match loadDocument loader (document.importTarget written.val) with
      | .ok _ => []
      | .error fault =>
        [Diagnostic.located .error .unresolvedImport
          s!"cannot resolve import `{written.val}`" written.span fault.message] := by
  have hnonempty : written.val.isEmpty = false := by simpa using hfull
  simp only [checkImport, hkind, hnonempty, Bool.false_eq_true, ↓reduceIte]
  rw [freshAnswer_bind (importDocument_steady document written.val), freshAnswer_importDocument]
  · cases loadDocument loader (document.importTarget written.val) with
    | ok _ | error _ => rfl
  · intro answer
    cases answer with
    | ok _ | error _ => exact .pure _

/-- An import is not complained about exactly if it names nothing or a readable
`.api` file. -/
theorem checkImport_errorFree_iff (node : Node) :
    ErrorFree (freshAnswer (checkImport loader document node)) ↔
      ∀ written, node.kind = .importPath written → written.val ≠ "" →
        (document.importTarget written.val).extension? = some "api" ∧
          ∃ text, loader (document.importTarget written.val) = .ok text := by
  cases hkind : node.kind with
  | importPath written =>
      by_cases hempty : written.val = ""
      · have hanswer : freshAnswer (checkImport loader document node) = [] := by
          simp only [checkImport, hkind, hempty]
          rfl
        simp [hanswer, hempty, ErrorFree]
      · have hreadable := loadDocument_isOk_iff loader (document.importTarget written.val)
        rw [freshAnswer_checkImport loader document hkind hempty]
        simp only [NodeKind.importPath.injEq, forall_eq', hempty, ne_eq, not_false_eq_true,
          forall_const, ← hreadable]
        cases loadDocument loader (document.importTarget written.val) with
        | ok imported | error fault => simp [ErrorFree]
  | _ =>
      have hanswer : freshAnswer (checkImport loader document node) = [] := by
        simp only [checkImport, hkind]
        rfl
      simp [hanswer, ErrorFree]

/-- The rules about uses of types and about imports look at each node as if it were
the only one. -/
theorem freshAnswer_importComplaints :
    freshAnswer (importComplaints loader document) =
      document.numbered.flatMap
        (fun numbered => freshAnswer (checkReference loader document numbered.1 numbered.2)) ++
      document.numbered.flatMap
        fun numbered => freshAnswer (checkImport loader document numbered.2) := by
  have hreference : ∀ numbered : NodeId × Node,
      Steady loader (checkReference loader document numbered.1 numbered.2) :=
    fun numbered => checkReference_steady loader document numbered.1 numbered.2
  have himport : ∀ numbered : NodeId × Node,
      Steady loader (checkImport loader document numbered.2) :=
    fun numbered => checkImport_steady loader document numbered.2
  have huses := Steady.mapM hreference document.numbered
  have himports := Steady.mapM himport document.numbered
  rw [importComplaints, freshAnswer_bind huses fun uses => himports.bind fun imports =>
    .pure (uses.flatten ++ imports.flatten), freshAnswer_bind himports fun imports =>
    .pure (_ ++ imports.flatten), freshAnswer_mapM hreference, freshAnswer_mapM himport,
    List.flatMap_def, List.flatMap_def]
  rfl

theorem errorFree_numbered {complain : NodeId × Node → List Diagnostic} :
    ErrorFree (document.numbered.flatMap complain) ↔
      ∀ id node, document.get? id = some node → ErrorFree (complain (id, node)) := by
  rw [ErrorFree, List.forall_mem_flatMap, Prod.forall]
  simp only [Document.mem_numbered, ErrorFree]

end Rules

/-- What a check asks of a source, of its document and of the files it imports. -/
structure Faultless (loader : Loader) (source : List Char) (document : Document) : Prop where
  tokens : ∀ placed ∈ tokenize source, placed.token.isInvalid = false
  tree : (treeOf source).Whole
  names : document.DistinctNames
  references : ∀ id node name role, document.get? id = some node →
    node.kind = .typeRef name role → (freshAnswer (resolve loader document id)).isResolved = true
  imports : ∀ id node written, document.get? id = some node → node.kind = .importPath written →
    written.val ≠ "" → (document.importTarget written.val).extension? = some "api" ∧
      ∃ text, loader (document.importTarget written.val) = .ok text

theorem localComplaints_errorFree_iff (source path : String) :
    ErrorFree (localComplaints (Document.parse source path)) ↔
      Accepted source.toList ∧ (Document.parse source path).DistinctNames := by
  rw [localComplaints_eq, errorFree_append, parse_diagnostics_errorFree_iff,
    (duplicateComplaints_allErrors _).errorFree_iff, duplicateComplaints_eq_nil_iff]

/-- What is said about a parsed document is free of errors exactly if nothing is
wrong with the document. -/
theorem validate_errorFree_iff (loader : Loader) (source path : String) :
    ErrorFree (validate loader (Document.parse source path)) ↔
      Faultless loader source.toList (Document.parse source path) := by
  have hsplit : validate loader (Document.parse source path) =
      Diagnostic.sortByPlace (localComplaints (Document.parse source path) ++
        freshAnswer (importComplaints loader (Document.parse source path))) := rfl
  rw [hsplit, errorFree_sortByPlace, errorFree_append, localComplaints_errorFree_iff,
    freshAnswer_importComplaints, errorFree_append, errorFree_numbered, errorFree_numbered,
    accepted_iff, allValid_iff 0]
  simp only [checkReference_errorFree_iff, checkImport_errorFree_iff]
  constructor
  · rintro ⟨⟨⟨htokens, htree⟩, hnames⟩, hreferences, himports⟩
    refine ⟨htokens, htree, hnames, ?_, ?_⟩
    · intro id node name role hget
      exact hreferences id node hget name role
    · intro id node written hget
      exact himports id node hget written
  · intro hfaultless
    refine ⟨⟨⟨hfaultless.tokens, hfaultless.tree⟩, hfaultless.names⟩, ?_, ?_⟩
    · intro id node hget name role
      exact hfaultless.references id node name role hget
    · intro id node hget written
      exact hfaultless.imports id node written hget

theorem CheckReport.passed_iff (document : Document) (diagnostics : List Diagnostic) :
    CheckReport.passed { document, diagnostics, denyWarnings := false } = true ↔
      ErrorFree diagnostics := by
  simp [CheckReport.passed, CheckReport.errors, Diagnostic.errorCount, ErrorFree,
    List.countP_eq_zero]

/-- A check finds no error, and passes if warnings are allowed, exactly if nothing is
wrong with the document. -/
theorem check_passes_iff (loader : Loader) (source path : String) :
    let document := Document.parse source path
    let diagnostics := validate loader document
    ((∀ diagnostic ∈ diagnostics, diagnostic.isError = false) ↔
      Faultless loader source.toList document) ∧
    (CheckReport.passed { document, diagnostics, denyWarnings := false } = true ↔
      Faultless loader source.toList document) := by
  intro document diagnostics
  have hiff := validate_errorFree_iff loader source path
  exact ⟨hiff, (CheckReport.passed_iff document diagnostics).trans hiff⟩

end ApiLang
