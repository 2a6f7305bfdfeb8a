/-
Finding declarations and checking agree.  Validation says at the span of a reference
whether it points at one declaration, since references do not share their spans; and
where it does, the location found for it is the name of that declaration, or the
beginning of the imported document.
-/
import ApiLang.Location
import ApiLang.Proofs.Document.Labels
import ApiLang.Proofs.Document.Meaning

namespace ApiLang

/-- A reference is its own name. -/
def Node.IsName (node : Node) : Prop :=
  node.kind.isReference = true → node.nameSpan = node.span

section Names

theorem useSubtrees_isName (parent : NodeId) (role : ReferenceRole) (type : TypeExpr) :
    ∀ subtree ∈ useSubtrees parent role type, EachNode Node.IsName subtree := by
  intro subtree hsubtree
  obtain ⟨name, _, rfl⟩ := List.mem_map.mp hsubtree
  exact eachNode_leaf fun _ => rfl

theorem skippedSubtree_isName (parent : Option NodeId) (input : Skipped) :
    EachNode Node.IsName (skippedSubtree parent input) :=
  eachNode_leaf nofun

theorem memberSubtree_isName (struct : NodeId) (line : Member) :
    EachNode Node.IsName (memberSubtree struct line) := by
  cases line with
  | field line => exact eachNode_withChildren (fun _ _ => nofun) fun _ => useSubtrees_isName _ _ _
  | embedded line =>
      exact eachNode_withChildren (fun _ _ => nofun) fun _ => useSubtrees_isName _ _ _
  | skipped input => exact skippedSubtree_isName _ input

theorem structSubtree_isName (struct : StructDef) :
    EachNode Node.IsName (structSubtree struct) := by
  refine eachNode_withChildren (fun _ _ => nofun) fun id subtree hsubtree => ?_
  obtain ⟨line, _, rfl⟩ := List.mem_map.mp hsubtree
  exact memberSubtree_isName id line

theorem routeSubtree_isName (service : NodeId) (route : Route) :
    EachNode Node.IsName (routeSubtree service route) := by
  refine eachNode_withChildren (fun _ _ => nofun) fun id => ?_
  exact forall_mem_routeChildren (fun _ _ => eachNode_leaf nofun)
    (fun type _ => useSubtrees_isName id .request type)
    fun type _ => useSubtrees_isName id .response type

theorem serviceSubtree_isName (service : Service) :
    EachNode Node.IsName (serviceSubtree service) := by
  refine eachNode_withChildren (fun _ _ => nofun) fun id subtree hsubtree => ?_
  obtain ⟨entry, _, rfl⟩ := List.mem_map.mp hsubtree
  cases entry with
  | route route => exact routeSubtree_isName id route
  | skipped input => exact skippedSubtree_isName _ input

theorem Declaration.subtrees_isName (found : Declaration) :
    ∀ subtree ∈ found.subtrees, EachNode Node.IsName subtree := by
  intro subtree hsubtree
  cases found with
  | version | info =>
      rw [List.mem_singleton.mp hsubtree]
      exact eachNode_leaf nofun
  | imports paths span =>
      obtain ⟨path, _, rfl⟩ := List.mem_map.mp hsubtree
      exact eachNode_leaf fun _ => rfl
  | types keyword body =>
      obtain ⟨entry, _, rfl⟩ := List.mem_map.mp hsubtree
      cases entry with
      | struct struct => exact structSubtree_isName struct
      | skipped input => exact skippedSubtree_isName _ input
  | service service =>
      rw [List.mem_singleton.mp hsubtree]
      exact serviceSubtree_isName service
  | skipped input =>
      rw [List.mem_singleton.mp hsubtree]
      exact skippedSubtree_isName _ input

theorem parse_isName (source path : String) :
    ∀ node ∈ (Document.parse source path).nodes.toList, node.IsName :=
  parse_eachNode (fun found _ => found.subtrees_isName) path

end Names

section Places

variable {source path : String}

/-- A reference holds no nodes. -/
theorem parse_reference_leaf {id : NodeId} {node : Node}
    (hget : (Document.parse source path).get? id = some node)
    (hreference : node.kind.isReference = true) : node.children = [] := by
  rw [parse_get?] at hget
  obtain ⟨_, htyped⟩ := layOut_typed (subtrees_grow (treeOf source.toList))
    (standAt_getElem? (fileNodes source.toList).2)
  have hkinds := (htyped node (List.mem_of_getElem? hget)).kinds
  refine List.eq_nil_iff_forall_not_mem.mpr fun child hchild => ?_
  obtain ⟨found, _, hholds⟩ := hkinds child hchild
  cases hkind : node.kind with
  | typeRef | importPath => simp [hkind, NodeKind.mayHold] at hholds
  | version | info | struct | field | embedded | service | route | handler | skipped =>
      simp [hkind, NodeKind.isReference] at hreference

/-- References do not share their spans. -/
theorem parse_references_apart {i j : NodeId} {left right : Node}
    (hleft : (Document.parse source path).get? i = some left)
    (hright : (Document.parse source path).get? j = some right)
    (hleftKind : left.kind.isReference = true) (hrightKind : right.kind.isReference = true)
    (hspan : left.span = right.span) : i = j := by
  have hbehind : ∀ {i j : NodeId} {left right : Node}, i < j →
      (Document.parse source path).get? i = some left →
      (Document.parse source path).get? j = some right →
      left.kind.isReference = true → left.span ≠ right.span := by
    intro i j left right hlt hleft hright hkind hspan
    have hstop := (parse_comesBefore source path hlt hleft hright).2
      (parse_reference_leaf hleft hkind)
    have hproper := (parse_nameInside source path left (Document.mem_nodes hleft)).start_lt_stop
    rw [← hspan] at hstop
    omega
  rcases Nat.lt_trichotomy i j with hlt | heq | hgt
  · exact absurd hspan (hbehind hlt hleft hright hleftKind)
  · exact heq
  · exact absurd hspan.symm (hbehind hgt hright hleft hrightKind)

end Places

/-- Whether the diagnostic is about what a reference points at. -/
def Diagnostic.isAboutReference (diagnostic : Diagnostic) : Bool :=
  match diagnostic.code with
  | some .unresolvedReference | some .ambiguousReference | some .unresolvedImport => true
  | _ => false

/-- Validation reports the code at the span. -/
def Document.Reports (loader : Loader) (document : Document) (code : DiagnosticCode)
    (span : Span) : Prop :=
  ∃ diagnostic ∈ validate loader document, diagnostic.code = some code ∧ diagnostic.span = span

section Codes

theorem isAboutReference_of_isSyntactic {diagnostic : Diagnostic}
    (hsyntactic : diagnostic.isSyntactic = true) : diagnostic.isAboutReference = false := by
  unfold Diagnostic.isAboutReference
  split <;> simp_all [Diagnostic.isSyntactic, DiagnosticCode.isSyntactic]

theorem Declaration.warnings_isAboutReference (found : Declaration) :
    ∀ warning ∈ found.warnings, warning.isAboutReference = false := by
  intro warning hwarning
  obtain ⟨key, value, hmem⟩ := found.mem_warnings hwarning
  rw [valueWarning] at hmem
  split at hmem
  · rw [List.mem_singleton.mp hmem]
    rfl
  · cases hmem

/-- A document on its own says nothing about what its references point at. -/
theorem parse_diagnostics_isAboutReference (source path : String) :
    ∀ diagnostic ∈ (Document.parse source path).diagnostics,
      diagnostic.isAboutReference = false := by
  intro diagnostic hdiagnostic
  rw [(parse_diagnostics_perm source path).mem_iff] at hdiagnostic
  rcases List.mem_append.mp hdiagnostic with hmem | hmem
  · rcases List.mem_append.mp hmem with hmem | hmem
    · exact isAboutReference_of_isSyntactic (tokenDiagnostics_isSyntactic _ diagnostic hmem)
    · exact isAboutReference_of_isSyntactic
        (SourceFile.diagnostics_isSyntactic _ diagnostic hmem)
  · obtain ⟨found, _, hmem⟩ := List.mem_flatMap.mp hmem
    exact found.warnings_isAboutReference diagnostic hmem

theorem Document.sharedDeclaration_code {document : Document} {kind : DeclKind}
    {code : DiagnosticCode} {name : String} {id : NodeId} {node : Node} :
    ∀ diagnostic ∈ document.sharedDeclaration kind code name id node,
      diagnostic.code = some code := by
  intro diagnostic hdiagnostic
  rw [Document.sharedDeclaration] at hdiagnostic
  split at hdiagnostic
  · cases hdiagnostic
  · rw [List.mem_singleton.mp hdiagnostic]
    rfl

theorem Document.sharedField_code {document : Document} {struct id : NodeId}
    {name : Spanned String} :
    ∀ diagnostic ∈ document.sharedField struct id name,
      diagnostic.code = some .duplicateField := by
  intro diagnostic hdiagnostic
  rw [Document.sharedField] at hdiagnostic
  split at hdiagnostic
  · cases hdiagnostic
  · rw [List.mem_singleton.mp hdiagnostic]
    rfl

/-- Faults about references stand at references. -/
theorem Document.faultsAt_isReference {document : Document} {loader : Loader} {id : NodeId}
    {node : Node} {diagnostic : Diagnostic}
    (hfault : diagnostic ∈ document.faultsAt loader id node)
    (habout : diagnostic.isAboutReference = true) : node.kind.isReference = true := by
  rw [Document.faultsAt] at hfault
  rw [Diagnostic.isAboutReference] at habout
  cases hkind : node.kind with
  | typeRef | importPath => rfl
  | struct name =>
      rw [hkind] at hfault
      rcases List.mem_append.mp hfault with hfault | hfault
      · simp [document.sharedDeclaration_code diagnostic hfault] at habout
      · obtain ⟨⟨field, name⟩, _, hfault⟩ := List.mem_flatMap.mp hfault
        simp [document.sharedField_code diagnostic hfault] at habout
  | handler name | route facts =>
      rw [hkind] at hfault
      simp [document.sharedDeclaration_code diagnostic hfault] at habout
  | version | info | field | embedded | service | skipped =>
      rw [hkind] at hfault
      cases hfault

/-- What is said about a use is said at its span. -/
theorem Document.unclearUse_span {document : Document} {name : String} {span : Span}
    {answer : Resolution} :
    ∀ diagnostic ∈ document.unclearUse name span answer, diagnostic.span = span := by
  intro diagnostic hdiagnostic
  cases answer with
  | resolved target => cases hdiagnostic
  | unresolved | ambiguous =>
      rw [List.mem_singleton.mp hdiagnostic]
      rfl

theorem Document.faultsAt_span {document : Document} {loader : Loader} {id : NodeId}
    {node : Node} (hname : node.IsName) (hreference : node.kind.isReference = true) :
    ∀ diagnostic ∈ document.faultsAt loader id node, diagnostic.span = node.span := by
  intro diagnostic hfault
  rw [Document.faultsAt] at hfault
  cases hkind : node.kind with
  | typeRef name role =>
      rw [hkind] at hfault
      exact document.unclearUse_span diagnostic hfault
  | importPath path =>
      rw [hkind] at hfault
      obtain ⟨reason, rfl⟩ := Document.mem_failedImport hfault
      rw [← hname hreference, Node.nameSpan, hkind]
      rfl
  | version | info | struct | field | embedded | service | route | handler | skipped =>
      simp [hkind, NodeKind.isReference] at hreference

end Codes

section Reports

variable {source path : String} {loader : Loader}

/-- Every fault at a node is reported. -/
theorem mem_validate_of_faultsAt {id : NodeId} {node : Node} {diagnostic : Diagnostic}
    (hget : (Document.parse source path).get? id = some node)
    (hfault : diagnostic ∈ (Document.parse source path).faultsAt loader id node) :
    diagnostic ∈ validate loader (Document.parse source path) := by
  have hrules := (parse_rules_perm loader source path).mem_iff.mpr
    (List.mem_flatMap.mpr ⟨(node, id), Document.mem_zipIdx.mpr hget, hfault⟩)
  have hall : diagnostic ∈ localComplaints (Document.parse source path) ++
      freshAnswer (importComplaints loader (Document.parse source path)) := by
    rw [localComplaints_eq, List.append_assoc]
    exact List.mem_append_right _ hrules
  exact List.mem_mergeSort.mpr hall

/-- What validation says about a reference is what is wrong at its node, for no other
reference has its span. -/
theorem parse_reports_iff {id : NodeId} {node : Node}
    (hget : (Document.parse source path).get? id = some node)
    (hreference : node.kind.isReference = true) {code : DiagnosticCode}
    (hcode : ∀ diagnostic : Diagnostic, diagnostic.code = some code →
      diagnostic.isAboutReference = true) :
    (Document.parse source path).Reports loader code node.span ↔
      ∃ diagnostic ∈ (Document.parse source path).faultsAt loader id node,
        diagnostic.code = some code := by
  constructor
  · rintro ⟨diagnostic, hmem, hfound, hspan⟩
    have habout := hcode diagnostic hfound
    rcases mem_validate hmem with hown | ⟨other, found, hother, hfault⟩
    · rw [parse_diagnostics_isAboutReference source path diagnostic hown] at habout
      cases habout
    · have hkind := Document.faultsAt_isReference hfault habout
      have hplace := Document.faultsAt_span
        (parse_isName source path found (Document.mem_nodes hother)) hkind diagnostic hfault
      have hsame := parse_references_apart hother hget hkind hreference (hplace.symm.trans hspan)
      subst hsame
      cases hother.symm.trans hget
      exact ⟨diagnostic, hfault, hfound⟩
  · rintro ⟨diagnostic, hfault, hfound⟩
    refine ⟨diagnostic, mem_validate_of_faultsAt hget hfault, hfound, ?_⟩
    exact Document.faultsAt_span (parse_isName source path node (Document.mem_nodes hget))
      hreference diagnostic hfault

/-- Validation is silent about a use exactly if it points at one declaration. -/
theorem parse_reports_use {id : NodeId} {node : Node} {name : Spanned String}
    {role : ReferenceRole} (hget : (Document.parse source path).get? id = some node)
    (hkind : node.kind = .typeRef name role) :
    (¬ (Document.parse source path).Reports loader .unresolvedReference node.span ∧
      ¬ (Document.parse source path).Reports loader .ambiguousReference node.span) ↔
        ∃ target, freshAnswer (resolve loader (Document.parse source path) id) =
          .resolved target := by
  have hreference : node.kind.isReference = true := by rw [hkind]; rfl
  rw [parse_reports_iff hget hreference (by simp +contextual [Diagnostic.isAboutReference]),
    parse_reports_iff hget hreference (by simp +contextual [Diagnostic.isAboutReference]),
    Document.faultsAt, hkind]
  dsimp only
  cases freshAnswer (resolve loader (Document.parse source path) id) with
  | resolved | unresolved | ambiguous => simp [Document.unclearUse]

/-- Validation is silent about an import with a path exactly if it has a document. -/
theorem parse_reports_import {id : NodeId} {node : Node} {written : Spanned String}
    (hget : (Document.parse source path).get? id = some node)
    (hkind : node.kind = .importPath written) (hfull : written.val ≠ "") :
    ¬ (Document.parse source path).Reports loader .unresolvedImport node.span ↔
      ∃ imported, freshAnswer (importDocument loader (Document.parse source path) written.val) =
        .ok imported := by
  have hreference : node.kind.isReference = true := by rw [hkind]; rfl
  rw [parse_reports_iff hget hreference (by simp +contextual [Diagnostic.isAboutReference]),
    Document.faultsAt, hkind]
  dsimp only
  rw [Document.failedImport_eq loader _ hfull, freshAnswer_importDocument]
  cases loadDocument loader ((Document.parse source path).importTarget written.val) with
  | ok | error => simp [Document.brokenImport]

end Reports

/-- The documents in which a type name is looked up, and the word that is looked up
there: a name without a dot in its own document, and otherwise what stands behind the
first dot in the documents imported under what stands before it. -/
inductive Document.LooksUp (document : Document) (loader : Loader) :
    String → Document → String → Prop
  | plain {name : String} (hplain : '.' ∉ name.toList) : LooksUp document loader name document name
  | qualified {qualifier struct written : String} {imported : Document}
      (hfirst : '.' ∉ qualifier.toList) (hwritten : written ∈ document.importsCalled qualifier)
      (himport : freshAnswer (importDocument loader document written) = .ok imported) :
      LooksUp document loader (qualifier ++ "." ++ struct) imported struct

/-- The location is that of a word in a document. -/
structure Location.Shows (location : Location) (document : Document) (word : String) : Prop where
  path : location.path = document.path
  text : slice? document.source.toList location.span = some word.toList
  position : location.position = document.position location.span.start

/-- What is found for a reference, as far as validation tells.  A use of a type leads to
the name of a struct unless validation complains about it, and an import to the beginning
of its document. -/
def Document.FindsAsChecked (document : Document) (loader : Loader) (node : Node)
    (found : Option Location) : Prop :=
  match node.kind with
  | .typeRef name _ =>
    (found.isSome = true ↔ ¬ document.Reports loader .unresolvedReference node.span ∧
      ¬ document.Reports loader .ambiguousReference node.span) ∧
    ∀ location ∈ found, ∃ target word, document.LooksUp loader name.val target word ∧
      location.Shows target word
  | .importPath written =>
    (found.isSome = true ↔ written.val ≠ "" ∧
      ¬ document.Reports loader .unresolvedImport node.span) ∧
    ∀ location ∈ found,
      location = ⟨(document.importTarget written.val).render, Span.empty 0, ⟨1, 1⟩⟩
  | _ => False

section Finding

variable {source path : String} {loader : Loader}

theorem locate?_eq (loader : Loader) (document : Document) (offset : Nat) :
    locate? loader document offset = (document.referenceAt? offset).bind fun id =>
      (freshAnswer (resolve loader document id)).target?.map (Target.location document) := by
  refine congrArg (Option.bind _) (funext fun id => ?_)
  exact Option.map_eq_bind.symm

theorem Resolution.target?_eq_some {answer : Resolution} {target : Target}
    (htarget : answer.target? = some target) : answer = .resolved target := by
  cases answer with
  | resolved found => rw [Option.some.inj htarget]
  | unresolved | ambiguous => cases htarget

theorem Document.referenceAt?_eq_some {document : Document} {offset : Nat} {id : NodeId}
    (hfound : document.referenceAt? offset = some id) :
    ∃ node, document.get? id = some node ∧ node.kind.isReference = true := by
  obtain ⟨⟨place, node⟩, hnode, rfl⟩ := Option.map_eq_some_iff.mp hfound
  have htouched := List.find?_some hnode
  rw [Bool.and_eq_true] at htouched
  exact ⟨node, Document.mem_numbered.mp (List.mem_of_find?_eq_some hnode), htouched.1⟩

/-- The location of a struct is that of its name. -/
theorem parse_locate_struct {id : NodeId} {name : String}
    (hid : id ∈ (Document.parse source path).structsNamed name) :
    ((Document.parse source path).locate ((Document.parse source path).nameSpanOf id)).Shows
      (Document.parse source path) name := by
  obtain ⟨node, hget, htest⟩ :=
    ((Document.parse source path).enumerates_nodesWhere _).mem_iff id |>.mp hid
  have hquotes := (parse_standsIn source path node (Document.mem_nodes hget)).quotes
  refine ⟨rfl, ?_, rfl⟩
  rw [Document.locate, (parse_showsNames source path).nameSpanOf_eq hget, Node.namePlace]
  cases hkind : node.kind with
  | struct found =>
      rw [hkind, beq_iff_eq] at htest
      rw [Node.Quotes, hkind] at hquotes
      rw [← htest]
      exact hquotes.slice
  | version | info | importPath | field | embedded | service | route | handler | typeRef
  | skipped => simp [hkind] at htest

/-- A use that points at one declaration is found where that declaration stands. -/
theorem parse_location_use {id : NodeId} {name : Spanned String} {role : ReferenceRole}
    (hkind : ((Document.parse source path).get? id).map Node.kind = some (.typeRef name role))
    {target : Target}
    (htarget : freshAnswer (resolve loader (Document.parse source path) id) = .resolved target) :
    ∃ found word, (Document.parse source path).LooksUp loader name.val found word ∧
      (target.location (Document.parse source path)).Shows found word := by
  by_cases hdot : '.' ∈ name.val.toList
  · obtain ⟨qualifier, struct, hname, hfirst⟩ := exists_qualified hdot
    have hdecides : Decides _ (freshAnswer (resolve loader (Document.parse source path) id)) :=
      parse_qualified_decides hkind hname hfirst
    rw [htarget] at hdecides
    have hmem : target ∈ ((Document.parse source path).importsCalled qualifier).flatMap
        ((Document.parse source path).importedStructs loader struct) := by
      rw [hdecides.eq_singleton]
      exact List.mem_singleton_self target
    obtain ⟨written, hwritten, hmem⟩ := List.mem_flatMap.mp hmem
    unfold Document.importedStructs at hmem
    split at hmem
    · rename_i imported himport
      obtain ⟨node, hnode, rfl⟩ := List.mem_map.mp hmem
      refine ⟨imported, struct, ?_, ?_⟩
      · rw [hname]
        exact .qualified hfirst hwritten himport
      · obtain ⟨text, rfl⟩ := importDocument_parsed himport
        exact parse_locate_struct hnode
    · cases hmem
  · have hdecides : Decides _ (freshAnswer (resolve loader (Document.parse source path) id)) :=
      parse_plain_decides hkind hdot
    rw [htarget] at hdecides
    have hmem : target ∈ ((Document.parse source path).structsNamed name.val).map .localNode := by
      rw [hdecides.eq_singleton]
      exact List.mem_singleton_self target
    obtain ⟨node, hnode, rfl⟩ := List.mem_map.mp hmem
    exact ⟨Document.parse source path, name.val, .plain hdot, parse_locate_struct hnode⟩

/-- An import points at its document, if it names one. -/
theorem resolve_import {document : Document} {id : NodeId} {written : Spanned String}
    (hkind : (document.get? id).map Node.kind = some (.importPath written)) :
    (freshAnswer (resolve loader document id)).target? =
      if written.val = "" then none
      else match freshAnswer (importDocument loader document written.val) with
        | .ok imported => some (.wholeDocument imported)
        | .error _ => none := by
  rw [freshAnswer_resolve, candidates, hkind]
  dsimp only
  rw [freshAnswer_importTargets]
  split
  · rfl
  · cases freshAnswer (importDocument loader document written.val) <;> rfl

theorem parse_location_import {written : String} {imported : Document}
    (himport : freshAnswer (importDocument loader (Document.parse source path) written) =
      .ok imported) :
    (Target.wholeDocument imported).location (Document.parse source path) =
      ⟨((Document.parse source path).importTarget written).render, Span.empty 0, ⟨1, 1⟩⟩ := by
  obtain ⟨text, rfl⟩ := importDocument_parsed himport
  have hstart : positionAt text.toList 0 = ⟨1, 1⟩ := by
    rw [positionAt, Nat.zero_min]
    cases text.toList with
    | nil | cons => rfl
  exact congrArg (Location.mk _ (Span.empty 0)) hstart

end Finding

/-- What is found at an offset of a parsed document agrees with what validation reports,
if both read imports through the same loader. -/
theorem locate?_asChecked (source path : String) (loader : Loader) (offset : Nat) :
    let document := Document.parse source path
    match document.referenceAt? offset with
    | none => locate? loader document offset = none
    | some id => ∃ node, document.get? id = some node ∧
        document.FindsAsChecked loader node (locate? loader document offset) := by
  intro document
  rw [locate?_eq]
  cases hfound : document.referenceAt? offset with
  | none => rfl
  | some id =>
      obtain ⟨node, hget, hreference⟩ := Document.referenceAt?_eq_some hfound
      have hnode : (document.get? id).map Node.kind = some node.kind := by
        rw [hget]
        rfl
      refine ⟨node, hget, ?_⟩
      rw [Option.bind_some, Document.FindsAsChecked]
      cases hkind : node.kind with
      | typeRef name role =>
          rw [hkind] at hnode
          refine ⟨?_, fun location hlocation => ?_⟩
          · rw [parse_reports_use hget hkind]
            cases freshAnswer (resolve loader document id) with
            | resolved | unresolved | ambiguous => simp [Resolution.target?]
          · obtain ⟨target, htarget, rfl⟩ := Option.map_eq_some_iff.mp hlocation
            exact parse_location_use hnode (Resolution.target?_eq_some htarget)
      | importPath written =>
          rw [hkind] at hnode
          dsimp only
          rw [resolve_import hnode]
          by_cases hempty : written.val = ""
          · simp [hempty]
          · rw [parse_reports_import hget hkind hempty]
            cases himport : freshAnswer (importDocument loader document written.val) with
            | ok imported =>
                have hlocation := parse_location_import himport
                simpa [hempty] using hlocation
            | error fault => simp [hempty]
      | version | info | struct | field | embedded | service | route | handler | skipped =>
          simp [hkind, NodeKind.isReference] at hreference

end ApiLang
