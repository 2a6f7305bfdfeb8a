/-
Where diagnostics point.  The labels of all diagnostics of a document cut its source,
with validation and without.  Together with what its nodes quote: a document says what
its source says, at the places it names.
-/
import ApiLang.Proofs.Document.Faults
import ApiLang.Proofs.Document.Quoting
import ApiLang.Proofs.Tree.Accounting

namespace ApiLang

variable {source : List Char} {start : Nat} {run : List Lexeme}

/-- The places of a diagnostic cut the source. -/
def Diagnostic.Cuts (source : List Char) (diagnostic : Diagnostic) : Prop :=
  ∀ label ∈ diagnostic.labels, label.span.Cuts source

section Diagnostics

theorem cuts_valueWarning {key : String} {value : ValueList} (hvalue : value.span.Cuts source) :
    ∀ warning ∈ valueWarning key value, warning.Cuts source := by
  intro warning hwarning
  rw [valueWarning] at hwarning
  split at hwarning
  · rw [List.mem_singleton.mp hwarning]
    exact List.forall_mem_singleton.mpr hvalue
  · cases hwarning

theorem cuts_entryWarnings {entries : List KeyValue}
    (hentries : ∀ entry ∈ entries, entry.value.span.Cuts source) :
    ∀ warning ∈ entryWarnings entries, warning.Cuts source := by
  intro warning hwarning
  obtain ⟨entry, hentry, hwarning⟩ := List.mem_flatMap.mp hwarning
  exact cuts_valueWarning (hentries entry hentry) warning hwarning

theorem cuts_noteWarnings {notes : List Annotation}
    (hnotes : ∀ note ∈ notes, note.StandsIn source) :
    ∀ warning ∈ notes.flatMap annotationWarnings, warning.Cuts source := by
  intro warning hwarning
  obtain ⟨note, hnote, hwarning⟩ := List.mem_flatMap.mp hwarning
  have hvalues := (hnotes note hnote).values
  rw [annotationWarnings] at hwarning
  split at hwarning
  · cases hwarning
  · rename_i value hbody
    rw [hbody] at hvalues
    exact cuts_valueWarning (hvalues value (by simp [AnnotationBody.values])) warning hwarning
  · rename_i entries hbody
    rw [hbody] at hvalues
    refine cuts_entryWarnings (fun entry hentry => ?_) warning hwarning
    exact hvalues entry.value (List.mem_map_of_mem hentry)

theorem SpellsDeclaration.cuts_warnings {found : Declaration}
    (hfound : SpellsDeclaration start run found) (hrun : Occurs source start run) :
    ∀ warning ∈ found.warnings, warning.Cuts source := by
  intro warning hwarning
  cases hfound with
  | version | importOne | imports | struct | types => cases hwarning
  | @info word opener gap run entries _ _ _ hentries =>
      refine cuts_entryWarnings ?_ warning hwarning
      exact hentries.forall_occurs (hrun.piece (word :: (gap ++ [opener])) [] (by simp))
        (fun entry => entry.value.span.Cuts source) fun _ _ _ hpiece hentry =>
          hentry.value_cuts hpiece
  | service hservice =>
      obtain ⟨hnotes, hroutes, _⟩ := hservice.standsIn hrun
      rcases List.mem_append.mp hwarning with hwarning | hwarning
      · exact cuts_noteWarnings hnotes warning hwarning
      · obtain ⟨entry, hentry, hwarning⟩ := List.mem_flatMap.mp hwarning
        cases entry with
        | route route => exact cuts_noteWarnings (hroutes route hentry) warning hwarning
        | skipped input => cases hwarning

theorem cuts_tokenDiagnostics (source : List Char) :
    ∀ diagnostic ∈ tokenDiagnostics (tokenize source), diagnostic.Cuts source := by
  intro diagnostic hdiagnostic
  obtain ⟨placed, hplaced, hfound⟩ := List.mem_filterMap.mp hdiagnostic
  have hcuts := cuts_of_mem_tokenize hplaced
  split at hfound
  · cases hfound
    unfold invalidTokenDiagnostic
    split <;> exact List.forall_mem_singleton.mpr hcuts
  · cases hfound

theorem isBoundary_end (source : List Char) : IsBoundary source (byteWidth source) :=
  ⟨source, [], by simp, rfl⟩

/-- The parser complains about tokens, and about the end of the source. -/
theorem cuts_fileDiagnostics (source : List Char) :
    ∀ diagnostic ∈ (treeOf source).diagnostics, diagnostic.Cuts source := by
  intro diagnostic hdiagnostic label hlabel
  rw [SourceFile.diagnostics_eq_findings] at hdiagnostic
  obtain ⟨finding, hfinding, hdiagnostic⟩ := List.mem_flatMap.mp hdiagnostic
  have htraced := findings_traced source finding hfinding
  cases finding with
  | skipped scope input =>
      rcases Skipped.label_of_mem hdiagnostic hlabel with ⟨placed, hfound, _, hspan⟩ | hspan
      · rw [hspan]
        exact cuts_of_mem_tokenize (htraced.found_mem hfound)
      · rw [hspan]
        exact Span.cuts_empty (isBoundary_end source)
  | unclosed opening closing opener =>
      obtain ⟨placed, hplaced, _, rfl⟩ := htraced
      rw [List.mem_singleton.mp hdiagnostic] at hlabel
      rw [List.mem_singleton.mp hlabel]
      exact cuts_of_mem_tokenize hplaced

theorem parse_diagnostics_cuts (source path : String) :
    ∀ diagnostic ∈ (Document.parse source path).diagnostics, diagnostic.Cuts source.toList := by
  intro diagnostic hdiagnostic
  rw [(parse_diagnostics_perm source path).mem_iff] at hdiagnostic
  rcases List.mem_append.mp hdiagnostic with hmem | hmem
  · rcases List.mem_append.mp hmem with hmem | hmem
    · exact cuts_tokenDiagnostics source.toList diagnostic hmem
    · exact cuts_fileDiagnostics source.toList diagnostic hmem
  · obtain ⟨found, hfound, hwarning⟩ := List.mem_flatMap.mp hmem
    refine SpellsEntries.forall_occurs (parseTokens_spells source.toList)
      (occurs_lexemes source.toList)
      (fun found => ∀ warning ∈ found.warnings, warning.Cuts source.toList) ?_ found hfound
      diagnostic hwarning
    rintro _ _ _ hpiece (hfound | ⟨input, rfl, _⟩)
    · exact hfound.cuts_warnings hpiece
    · simp [Declaration.warnings]

end Diagnostics

section Validation

theorem Node.StandsIn.cuts_nameSpan {node : Node} (hnode : node.StandsIn source) :
    node.nameSpan.Cuts source := by
  obtain ⟨hspan, hspans⟩ := List.forall_mem_cons.mp hnode.cuts
  obtain ⟨span, parent, children, kind⟩ := node
  cases kind with
  | version | info | embedded | skipped => exact hspan
  | importPath name | struct name | field name | service name | handler name | typeRef name =>
      exact hspans name.span List.mem_cons_self
  | route facts =>
      exact (hspans _ List.mem_cons_self).union
        (hspans _ (List.mem_cons_of_mem _ List.mem_cons_self))

variable {document : Document}

theorem cuts_sharedName {code : DiagnosticCode} {message remark : String} {span : Span}
    {others : List Span} {help : Option String} (hspan : span.Cuts source)
    (hothers : ∀ other ∈ others, other.Cuts source) :
    (sharedName code message remark span others help).Cuts source :=
  List.forall_mem_cons.mpr ⟨hspan, List.forall_mem_map.mpr hothers⟩

theorem Document.cuts_sharedDeclaration
    (hplaces : ∀ node ∈ document.nodes.toList, node.namePlace.Cuts source) {kind : DeclKind}
    {code : DiagnosticCode} {name : String} {id : NodeId} {node : Node}
    (hnode : node ∈ document.nodes.toList) :
    ∀ diagnostic ∈ document.sharedDeclaration kind code name id node, diagnostic.Cuts source := by
  intro diagnostic hdiagnostic
  rw [Document.sharedDeclaration] at hdiagnostic
  split at hdiagnostic
  · cases hdiagnostic
  · rw [List.mem_singleton.mp hdiagnostic]
    refine cuts_sharedName (hplaces node hnode) (List.forall_mem_map.mpr ?_)
    rintro ⟨other, place⟩ hother
    have hplaced := List.mem_of_mem_filter (List.mem_of_mem_filter hother)
    exact hplaces other (List.fst_mem_of_mem_zipIdx hplaced)

theorem Document.cuts_sharedField
    (hnodes : ∀ node ∈ document.nodes.toList, node.StandsIn source) {struct id : NodeId}
    {name : Spanned String} (hname : (id, name) ∈ document.fieldsIn struct) :
    ∀ diagnostic ∈ document.sharedField struct id name, diagnostic.Cuts source := by
  have hfield : ∀ {id : NodeId} {name : Spanned String}, (id, name) ∈ document.fieldsIn struct →
      name.span.Cuts source := by
    intro id name hname
    obtain ⟨node, type, tag, hget, _, hkind⟩ := Document.mem_fieldsIn.mp hname
    refine (hnodes node (Document.mem_nodes hget)).cuts _ ?_
    simp [Node.spans, NodeKind.spans, hkind]
  intro diagnostic hdiagnostic
  rw [Document.sharedField] at hdiagnostic
  split at hdiagnostic
  · cases hdiagnostic
  · rw [List.mem_singleton.mp hdiagnostic]
    refine cuts_sharedName (hfield hname) (List.forall_mem_map.mpr ?_)
    rintro ⟨other, found⟩ hfound
    exact hfield (List.mem_of_mem_filter (List.mem_of_mem_filter hfound))

/-- Whatever a use points at, complaints about it stand in its own document. -/
theorem Document.cuts_unclearUse
    (hplaces : ∀ node ∈ document.nodes.toList, node.namePlace.Cuts source) {name : String} {span : Span}
    (hspan : span.Cuts source) (resolution : Resolution) :
    ∀ diagnostic ∈ document.unclearUse name span resolution, diagnostic.Cuts source := by
  cases resolution with
  | resolved target => simp [Document.unclearUse]
  | unresolved =>
      exact List.forall_mem_singleton.mpr (List.forall_mem_singleton.mpr hspan)
  | ambiguous targets =>
      refine List.forall_mem_singleton.mpr (List.forall_mem_cons.mpr ⟨hspan, ?_⟩)
      intro label hlabel
      obtain ⟨target, _, hlabel⟩ := List.mem_filterMap.mp hlabel
      split at hlabel
      · obtain ⟨node, hnode, rfl⟩ := Option.map_eq_some_iff.mp hlabel
        exact hplaces node (Array.mem_toList_iff.mpr (Array.mem_of_getElem? hnode))
      · cases hlabel

theorem Document.cuts_faultsAt (hnodes : ∀ node ∈ document.nodes.toList, node.StandsIn source)
    (hshows : document.ShowsNames) (loader : Loader) {id : NodeId} {node : Node}
    (hnode : node ∈ document.nodes.toList) :
    ∀ diagnostic ∈ document.faultsAt loader id node, diagnostic.Cuts source := by
  have hplaces : ∀ node ∈ document.nodes.toList, node.namePlace.Cuts source := by
    intro node hnode
    rw [← hshows node hnode]
    exact (hnodes node hnode).cuts_nameSpan
  obtain ⟨hspan, hspans⟩ := List.forall_mem_cons.mp (hnodes node hnode).cuts
  intro diagnostic hdiagnostic
  rw [Document.faultsAt] at hdiagnostic
  split at hdiagnostic
  · rcases List.mem_append.mp hdiagnostic with hdiagnostic | hdiagnostic
    · exact Document.cuts_sharedDeclaration hplaces hnode diagnostic hdiagnostic
    · obtain ⟨⟨field, name⟩, hfield, hdiagnostic⟩ := List.mem_flatMap.mp hdiagnostic
      exact Document.cuts_sharedField hnodes hfield diagnostic hdiagnostic
  · exact Document.cuts_sharedDeclaration hplaces hnode diagnostic hdiagnostic
  · exact Document.cuts_sharedDeclaration hplaces hnode diagnostic hdiagnostic
  · exact Document.cuts_unclearUse hplaces hspan _ diagnostic hdiagnostic
  · rename_i path hkind
    have hpath : path.span.Cuts source := hspans _ (by simp [NodeKind.spans, hkind])
    obtain ⟨reason, rfl⟩ := Document.mem_failedImport hdiagnostic
    exact List.forall_mem_singleton.mpr hpath
  · cases hdiagnostic

/-- What validation reports is what the document says on its own, or a fault at one of
its nodes. -/
theorem mem_validate {loader : Loader} {source path : String} {diagnostic : Diagnostic}
    (hdiagnostic : diagnostic ∈ validate loader (Document.parse source path)) :
    diagnostic ∈ (Document.parse source path).diagnostics ∨
      ∃ id node, (Document.parse source path).get? id = some node ∧
        diagnostic ∈ (Document.parse source path).faultsAt loader id node := by
  have hmem : diagnostic ∈ localComplaints (Document.parse source path) ++
      freshAnswer (importComplaints loader (Document.parse source path)) :=
    List.mem_mergeSort.mp hdiagnostic
  rw [localComplaints_eq, List.append_assoc] at hmem
  rcases List.mem_append.mp hmem with hmem | hmem
  · exact .inl hmem
  · obtain ⟨⟨node, id⟩, hnode, hfault⟩ :=
      List.mem_flatMap.mp ((parse_rules_perm loader source path).mem_iff.mp hmem)
    exact .inr ⟨id, node, Document.mem_zipIdx.mp hnode, hfault⟩

theorem validate_cuts (loader : Loader) (source path : String) :
    ∀ diagnostic ∈ validate loader (Document.parse source path),
      diagnostic.Cuts source.toList := by
  have hnodes := parse_standsIn source path
  intro diagnostic hdiagnostic
  rcases mem_validate hdiagnostic with hown | ⟨id, node, hget, hfault⟩
  · exact parse_diagnostics_cuts source path diagnostic hown
  · exact Document.cuts_faultsAt hnodes (parse_showsNames source path) loader
      (Document.mem_nodes hget) diagnostic hfault

end Validation

/-- The spans of a document cut its source, and its nodes quote it. -/
structure Document.QuotesSource (document : Document) : Prop where
  spans : ∀ node ∈ document.nodes.toList, ∀ span ∈ node.spans, span.Cuts document.source.toList
  texts : ∀ node ∈ document.nodes.toList, node.Quotes document.source.toList
  diagnostics : ∀ diagnostic ∈ document.diagnostics, diagnostic.Cuts document.source.toList
  validated : ∀ loader, ∀ diagnostic ∈ validate loader document,
    diagnostic.Cuts document.source.toList

/-- Wherever the text under a span is taken while tokens of the source are read, there
is such a text: for qualified names, names of services, paths, bare values and skipped
input. -/
structure TextsFound (source : List Char) : Prop where
  qualifiedName : ∀ tokens ⊆ tokenize source, ∀ name left,
    qualifiedName source tokens = .ok (name, left) →
      slice? source name.span = some name.val.toList
  serviceName : ∀ tokens ⊆ tokenize source, ∀ name left,
    serviceName source tokens = .ok (name, left) →
      slice? source name.span = some name.val.toList
  routePath : ∀ tokens ⊆ tokenize source, ∀ path left,
    routePath source tokens = .ok (path, left) → slice? source path.span = some path.val.toList
  bareValue : ∀ tokens ⊆ tokenize source, ∀ bare span left,
    valueItem source tokens = some (⟨.bare bare, span⟩, left) →
      slice? source span = some bare.toList
  skipped : ∀ tokens ⊆ tokenize source, ∀ left mismatch,
    let input := Skipped.between source tokens left mismatch
    slice? source input.span = some input.text.toList

/-- A parsed document says what its source says, at the places it names. -/
theorem parse_quotesSource (source path : String) :
    (Document.parse source path).QuotesSource ∧ TextsFound source.toList := by
  have hnodes := parse_standsIn source path
  refine ⟨⟨?_, ?_, ?_, ?_⟩, ⟨?_, ?_, ?_, ?_, ?_⟩⟩
  · exact fun node hnode => (hnodes node hnode).cuts
  · exact fun node hnode => (hnodes node hnode).quotes
  · exact parse_diagnostics_cuts source path
  · exact fun loader => validate_cuts loader source path
  · exact fun tokens htokens name left => qualifiedName_slice htokens
  · exact fun tokens htokens name left => serviceName_slice htokens
  · exact fun tokens htokens path left => routePath_slice htokens
  · exact fun tokens htokens bare span left => valueItem_slice htokens
  · exact fun tokens htokens => skipped_slice htokens

end ApiLang
