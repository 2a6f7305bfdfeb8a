/-
Documents of sources one behind the other.  The document of an accepted source
that ends with a line break and of any text behind it is that of the source,
followed by that of the text, moved: nodes, items, names and diagnostics.
-/
import ApiLang.Proofs.Document.Index
import ApiLang.Proofs.Document.Sorting
import ApiLang.Proofs.Document.Warnings
import ApiLang.Proofs.Tree.Concatenation
import ApiLang.Proofs.Tree.Findings

namespace ApiLang

namespace Diagnostic

/-- A diagnostic with a place moves there. -/
theorem span_shift {diagnostic : Diagnostic} (hlabels : diagnostic.labels ≠ []) (distance : Nat) :
    (diagnostic.shift distance).span = diagnostic.span.shift distance := by
  obtain ⟨first, others, hcons⟩ := List.exists_cons_of_ne_nil hlabels
  have hprimary : (fun label : Label => label.primary) ∘
      (fun label : Label => { label with span := label.span.shift distance }) =
        fun label => label.primary := rfl
  rw [span, span, shift, List.find?_map, hprimary]
  cases diagnostic.labels.find? fun label => label.primary with
  | some label => rfl
  | none => simp [hcons]

/-- Sorting does not depend on where the places begin. -/
theorem sortByPlace_shift {diagnostics : List Diagnostic}
    (hlabels : ∀ diagnostic ∈ diagnostics, diagnostic.labels ≠ []) (distance : Nat) :
    sortByPlace (diagnostics.map (shift distance)) =
      (sortByPlace diagnostics).map (shift distance) := by
  refine (List.map_mergeSort fun left hleft right hright => ?_).symm
  simp [span_shift (hlabels left hleft), span_shift (hlabels right hright)]

end Diagnostic

theorem tokenDiagnostics_labels {tokens : List PlacedToken} :
    ∀ diagnostic ∈ tokenDiagnostics tokens, diagnostic.labels ≠ [] := by
  intro diagnostic hmem
  obtain ⟨placed, _, hfound⟩ := List.mem_filterMap.mp hmem
  split at hfound
  · cases hfound
    unfold invalidTokenDiagnostic
    split <;> exact List.cons_ne_nil _ _
  · cases hfound

theorem Skipped.diagnostics_labels {sourceEnd : Nat} {input : Skipped} :
    ∀ diagnostic ∈ input.diagnostics sourceEnd, diagnostic.labels ≠ [] := by
  intro diagnostic hmem
  unfold Skipped.diagnostics Expected.diagnostics at hmem
  split at hmem
  · split at hmem
    · cases hmem
    · rw [List.mem_singleton.mp hmem]
      exact List.cons_ne_nil _ _
  · rw [List.mem_singleton.mp hmem]
    exact List.cons_ne_nil _ _

theorem SourceFile.diagnostics_labels (file : SourceFile) :
    ∀ diagnostic ∈ file.diagnostics, diagnostic.labels ≠ [] := by
  intro diagnostic hmem
  rw [file.diagnostics_eq_findings] at hmem
  obtain ⟨finding, _, hmem⟩ := List.mem_flatMap.mp hmem
  cases finding with
  | skipped scope input => exact Skipped.diagnostics_labels diagnostic hmem
  | unclosed opening closing opener =>
      rw [List.mem_singleton.mp hmem]
      exact List.cons_ne_nil _ _

theorem Declaration.warnings_labels {found : Declaration} :
    ∀ warning ∈ found.warnings, warning.labels ≠ [] := by
  intro warning hwarning
  obtain ⟨key, value, hmem⟩ := found.mem_warnings hwarning
  rw [valueWarning] at hmem
  split at hmem
  · rw [List.mem_singleton.mp hmem]
    exact List.cons_ne_nil _ _
  · cases hmem

section Names

variable (distance : Nat)

theorem NodeKind.declaration?_shift (count : Nat) (kind : NodeKind) :
    (kind.shift count distance).declaration? = kind.declaration? := by
  cases kind <;> rfl

theorem declarationsFrom_shift (left right : List Node) :
    declarationsFrom 0 (left ++ right.map (Node.shift left.length distance)) =
      declarationsFrom 0 left ++
        (declarationsFrom 0 right).map fun (kind, name, id) => (kind, name, id + left.length) := by
  have hnumbered : (right.map (Node.shift left.length distance)).zipIdx (0 + left.length) =
      right.zipIdx.map (Prod.map (Node.shift left.length distance) (· + left.length)) := by
    rw [Nat.zero_add, List.zipIdx_map, List.zipIdx_eq_map_add, List.map_map]
    exact congrArg (List.map · right.zipIdx) (funext fun placed => by simp [Prod.map, Nat.add_comm])
  rw [declarationsFrom_append, declarationsFrom, declarationsFrom, declarationsFrom, hnumbered,
    List.filterMap_map, List.map_filterMap]
  refine congrArg (_ ++ List.filterMap · right.zipIdx) (funext fun placed => ?_)
  obtain ⟨node, id⟩ := placed
  simp only [Function.comp_apply, Prod.map, Node.shift, NodeKind.declaration?_shift, Option.map_map]
  rfl

theorem namesOf_shift (kind : DeclKind) (left right : List Node) :
    namesOf kind (declarationsFrom 0 (left ++ right.map (Node.shift left.length distance))) =
      namesOf kind (declarationsFrom 0 left) ++
        (namesOf kind (declarationsFrom 0 right)).map (Prod.map id (· + left.length)) := by
  rw [declarationsFrom_shift, namesOf_append, namesOf, namesOf, namesOf, List.filter_map,
    List.map_map, List.map_map]
  rfl

theorem OrderedMap.valuesOf_map {κ α β : Type} [DecidableEq κ] (key : κ) (f : α → β)
    (pairs : List (κ × α)) :
    valuesOf key (pairs.map (Prod.map id f)) = (valuesOf key pairs).map f := by
  simp [valuesOf, List.filter_map, Function.comp_def]

end Names

/-- `whole` is `first` followed by `second`, with the places of its nodes increased
by the number of nodes of `first` and all its spans by the length of `first`. -/
structure Document.Concatenates (first second whole : Document) : Prop where
  source : whole.source = first.source ++ second.source
  nodes : whole.nodes = first.nodes ++
    second.nodes.map (Node.shift first.size (byteWidth first.source.toList))
  items : whole.items = first.items ++ second.items.map (· + first.size)
  lookup : ∀ kind name, whole.index.lookup kind name =
    first.index.lookup kind name ++ (second.index.lookup kind name).map (· + first.size)
  diagnostics : whole.diagnostics = first.diagnostics ++
    second.diagnostics.map (Diagnostic.shift (byteWidth first.source.toList))

/-- Subtrees of a file, behind some text. -/
theorem subtrees_behind (count distance : Nat) (source : List Char) :
    List.Forall₂ (Moves count distance)
      ((treeOf source).declarations.flatMap Declaration.subtrees)
      (((treeOf source).declarations.map (Declaration.shift distance)).flatMap
        Declaration.subtrees) := by
  have hmoves : ∀ found ∈ (treeOf source).declarations,
      List.Forall₂ (Moves count distance) found.subtrees (found.shift distance).subtrees := by
    intro found hfound
    refine Declaration.subtrees_moves fun service route hservice hroute => ?_
    exact itemsPlaced_of_mem (hservice ▸ hfound) hroute
  generalize (treeOf source).declarations = founds at hmoves
  induction founds with
  | nil => exact .nil
  | cons found others ih =>
      obtain ⟨hfirst, hothers⟩ := List.forall_mem_cons.mp hmoves
      exact List.rel_append hfirst (ih hothers)

theorem fileNodes_append {source : List Char} (haccepted : Accepted source)
    (hbreak : EndsWithBreak source) (more : List Char) :
    fileNodes (source ++ more) =
      ((fileNodes source).1 ++ (fileNodes more).1.map (· + (fileNodes source).2.length),
        (fileNodes source).2 ++
          (fileNodes more).2.map (Node.shift (fileNodes source).2.length (byteWidth source))) := by
  rw [fileNodes, declarations_append haccepted hbreak, List.flatMap_append, layOut_append,
    layOut_shift (subtrees_behind _ _ more)]
  rfl

theorem fileDiagnostics_append {source : List Char} (haccepted : Accepted source)
    (hbreak : EndsWithBreak source) (more : List Char) :
    (treeOf (source ++ more)).diagnostics =
      (treeOf more).diagnostics.map (Diagnostic.shift (byteWidth source)) := by
  rw [SourceFile.diagnostics, declarations_append haccepted hbreak, List.flatMap_append,
    diagnostics_eq_nil haccepted, List.nil_append, diagnostics_behind]

theorem fileComplaints_labels {source : List Char} :
    ∀ diagnostic ∈ fileComplaints source, diagnostic.labels ≠ [] := by
  intro diagnostic hmem
  rw [fileComplaints, List.mem_append, List.mem_append] at hmem
  rcases hmem with (hmem | hmem) | hmem
  · exact tokenDiagnostics_labels diagnostic hmem
  · exact SourceFile.diagnostics_labels _ diagnostic hmem
  · obtain ⟨found, _, hmem⟩ := List.mem_flatMap.mp hmem
    exact Declaration.warnings_labels diagnostic hmem

/-- About an accepted source there are only warnings, and they stand in front of
what is said about the text behind it. -/
theorem sortByPlace_append {source : List Char} (haccepted : Accepted source)
    (hbreak : EndsWithBreak source) (more : List Char) :
    Diagnostic.sortByPlace (fileComplaints (source ++ more)) =
      Diagnostic.sortByPlace (fileComplaints source) ++
        (Diagnostic.sortByPlace (fileComplaints more)).map
          (Diagnostic.shift (byteWidth source)) := by
  have htokens : tokenDiagnostics (tokenize (source ++ more)) =
      (tokenDiagnostics (tokenize more)).map (Diagnostic.shift (byteWidth source)) := by
    rw [tokenize_append_of_break haccepted hbreak, tokenDiagnostics_append, haccepted.1,
      List.nil_append, tokenDiagnostics_shift]
  have hwarnings : (treeOf (source ++ more)).declarations.flatMap Declaration.warnings =
      (treeOf source).declarations.flatMap Declaration.warnings ++
        ((treeOf more).declarations.flatMap Declaration.warnings).map
          (Diagnostic.shift (byteWidth source)) := by
    rw [declarations_append haccepted hbreak, List.flatMap_append, List.map_flatMap,
      List.flatMap_map]
    simp only [Declaration.warnings_shift]
  have hsource : fileComplaints source =
      (treeOf source).declarations.flatMap Declaration.warnings := by
    rw [fileComplaints, haccepted.1, haccepted.2]
    rfl
  rw [fileComplaints, htokens, fileDiagnostics_append haccepted hbreak, hwarnings, hsource,
    ← Diagnostic.sortByPlace_shift fileComplaints_labels, fileComplaints, List.map_append,
    List.map_append]
  refine mergeSort_key_append (fun diagnostic : Diagnostic => diagnostic.span.start) ?_
  intro early hearly late hlate
  obtain ⟨found, hfound, hearly⟩ := List.mem_flatMap.mp hearly
  rw [← List.map_append, ← List.map_append] at hlate
  obtain ⟨alone, halone, rfl⟩ := List.mem_map.mp hlate
  have hstart := warning_start_lt hfound hearly
  rw [Diagnostic.span_shift (fileComplaints_labels alone halone), Span.start_shift]
  omega

/-- Behind an accepted source that ends with a line break, a text has the document
it has alone. -/
theorem parse_append (first second path : String) (haccepted : Accepted first.toList)
    (hbreak : EndsWithBreak first.toList) :
    (Document.parse first path).Concatenates (Document.parse second path)
      (Document.parse (first ++ second) path) := by
  have hnodes := fileNodes_append haccepted hbreak second.toList
  have hdiagnostics := sortByPlace_append haccepted hbreak second.toList
  rw [← String.toList_append] at hnodes hdiagnostics
  have hlookup : ∀ source kind name, (Document.parse source path).index.lookup kind name =
      OrderedMap.valuesOf name (namesOf kind (declarationsFrom 0 (fileNodes source.toList).2)) := by
    intro source kind name
    rw [(parse_indexed source path).lookup_eq, Document.named, parse_nodes]
  have hsize : (Document.parse first path).size = (fileNodes first.toList).2.length := by
    rw [parse_eq, Document.size, List.size_toArray]
  constructor
  case lookup =>
    intro kind name
    rw [hlookup, hlookup, hlookup, hnodes, namesOf_shift, OrderedMap.valuesOf_append,
      OrderedMap.valuesOf_map, hsize]
  all_goals simp only [parse_eq, hnodes, hdiagnostics]
  · simp [Document.size]
  · rfl

/-- A struct and a service, and a text in which a brace is missing. -/
theorem parse_append_unclosedService :
    let first := "type A \x7b\n  *B\n\x7d\n@server ( compact_handler: maybe )\nservice s \x7b\x7d\n"
    let second := "@handler \"h\"\nget /a (A)\nservice t \x7b\n  @handler k\n  get /b returns (C)\n"
    Accepted first.toList ∧ EndsWithBreak first.toList ∧
      (Document.parse first "a").Concatenates (Document.parse second "a")
        (Document.parse (first ++ second) "a") := by
  intro first second
  have haccepted : Accepted first.toList := by decide +kernel
  have hbreak : EndsWithBreak first.toList := by decide +kernel
  exact ⟨haccepted, hbreak, parse_append first second "a" haccepted hbreak⟩

end ApiLang
