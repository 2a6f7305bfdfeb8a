/-
What validation reports.  The rules look at a document through its index, through the
fields of its structs and through its nodes; together they report what is wrong at
each node, once, and nothing else.
-/
import ApiLang.Proofs.Document.Checking
import ApiLang.Proofs.Document.Sorting

namespace ApiLang

/-- The complaint about one of several places that have one name, with the others in
order. -/
def sharedName (code : DiagnosticCode) (message remark : String) (span : Span)
    (others : List Span) (help : Option String) : Diagnostic :=
  { severity := .error
    code := some code
    message
    labels := { span, message := remark, primary := true } ::
      others.map fun other => { span := other, message := "also declared here", primary := false }
    help }

/-- Where a node has its name: a route from its method to the end of its path, other
nodes where the name is written.  A node without a name is shown as a whole. -/
def Node.namePlace (node : Node) : Span :=
  match node.kind with
  | .importPath name | .struct name | .field name .. | .service name .. | .handler name
  | .typeRef name _ => name.span
  | .route facts => ⟨facts.method.span.start, facts.path.span.stop⟩
  | .version _ | .info _ | .embedded .. | .skipped _ => node.span

instance (node : NodeKind) (kind : DeclKind) (name : String) :
    Decidable (node.Declares kind name) :=
  decidable_of_iff _ NodeKind.declaration?_eq_some_iff

namespace Document

variable (document : Document)

/-- The nodes that declare a name, in the order of the source. -/
def declarers (kind : DeclKind) (name : String) : List (Node × NodeId) :=
  document.nodes.toList.zipIdx.filter fun (node, _) => node.kind.Declares kind name

/-- What is wrong with a declaration: other nodes declare its name as well. -/
def sharedDeclaration (kind : DeclKind) (code : DiagnosticCode) (name : String) (id : NodeId)
    (node : Node) : List Diagnostic :=
  let declarers := document.declarers kind name
  if declarers.length < 2 then []
  else
    let others := declarers.filter fun (_, other) => other != id
    [sharedName code s!"duplicate {kind.text} `{name}`" s!"{kind.text} declared here"
      node.namePlace (others.map fun (other, _) => other.namePlace)
      (some s!"rename or remove one of the {declarers.length} declarations")]

/-- What is wrong with a field: other fields with the same parent have its name as
well. -/
def sharedField (struct id : NodeId) (name : Spanned String) : List Diagnostic :=
  let namesakes := (document.fieldsIn struct).filter fun (_, other) => other.val = name.val
  if namesakes.length < 2 then []
  else
    let others := namesakes.filter fun (other, _) => other != id
    [sharedName .duplicateField s!"duplicate field `{name.val}`" "field declared here"
      name.span (others.map fun (_, other) => other.span) none]

/-- How a use without a declaration can be mended: what stands before the first dot of
its name should be the file of an import. -/
def mendedBy (name : String) : String :=
  if '.' ∈ name.toList then
    let file := String.ofList (name.toList.takeWhile (· != '.'))
    s!"import a `{file}.api` file that declares the type"
  else "declare the type with `type` or fix the name"

/-- What is wrong with the use of a type: it points at no declaration, or at
several. -/
def unclearUse (name : String) (span : Span) : Resolution → List Diagnostic
  | .resolved _ => []
  | .unresolved =>
    [{ severity := .error
       code := some .unresolvedReference
       message := s!"unknown type `{name}`"
       labels := [{ span, message := "not declared", primary := true }]
       help := some (mendedBy name) }]
  | .ambiguous targets =>
    [{ severity := .error
       code := some .ambiguousReference
       message := s!"ambiguous type `{name}`: {targets.length} declarations"
       labels := { span, message := "refers to more than one declaration", primary := true } ::
         targets.filterMap fun
           | .localNode id => document.nodes[id]?.map fun node =>
             { span := node.namePlace, message := "candidate", primary := false }
           | _ => none
       help := none }]

/-- The complaint about an import that has no document. -/
def brokenImport (path : Spanned String) (reason : String) : Diagnostic :=
  { severity := .error
    code := some .unresolvedImport
    message := s!"cannot resolve import `{path.val}`"
    labels := [{ span := path.span, message := reason, primary := true }]
    help := none }

/-- What is wrong with an import: it names a path, but not that of an `.api` file, or of
one that cannot be read. -/
def failedImport (loader : Loader) (path : Spanned String) : List Diagnostic :=
  let file := document.importTarget path.val
  if path.val = "" then []
  else if file.extension? = some "api" then
    match loader file with
    | .ok _ => []
    | .error fault => [brokenImport path s!"cannot read `{file.render}`: {fault.text}"]
  else [brokenImport path s!"`{file.render}` is not an `.api` file"]

/-- Everything that is wrong at a node, as far as grammar does not say it. -/
def faultsAt (loader : Loader) (id : NodeId) (node : Node) : List Diagnostic :=
  match node.kind with
  | .struct name =>
    document.sharedDeclaration .struct .duplicateStruct name.val id node ++
      (document.fieldsIn id).flatMap fun (field, name) => document.sharedField id field name
  | .handler name => document.sharedDeclaration .handler .duplicateHandler name.val id node
  | .route facts =>
    document.sharedDeclaration .route .duplicateRoute
      (facts.method.val.toLower ++ " " ++ facts.path.val) id node
  | .typeRef name _ =>
    document.unclearUse name.val node.span (freshAnswer (resolve loader document id))
  | .importPath path => document.failedImport loader path
  | _ => []

end Document

/-- Complaints about each value of each entry that has several. -/
theorem flatMap_several {κ α β : Type} (entries : List (κ × List α))
    (complain : κ → List α → α → β) :
    ((entries.filter fun (_, values) => 1 < values.length).flatMap fun (key, values) =>
      values.map (complain key values)) =
      entries.flatMap fun entry => entry.2.flatMap fun a =>
        if 1 < entry.2.length then [complain entry.1 entry.2 a] else [] := by
  induction entries with
  | nil => rfl
  | cons entry others ih =>
      rw [List.flatMap_cons, ← ih]
      by_cases hmany : 1 < entry.2.length
      · simp [hmany, List.map_eq_flatMap]
      · simp [hmany]

section Declarations

variable {document : Document}

/-- Names are shown where they stand, by every node. -/
def Document.ShowsNames (document : Document) : Prop :=
  ∀ node ∈ document.nodes.toList, node.nameSpan = node.namePlace

theorem parse_showsNames (source path : String) : (Document.parse source path).ShowsNames := by
  intro node hnode
  have hroute := (parse_nameInside source path node hnode).route
  cases hkind : node.kind with
  | route facts => rw [hroute facts hkind, Node.namePlace, hkind]
  | version | info | importPath | struct | field | embedded | service | handler | typeRef
  | skipped => simp [Node.nameSpan, Node.namePlace, NodeKind.name?, hkind]

theorem Document.ShowsNames.nameSpanOf_eq (hshows : document.ShowsNames) {id : NodeId}
    {node : Node} (hget : document.get? id = some node) :
    document.nameSpanOf id = node.namePlace := by
  rw [Document.nameSpanOf, hget]
  exact hshows node (Document.mem_nodes hget)

theorem Document.enumerates_declarers (document : Document) (kind : DeclKind) (name : String) :
    Enumerates ((document.declarers kind name).map Prod.snd) (document.Declares kind name) := by
  constructor
  · rw [List.pairwise_map]
    exact (zipIdx_increasing _).filter _
  · simp [Document.Declares, Document.declarers, Document.mem_zipIdx]

/-- The rule against duplicates says of a declaration what is wrong with it. -/
theorem Document.sharedDeclaration_eq (hshows : document.ShowsNames) {kind : DeclKind}
    {code : DiagnosticCode} {name : String} {id : NodeId} {node : Node}
    (hget : document.get? id = some node) :
    document.sharedDeclaration kind code name id node =
      if 1 < ((document.declarers kind name).map Prod.snd).length then
        [duplicateDeclaration document kind code name
          ((document.declarers kind name).map Prod.snd) id]
      else [] := by
  have hothers : (((document.declarers kind name).map Prod.snd).filter (· != id)).map
      document.nameSpanOf = ((document.declarers kind name).filter
        fun (_, other) => other != id).map fun (other, _) => other.namePlace := by
    rw [List.filter_map, List.map_map]
    refine List.map_congr_left fun declarer hdeclarer => ?_
    have hmem := (List.mem_filter.mp (List.mem_filter.mp hdeclarer).1).1
    exact hshows.nameSpanOf_eq (Document.mem_zipIdx.mp hmem)
  rw [Document.sharedDeclaration, List.length_map]
  split
  · rw [if_neg (by omega)]
  · rw [if_pos (by omega), duplicateDeclaration, hothers, List.length_map,
      hshows.nameSpanOf_eq hget]
    rfl

/-- What is said about the names of a kind is said about the nodes that declare one. -/
theorem Document.flatMap_named {β : Type} (document : Document) (kind : DeclKind)
    (f : String × NodeId → List β) :
    (document.named kind).flatMap f =
      document.nodes.toList.zipIdx.flatMap fun (node, id) =>
        match node.kind.declaration? with
        | some (found, name) => if found = kind ∧ name ≠ "" then f (name, id) else []
        | none => [] := by
  rw [Document.named, namesOf, declarationsFrom, List.flatMap_map]
  induction document.nodes.toList.zipIdx with
  | nil => rfl
  | cons placed others ih =>
      rw [List.flatMap_cons, ← ih]
      cases hdeclared : placed.1.kind.declaration? with
      | none => simp [hdeclared]
      | some declared =>
          by_cases hnamed : declared.1 = kind ∧ declared.2 ≠ ""
          · simp [hdeclared, hnamed]
          · have hskipped : (decide (declared.1 = kind) && !declared.2.isEmpty) = false := by
              simpa using hnamed
            simp [hdeclared, hnamed, hskipped]

/-- A node that declares something of the kind, and what is wrong with it. -/
def Document.duplicateFaults (document : Document) (kind : DeclKind) (code : DiagnosticCode)
    (placed : Node × NodeId) : List Diagnostic :=
  match placed.1.kind.declaration? with
  | some (found, name) =>
    if found = kind then document.sharedDeclaration kind code name placed.2 placed.1 else []
  | none => []

/-- The rule against duplicates of a kind says what is wrong with each declaration,
if none is without a name. -/
theorem duplicateDeclarations_perm (hindex : document.Indexed) (hshows : document.ShowsNames)
    {kind : DeclKind} (hnamed : ∀ id, ¬ document.Declares kind "" id) (code : DiagnosticCode) :
    (duplicateDeclarations document kind code).Perm
      (document.nodes.toList.zipIdx.flatMap (document.duplicateFaults kind code)) := by
  rw [duplicateDeclarations, NameIndex.duplicates, flatMap_several, hindex.entries_eq]
  refine (OrderedMap.flatMap_group_perm _ fun name (ids : List NodeId) id =>
    if 1 < ids.length then [duplicateDeclaration document kind code name ids id] else []).trans
      (.of_eq ?_)
  rw [Document.flatMap_named]
  refine List.flatMap_congr fun placed hplaced => ?_
  have hget := Document.mem_zipIdx.mp hplaced
  rw [Document.duplicateFaults]
  cases hdeclared : placed.1.kind.declaration? with
  | none => simp [hdeclared]
  | some declared =>
      obtain ⟨found, name⟩ := declared
      by_cases hkind : found = kind
      · subst hkind
        have hfull : name ≠ "" := by
          rintro rfl
          exact hnamed placed.2 ⟨placed.1, hget, NodeKind.declaration?_eq_some_iff.mp hdeclared⟩
        have hlisted := (hindex.enumerates_lookup found hfull).unique
          (document.enumerates_declarers found name)
        simp only [hdeclared, hfull, ne_eq, not_false_eq_true, and_self, ↓reduceIte]
        rw [← hindex.lookup_eq, hlisted, document.sharedDeclaration_eq hshows hget]
      · simp [hdeclared, hkind]

end Declarations

section Fields

variable {document : Document} {struct : NodeId}

theorem Document.fieldsIn_unique {id : NodeId} {name other : Spanned String}
    (hname : (id, name) ∈ document.fieldsIn struct)
    (hother : (id, other) ∈ document.fieldsIn struct) : name = other := by
  obtain ⟨node, type, tag, hget, _, hkind⟩ := Document.mem_fieldsIn.mp hname
  obtain ⟨found, type', tag', hfound, _, hkind'⟩ := Document.mem_fieldsIn.mp hother
  cases hget.symm.trans hfound
  cases hkind.symm.trans hkind'
  rfl

/-- Different fields of a struct have their names at different places. -/
def Document.FieldsApart (document : Document) (struct : NodeId) : Prop :=
  ∀ first ∈ document.fieldsIn struct, ∀ second ∈ document.fieldsIn struct,
    first.2.span = second.2.span → first.1 = second.1

/-- The rule against duplicate fields says of a field what is wrong with it. -/
theorem Document.sharedField_eq (hapart : document.FieldsApart struct) {id : NodeId}
    {name : Spanned String} (hfield : (id, name) ∈ document.fieldsIn struct) :
    document.sharedField struct id name =
      let spans := ((document.fieldsIn struct).filter fun (_, other) => other.val = name.val).map
        fun (_, other) => other.span
      if 1 < spans.length then [duplicateField name.val spans name.span] else [] := by
  generalize hnamesakes : ((document.fieldsIn struct).filter
    fun (_, other) => other.val = name.val) = namesakes
  have hothers : (namesakes.map fun (_, other) => other.span).filter (· != name.span) =
      (namesakes.filter fun (other, _) => other != id).map fun (_, other) => other.span := by
    rw [List.filter_map]
    refine congrArg (List.map _) (List.filter_congr fun other hother => ?_)
    rw [← hnamesakes] at hother
    obtain ⟨hother, _⟩ := List.mem_filter.mp hother
    have hsame : other.2.span = name.span ↔ other.1 = id := by
      refine ⟨hapart other hother (id, name) hfield, ?_⟩
      rintro rfl
      rw [document.fieldsIn_unique hother hfield]
    rw [Bool.eq_iff_iff]
    simpa using not_congr hsame
  rw [Document.sharedField, hnamesakes]
  simp only [List.length_map]
  split
  · rw [if_neg (by omega)]
  · rw [if_pos (by omega), duplicateField, hothers]
    rfl

theorem duplicateFieldsOf_perm {owner : Node}
    (hfields : document.fields owner = document.fieldsIn struct)
    (hnamed : ∀ field ∈ document.fields owner, field.2.val ≠ "")
    (hapart : document.FieldsApart struct) :
    (duplicateFieldsOf document owner).Perm
      ((document.fieldsIn struct).flatMap fun (id, name) =>
        document.sharedField struct id name) := by
  rw [duplicateFieldsOf, flatMap_several, Document.fieldsByName_eq hnamed, hfields]
  refine (OrderedMap.flatMap_group_perm _ fun name (spans : List Span) span =>
    if 1 < spans.length then [duplicateField name spans span] else []).trans (.of_eq ?_)
  rw [List.flatMap_map]
  refine List.flatMap_congr fun field hfield => ?_
  obtain ⟨id, name⟩ := field
  refine Eq.trans ?_ (document.sharedField_eq hapart hfield).symm
  rw [OrderedMap.valuesOf, List.filter_map, List.map_map]
  rfl

/-- The names of the nodes at two places do not stand at one place. -/
def NamesApart (lookup : NodeId → Option Node) (first second : NodeId) : Prop :=
  ∀ left right, lookup first = some left → lookup second = some right →
    left.nameSpan ≠ right.nameSpan

instance (lookup : NodeId → Option Node) : Std.Symm (NamesApart lookup) where
  symm _ _ hapart left right hleft hright := (hapart right left hright hleft).symm

/-- Children in order have their names at different places, since names lie within
their nodes. -/
theorem pairwise_namesApart {lookup : NodeId → Option Node} {ids : List NodeId}
    (hinside : ∀ id node, lookup id = some node → node.NameInside)
    (hchain : ids.IsChain (Precedes lookup)) : ids.Pairwise (NamesApart lookup) := by
  have htrans : Trans (Precedes lookup) (Precedes lookup) (Precedes lookup) := by
    refine ⟨fun {first second third} hfirst hsecond => ?_⟩
    obtain ⟨left, middle, hleft, hmiddle, hbefore⟩ := hfirst
    obtain ⟨found, right, hfound, hright, hbehind⟩ := hsecond
    cases hmiddle.symm.trans hfound
    have hproper := (hinside second middle hmiddle).start_lt_stop
    exact ⟨left, right, hleft, hright, by omega⟩
  refine (List.isChain_iff_pairwise.mp hchain).imp ?_
  rintro first second ⟨left, right, hfirst, hsecond, hle⟩ found other hfound hother hsame
  cases hfirst.symm.trans hfound
  cases hsecond.symm.trans hother
  have hstart := congrArg Span.start hsame
  have hproper := (hinside first left hfirst).proper
  have hstop := (hinside first left hfirst).stop_le
  have hlater := (hinside second right hsecond).start_le
  omega

theorem parse_fieldsApart (source path : String) {owner : Node}
    (hget : (Document.parse source path).get? struct = some owner) :
    (Document.parse source path).FieldsApart struct := by
  have hinside : ∀ id node, (Document.parse source path).get? id = some node →
      node.NameInside := fun id node hnode =>
    parse_nameInside source path node (Document.mem_nodes hnode)
  have hchildren : Enumerates owner.children (HasParent (Document.parse source path).get? struct) := by
    rw [parse_get?] at hget ⊢
    exact (fileNodes_forest source.toList).enumerates_children hget
  have hchain : owner.children.IsChain (Precedes (Document.parse source path).get?) := by
    rw [parse_get?] at hget ⊢
    exact ((fileNodes_nest source.toList).2 owner (List.mem_of_getElem? hget)).ordered
  rintro ⟨first, name⟩ hfirst ⟨second, other⟩ hsecond hspan
  obtain ⟨left, type, tag, hleft, hparent, hkind⟩ := Document.mem_fieldsIn.mp hfirst
  obtain ⟨right, type', tag', hright, hparent', hkind'⟩ := Document.mem_fieldsIn.mp hsecond
  have hmem := (hchildren.mem_iff first).mpr ⟨left, hleft, hparent⟩
  have hmem' := (hchildren.mem_iff second).mpr ⟨right, hright, hparent'⟩
  by_contra hdiffer
  have hapart := (pairwise_namesApart hinside hchain).forall hmem hmem' hdiffer
  apply hapart left right hleft hright
  simpa [Node.nameSpan, hkind, hkind', NodeKind.name?] using hspan

end Fields

/-- The fields of a struct, and what is wrong with them. -/
def Document.fieldFaults (document : Document) (placed : Node × NodeId) : List Diagnostic :=
  match placed.1.kind with
  | .struct _ => (document.fieldsIn placed.2).flatMap fun (id, name) =>
      document.sharedField placed.2 id name
  | _ => []

theorem Document.flatMap_numbered {β : Type} (document : Document)
    (f : NodeId × Node → List β) :
    document.numbered.flatMap f =
      document.nodes.toList.zipIdx.flatMap fun (node, id) => f (id, node) := by
  rw [Document.numbered, List.flatMap_map]

/-- The rule against duplicate fields looks at each struct on its own. -/
theorem duplicateFields_eq (document : Document) :
    duplicateFields document = document.nodes.toList.zipIdx.flatMap fun placed =>
      if placed.1.kind.declKind? = some .struct then duplicateFieldsOf document placed.1
      else [] := by
  have hstructs : (document.declarationsOf .struct).filterMap document.get? =
      (document.numbered.filter fun numbered => numbered.2.kind.declKind? == some .struct).map
        Prod.snd := by
    rw [Document.declarationsOf, Document.nodesWhere, List.filterMap_map, ← List.filterMap_eq_map]
    refine List.filterMap_congr fun numbered hnumbered => ?_
    exact Document.mem_numbered.mp (List.mem_filter.mp hnumbered).1
  rw [duplicateFields, hstructs, List.flatMap_map, Document.numbered]
  induction document.nodes.toList.zipIdx with
  | nil => rfl
  | cons placed others ih =>
      by_cases hkind : placed.1.kind.declKind? = some .struct
      · simp [hkind, ih]
      · simp [hkind, ih]

theorem parse_duplicateFields_perm (source path : String) :
    (duplicateFields (Document.parse source path)).Perm
      ((Document.parse source path).nodes.toList.zipIdx.flatMap
        (Document.parse source path).fieldFaults) := by
  rw [duplicateFields_eq]
  refine List.Perm.flatMap_left _ fun placed hplaced => ?_
  have hget := Document.mem_zipIdx.mp hplaced
  have hperm := duplicateFieldsOf_perm (parse_fields source path hget)
    (parse_fields_ne_empty source path) (parse_fieldsApart source path hget)
  rw [Document.fieldFaults]
  cases hkind : placed.1.kind with
  | struct name => simpa [NodeKind.declKind?] using hperm
  | _ => simp [NodeKind.declKind?]

section Loading

variable {loader : Loader} {document : Document}

theorem Resolution.targets_ofTargets (targets : List Target) :
    (Resolution.ofTargets targets).targets = targets := by
  match targets with
  | [] | [_] | _ :: _ :: _ => rfl

/-- The candidates for a type that stand in the document itself are nodes of it. -/
theorem typeTargets_local (hindex : document.Indexed) {name : String} {id : NodeId}
    (hlocal : .localNode id ∈ freshAnswer (typeTargets loader document name)) :
    ∃ node, document.get? id = some node := by
  unfold typeTargets at hlocal
  split at hlocal
  · obtain ⟨found, hfound, hsame⟩ := List.mem_map.mp hlocal
    cases hsame
    obtain ⟨_, node, hget, _⟩ := hindex.mem_lookup.mp hfound
    exact ⟨node, hget⟩
  · rw [freshAnswer_bind (Steady.mapM (importDocument_steady document) _) fun _ => .pure _,
      freshAnswer_pure] at hlocal
    obtain ⟨imported, _, hfound⟩ := List.mem_flatMap.mp hlocal
    cases imported with
    | ok other =>
        obtain ⟨_, _, hsame⟩ := List.mem_map.mp hfound
        cases hsame
    | error fault => cases hfound

theorem unknownTypeHelp_eq (name : String) :
    unknownTypeHelp name = Document.mendedBy name := by
  rw [unknownTypeHelp, Document.mendedBy]
  by_cases hdot : '.' ∈ name.toList
  · obtain ⟨qualifier, struct, rfl, hfirst⟩ := exists_qualified hdot
    have htext : (qualifier ++ "." ++ struct).toList =
        qualifier.toList ++ '.' :: struct.toList := by simp
    have hbefore : (qualifier ++ "." ++ struct).toList.takeWhile (· != '.') =
        qualifier.toList := by
      rw [htext, List.takeWhile_append_of_pos (bne_dot_of_notMem hfirst),
        List.takeWhile_cons_of_neg (by simp), List.append_nil]
    rw [splitQualified?_append hfirst, if_pos hdot, hbefore, String.ofList_toList]
  · rw [splitQualified?_eq_none hdot, if_neg hdot]

/-- The rule about uses says of a resolution what is wrong with it. -/
theorem Document.unclearUse_eq (hshows : document.ShowsNames) {answer : Resolution}
    (hlocal : ∀ id, .localNode id ∈ answer.targets → ∃ node, document.get? id = some node)
    (name : String) (span : Span) :
    referenceComplaint document name span answer = document.unclearUse name span answer := by
  cases answer with
  | resolved target => rfl
  | unresolved =>
      rw [referenceComplaint, unknownTypeHelp_eq]
      rfl
  | ambiguous targets =>
      have hlabels : ((candidateSpans document targets).map fun span =>
          ({ span, message := "candidate", primary := false } : Label)) =
            targets.filterMap fun
              | .localNode id => document.nodes[id]?.map fun node =>
                { span := node.namePlace, message := "candidate", primary := false }
              | _ => none := by
        rw [candidateSpans, List.map_filterMap]
        refine List.filterMap_congr fun target htarget => ?_
        cases target with
        | localNode id =>
            obtain ⟨node, hget⟩ := hlocal id htarget
            have hnode : document.nodes[id]? = some node := hget
            simp [hnode, hshows.nameSpanOf_eq hget]
        | externalNode | wholeDocument => rfl
      simp only [referenceComplaint, Diagnostic.alsoAt, hlabels]
      rfl

theorem freshAnswer_checkReference_eq (hindex : document.Indexed) (hshows : document.ShowsNames)
    {id : NodeId} {node : Node} (hget : document.get? id = some node) :
    freshAnswer (checkReference loader document id node) =
      match node.kind with
      | .typeRef name _ =>
        document.unclearUse name.val node.span (freshAnswer (resolve loader document id))
      | _ => [] := by
  cases hkind : node.kind with
  | typeRef name role =>
      rw [freshAnswer_checkReference loader document hkind]
      refine document.unclearUse_eq hshows (fun other hother => ?_) _ _
      have hanswer : freshAnswer (resolve loader document id) =
          .ofTargets (freshAnswer (typeTargets loader document name.val)) := by
        simp only [resolve, candidates, hget, Option.map_some, hkind]
        rfl
      rw [hanswer, Resolution.targets_ofTargets] at hother
      exact typeTargets_local hindex hother
  | _ =>
      simp only [checkReference, hkind]
      rfl

/-- An import that names a path is at fault exactly if the loader has no document
there. -/
theorem Document.failedImport_eq (loader : Loader) (document : Document) {path : Spanned String}
    (hfull : path.val ≠ "") :
    document.failedImport loader path =
      match loadDocument loader (document.importTarget path.val) with
      | .ok _ => []
      | .error fault => [brokenImport path fault.message] := by
  simp only [Document.failedImport, loadDocument, hfull, ↓reduceIte]
  split
  · cases loader (document.importTarget path.val) with
    | ok _ | error _ => rfl
  · rfl

theorem Document.mem_failedImport {path : Spanned String} {diagnostic : Diagnostic}
    (hfault : diagnostic ∈ document.failedImport loader path) :
    ∃ reason, diagnostic = brokenImport path reason := by
  by_cases hempty : path.val = ""
  · rw [Document.failedImport, if_pos hempty] at hfault
    cases hfault
  · rw [document.failedImport_eq loader hempty] at hfault
    split at hfault
    · cases hfault
    · exact ⟨_, List.mem_singleton.mp hfault⟩

theorem freshAnswer_checkImport_eq (loader : Loader) (document : Document) (node : Node) :
    freshAnswer (checkImport loader document node) =
      match node.kind with
      | .importPath path => document.failedImport loader path
      | _ => [] := by
  cases hkind : node.kind with
  | importPath path =>
      by_cases hempty : path.val = ""
      · simp only [checkImport, hkind, hempty, Document.failedImport, ↓reduceIte]
        rfl
      · rw [freshAnswer_checkImport loader document hkind hempty]
        exact (document.failedImport_eq loader hempty).symm
  | _ =>
      simp only [checkImport, hkind]
      rfl

/-- What is wrong at a node, rule by rule. -/
theorem Document.faultsAt_eq (hindex : document.Indexed) (hshows : document.ShowsNames)
    {placed : Node × NodeId} (hplaced : placed ∈ document.nodes.toList.zipIdx) :
    document.faultsAt loader placed.2 placed.1 =
      document.duplicateFaults .struct .duplicateStruct placed ++
        (document.duplicateFaults .handler .duplicateHandler placed ++
          (document.duplicateFaults .route .duplicateRoute placed ++
            (document.fieldFaults placed ++
              (freshAnswer (checkReference loader document placed.2 placed.1) ++
                freshAnswer (checkImport loader document placed.1))))) := by
  rw [freshAnswer_checkReference_eq hindex hshows (Document.mem_zipIdx.mp hplaced),
    freshAnswer_checkImport_eq]
  unfold Document.faultsAt Document.duplicateFaults Document.fieldFaults
  cases placed.1.kind <;> simp [NodeKind.declaration?]

end Loading

theorem perm_flatMap_append {α β : Type} {items : List α} {f g : α → List β} {left right : List β}
    (hleft : left.Perm (items.flatMap f)) (hright : right.Perm (items.flatMap g)) :
    (left ++ right).Perm (items.flatMap fun item => f item ++ g item) :=
  (hleft.append hright).trans (List.flatMap_append_perm items f g)

/-- The rules report what is wrong at each node. -/
theorem parse_rules_perm (loader : Loader) (source path : String) :
    (duplicateComplaints (Document.parse source path) ++
      freshAnswer (importComplaints loader (Document.parse source path))).Perm
      ((Document.parse source path).nodes.toList.zipIdx.flatMap fun placed =>
        (Document.parse source path).faultsAt loader placed.2 placed.1) := by
  have hindex := parse_indexed source path
  have hshows := parse_showsNames source path
  have hduplicates : ∀ kind ≠ .importPath, ∀ code,
      (duplicateDeclarations (Document.parse source path) kind code).Perm
        ((Document.parse source path).nodes.toList.zipIdx.flatMap
          ((Document.parse source path).duplicateFaults kind code)) :=
    fun kind hkind => duplicateDeclarations_perm hindex hshows
      (parse_declares_ne_empty source path hkind)
  rw [List.flatMap_congr fun _ hplaced => Document.faultsAt_eq hindex hshows hplaced]
  simp only [duplicateComplaints, freshAnswer_importComplaints, Document.flatMap_numbered,
    List.append_assoc]
  exact perm_flatMap_append (hduplicates .struct (by decide) .duplicateStruct)
    (perm_flatMap_append (hduplicates .handler (by decide) .duplicateHandler)
      (perm_flatMap_append (hduplicates .route (by decide) .duplicateRoute)
        (perm_flatMap_append (parse_duplicateFields_perm source path)
          (List.flatMap_append_perm _ _ _))))

/-- Validation reports what the document says on its own and what is wrong at each
node, sorted by place, with the document's own diagnostics in their order. -/
theorem validate_reports (loader : Loader) (source path : String) :
    let document := Document.parse source path
    let diagnostics := validate loader document
    (diagnostics.Pairwise fun left right => left.span.start ≤ right.span.start) ∧
      diagnostics.Perm (document.diagnostics ++
        document.nodes.toList.zipIdx.flatMap fun (node, id) =>
          document.faultsAt loader id node) ∧
      document.diagnostics.Sublist diagnostics := by
  intro document diagnostics
  have hvalidate : diagnostics = Diagnostic.sortByPlace (document.diagnostics ++
      (duplicateComplaints document ++ freshAnswer (importComplaints loader document))) := by
    have hlocal : localComplaints document =
        document.diagnostics ++ duplicateComplaints document := by
      simp [localComplaints, duplicateComplaints]
    rw [← List.append_assoc, ← hlocal]
    rfl
  have hown : document.diagnostics.Pairwise
      fun left right => decide (left.span.start ≤ right.span.start) = true :=
    List.pairwise_mergeSort (by grind) (by grind) _
  rw [hvalidate]
  refine ⟨pairwise_mergeSort_key (fun diagnostic : Diagnostic => diagnostic.span.start) _,
    (List.mergeSort_perm _ _).trans ((parse_rules_perm loader source path).append_left _), ?_⟩
  exact List.sublist_mergeSort (by grind) (by grind) hown (List.sublist_append_left _ _)

end ApiLang
