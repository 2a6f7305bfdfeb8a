/-
The values that a document holds.  Every info block, service and route of the tree
has its node, and the values written in it stand there in canonical form, the last
one under each key; the options of a service are merged from its `server` annotations
alone.  Where a truth value is expected and something else is written, there is one
warning for each place where it is written, also if the value was replaced later.
-/
import ApiLang.Proofs.Document.Concatenation
import ApiLang.Proofs.Document.Merging

namespace ApiLang

/-- The keys that stand for a choice between yes and no. -/
def ExpectsTruth (key : String) : Prop :=
  key = "compact_handler" ∨ key = "signature"

instance : DecidablePred ExpectsTruth := fun _ => inferInstanceAs (Decidable (_ ∨ _))

/-- What the items written under a key stand for. -/
inductive Canonical (key : String) : List String → Value → Prop
  | none : Canonical key [] (.text "")
  | one {item : String} (hplain : ExpectsTruth key → item ≠ "true" ∧ item ≠ "false") :
      Canonical key [item] (.text item)
  | yes (hkey : ExpectsTruth key) : Canonical key ["true"] (.bool true)
  | no (hkey : ExpectsTruth key) : Canonical key ["false"] (.bool false)
  | several {first second : String} {others : List String} :
      Canonical key (first :: second :: others) (.list (first :: second :: others))

/-- The items of a value, without their quotes. -/
def ValueList.texts (value : ValueList) : List String :=
  value.items.map fun item => item.val.text

/-- The canonical form of a value, at the place of the value. -/
structure CanonicalAt (key : String) (value : ValueList) (found : Spanned Value) : Prop where
  form : Canonical key value.texts found.val
  span : found.span = value.span

/-- Each key once, where it came first, with the canonical form of its last value. -/
def CanonicalEntries (entries : List KeyValue) (properties : Properties) : Prop :=
  OrderedMap.KeepsLast (fun entry : KeyValue => entry.key.val)
    (fun entry found => CanonicalAt entry.key.val entry.value found) entries properties

/-- An annotation and its canonical form. -/
inductive CanonicalNote : Annotation → AnnotationFacts → Prop
  | empty {name : Spanned String} {span : Span} :
      CanonicalNote ⟨name, .empty, span⟩ ⟨name, none, .empty, span⟩
  | inline {name : Spanned String} {span : Span} {value : ValueList} {found : Spanned Value}
      (hvalue : CanonicalAt name.val value found) :
      CanonicalNote ⟨name, .inline value, span⟩ ⟨name, some found, .empty, span⟩
  | block {name : Spanned String} {span : Span} {entries : List KeyValue}
      {properties : Properties} (hentries : CanonicalEntries entries properties) :
      CanonicalNote ⟨name, .block entries, span⟩ ⟨name, none, properties, span⟩

/-- The entries in parentheses, if the annotation has some. -/
def Annotation.entries (note : Annotation) : List KeyValue :=
  match note.body with
  | .block entries => entries
  | .empty | .inline _ => []

/-- The entries of all `server` annotations, one after the other. -/
def serverEntries (notes : List Annotation) : List KeyValue :=
  (notes.filter fun note => note.name.val = "server").flatMap Annotation.entries

/-- The entries of the `server` annotations, merged. -/
def CanonicalOptions (notes : List Annotation) (options : ServerOptions) : Prop :=
  OrderedMap.KeepsLast (fun entry : KeyValue => entry.key.val)
    (fun entry found => Canonical entry.key.val entry.value.texts found) (serverEntries notes)
    options.properties

/-- The parts of a tree in which values are written. -/
inductive ValueHolder where
  | info (entries : List KeyValue) (span : Span)
  | service (service : Service)
  | route (route : Route)

def ServiceEntry.holders : ServiceEntry → List ValueHolder
  | .route line => [.route line]
  | .skipped _ => []

def Declaration.holders : Declaration → List ValueHolder
  | .info entries span => [.info entries span]
  | .service block => .service block :: block.body.entries.flatMap ServiceEntry.holders
  | .version .. | .imports .. | .types .. | .skipped _ => []

/-- The info blocks, services and routes of a file, in source order. -/
def SourceFile.holders (file : SourceFile) : List ValueHolder :=
  file.declarations.flatMap Declaration.holders

/-- The node of an info block, a service or a route, with its values in canonical
form. -/
inductive Holds : ValueHolder → Node → Prop
  | info {entries : List KeyValue} {span : Span} {parent : Option NodeId}
      {children : List NodeId} {properties : Properties}
      (hentries : CanonicalEntries entries properties) :
      Holds (.info entries span) ⟨span, parent, children, .info properties⟩
  | service {service : Service} {parent : Option NodeId} {children : List NodeId}
      {notes : List AnnotationFacts} {options : ServerOptions}
      (hnotes : List.Forall₂ CanonicalNote service.annotations notes)
      (hoptions : CanonicalOptions service.annotations options) :
      Holds (.service service)
        ⟨service.span, parent, children, .service service.name notes options⟩
  | route {route : Route} {parent : Option NodeId} {children : List NodeId} {facts : RouteFacts}
      (hmethod : facts.method = route.method) (hpath : facts.path = route.path)
      (hnotes : List.Forall₂ CanonicalNote route.annotations facts.annotations) :
      Holds (.route route) ⟨route.span, parent, children, .route facts⟩

def Node.holdsValues (node : Node) : Bool :=
  match node.kind with
  | .info _ | .service .. | .route _ => true
  | _ => false

/-- A value with the key that it is judged by. -/
structure Occurrence where
  key : String
  value : ValueList

def KeyValue.occurrence (entry : KeyValue) : Occurrence :=
  ⟨entry.key.val, entry.value⟩

/-- The values of an annotation.  One on the same line is judged by the name of the
annotation. -/
def Annotation.occurrences (note : Annotation) : List Occurrence :=
  match note.body with
  | .empty => []
  | .inline value => [⟨note.name.val, value⟩]
  | .block entries => entries.map KeyValue.occurrence

def ValueHolder.occurrences : ValueHolder → List Occurrence
  | .info entries _ => entries.map KeyValue.occurrence
  | .service block => block.annotations.flatMap Annotation.occurrences
  | .route line => line.annotations.flatMap Annotation.occurrences

/-- A truth value is expected and something else is written. -/
def Occurrence.Misused (occurrence : Occurrence) : Prop :=
  ExpectsTruth occurrence.key ∧
    occurrence.value.texts ≠ ["true"] ∧ occurrence.value.texts ≠ ["false"]

instance : DecidablePred Occurrence.Misused := fun _ => inferInstanceAs (Decidable (_ ∧ _ ∧ _))

/-- The warning about such a value. -/
def Occurrence.misuse (occurrence : Occurrence) : Diagnostic :=
  { severity := .warning
    code := some .invalidAnnotationValue
    message := "`" ++ occurrence.key ++ "` expects `true` or `false`, found `" ++
      ", ".intercalate occurrence.value.texts ++ "`"
    labels := [{ span := occurrence.value.span, message := "not a boolean", primary := true }]
    help := some "write `true` or `false`" }

section Values

theorem contains_booleanKeys (key : String) :
    booleanKeys.contains key = decide (ExpectsTruth key) := by
  by_cases hkey : key = "compact_handler" <;> simp [booleanKeys, ExpectsTruth, hkey]

/-- Only a single item can spell a truth value. -/
theorem truth?_ofItems (texts : List String) :
    (Value.ofItems texts).truth? =
      if texts = ["true"] then some true else if texts = ["false"] then some false else none := by
  match texts with
  | [] => rfl
  | [item] =>
      rw [Value.ofItems, Value.truth?.eq_def]
      split <;> simp_all
  | first :: second :: others => simp [Value.ofItems, Value.truth?]

theorem canonicalValue_eq (key : String) (value : ValueList) :
    canonicalValue key value =
      if ExpectsTruth key ∧ value.texts = ["true"] then .bool true
      else if ExpectsTruth key ∧ value.texts = ["false"] then .bool false
      else Value.ofItems value.texts := by
  have htruth := truth?_ofItems value.texts
  rw [ValueList.texts] at htruth ⊢
  by_cases hkey : ExpectsTruth key
  · simp only [canonicalValue, contains_booleanKeys, hkey, decide_true, ↓reduceIte, htruth,
      true_and]
    split_ifs <;> rfl
  · simp only [canonicalValue, contains_booleanKeys, hkey, decide_false, Bool.false_eq_true,
      ↓reduceIte, false_and]

/-- Values are brought into canonical form. -/
theorem canonical_canonicalValue (key : String) (value : ValueList) :
    Canonical key value.texts (canonicalValue key value) := by
  rw [canonicalValue_eq]
  split_ifs with hyes hno
  · rw [hyes.2]
    exact .yes hyes.1
  · rw [hno.2]
    exact .no hno.1
  · match htexts : value.texts with
    | [] => exact .none
    | [item] =>
        refine .one fun hkey => ⟨?_, ?_⟩
        · rintro rfl
          exact hyes ⟨hkey, htexts⟩
        · rintro rfl
          exact hno ⟨hkey, htexts⟩
    | first :: second :: others => exact .several

theorem render_ofItems (texts : List String) :
    (Value.ofItems texts).render = ", ".intercalate texts := by
  match texts with
  | [] => rfl
  | [item] => rfl
  | first :: second :: others => rfl

theorem valueWarning_eq (occurrence : Occurrence) :
    valueWarning occurrence.key occurrence.value =
      if occurrence.Misused then [occurrence.misuse] else [] := by
  obtain ⟨key, value⟩ := occurrence
  simp only [valueWarning, contains_booleanKeys, canonicalValue_eq, Occurrence.Misused]
  by_cases hkey : ExpectsTruth key
  · by_cases hyes : value.texts = ["true"]
    · simp [hkey, hyes, Value.asBool?]
    · by_cases hno : value.texts = ["false"]
      · simp [hkey, hno, Value.asBool?]
      · have hplain : (Value.ofItems value.texts).asBool? = none := by
          unfold Value.ofItems
          split <;> rfl
        simp only [hkey, hyes, hno, and_false, ↓reduceIte, hplain, render_ofItems, decide_true,
          Option.isNone_none, Bool.and_self, ne_eq, not_false_eq_true, and_self]
        rfl
  · simp [hkey]

theorem canonicalEntries_canonical (entries : List KeyValue) :
    CanonicalEntries entries (canonicalEntries entries) :=
  OrderedMap.keepsLast_ofList (fun _ => ⟨canonical_canonicalValue _ _, rfl⟩) entries

theorem AnnotationFacts.ofTree_canonical (note : Annotation) :
    CanonicalNote note (AnnotationFacts.ofTree note) := by
  obtain ⟨name, body, span⟩ := note
  cases body with
  | empty => exact .empty
  | inline value => exact .inline ⟨canonical_canonicalValue _ _, rfl⟩
  | block entries => exact .block (canonicalEntries_canonical entries)

theorem forall₂_ofTree (notes : List Annotation) :
    List.Forall₂ CanonicalNote notes (notes.map AnnotationFacts.ofTree) := by
  rw [List.forall₂_map_right_iff, List.forall₂_same]
  exact fun note _ => AnnotationFacts.ofTree_canonical note

theorem AnnotationFacts.name_ofTree (note : Annotation) :
    (AnnotationFacts.ofTree note).name = note.name := by
  obtain ⟨name, body, span⟩ := note
  cases body <;> rfl

/-- The key of an entry with its canonical value. -/
def KeyValue.pair (entry : KeyValue) : String × Value :=
  (entry.key.val, canonicalValue entry.key.val entry.value)

theorem AnnotationFacts.properties_ofTree (note : Annotation) :
    (AnnotationFacts.ofTree note).properties.entries.map (fun entry => (entry.1, entry.2.val)) =
      (OrderedMap.ofList (note.entries.map KeyValue.pair)).entries := by
  have hentries : (AnnotationFacts.ofTree note).properties = canonicalEntries note.entries := by
    obtain ⟨name, body, span⟩ := note
    cases body <;> rfl
  have hmap := OrderedMap.mapValues_ofList Spanned.val (note.entries.map fun entry =>
    (entry.key.val, Spanned.mk (canonicalValue entry.key.val entry.value) entry.value.span))
  rw [List.map_map] at hmap
  rw [hentries]
  exact congrArg OrderedMap.entries hmap

/-- Options are merged from the entries as written: it does not matter that each
annotation was merged before. -/
theorem properties_ofAnnotations (notes : List Annotation) :
    (ServerOptions.ofAnnotations (notes.map AnnotationFacts.ofTree)).properties =
      .ofList ((serverEntries notes).map KeyValue.pair) := by
  have hserver : (notes.map AnnotationFacts.ofTree).filter (fun facts => facts.name.val == "server")
      = (notes.filter fun note => note.name.val = "server").map AnnotationFacts.ofTree := by
    rw [List.filter_map]
    refine congrArg _ (List.filter_congr fun note _ => ?_)
    simp [AnnotationFacts.name_ofTree, beq_eq_decide]
  rw [ServerOptions.ofAnnotations, hserver, List.flatMap_map, serverEntries, List.map_flatMap]
  simp only [AnnotationFacts.properties_ofTree]
  have hmerge := OrderedMap.ofList_flatMap_entries
    ((notes.filter fun note => note.name.val = "server").map
      fun note => note.entries.map KeyValue.pair)
  rw [List.flatMap_map] at hmerge
  exact hmerge

theorem ofAnnotations_canonical (notes : List Annotation) :
    CanonicalOptions notes (.ofAnnotations (notes.map AnnotationFacts.ofTree)) := by
  rw [CanonicalOptions, properties_ofAnnotations]
  exact OrderedMap.keepsLast_ofList (fun _ => canonical_canonicalValue _ _) _

end Values

section Nodes

/-- The nodes of the subtree that hold values are those of the pieces, in order. -/
def HoldsAll (pieces : List ValueHolder) (subtree : Subtree) : Prop :=
  ∀ id, List.Forall₂ Holds pieces ((subtree id).filter Node.holdsValues)

theorem layOut_holdsAll {pieces : List (List ValueHolder)} {subtrees : List Subtree}
    (hsubtrees : List.Forall₂ HoldsAll pieces subtrees) (next : NodeId) :
    List.Forall₂ Holds pieces.flatten ((layOut next subtrees).2.filter Node.holdsValues) := by
  induction hsubtrees generalizing next with
  | nil => exact .nil
  | @cons first subtree others subtrees hfirst _ ih =>
      rw [layOut, List.filter_append, List.flatten_cons]
      exact List.rel_append (hfirst next) (ih _)

/-- No info block, service or route. -/
def Node.IsPlain (node : Node) : Prop :=
  node.holdsValues = false

theorem forall₂_holds_nil {nodes : List Node} (hplain : ∀ node ∈ nodes, node.IsPlain) :
    List.Forall₂ Holds [] (nodes.filter Node.holdsValues) := by
  rw [List.filter_eq_nil_iff.mpr fun node hnode => ne_true_of_eq_false (hplain node hnode)]
  exact .nil

theorem leaf_holdsAll {span : Span} {parent : Option NodeId} {kind : NodeKind}
    (hplain : Node.IsPlain ⟨span, parent, [], kind⟩) : HoldsAll [] (leaf span parent kind) :=
  fun id => forall₂_holds_nil (eachNode_leaf hplain id)

theorem withChildren_holdsAll {span : Span} {parent : Option NodeId} {kind : NodeId → NodeKind}
    {children : NodeId → List Subtree} {root : ValueHolder} {below : List ValueHolder}
    (hroot : ∀ id roots, Holds root ⟨span, parent, roots, kind id⟩)
    (hholds : ∀ id roots, (Node.mk span parent roots (kind id)).holdsValues = true)
    (hbelow : ∀ id next,
      List.Forall₂ Holds below ((layOut next (children id)).2.filter Node.holdsValues)) :
    HoldsAll (root :: below) fun id => withChildren span parent (kind id) children id := by
  intro id
  simp only [withChildren]
  rw [List.filter_cons_of_pos (hholds id _)]
  exact .cons (hroot id _) (hbelow id _)

theorem useSubtrees_isPlain (parent : NodeId) (role : ReferenceRole) (type : TypeExpr) :
    ∀ subtree ∈ useSubtrees parent role type, EachNode Node.IsPlain subtree := by
  intro subtree hsubtree
  obtain ⟨name, _, rfl⟩ := List.mem_map.mp hsubtree
  exact eachNode_leaf rfl

theorem structSubtree_isPlain (struct : StructDef) :
    EachNode Node.IsPlain (structSubtree struct) := by
  refine eachNode_withChildren (fun _ _ => rfl) fun id subtree hsubtree => ?_
  obtain ⟨line, _, rfl⟩ := List.mem_map.mp hsubtree
  cases line with
  | field | embedded =>
      exact eachNode_withChildren (fun _ _ => rfl) fun _ => useSubtrees_isPlain _ _ _
  | skipped => exact eachNode_leaf rfl

theorem routeSubtree_holdsAll (service : NodeId) (route : Route) :
    HoldsAll [.route route] (routeSubtree service route) := by
  refine withChildren_holdsAll (fun _ _ => .route rfl rfl (forall₂_ofTree _)) (fun _ _ => rfl)
    fun id next => forall₂_holds_nil (layOut_eachNode ?_ next)
  exact forall_mem_routeChildren (fun _ _ => eachNode_leaf rfl)
    (fun type _ => useSubtrees_isPlain id .request type)
    fun type _ => useSubtrees_isPlain id .response type

theorem serviceSubtree_holdsAll (service : Service) :
    HoldsAll (.service service :: service.body.entries.flatMap ServiceEntry.holders)
      (serviceSubtree service) := by
  refine withChildren_holdsAll (fun _ _ => .service (forall₂_ofTree _) (ofAnnotations_canonical _))
    (fun _ _ => rfl) fun id next => layOut_holdsAll ?_ next
  rw [List.forall₂_map_left_iff, List.forall₂_map_right_iff, List.forall₂_same]
  intro entry _
  cases entry with
  | route route => exact routeSubtree_holdsAll id route
  | skipped input => exact leaf_holdsAll rfl

/-- The subtrees of a declaration hold the values that are written in it. -/
theorem Declaration.layOut_subtrees_holds (found : Declaration) (next : NodeId) :
    List.Forall₂ Holds found.holders
      ((layOut next found.subtrees).2.filter Node.holdsValues) := by
  have hone : ∀ {pieces : List ValueHolder} {subtree : Subtree}, HoldsAll pieces subtree →
      List.Forall₂ Holds pieces ((layOut next [subtree]).2.filter Node.holdsValues) := by
    intro pieces subtree hsubtree
    have hrow := layOut_holdsAll (.cons hsubtree .nil) next
    rwa [List.flatten_singleton] at hrow
  cases found with
  | version | skipped => exact hone (leaf_holdsAll rfl)
  | info entries span =>
      exact hone fun id => .cons (.info (canonicalEntries_canonical entries)) .nil
  | imports paths span =>
      refine forall₂_holds_nil (layOut_eachNode (fun subtree hsubtree => ?_) next)
      obtain ⟨path, _, rfl⟩ := List.mem_map.mp hsubtree
      exact eachNode_leaf rfl
  | types keyword body =>
      refine forall₂_holds_nil (layOut_eachNode (fun subtree hsubtree => ?_) next)
      obtain ⟨entry, _, rfl⟩ := List.mem_map.mp hsubtree
      cases entry with
      | struct struct => exact structSubtree_isPlain struct
      | skipped input => exact eachNode_leaf rfl
  | service service => exact hone (serviceSubtree_holdsAll service)

theorem layOut_declarations_holds (found : List Declaration) (next : NodeId) :
    List.Forall₂ Holds (found.flatMap Declaration.holders)
      ((layOut next (found.flatMap Declaration.subtrees)).2.filter Node.holdsValues) := by
  induction found generalizing next with
  | nil => exact .nil
  | cons first others ih =>
      rw [List.flatMap_cons, List.flatMap_cons, layOut_append, List.filter_append]
      exact List.rel_append (first.layOut_subtrees_holds next) (ih _)

end Nodes

section Warnings

/-- Of the occurrences, those are warned about in which a value is misused. -/
theorem flatMap_valueWarning (occurrences : List Occurrence) :
    (occurrences.flatMap fun occurrence => valueWarning occurrence.key occurrence.value) =
      (occurrences.filter fun occurrence => occurrence.Misused).map Occurrence.misuse := by
  induction occurrences with
  | nil => rfl
  | cons first others ih =>
      rw [List.flatMap_cons, ih, valueWarning_eq]
      by_cases hmisused : first.Misused <;> simp [hmisused]

theorem entryWarnings_eq (entries : List KeyValue) :
    entryWarnings entries = (entries.map KeyValue.occurrence).flatMap
      fun occurrence => valueWarning occurrence.key occurrence.value := by
  rw [List.flatMap_map]
  rfl

theorem annotationWarnings_eq (note : Annotation) :
    annotationWarnings note =
      note.occurrences.flatMap fun occurrence => valueWarning occurrence.key occurrence.value := by
  obtain ⟨name, body, span⟩ := note
  cases body with
  | empty => rfl
  | inline value => exact (List.flatMap_singleton _ _).symm
  | block entries => exact entryWarnings_eq entries

theorem Declaration.warnings_eq (found : Declaration) :
    found.warnings = (found.holders.flatMap ValueHolder.occurrences).flatMap
      fun occurrence => valueWarning occurrence.key occurrence.value := by
  have hnotes : ∀ notes : List Annotation, notes.flatMap annotationWarnings =
      (notes.flatMap Annotation.occurrences).flatMap
        fun occurrence => valueWarning occurrence.key occurrence.value := by
    intro notes
    rw [List.flatMap_assoc]
    exact List.flatMap_congr fun note _ => annotationWarnings_eq note
  cases found with
  | version | imports | types | skipped => rfl
  | info entries span =>
      rw [Declaration.holders, List.flatMap_singleton]
      exact entryWarnings_eq entries
  | service service =>
      rw [Declaration.warnings, Declaration.holders, List.flatMap_cons, List.flatMap_append, hnotes]
      refine congrArg _ ?_
      rw [List.flatMap_assoc, List.flatMap_assoc]
      refine List.flatMap_congr fun entry _ => ?_
      cases entry with
      | route route =>
          rw [ServiceEntry.holders, List.flatMap_singleton]
          exact hnotes route.annotations
      | skipped input => rfl

/-- The warnings about a file, place by place. -/
theorem SourceFile.warnings_eq (file : SourceFile) :
    file.declarations.flatMap Declaration.warnings =
      ((file.holders.flatMap ValueHolder.occurrences).filter
        fun occurrence => occurrence.Misused).map Occurrence.misuse := by
  rw [← flatMap_valueWarning, SourceFile.holders, List.flatMap_assoc, List.flatMap_assoc]
  refine List.flatMap_congr fun found _ => ?_
  rw [found.warnings_eq, List.flatMap_assoc]

/-- Complaints about words and grammar are not about values. -/
theorem filter_isSyntactic {diagnostics : List Diagnostic}
    (hsyntactic : ∀ diagnostic ∈ diagnostics, diagnostic.isSyntactic = true) :
    (diagnostics.filter fun diagnostic => diagnostic.code = some .invalidAnnotationValue) = [] := by
  refine List.filter_eq_nil_iff.mpr fun diagnostic hdiagnostic hcode => ?_
  have hcode := of_decide_eq_true hcode
  have hwords := hsyntactic diagnostic hdiagnostic
  rw [Diagnostic.isSyntactic, hcode] at hwords
  cases hwords

end Warnings

/-- The values of a parsed document, and the warnings about them.  The nodes that hold
values are those of the info blocks, services and routes of the tree, and each of them
has all its values in canonical form; and of the diagnostics, those about values are one
for each place where a truth value is expected and something else is written. -/
theorem parse_canonical (source path : String) :
    List.Forall₂ Holds (treeOf source.toList).holders
        ((Document.parse source path).nodes.toList.filter Node.holdsValues) ∧
      ((Document.parse source path).diagnostics.filter
          fun diagnostic => diagnostic.code = some .invalidAnnotationValue).Perm
        ((((treeOf source.toList).holders.flatMap ValueHolder.occurrences).filter
          fun occurrence => occurrence.Misused).map Occurrence.misuse) := by
  refine ⟨by rw [parse_nodes]; exact layOut_declarations_holds _ 0, ?_⟩
  refine ((parse_diagnostics_perm source path).filter _).trans (.of_eq ?_)
  have hmisuses : ∀ occurrences : List Occurrence,
      ((occurrences.map Occurrence.misuse).filter
        fun diagnostic => diagnostic.code = some .invalidAnnotationValue) =
          occurrences.map Occurrence.misuse := by
    intro occurrences
    refine List.filter_eq_self.mpr (List.forall_mem_map.mpr fun _ _ => ?_)
    rfl
  rw [fileComplaints, List.filter_append, List.filter_append,
    filter_isSyntactic (tokenDiagnostics_isSyntactic _),
    filter_isSyntactic (SourceFile.diagnostics_isSyntactic _), SourceFile.warnings_eq, hmisuses]
  rfl

/-- The key that comes again keeps its place and gets the value of the later annotation,
which is no truth value. -/
example :
    let document := Document.parse
      ("@server ( signature: \"true\"\n group: a\n group: )\n" ++
        "@server ( signature: on, off )\nservice s \x7b\x7d") "shop.api"
    (document.nodes.toList.map fun node =>
        match node.kind with
        | .service _ _ options => options.properties.entries
        | _ => []) = [[("signature", .list ["on", "off"]), ("group", .text "")]] ∧
      document.diagnostics.map Diagnostic.message =
        ["`signature` expects `true` or `false`, found `on, off`"] := by
  decide +kernel

end ApiLang
