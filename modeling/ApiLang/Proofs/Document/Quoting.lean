/-
What a document quotes.  Every span of a node of a parsed document cuts the source,
and the names, tags, paths and skipped texts of the nodes are what the source says
there.
-/
import ApiLang.Proofs.Document.Names
import ApiLang.Proofs.Document.Nesting
import ApiLang.Proofs.Tree.Cuts

namespace ApiLang

variable {source : List Char} {start : Nat} {run : List Lexeme}

/-- The text under the span is the name, and the name is not empty. -/
structure Spanned.Names (source : List Char) (name : Spanned String) : Prop where
  slice : slice? source name.span = some name.val.toList
  full : name.val ≠ ""

/-- The text under the span is the value between two marks. -/
def Spanned.QuotedBy (mark : Char) (source : List Char) (quoted : Spanned String) : Prop :=
  slice? source quoted.span = some (mark :: quoted.val.toList ++ [mark])

def propertySpans (properties : Properties) : List Span :=
  properties.entries.map fun entry => entry.2.span

/-- The spans of an annotation: its own, that of its name and those of its values. -/
def AnnotationFacts.spans (facts : AnnotationFacts) : List Span :=
  facts.span :: facts.name.span ::
    (facts.value.toList.map Spanned.span ++ propertySpans facts.properties)

/-- The spans of what a node says. -/
def NodeKind.spans : NodeKind → List Span
  | .version name | .importPath name | .struct name | .handler name | .typeRef name _ =>
    [name.span]
  | .field name _ tag => name.span :: tag.toList.map Spanned.span
  | .service name notes _ => name.span :: notes.flatMap AnnotationFacts.spans
  | .route facts =>
    facts.method.span :: facts.path.span :: facts.annotations.flatMap AnnotationFacts.spans
  | .info properties => propertySpans properties
  | .embedded .. | .skipped _ => []

def Node.spans (node : Node) : List Span :=
  node.span :: node.kind.spans

/-- What a node says is what the source says. -/
def Node.Quotes (source : List Char) (node : Node) : Prop :=
  match node.kind with
  | .struct name | .service name .. | .handler name | .typeRef name _ => name.Names source
  | .field name _ tag => name.Names source ∧ ∀ text ∈ tag, text.QuotedBy '`' source
  | .route facts => facts.method.Names source ∧ facts.path.Names source
  | .version text | .importPath text => text.QuotedBy '"' source
  | .skipped text => slice? source node.span = some text.toList
  | .info _ | .embedded .. => True

/-- The spans of the node cut the source, and what stands under them is what the node
says.  The name of a struct is a single word. -/
structure Node.StandsIn (source : List Char) (node : Node) : Prop where
  cuts : ∀ span ∈ node.spans, span.Cuts source
  quotes : node.Quotes source
  plain : ∀ name, node.kind = .struct name → '.' ∉ name.val.toList

theorem Spanned.Names.cuts {name : Spanned String} (hname : name.Names source) :
    name.span.Cuts source :=
  Span.cuts_iff.mpr ⟨_, hname.slice⟩

theorem Spanned.QuotedBy.cuts {mark : Char} {quoted : Spanned String}
    (hquoted : quoted.QuotedBy mark source) : quoted.span.Cuts source :=
  Span.cuts_iff.mpr ⟨_, hquoted⟩

section Names

theorem Occurs.names (hrun : Occurs source start run) (hne : run ≠ []) :
    (nameAt start run).Names source := by
  refine ⟨?_, ?_⟩
  · rw [nameAt, String.toList_ofList]
    exact hrun.slice?_eq
  · simpa [nameAt] using hrun.textOf_ne_nil hne

/-- An identifier is a name by itself. -/
theorem Occurs.names_identifier {lexeme : Lexeme} {text : String}
    (hrun : Occurs source start [lexeme]) (htoken : lexeme.token = .identifier text) :
    Spanned.Names source ⟨text, spanAt start [lexeme]⟩ := by
  obtain ⟨_, hstands⟩ := hrun.lexed lexeme List.mem_cons_self
  refine ⟨hrun.slice?_written ?_, hstands.identifier_ne_empty htoken⟩
  rw [htoken]
  rfl

theorem Occurs.quotedBy_string {lexeme : Lexeme} {text : String}
    (hrun : Occurs source start [lexeme]) (htoken : lexeme.token = .string text) :
    Spanned.QuotedBy '"' source ⟨text, spanAt start [lexeme]⟩ := by
  apply hrun.slice?_written
  rw [htoken]
  rfl

theorem Occurs.quotedBy_rawString {lexeme : Lexeme} {text : String}
    (hrun : Occurs source start [lexeme]) (htoken : lexeme.token = .rawString text) :
    Spanned.QuotedBy '`' source ⟨text, spanAt start [lexeme]⟩ := by
  apply hrun.slice?_written
  rw [htoken]
  rfl

theorem SpellsName.names {name : Spanned String} (hname : SpellsName start run name)
    (hrun : Occurs source start run) : name.Names source := by
  obtain ⟨_, _⟩ := hname
  exact hrun.names (List.cons_ne_nil _ _)

theorem SpellsType.uses_names {type : TypeExpr} (htype : SpellsType start run type)
    (hrun : Occurs source start run) : ∀ name ∈ type.uses, name.Names source := by
  induction htype with
  | named hname =>
      rw [TypeExpr.uses]
      split
      · simp
      · exact List.forall_mem_singleton.mpr (hname.names hrun)
  | @pointer start star run inner _ _ ih => exact ih (hrun.piece [star] [] (by simp))
  | @slice start opener close run element _ _ _ ih =>
      exact ih (hrun.piece [opener, close] [] (by simp))
  | @array start opener number close digits run element _ _ _ _ ih =>
      exact ih (hrun.piece [opener, number, close] [] (by simp))
  | @map start word opener close keyRun run key value _ _ _ _ _ ihKey ihValue =>
      refine List.forall_mem_append.mpr ⟨ihKey ?_, ihValue ?_⟩
      · exact hrun.piece [word, opener] (close :: run) rfl
      · exact hrun.piece (word :: opener :: (keyRun ++ [close])) [] (by simp)
  | interface => simp [TypeExpr.uses]

theorem SpellsParenthesized.uses_names {type : TypeExpr}
    (htype : SpellsParenthesized start run type) (hrun : Occurs source start run) :
    ∀ name ∈ type.uses, name.Names source := by
  obtain @⟨opener, close, gap, run, trail, _, _, _, htype, _, _⟩ := htype
  exact htype.uses_names (hrun.piece (opener :: gap) (trail ++ [close]) (by simp))

/-- The uses in a request and a response are names. -/
theorem SpellsSignature.uses_names {request response : Option TypeExpr}
    (hsignature : SpellsSignature start run request response) (hrun : Occurs source start run) :
    (∀ type ∈ request, ∀ name ∈ type.uses, name.Names source) ∧
      ∀ type ∈ response, ∀ name ∈ type.uses, name.Names source := by
  cases hsignature with
  | none => simp
  | @request gap run type _ htype =>
      have huses := htype.uses_names (hrun.piece gap [] (by simp))
      simpa using huses
  | @response gap space run word type _ _ _ htype =>
      have huses := htype.uses_names (hrun.piece (gap ++ word :: space) [] (by simp))
      simpa using huses
  | @both gap requestRun middle space run word request response _ hrequest _ _ _ hresponse =>
      have hfirst := hrequest.uses_names (hrun.piece gap (middle ++ word :: (space ++ run)) rfl)
      have hsecond := hresponse.uses_names
        (hrun.piece (gap ++ (requestRun ++ (middle ++ word :: space))) [] (by simp))
      simpa using ⟨hfirst, hsecond⟩

end Names

section Values

theorem SpellsItem.cuts {item : Spanned ValueItem} (hitem : SpellsItem start run item)
    (hrun : Occurs source start run) : item.span.Cuts source := by
  cases hitem with
  | quoted => exact hrun.cuts
  | @bare core trail => exact (hrun.front trail rfl).cuts

/-- The text of an item is a name, in the quotes of a quoted one. -/
theorem SpellsItem.names_text {item : Spanned ValueItem} (hitem : SpellsItem start run item)
    (hrun : Occurs source start run) (hfull : item.val.text ≠ "") :
    Spanned.Names source ⟨item.val.text, match item.val with
      | .quoted _ => ⟨item.span.start + 1, item.span.stop - 1⟩
      | .bare _ => item.span⟩ := by
  refine ⟨?_, hfull⟩
  cases hitem with
  | @quoted lexeme text htoken =>
      obtain ⟨before, after, hsource, hstart, hstop⟩ :=
        slice?_eq_some_iff.mp (hrun.quotedBy_string htoken)
      have hquote : '"'.utf8Size = 1 := rfl
      simp only [List.cons_append, byteWidth_cons, byteWidth_append, byteWidth_nil, hquote]
        at hstop
      refine slice?_eq_some_iff.mpr ⟨before ++ ['"'], '"' :: after, ?_, ?_, ?_⟩
      · rw [hsource]
        simp [ValueItem.text]
      · rw [← hstart, byteWidth_append, byteWidth_cons, byteWidth_nil, hquote]
      · simp only [byteWidth_append, byteWidth_cons, byteWidth_nil, hquote, ValueItem.text]
        omega
  | @bare core trail =>
      have hslice := (hrun.front trail rfl).slice?_eq
      rwa [ValueItem.text, String.toList_ofList]

theorem SpellsValue.cuts {value : ValueList} (hvalue : SpellsValue start run value)
    (hrun : Occurs source start run) : value.span.Cuts source := by
  obtain ⟨hitems⟩ := hvalue
  have hcuts := hitems.forall_occurs hrun (fun item => item.span.Cuts source)
    fun _ _ _ hpiece hitem => hitem.cuts hpiece
  simp only [itemsSpan]
  split
  · rename_i first last hfirst hlast
    exact (hcuts first (List.mem_of_head? hfirst)).union (hcuts last (List.mem_of_getLast? hlast))
  · exact Span.cuts_empty hrun.cuts.stop_boundary

theorem SpellsKeyValue.value_cuts {entry : KeyValue} (hentry : SpellsKeyValue start run entry)
    (hrun : Occurs source start run) : entry.value.span.Cuts source := by
  obtain @⟨key, colon, _, gap, run, _, _, _, _, _, hvalue⟩ := hentry
  exact hvalue.cuts (hrun.piece (key :: (gap ++ [colon])) [] (by simp))

/-- The values that an annotation has. -/
def AnnotationBody.values : AnnotationBody → List ValueList
  | .empty => []
  | .inline value => [value]
  | .block entries => entries.map KeyValue.value

/-- The spans of the annotation cut the source. -/
structure Annotation.StandsIn (source : List Char) (note : Annotation) : Prop where
  span : note.span.Cuts source
  name : note.name.span.Cuts source
  values : ∀ value ∈ note.body.values, value.span.Cuts source

theorem SpellsAnnotation.standsIn {note : Annotation} (hnote : SpellsAnnotation start run note)
    (hrun : Occurs source start run) : note.StandsIn source := by
  cases hnote with
  | @empty sign name =>
      have hname := (hrun.piece [sign] [] rfl : Occurs source _ [name]).cuts
      exact ⟨hrun.cuts, hname, by simp [AnnotationBody.values]⟩
  | @inline sign name _ run value _ _ _ hvalue =>
      have hsign := (hrun.front (name :: run) rfl : Occurs source start [sign]).cuts
      have hname := (hrun.piece [sign] run rfl : Occurs source _ [name]).cuts
      have hcuts := hvalue.cuts (hrun.piece [sign, name] [] (by simp))
      refine ⟨hsign.union ?_, hname, List.forall_mem_singleton.mpr hcuts⟩
      split
      · exact hname
      · exact hcuts
  | @block sign name opener _ gap run entries _ _ _ _ hentries =>
      have hname := (hrun.piece [sign] (gap ++ opener :: run) rfl : Occurs source _ [name]).cuts
      refine ⟨hrun.cuts, hname, List.forall_mem_map.mpr ?_⟩
      exact hentries.forall_occurs (hrun.piece (sign :: name :: (gap ++ [opener])) [] (by simp))
        (fun entry => entry.value.span.Cuts source) fun _ _ _ hpiece hentry =>
          hentry.value_cuts hpiece

theorem SpellsAnnotations.standIn {notes : List Annotation}
    (hnotes : SpellsAnnotations start run notes) (hrun : Occurs source start run) :
    ∀ note ∈ notes, note.StandsIn source :=
  hnotes.forall_occurs hrun _ fun _ _ _ hpiece hnote => hnote.standsIn hpiece

/-- The name of a handler stands in the source, without its quotes. -/
theorem handlerName?_names {notes : List Annotation} {name : Spanned String}
    (hnotes : SpellsAnnotations start run notes) (hrun : Occurs source start run)
    (hname : handlerName? notes = some name) : name.Names source := by
  obtain ⟨note, hnote, value, item, hbody, hmem, hfull, rfl⟩ := exists_item_of_handlerName? hname
  refine hnotes.forall_occurs hrun
    (fun note => ∀ value, note.body = .inline value → ∀ item ∈ value.items, item.val.text ≠ "" →
      Spanned.Names source ⟨item.val.text, match item.val with
        | .quoted _ => ⟨item.span.start + 1, item.span.stop - 1⟩
        | .bare _ => item.span⟩) ?_ note hnote value hbody item hmem hfull
  intro start piece note hpiece hnote value hbody
  cases hnote with
  | empty | block => cases hbody
  | @inline sign name _ run _ _ _ _ hvalue =>
      cases hbody
      obtain ⟨hitems⟩ := hvalue
      exact hitems.forall_occurs (hpiece.piece [sign, name] [] (by simp)) _
        fun _ _ _ hpiece hitem => hitem.names_text hpiece

/-- What holds of all values that are set holds of all values of the map. -/
theorem OrderedMap.forall_mem_ofList {κ β : Type} [DecidableEq κ] {P : β → Prop}
    {pairs : List (κ × β)} (hpairs : ∀ pair ∈ pairs, P pair.2) :
    ∀ entry ∈ (OrderedMap.ofList pairs).entries, P entry.2 := by
  have hset : ∀ (key : κ) (b : β), P b → ∀ entries : List (κ × β), (∀ entry ∈ entries, P entry.2) →
      ∀ entry ∈ alterEntries key (fun _ => b) entries, P entry.2 := by
    intro key b hb entries hentries
    induction entries with
    | nil => simpa [alterEntries] using hb
    | cons first others ih =>
        obtain ⟨hfirst, hothers⟩ := List.forall_mem_cons.mp hentries
        rw [alterEntries]
        split
        · exact List.forall_mem_cons.mpr ⟨hb, hothers⟩
        · exact List.forall_mem_cons.mpr ⟨hfirst, ih hothers⟩
  rw [OrderedMap.ofList]
  refine List.foldlRecOn (motive := fun map : OrderedMap κ β => ∀ entry ∈ map.entries, P entry.2)
    pairs _ ?_ ?_
  · simp [OrderedMap.empty]
  · exact fun map hmap pair hpair => hset pair.1 pair.2 (hpairs pair hpair) map.entries hmap

theorem propertySpans_cuts {entries : List KeyValue}
    (hentries : ∀ entry ∈ entries, entry.value.span.Cuts source) :
    ∀ span ∈ propertySpans (canonicalEntries entries), span.Cuts source := by
  refine List.forall_mem_map.mpr ?_
  exact OrderedMap.forall_mem_ofList (P := fun value : Spanned Value => value.span.Cuts source)
    (List.forall_mem_map.mpr hentries)

theorem Annotation.StandsIn.facts {note : Annotation} (hnote : note.StandsIn source) :
    ∀ span ∈ (AnnotationFacts.ofTree note).spans, span.Cuts source := by
  obtain ⟨hspan, hname, hvalues⟩ := hnote
  obtain ⟨name, body, span⟩ := note
  refine List.forall_mem_cons.mpr ⟨?_, List.forall_mem_cons.mpr ⟨?_, ?_⟩⟩
  · cases body <;> exact hspan
  · cases body <;> exact hname
  · cases body with
    | empty => simp [AnnotationFacts.ofTree, propertySpans, OrderedMap.empty]
    | inline value =>
        simpa [AnnotationFacts.ofTree, propertySpans, OrderedMap.empty, AnnotationBody.values]
          using hvalues
    | block entries =>
        refine propertySpans_cuts fun entry hentry => ?_
        exact hvalues entry.value (List.mem_map_of_mem hentry)

/-- The facts about annotations in place have spans that cut the source. -/
theorem notes_cuts {notes : List Annotation} (hnotes : ∀ note ∈ notes, note.StandsIn source) :
    ∀ span ∈ (notes.map AnnotationFacts.ofTree).flatMap AnnotationFacts.spans,
      span.Cuts source := by
  intro span hspan
  obtain ⟨facts, hfacts, hspan⟩ := List.mem_flatMap.mp hspan
  obtain ⟨note, hnote, rfl⟩ := List.mem_map.mp hfacts
  exact (hnotes note hnote).facts span hspan

end Values

section Nodes

theorem useSubtrees_standIn {parent : NodeId} {role : ReferenceRole} {type : TypeExpr}
    (huses : ∀ name ∈ type.uses, name.Names source) :
    ∀ subtree ∈ useSubtrees parent role type, EachNode (Node.StandsIn source) subtree := by
  intro subtree hsubtree
  obtain ⟨name, hname, rfl⟩ := List.mem_map.mp hsubtree
  have hnames := huses name hname
  refine eachNode_leaf ⟨?_, hnames, nofun⟩
  simp [Node.spans, NodeKind.spans, hnames.cuts]

theorem SpellsSkipped.standsIn {input : Skipped} (hinput : SpellsSkipped start run input)
    (hrun : Occurs source start run) (parent : Option NodeId) :
    EachNode (Node.StandsIn source) (skippedSubtree parent input) := by
  have hcuts := hrun.cuts_reaching hinput.reaches
  obtain @⟨core, trail, _, _, _, htext, hspan, _⟩ := hinput
  refine eachNode_leaf ⟨List.forall_mem_singleton.mpr hcuts, ?_, nofun⟩
  have hslice := (hrun.front trail rfl).slice?_eq
  rw [← hspan] at hslice
  simpa [Node.Quotes, htext] using hslice

theorem SpellsMember.standsIn {line : Member} (hline : SpellsMember start run line)
    (hrun : Occurs source start run) (struct : NodeId) :
    EachNode (Node.StandsIn source) (memberSubtree struct line) := by
  have hcuts := hrun.cuts_reaching hline.reaches
  cases hline with
  | @pointer star run trail name _ hname _ =>
      have huses := (SpellsType.named hname).uses_names (hrun.piece [star] trail rfl)
      refine eachNode_withChildren (fun _ _ => ?_) fun _ => useSubtrees_standIn huses
      exact ⟨List.forall_mem_singleton.mpr hcuts, trivial, nofun⟩
  | @embedded run trail name hname _ =>
      have huses := (SpellsType.named hname).uses_names (hrun.front trail rfl)
      refine eachNode_withChildren (fun _ _ => ?_) fun _ => useSubtrees_standIn huses
      exact ⟨List.forall_mem_singleton.mpr hcuts, trivial, nofun⟩
  | @field run gap typeRun trail name type hname _ _ htype _ =>
      have hnames := hname.names (hrun.front (gap ++ (typeRun ++ trail)) rfl)
      have huses := htype.uses_names (hrun.piece (run ++ gap) trail (by simp))
      refine eachNode_withChildren (fun _ _ => ?_) fun _ => useSubtrees_standIn huses
      refine ⟨?_, ⟨hnames, by simp⟩, nofun⟩
      simpa [Node.spans, NodeKind.spans] using ⟨hcuts, hnames.cuts⟩
  | @tagged run gap typeRun space trail tag text name type hname _ _ htype _ htag _ =>
      have hnames := hname.names (hrun.front (gap ++ (typeRun ++ (space ++ tag :: trail))) rfl)
      have huses := htype.uses_names (hrun.piece (run ++ gap) (space ++ tag :: trail) (by simp))
      have hquoted := (hrun.piece (run ++ (gap ++ (typeRun ++ space))) trail
        (by simp)).quotedBy_rawString htag
      refine eachNode_withChildren (fun _ _ => ?_) fun _ => useSubtrees_standIn huses
      refine ⟨?_, ⟨hnames, ?_⟩, nofun⟩
      · exact List.forall_mem_cons.mpr ⟨hcuts, List.forall_mem_cons.mpr ⟨hnames.cuts,
          List.forall_mem_singleton.mpr hquoted.cuts⟩⟩
      · rintro _ ⟨⟩
        exact hquoted

/-- A word has no dot in it. -/
theorem StandsBefore.identifier_plain {lexeme : Lexeme} {rest : List Char}
    (hstands : StandsBefore lexeme rest) {text : String}
    (htoken : lexeme.token = .identifier text) : '.' ∉ text.toList := by
  cases hstands with
  | @word first others _ hfirst hothers _ =>
      have hdot : startsWord '.' = false ∧ continuesWord '.' = false := by decide +kernel
      have hwritten := Token.written?_ofWord (String.ofList (first :: others))
      dsimp only at htoken
      rw [htoken, String.toList_ofList] at hwritten
      rw [Option.some.inj hwritten, List.mem_cons, not_or]
      constructor
      · rintro rfl
        rw [hdot.1] at hfirst
        cases hfirst
      · intro hmem
        have hcontinues := hothers '.' hmem
        rw [hdot.2] at hcontinues
        cases hcontinues
  | newline | whitespace | lineComment | blockComment | openComment | string | openString
  | rawString | openRawString | number | punct | stray => cases htoken

theorem SpellsStruct.standsIn {struct : StructDef} (hstruct : SpellsStruct start run struct)
    (hrun : Occurs source start run) :
    EachNode (Node.StandsIn source) (structSubtree struct) := by
  have hcuts := hrun.cuts_reaching hstruct.reaches
  obtain @⟨name, text, gap, run, body, hname, _, hbody⟩ := hstruct
  have hhead : Occurs source start [name] := hrun.front (gap ++ run) rfl
  have hnames := hhead.names_identifier hname
  obtain ⟨_, hstands⟩ := hhead.lexed name List.mem_cons_self
  refine eachNode_withChildren (fun _ _ => ⟨?_, hnames, ?_⟩) fun id subtree hsubtree => ?_
  · simpa [Node.spans, NodeKind.spans] using ⟨hcuts, hnames.cuts⟩
  · rintro _ ⟨⟩
    exact hstands.identifier_plain hname
  · obtain ⟨line, hline, rfl⟩ := List.mem_map.mp hsubtree
    refine hbody.forall_occurs (hrun.piece (name :: gap) [] (by simp))
      (fun line => EachNode (Node.StandsIn source) (memberSubtree id line)) ?_ line hline
    rintro _ _ line hpiece (hline | ⟨input, rfl, hinput⟩)
    · exact hline.standsIn hpiece id
    · exact hinput.standsIn hpiece _

theorem SpellsRoute.standsIn {route : Route} (hroute : SpellsRoute start run route)
    (hrun : Occurs source start run) :
    (∀ note ∈ route.annotations, note.StandsIn source) ∧
      ∀ service, EachNode (Node.StandsIn source) (routeSubtree service route) := by
  have hcuts := hrun.cuts_reaching hroute.reaches
  obtain @⟨notesRun, gap, pathTail, signature, trail, method, slash, notes, name, _, _, hnotes, _,
    hmethod, _, _, _, _, hsignature, _⟩ := hroute
  have hnotesRun := hrun.front
    (method :: (gap ++ slash :: (pathTail ++ (signature ++ trail)))) rfl
  have hmethodName := (hrun.piece notesRun
    (gap ++ slash :: (pathTail ++ (signature ++ trail))) (by simp)).names_identifier hmethod
  have hpathName := (hrun.piece (notesRun ++ method :: gap) (signature ++ trail)
    (by simp)).names (List.cons_ne_nil slash pathTail)
  obtain ⟨hrequest, hresponse⟩ := hsignature.uses_names
    (hrun.piece (notesRun ++ method :: (gap ++ slash :: pathTail)) trail (by simp))
  have hstand := hnotes.standIn hnotesRun
  refine ⟨hstand, fun service => ?_⟩
  refine eachNode_withChildren (fun _ _ => ?_) fun id => ?_
  · refine ⟨?_, ⟨hmethodName, hpathName⟩, nofun⟩
    exact List.forall_mem_cons.mpr ⟨hcuts, List.forall_mem_cons.mpr ⟨hmethodName.cuts,
      List.forall_mem_cons.mpr ⟨hpathName.cuts, notes_cuts hstand⟩⟩⟩
  · refine forall_mem_routeChildren (fun name hname => ?_)
      (fun type htype => useSubtrees_standIn (hrequest type htype))
      fun type htype => useSubtrees_standIn (hresponse type htype)
    have hnames := handlerName?_names hnotes hnotesRun hname
    refine eachNode_leaf ⟨?_, hnames, nofun⟩
    simp [Node.spans, NodeKind.spans, hnames.cuts]

/-- A line of a service stands in the source, and so do its annotations. -/
theorem serviceEntry_standsIn {entry : ServiceEntry}
    (hentry : EntryAt SpellsServiceEntry ServiceEntry.skipped start run entry)
    (hrun : Occurs source start run) :
    (∀ route, entry = .route route → ∀ note ∈ route.annotations, note.StandsIn source) ∧
      ∀ service, EachNode (Node.StandsIn source) (serviceEntrySubtree service entry) := by
  rcases hentry with hentry | ⟨input, rfl, hinput⟩
  · obtain ⟨hroute⟩ := hentry
    obtain ⟨hnotes, hnodes⟩ := hroute.standsIn hrun
    refine ⟨?_, hnodes⟩
    rintro _ ⟨⟩
    exact hnotes
  · refine ⟨?_, fun service => hinput.standsIn hrun _⟩
    rintro _ ⟨⟩

theorem SpellsService.standsIn {service : Service} (hservice : SpellsService start run service)
    (hrun : Occurs source start run) :
    (∀ note ∈ service.annotations, note.StandsIn source) ∧
      (∀ route, .route route ∈ service.body.entries →
        ∀ note ∈ route.annotations, note.StandsIn source) ∧
      EachNode (Node.StandsIn source) (serviceSubtree service) := by
  have hcuts := hrun.cuts_reaching hservice.reaches
  obtain @⟨notesRun, gap, nameTail, space, run, word, first, notes, body, hnotes, _, _, _, _, _, _,
    hbody⟩ := hservice
  have hstand := hnotes.standIn
    (hrun.front (word :: (gap ++ first :: (nameTail ++ (space ++ run)))) rfl)
  have hnames := (hrun.piece (notesRun ++ word :: gap) (space ++ run) (by simp)).names
    (List.cons_ne_nil first nameTail)
  have hentries := hbody.forall_occurs
    (hrun.piece (notesRun ++ word :: (gap ++ first :: (nameTail ++ space))) [] (by simp)) _
    fun _ _ _ hpiece hentry => serviceEntry_standsIn hentry hpiece
  refine ⟨hstand, fun route hroute => (hentries _ hroute).1 route rfl, ?_⟩
  refine eachNode_withChildren (fun _ _ => ?_) fun id subtree hsubtree => ?_
  · refine ⟨?_, hnames, nofun⟩
    exact List.forall_mem_cons.mpr ⟨hcuts,
      List.forall_mem_cons.mpr ⟨hnames.cuts, notes_cuts hstand⟩⟩
  · obtain ⟨entry, hentry, rfl⟩ := List.mem_map.mp hsubtree
    exact (hentries entry hentry).2 id

theorem SpellsDeclaration.standsIn {found : Declaration}
    (hfound : SpellsDeclaration start run found) (hrun : Occurs source start run) :
    ∀ subtree ∈ found.subtrees, EachNode (Node.StandsIn source) subtree := by
  have hcuts := hrun.cuts_reaching hfound.reaches
  intro subtree hsubtree
  cases hfound with
  | @version word equals version gap space text _ _ _ _ hversion =>
      have hquoted := (hrun.piece (word :: (gap ++ equals :: space)) [] (by simp)).quotedBy_string
        hversion
      rw [List.mem_singleton.mp hsubtree]
      refine eachNode_leaf ⟨?_, hquoted, nofun⟩
      exact List.forall_mem_cons.mpr ⟨hcuts, List.forall_mem_singleton.mpr hquoted.cuts⟩
  | @info word opener gap run entries _ _ _ hentries =>
      have hvalues := hentries.forall_occurs (hrun.piece (word :: (gap ++ [opener])) [] (by simp))
        (fun entry => entry.value.span.Cuts source) fun _ _ _ hpiece hentry =>
          hentry.value_cuts hpiece
      rw [List.mem_singleton.mp hsubtree]
      refine eachNode_leaf ⟨?_, trivial, nofun⟩
      exact List.forall_mem_cons.mpr ⟨hcuts, propertySpans_cuts hvalues⟩
  | @importOne word path gap text _ _ hpath =>
      have hquoted := (hrun.piece (word :: gap) [] (by simp)).quotedBy_string hpath
      rw [List.mem_singleton.mp hsubtree]
      refine eachNode_leaf ⟨?_, hquoted, nofun⟩
      simpa [Node.spans, NodeKind.spans] using hquoted.cuts
  | @imports word opener gap run paths _ _ _ hpaths =>
      obtain ⟨path, hpath, rfl⟩ := List.mem_map.mp hsubtree
      have hquoted := hpaths.forall_occurs (hrun.piece (word :: (gap ++ [opener])) [] (by simp))
        (fun path => path.QuotedBy '"' source)
        (fun _ _ _ hpiece ⟨hstring⟩ => hpiece.quotedBy_string hstring) path hpath
      refine eachNode_leaf ⟨?_, hquoted, nofun⟩
      simpa [Node.spans, NodeKind.spans] using hquoted.cuts
  | @struct word gap run struct _ _ hstruct =>
      rw [List.mem_singleton.mp hsubtree]
      exact hstruct.standsIn (hrun.piece (word :: gap) [] (by simp))
  | @types word gap run block _ _ hblock =>
      obtain ⟨entry, hentry, rfl⟩ := List.mem_map.mp hsubtree
      refine hblock.forall_occurs (hrun.piece (word :: gap) [] (by simp))
        (fun entry => EachNode (Node.StandsIn source) (typeEntrySubtree entry)) ?_ entry hentry
      rintro _ _ _ hpiece (hentry | ⟨input, rfl, hinput⟩)
      · obtain ⟨hstruct⟩ := hentry
        exact hstruct.standsIn hpiece
      · exact hinput.standsIn hpiece _
  | service hservice =>
      rw [List.mem_singleton.mp hsubtree]
      exact (hservice.standsIn hrun).2.2

/-- The nodes of a parsed document stand in its source. -/
theorem parse_standsIn (source path : String) :
    ∀ node ∈ (Document.parse source path).nodes.toList, node.StandsIn source.toList := by
  have hall := SpellsEntries.forall_occurs (parseTokens_spells source.toList)
    (occurs_lexemes source.toList)
    (fun found => ∀ subtree ∈ found.subtrees, EachNode (Node.StandsIn source.toList) subtree) ?_
  · exact parse_eachNode hall path
  · rintro _ _ _ hpiece (hfound | ⟨input, rfl, hinput⟩)
    · exact hfound.standsIn hpiece
    · exact List.forall_mem_singleton.mpr (hinput.standsIn hpiece _)

end Nodes

end ApiLang
