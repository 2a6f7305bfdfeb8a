/-
Where names stand.  The name of each node of a parsed document lies within the node
and covers at least one byte; so no node is empty, and nodes that do not overlap have
different name spans.
-/
import ApiLang.Proofs.Document.Names
import ApiLang.Proofs.Document.Nesting
import ApiLang.Proofs.Document.Warnings
import ApiLang.Proofs.Tree.Coverage

namespace ApiLang

/-- The name of the node lies within the node, and is not empty.  A route has its
method before its path. -/
structure Node.NameInside (node : Node) : Prop where
  start_le : node.span.start ≤ node.nameSpan.start
  proper : node.nameSpan.start < node.nameSpan.stop
  stop_le : node.nameSpan.stop ≤ node.span.stop
  route : ∀ facts, node.kind = .route facts →
    node.nameSpan = ⟨facts.method.span.start, facts.path.span.stop⟩

theorem Node.NameInside.start_lt_stop {node : Node} (hinside : node.NameInside) :
    node.span.start < node.span.stop :=
  Nat.lt_of_le_of_lt hinside.start_le (Nat.lt_of_lt_of_le hinside.proper hinside.stop_le)

/-- A leaf that is its own name. -/
theorem nameInside_leaf {span : Span} {parent : Option NodeId} {kind : NodeKind}
    (hkind : ∀ facts, kind ≠ .route facts)
    (hname : Node.nameSpan ⟨span, parent, [], kind⟩ = span) (hproper : span.start < span.stop) :
    EachNode Node.NameInside (leaf span parent kind) := by
  apply eachNode_leaf
  constructor
  case route => exact fun facts hroute => absurd hroute (hkind facts)
  all_goals
    rw [hname]
  · exact hproper

theorem spanAt_proper {run : List Lexeme} (hrun : Lexed run) (hne : run ≠ []) (start : Nat) :
    (spanAt start run).start < (spanAt start run).stop :=
  Nat.lt_add_of_pos_right (hrun.widthOf_pos hne)

theorem SpellsName.proper {start : Nat} {run : List Lexeme} {name : Spanned String}
    (hname : SpellsName start run name) (hrun : Lexed run) : name.span.start < name.span.stop := by
  obtain ⟨_, _⟩ := hname
  exact spanAt_proper hrun (List.cons_ne_nil _ _) start

theorem SpellsType.uses_proper {start : Nat} {run : List Lexeme} {type : TypeExpr}
    (htype : SpellsType start run type) (hrun : Lexed run) :
    ∀ name ∈ type.uses, name.span.start < name.span.stop := by
  induction htype with
  | named hname =>
      rw [TypeExpr.uses]
      split
      · simp
      · exact List.forall_mem_singleton.mpr (hname.proper hrun)
  | pointer _ _ ih | slice _ _ _ ih | array _ _ _ _ ih =>
      exact ih fun lexeme hlexeme => hrun lexeme (by simp [hlexeme])
  | map _ _ _ _ _ ihKey ihValue =>
      exact List.forall_mem_append.mpr ⟨ihKey fun lexeme hlexeme => hrun lexeme (by simp [hlexeme]),
        ihValue fun lexeme hlexeme => hrun lexeme (by simp [hlexeme])⟩
  | interface => simp [TypeExpr.uses]

theorem useSubtrees_nameInside {parent : NodeId} {role : ReferenceRole} {type : TypeExpr}
    (huses : ∀ name ∈ type.uses, name.span.start < name.span.stop) :
    ∀ subtree ∈ useSubtrees parent role type, EachNode Node.NameInside subtree := by
  intro subtree hsubtree
  obtain ⟨name, hname, rfl⟩ := List.mem_map.mp hsubtree
  exact nameInside_leaf nofun rfl (huses name hname)

theorem SpellsSkipped.nameInside {start : Nat} {run : List Lexeme} {input : Skipped}
    (hinput : SpellsSkipped start run input) (hrun : Lexed run) (parent : Option NodeId) :
    EachNode Node.NameInside (skippedSubtree parent input) :=
  nameInside_leaf nofun rfl (hinput.reaches.proper hrun)

theorem SpellsMember.nameInside {start : Nat} {run : List Lexeme} {line : Member}
    (hline : SpellsMember start run line) (hrun : Lexed run) (struct : NodeId) :
    EachNode Node.NameInside (memberSubtree struct line) := by
  have hproper := hline.reaches.proper hrun
  cases hline with
  | pointer _ hname _ | embedded hname _ =>
      have huses := (SpellsType.named hname).uses_proper (hrun.mono (by simp))
      exact eachNode_withChildren (fun _ _ => ⟨le_refl _, hproper, le_refl _, by simp⟩)
        fun _ => useSubtrees_nameInside huses
  | field hname _ _ htype _ | tagged hname _ _ htype _ _ _ =>
      have hnamed := hname.proper (hrun.mono (by simp))
      have huses := htype.uses_proper fun lexeme hlexeme => hrun lexeme (by simp [hlexeme])
      obtain ⟨_, _⟩ := hname
      refine eachNode_withChildren (fun _ _ => ⟨le_refl _, hnamed, ?_, by simp⟩)
        fun _ => useSubtrees_nameInside huses
      simp only [Node.nameSpan, NodeKind.name?, nameAt, spanAt, widthOf_append]
      omega

theorem SpellsStruct.nameInside {start : Nat} {run : List Lexeme} {struct : StructDef}
    (hstruct : SpellsStruct start run struct) (hrun : Lexed run) :
    EachNode Node.NameInside (structSubtree struct) := by
  obtain @⟨name, text, gap, run, body, hname, _, hbody⟩ := hstruct
  have hproper := spanAt_proper (hrun.mono (List.cons_subset_cons name (List.nil_subset _)))
    (List.cons_ne_nil name []) start
  have hbodyRun : Lexed run := hrun.mono (by simp)
  refine eachNode_withChildren
    (fun _ _ => ⟨Nat.min_le_left _ _, hproper, Nat.le_max_left _ _, nofun⟩) ?_
  intro id subtree hsubtree
  obtain ⟨line, hline, rfl⟩ := List.mem_map.mp hsubtree
  exact hbody.forall_mem (fun line => EachNode Node.NameInside (memberSubtree id line))
    (fun _ _ line hpiece hspells => hspells.nameInside (hbodyRun.mono hpiece) id)
    (fun _ _ input hpiece hinput => hinput.nameInside (hbodyRun.mono hpiece) _) line hline

theorem SpellsItems.exists_piece {start : Nat} {run : List Lexeme}
    {items : List (Spanned ValueItem)} (hitems : SpellsItems start run items) :
    ∀ item ∈ items, ∃ place piece, SpellsItem place piece item ∧ piece ⊆ run := by
  induction hitems with
  | nil => simp
  | @last start gap run trail item _ hitem _ =>
      exact List.forall_mem_singleton.mpr ⟨_, run, hitem, by simp⟩
  | @more start gap run trail others comma item items _ hitem _ _ _ ih =>
      refine List.forall_mem_cons.mpr ⟨⟨_, run, hitem, by simp⟩, fun other hother => ?_⟩
      obtain ⟨place, piece, hpiece, hsubset⟩ := ih other hother
      exact ⟨place, piece, hpiece, fun lexeme hlexeme => by simp [hsubset hlexeme]⟩

/-- The text of an item stands within it, in the quotes of a quoted one. -/
theorem SpellsItem.text_proper {start : Nat} {run : List Lexeme} {item : Spanned ValueItem}
    (hitem : SpellsItem start run item) (hrun : Lexed run) (hfull : item.val.text ≠ "") :
    match item.val with
    | .quoted _ => item.span.start + 1 < item.span.stop - 1
    | .bare _ => item.span.start < item.span.stop := by
  cases hitem with
  | @quoted lexeme text htoken =>
      obtain ⟨_, hstands⟩ := hrun lexeme List.mem_cons_self
      have hwritten := hstands.writtenAs
      rw [htoken] at hwritten
      rcases hwritten with hsame | ⟨hblank, _⟩
      · have htext : lexeme.text = '"' :: text.toList ++ ['"'] := (Option.some.inj hsame).symm
        have hne : text.toList ≠ [] := by simpa [ValueItem.text] using hfull
        have hpos := byteWidth_pos hne
        have hquote : '"'.utf8Size = 1 := rfl
        simp only [spanAt, widthOf_cons, widthOf_nil, htext, byteWidth_cons, byteWidth_append,
          byteWidth_nil, List.cons_append, hquote]
        omega
      · cases hblank
  | @bare core trail hsolid _ _ _ =>
      exact spanAt_proper (hrun.mono (by simp)) hsolid.ne_nil start

theorem handlerName?_proper {start : Nat} {run : List Lexeme} {notes : List Annotation}
    {name : Spanned String} (hnotes : SpellsAnnotations start run notes) (hrun : Lexed run)
    (hname : handlerName? notes = some name) : name.span.start < name.span.stop := by
  obtain ⟨note, hnote, value, item, hbody, hmem, hfull, rfl⟩ := exists_item_of_handlerName? hname
  obtain ⟨place, piece, hpiece, hsubset, _⟩ := hnotes.exists_piece note hnote
  cases hpiece with
  | empty | block => cases hbody
  | inline _ _ _ hvalue =>
      cases hbody
      obtain ⟨hitems⟩ := hvalue
      obtain ⟨_, _, hitem, hinner⟩ := hitems.exists_piece item hmem
      have hproper := hitem.text_proper
        (fun lexeme hlexeme => hrun lexeme (hsubset (by simp [hinner hlexeme]))) hfull
      dsimp only
      split at hproper <;> simp_all

theorem SpellsParenthesized.uses_proper {start : Nat} {run : List Lexeme} {type : TypeExpr}
    (htype : SpellsParenthesized start run type) (hrun : Lexed run) :
    ∀ name ∈ type.uses, name.span.start < name.span.stop := by
  obtain ⟨_, _, htype, _, _⟩ := htype
  exact htype.uses_proper fun lexeme hlexeme => hrun lexeme (by simp [hlexeme])

/-- The uses in a request and a response are not empty. -/
theorem SpellsSignature.uses_proper {start : Nat} {run : List Lexeme}
    {request response : Option TypeExpr} (hsignature : SpellsSignature start run request response)
    (hrun : Lexed run) :
    (∀ type ∈ request, ∀ name ∈ type.uses, name.span.start < name.span.stop) ∧
      ∀ type ∈ response, ∀ name ∈ type.uses, name.span.start < name.span.stop := by
  cases hsignature with
  | none => simp
  | request _ htype =>
      have huses := htype.uses_proper fun lexeme hlexeme => hrun lexeme (by simp [hlexeme])
      simpa using huses
  | response _ _ _ htype =>
      have huses := htype.uses_proper fun lexeme hlexeme => hrun lexeme (by simp [hlexeme])
      simpa using huses
  | both _ hrequest _ _ _ hresponse =>
      have hfirst := hrequest.uses_proper fun lexeme hlexeme => hrun lexeme (by simp [hlexeme])
      have hsecond := hresponse.uses_proper fun lexeme hlexeme => hrun lexeme (by simp [hlexeme])
      simpa using ⟨hfirst, hsecond⟩

theorem SpellsRoute.nameInside {start : Nat} {run : List Lexeme} {route : Route}
    (hroute : SpellsRoute start run route) (hrun : Lexed run) (service : NodeId) :
    EachNode Node.NameInside (routeSubtree service route) := by
  obtain @⟨notesRun, gap, pathTail, signature, trail, method, slash, notes, _, _, _, hnotes, _, _,
    _, _, _, _, hsignature, _⟩ := hroute
  have hmethod := (hrun.mono (by simp) : Lexed [method]).widthOf_pos (List.cons_ne_nil method [])
  obtain ⟨hrequest, hresponse⟩ := hsignature.uses_proper
    fun lexeme hlexeme => hrun lexeme (by simp [hlexeme])
  refine eachNode_withChildren (fun _ _ => ?_) fun id => ?_
  · constructor
    case route =>
      rintro _ ⟨⟩
      simp only [Node.nameSpan, RouteFacts.headSpan, routeFactsAt, Span.union, nameAt, spanAt,
        widthOf_append, widthOf_cons, widthOf_nil, Span.mk.injEq]
      omega
    all_goals
      simp only [Node.nameSpan, RouteFacts.headSpan, routeFactsAt, Span.union, nameAt, spanAt,
        widthOf_append, widthOf_cons, widthOf_nil] at hmethod ⊢
      omega
  · refine forall_mem_routeChildren (fun name hname => ?_)
      (fun type htype => useSubtrees_nameInside (hrequest type htype))
      fun type htype => useSubtrees_nameInside (hresponse type htype)
    exact nameInside_leaf (by simp) rfl (handlerName?_proper hnotes (hrun.mono (by simp)) hname)

theorem SpellsService.nameInside {start : Nat} {run : List Lexeme} {service : Service}
    (hservice : SpellsService start run service) (hrun : Lexed run) :
    EachNode Node.NameInside (serviceSubtree service) := by
  obtain @⟨notesRun, gap, nameTail, space, run, word, first, notes, body, hnotes, _, _, _, _, _, _,
    hbody⟩ := hservice
  have hbodyRun : Lexed run := fun lexeme hlexeme => hrun lexeme (by simp [hlexeme])
  refine eachNode_withChildren (fun _ _ => ?_) fun id subtree hsubtree => ?_
  · have hfirst := (hrun.mono (by simp) : Lexed [first]).widthOf_pos (List.cons_ne_nil first [])
    obtain ⟨hlast, _⟩ := hbody.spansIn ServiceEntry.span
      (fun _ _ _ hentry => hentry.between) (fun _ => rfl)
    simp only [Span.Between, widthOf_cons, widthOf_append, widthOf_nil] at hlast hfirst
    have hspan : spanFrom notes (spanAt (start + widthOf notesRun) [word])
        (body.last ServiceEntry.span) = ⟨start, (body.last ServiceEntry.span).stop⟩ :=
      spanFrom_eq hnotes (by omega) rfl
        (by simp only [widthOf_append, widthOf_cons, widthOf_nil]; omega)
    constructor
    case route => simp
    all_goals
      simp only [Node.nameSpan, NodeKind.name?, Service.span, hspan]
      simp only [nameAt, spanAt, widthOf_append, widthOf_cons]
      omega
  · obtain ⟨entry, hentry, rfl⟩ := List.mem_map.mp hsubtree
    refine hbody.forall_mem (fun entry => EachNode Node.NameInside (serviceEntrySubtree id entry))
      ?_ (fun _ _ input hpiece hinput => hinput.nameInside (hbodyRun.mono hpiece) _) entry hentry
    rintro _ _ _ hpiece ⟨hroute⟩
    exact hroute.nameInside (hbodyRun.mono hpiece) id

theorem SpellsDeclaration.nameInside {start : Nat} {run : List Lexeme} {found : Declaration}
    (hfound : SpellsDeclaration start run found) (hrun : Lexed run) :
    ∀ subtree ∈ found.subtrees, EachNode Node.NameInside subtree := by
  intro subtree hsubtree
  have hproper := hfound.reaches.proper hrun
  cases hfound with
  | version _ _ _ _ _ | info _ _ _ _ =>
      rw [List.mem_singleton.mp hsubtree]
      exact nameInside_leaf nofun rfl hproper
  | importOne _ _ _ =>
      rw [List.mem_singleton.mp hsubtree]
      exact nameInside_leaf nofun rfl (spanAt_proper (hrun.mono (by simp)) (List.cons_ne_nil _ _) _)
  | @imports word opener gap run paths _ _ _ hpaths =>
      obtain ⟨path, hpath, rfl⟩ := List.mem_map.mp hsubtree
      have hpathsRun : Lexed run := fun lexeme hlexeme => hrun lexeme (by simp [hlexeme])
      obtain ⟨place, piece, hpiece, hsubset, _⟩ := hpaths.exists_piece hpathsRun path hpath
      have hpieceRun := hpathsRun.mono hsubset
      obtain ⟨_⟩ := hpiece
      exact nameInside_leaf nofun rfl (spanAt_proper hpieceRun (List.cons_ne_nil _ _) place)
  | struct _ _ hstruct =>
      rw [List.mem_singleton.mp hsubtree]
      exact hstruct.nameInside (hrun.mono (by simp))
  | @types word gap run block _ _ hblock =>
      have hblockRun : Lexed run := hrun.mono (by simp)
      obtain ⟨entry, hentry, rfl⟩ := List.mem_map.mp hsubtree
      refine hblock.forall_mem (fun entry => EachNode Node.NameInside (typeEntrySubtree entry))
        ?_ (fun _ _ input hpiece hinput => hinput.nameInside (hblockRun.mono hpiece) _) entry hentry
      rintro _ _ _ hpiece ⟨hstruct⟩
      exact hstruct.nameInside (hblockRun.mono hpiece)
  | service hservice =>
      rw [List.mem_singleton.mp hsubtree]
      exact hservice.nameInside hrun

/-- The names of a parsed document stand in their nodes. -/
theorem parse_nameInside (source path : String) :
    ∀ node ∈ (Document.parse source path).nodes.toList, node.NameInside := by
  have hlexed : Lexed (lexemes source.toList) := fun _ => standsBefore_of_mem_lexemes
  have hall := SpellsEntries.forall_mem (parseTokens_spells source.toList)
    (fun found => ∀ subtree ∈ found.subtrees, EachNode Node.NameInside subtree)
    (fun _ _ found hpiece hfound => hfound.nameInside (hlexed.mono hpiece))
    (fun _ _ input hpiece hinput => List.forall_mem_singleton.mpr
      (hinput.nameInside (hlexed.mono hpiece) _))
  exact parse_eachNode hall path

end ApiLang
