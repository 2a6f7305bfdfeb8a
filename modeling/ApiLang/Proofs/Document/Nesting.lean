/-
Spans nest.  Whatever the source, a node of its document lies within its parent,
and the items of the document and the children of each node lie in order.  What
the grammar says about spans carries over to the nodes because numbering lays
subtrees side by side.
-/
import ApiLang.Proofs.Document.Building
import ApiLang.Proofs.Tree.ReadingFiles
import Mathlib.Data.List.Forall2

namespace ApiLang

/-- The nodes stand in a row from place `id` on. -/
def StandAt (lookup : NodeId → Option Node) (id : NodeId) (nodes : List Node) : Prop :=
  ∀ (i : Nat) (node : Node), nodes[i]? = some node → lookup (id + i) = some node

theorem StandAt.head {lookup : NodeId → Option Node} {id : NodeId} {node : Node}
    {nodes : List Node} (hstand : StandAt lookup id (node :: nodes)) : lookup id = some node :=
  hstand 0 node rfl

theorem StandAt.tail {lookup : NodeId → Option Node} {id : NodeId} {node : Node}
    {nodes : List Node} (hstand : StandAt lookup id (node :: nodes)) :
    StandAt lookup (id + 1) nodes := by
  intro i found hfound
  rw [Nat.add_assoc, Nat.add_comm 1]
  exact hstand (i + 1) found hfound

theorem StandAt.left {lookup : NodeId → Option Node} {id : NodeId} {left right : List Node}
    (hstand : StandAt lookup id (left ++ right)) : StandAt lookup id left := by
  intro i node hnode
  apply hstand i node
  rw [List.getElem?_append_left (List.getElem?_eq_some_iff.mp hnode).1]
  exact hnode

theorem StandAt.right {lookup : NodeId → Option Node} {id : NodeId} {left right : List Node}
    (hstand : StandAt lookup id (left ++ right)) :
    StandAt lookup (id + left.length) right := by
  intro i node hnode
  rw [Nat.add_assoc]
  apply hstand (left.length + i) node
  rw [List.getElem?_append_right (Nat.le_add_right _ _), Nat.add_sub_cancel_left]
  exact hnode

/-- The first of two nodes ends where the second starts, or before. -/
def Precedes (lookup : NodeId → Option Node) (first second : NodeId) : Prop :=
  ∃ left right, lookup first = some left ∧ lookup second = some right ∧
    left.span.stop ≤ right.span.start

/-- The node lies within its parent, and its children lie in order. -/
structure NodeNests (lookup : NodeId → Option Node) (node : Node) : Prop where
  within : ∀ id ∈ node.parent, ∃ parent, lookup id = some parent ∧
    parent.span.contains node.span = true
  ordered : node.children.IsChain (Precedes lookup)

/-- Wherever the subtree stands, its root has the given parent and span, and all
its nodes nest as long as its root does. -/
structure SubtreeFits (parent : Option NodeId) (subtree : Subtree) (span : Span) : Prop where
  root : ∀ id, ∃ root rest, subtree id = root :: rest ∧ root.span = span ∧ root.parent = parent
  nests : ∀ lookup id, StandAt lookup id (subtree id) →
    (∀ place ∈ parent, ∃ node, lookup place = some node ∧ node.span.contains span = true) →
    ∀ node ∈ subtree id, NodeNests lookup node

/-- The place holds a node with the span. -/
def HoldsSpan (lookup : NodeId → Option Node) (id : NodeId) (span : Span) : Prop :=
  ∃ node, lookup id = some node ∧ node.span = span

/-- Places that hold spans in order are in order. -/
theorem isChain_of_holdsSpan {lookup : NodeId → Option Node} {ids : List NodeId}
    {spans : List Span} (hholds : List.Forall₂ (HoldsSpan lookup) ids spans)
    (hordered : spans.Pairwise fun left right => left.stop ≤ right.start) :
    ids.IsChain (Precedes lookup) := by
  induction hholds with
  | nil => exact .nil
  | cons hfirst hrest ih =>
      obtain ⟨hbefore, hrestOrdered⟩ := List.pairwise_cons.mp hordered
      cases hrest with
      | nil => exact .singleton _
      | cons hsecond _ =>
          refine List.IsChain.cons_cons ?_ (ih hrestOrdered)
          obtain ⟨left, hleft, rfl⟩ := hfirst
          obtain ⟨right, hright, rfl⟩ := hsecond
          exact ⟨left, right, hleft, hright, hbefore _ (by simp)⟩

/-- Subtrees laid side by side: their roots hold their spans, and all their nodes
nest as long as the roots lie within their parent. -/
theorem layOut_fits {parent : Option NodeId} {lookup : NodeId → Option Node}
    {subtrees : List Subtree} {spans : List Span} {next : NodeId}
    (hsubtrees : List.Forall₂ (SubtreeFits parent) subtrees spans)
    (hstand : StandAt lookup next (layOut next subtrees).2)
    (hparent : ∀ place ∈ parent, ∃ node, lookup place = some node ∧
      ∀ span ∈ spans, node.span.contains span = true) :
    List.Forall₂ (HoldsSpan lookup) (layOut next subtrees).1 spans ∧
      ∀ node ∈ (layOut next subtrees).2, NodeNests lookup node := by
  induction hsubtrees generalizing next with
  | nil => exact ⟨.nil, by simp [layOut]⟩
  | @cons subtree span subtrees spans hfirst _ ih =>
      have hroots : (layOut next (subtree :: subtrees)).1 =
          next :: (layOut (next + (subtree next).length) subtrees).1 := rfl
      have hnodes : (layOut next (subtree :: subtrees)).2 =
          subtree next ++ (layOut (next + (subtree next).length) subtrees).2 := rfl
      rw [hnodes] at hstand
      rw [hroots, hnodes]
      obtain ⟨hothers, hothersNest⟩ := ih hstand.right (by
        intro place hplace
        obtain ⟨node, hnode, hcontains⟩ := hparent place hplace
        exact ⟨node, hnode, fun other hother => hcontains other (List.mem_cons_of_mem span hother)⟩)
      constructor
      · obtain ⟨root, rest, hroot, hspan, _⟩ := hfirst.root next
        refine .cons ⟨root, ?_, hspan⟩ hothers
        rw [hroot] at hstand
        exact hstand.left.head
      · intro node hnode
        rcases List.mem_append.mp hnode with hnode | hnode
        · apply hfirst.nests lookup next hstand.left
          · intro place hplace
            obtain ⟨owner, howner, hcontains⟩ := hparent place hplace
            exact ⟨owner, howner, hcontains span List.mem_cons_self⟩
          · exact hnode
        · exact hothersNest node hnode

theorem leaf_fits (span : Span) (parent : Option NodeId) (kind : NodeKind) :
    SubtreeFits parent (leaf span parent kind) span where
  root id := ⟨_, [], rfl, rfl, rfl⟩
  nests lookup id _ hparent node hnode := by
    rw [List.mem_singleton.mp hnode]
    exact ⟨hparent, .nil⟩

/-- A root whose children lie in order within it.  What the root says may depend on
its place. -/
theorem withChildren_fits {span : Span} {parent : Option NodeId} (kind : NodeId → NodeKind)
    {children : NodeId → List Subtree} {spans : List Span}
    (hchildren : ∀ id, List.Forall₂ (SubtreeFits (some id)) (children id) spans)
    (hspans : SpansIn span.start span.stop spans) :
    SubtreeFits parent (fun id => withChildren span parent (kind id) children id) span where
  root id := ⟨_, _, rfl, rfl, rfl⟩
  nests lookup id hstand hparent := by
    have hnodes : withChildren span parent (kind id) children id =
        [⟨span, parent, (layOut (id + 1) (children id)).1, kind id⟩] ++
          (layOut (id + 1) (children id)).2 := rfl
    rw [hnodes] at hstand ⊢
    have hroot := hstand.left.head
    have hcontains : ∀ place ∈ some id, ∃ node, lookup place = some node ∧
        ∀ other ∈ spans, node.span.contains other = true := by
      rintro place ⟨⟩
      refine ⟨_, hroot, ?_⟩
      intro other hother
      simpa [Span.contains] using hspans.within other hother
    obtain ⟨hholds, hnests⟩ := layOut_fits (hchildren id) hstand.right hcontains
    intro node hnode
    rcases List.mem_append.mp hnode with hnode | hnode
    · rw [List.mem_singleton.mp hnode]
      exact ⟨hparent, isChain_of_holdsSpan hholds hspans.ordered⟩
    · exact hnests node hnode

theorem useSubtrees_fits (parent : NodeId) (role : ReferenceRole) (type : TypeExpr) :
    List.Forall₂ (SubtreeFits (some parent)) (useSubtrees parent role type)
      (type.uses.map Spanned.span) := by
  rw [useSubtrees, List.forall₂_map_left_iff, List.forall₂_map_right_iff, List.forall₂_same]
  intro name _
  exact leaf_fits _ _ _

/-- The uses of declared types lie in order within the type. -/
theorem SpellsType.uses_spansIn {start : Nat} {run : List Lexeme} {type : TypeExpr}
    (htype : SpellsType start run type) :
    SpansIn start (start + widthOf run) (type.uses.map Spanned.span) := by
  induction htype with
  | @named start run name hname =>
      rw [TypeExpr.uses]
      split
      · exact .nil _ _
      · obtain ⟨_, _⟩ := hname
        exact .one (le_refl _) (le_refl _)
  | pointer _ _ ih | slice _ _ _ ih | array _ _ _ _ ih =>
      simp only [widthOf_cons, widthOf_nil] at ih ⊢
      exact ih.mono (by omega) (by omega)
  | @map start word opener close keyRun run key value _ _ _ _ _ ihKey ihValue =>
      rw [TypeExpr.uses, List.map_append]
      simp only [widthOf_cons, widthOf_append, widthOf_nil] at ihKey ihValue ⊢
      exact (ihKey.mono (by omega) (by omega)).append (ihValue.mono (le_refl _) (by omega))
        (by omega) (by omega)
  | interface _ _ _ _ => exact .nil _ _

/-- A line of a struct holds the types it uses. -/
theorem SpellsMember.fits {start : Nat} {run : List Lexeme} {line : Member}
    (hline : SpellsMember start run line) (struct : NodeId) :
    SubtreeFits (some struct) (memberSubtree struct line) line.span := by
  cases hline with
  | pointer _ hname _ =>
      have hspans := (SpellsType.named hname).uses_spansIn
      apply withChildren_fits _ (fun id => useSubtrees_fits id .embedded _)
      simp only [spanAt, widthOf_cons, widthOf_nil] at hspans ⊢
      exact hspans.mono (by omega) (by omega)
  | embedded hname _ =>
      exact withChildren_fits _ (fun id => useSubtrees_fits id .embedded _)
        (SpellsType.named hname).uses_spansIn
  | field _ _ _ htype _ | tagged _ _ _ htype _ _ _ =>
      have hspans := htype.uses_spansIn
      apply withChildren_fits _ (fun id => useSubtrees_fits id .field _)
      simp only [spanAt, widthOf_append, widthOf_cons] at hspans ⊢
      exact hspans.mono (by omega) (by omega)

theorem skippedSubtree_fits (parent : Option NodeId) (input : Skipped) :
    SubtreeFits parent (skippedSubtree parent input) input.span :=
  leaf_fits _ _ _

/-- A struct holds its lines. -/
theorem SpellsStruct.fits {start : Nat} {run : List Lexeme} {struct : StructDef}
    (hstruct : SpellsStruct start run struct) :
    SubtreeFits none (structSubtree struct) struct.span := by
  refine withChildren_fits _ ?_ hstruct.spansIn.2
  intro id
  rw [List.forall₂_map_left_iff, List.forall₂_map_right_iff, List.forall₂_same]
  obtain ⟨_, _, hbody⟩ := hstruct
  exact hbody.forall_mem (fun line => SubtreeFits (some id) (memberSubtree id line) line.span)
    (fun _ _ line _ hline => hline.fits id) (fun _ _ input _ _ => skippedSubtree_fits _ input)

/-- A handler that is found has the text of an item of its annotations. -/
theorem exists_item_of_handlerName? {notes : List Annotation} {name : Spanned String}
    (hname : handlerName? notes = some name) :
    ∃ note ∈ notes, ∃ value item, note.body = .inline value ∧ item ∈ value.items ∧
      item.val.text ≠ "" ∧ name = ⟨item.val.text, match item.val with
        | .quoted _ => ⟨item.span.start + 1, item.span.stop - 1⟩
        | .bare _ => item.span⟩ := by
  obtain ⟨item, hitem, hname⟩ := Option.bind_eq_some_iff.mp hname
  obtain ⟨note, hnote, hfound⟩ := List.exists_of_findSome?_eq_some hitem
  have hbody : ∃ value, note.body = .inline value ∧ item ∈ value.items := by
    split at hfound
    · split at hfound
      · rename_i value hbody
        exact ⟨value, hbody, List.mem_of_head? hfound⟩
      · cases hfound
    · cases hfound
  obtain ⟨value, hbody, hmem⟩ := hbody
  split at hname
  · cases hname
  · rename_i hfull
    cases hname
    exact ⟨note, hnote, value, item, hbody, hmem, by simpa using hfull, rfl⟩

/-- The name of a handler lies within the annotations it stands in. -/
theorem handlerName?_bounds {start : Nat} {run : List Lexeme} {notes : List Annotation}
    {name : Spanned String} (hnotes : SpellsAnnotations start run notes)
    (hname : handlerName? notes = some name) :
    start ≤ name.span.start ∧ name.span.stop ≤ start + widthOf run := by
  obtain ⟨note, hnote, value, item, hbody, hmem, _, rfl⟩ := exists_item_of_handlerName? hname
  obtain ⟨hstart, hstop⟩ := hnotes.item_bounds hnote hbody hmem
  dsimp only
  split
  · exact ⟨hstart.trans (Nat.le_succ _), (Nat.sub_le _ _).trans hstop⟩
  · exact ⟨hstart, hstop⟩

theorem SpellsParenthesized.uses_spansIn {start : Nat} {run : List Lexeme} {type : TypeExpr}
    (htype : SpellsParenthesized start run type) :
    SpansIn start (start + widthOf run) (type.uses.map Spanned.span) := by
  obtain ⟨_, _, htype, _, _⟩ := htype
  have hspans := htype.uses_spansIn
  simp only [widthOf_cons, widthOf_append, widthOf_nil] at hspans ⊢
  exact hspans.mono (by omega) (by omega)

/-- The types of a request and a response, in order. -/
theorem SpellsSignature.uses_spansIn {start : Nat} {run : List Lexeme}
    {request response : Option TypeExpr} (hsignature : SpellsSignature start run request response) :
    SpansIn start (start + widthOf run)
      (request.toList.flatMap (fun type => type.uses.map Spanned.span) ++
        response.toList.flatMap (fun type => type.uses.map Spanned.span)) := by
  cases hsignature with
  | none => exact .nil _ _
  | request _ htype | response _ _ _ htype =>
      have hspans := htype.uses_spansIn
      simp only [widthOf_cons, widthOf_append] at hspans ⊢
      simpa using hspans.mono (by omega) (by omega)
  | both _ hrequest _ _ _ hresponse =>
      have hfirst := hrequest.uses_spansIn
      have hsecond := hresponse.uses_spansIn
      simp only [widthOf_cons, widthOf_append] at hfirst hsecond ⊢
      simpa using (hfirst.mono (by omega) (by omega)).append
        (hsecond.mono (le_refl _) (by omega)) (by omega) (by omega)

/-- The spans of what a route holds: its handler and the types it uses. -/
def Route.childSpans (route : Route) : List Span :=
  (handlerName? route.annotations).toList.map Spanned.span ++
    (route.request.toList.flatMap (fun type => type.uses.map Spanned.span) ++
      route.response.toList.flatMap (fun type => type.uses.map Spanned.span))

theorem SpellsRoute.childSpans_spansIn {start : Nat} {run : List Lexeme} {route : Route}
    (hroute : SpellsRoute start run route) :
    SpansIn route.span.start route.span.stop route.childSpans := by
  obtain @⟨notesRun, _, _, _, _, _, _, notes, _, _, _, hnotes, _, _, _, _, _, _, hsignature, _⟩ :=
    hroute
  have htypes := hsignature.uses_spansIn
  have hhandler : SpansIn start (start + widthOf notesRun)
      ((handlerName? notes).toList.map Spanned.span) := by
    cases hfound : handlerName? notes with
    | none => exact .nil _ _
    | some handler =>
        obtain ⟨hstart, hstop⟩ := handlerName?_bounds hnotes hfound
        exact .one hstart hstop
  simp only [spanAt, widthOf_append, widthOf_cons] at htypes ⊢
  exact hhandler.append (htypes.mono (by omega) (by omega)) (by omega) (by omega)

/-- A route holds its handler and the types it uses. -/
theorem SpellsRoute.fits {start : Nat} {run : List Lexeme} {route : Route}
    (hroute : SpellsRoute start run route) (service : NodeId) :
    SubtreeFits (some service) (routeSubtree service route) route.span := by
  refine withChildren_fits _ ?_ hroute.childSpans_spansIn
  intro id
  have htypes : ∀ (role : ReferenceRole) (type : Option TypeExpr),
      List.Forall₂ (SubtreeFits (some id)) (type.toList.flatMap (useSubtrees id role))
        (type.toList.flatMap fun type => type.uses.map Spanned.span) := by
    intro role type
    cases type with
    | none => exact .nil
    | some type => simpa using useSubtrees_fits id role type
  have hhandler : List.Forall₂ (SubtreeFits (some id))
      ((handlerName? route.annotations).toList.map fun name =>
        leaf name.span (some id) (.handler name))
      ((handlerName? route.annotations).toList.map Spanned.span) := by
    rw [List.forall₂_map_left_iff, List.forall₂_map_right_iff, List.forall₂_same]
    intro name _
    exact leaf_fits _ _ _
  rw [Route.childSpans, ← List.append_assoc]
  exact List.rel_append (List.rel_append hhandler (htypes .request _)) (htypes .response _)

/-- A service holds its routes. -/
theorem SpellsService.fits {start : Nat} {run : List Lexeme} {service : Service}
    (hservice : SpellsService start run service) :
    SubtreeFits none (serviceSubtree service) service.span := by
  refine withChildren_fits _ ?_ hservice.spansIn.2
  intro id
  rw [List.forall₂_map_left_iff, List.forall₂_map_right_iff, List.forall₂_same]
  obtain ⟨_, _, _, _, _, _, _, hbody⟩ := hservice
  refine hbody.forall_mem
    (fun entry => SubtreeFits (some id) (serviceEntrySubtree id entry) entry.span) ?_
    (fun _ _ input _ _ => skippedSubtree_fits _ input)
  rintro _ _ _ _ ⟨hroute⟩
  exact hroute.fits id

/-- The subtrees of a declaration stand for its items. -/
theorem SpellsDeclaration.fits {start : Nat} {run : List Lexeme} {found : Declaration}
    (hfound : SpellsDeclaration start run found) :
    List.Forall₂ (SubtreeFits none) found.subtrees found.itemSpans := by
  cases hfound with
  | version _ _ _ _ _ | info _ _ _ _ => exact .cons (leaf_fits _ _ _) .nil
  | importOne _ _ _ | imports _ _ _ _ =>
      rw [Declaration.subtrees, Declaration.itemSpans, List.forall₂_map_left_iff,
        List.forall₂_map_right_iff, List.forall₂_same]
      intro path _
      exact leaf_fits _ _ _
  | struct _ _ hstruct => exact .cons hstruct.fits .nil
  | types _ _ hblock =>
      rw [Declaration.subtrees, Declaration.itemSpans, List.forall₂_map_left_iff,
        List.forall₂_map_right_iff, List.forall₂_same]
      refine hblock.forall_mem (fun entry => SubtreeFits none (typeEntrySubtree entry) entry.span)
        ?_ (fun _ _ input _ _ => skippedSubtree_fits _ input)
      rintro _ _ _ _ ⟨hstruct⟩
      exact hstruct.fits
  | service hservice => exact .cons hservice.fits .nil

theorem SpellsFile.fits {run : List Lexeme} {file : SourceFile} (hfile : SpellsFile run file) :
    List.Forall₂ (SubtreeFits none) (file.declarations.flatMap Declaration.subtrees)
      (file.declarations.flatMap Declaration.itemSpans) := by
  have hall := SpellsEntries.forall_mem hfile
    (fun found => List.Forall₂ (SubtreeFits none) found.subtrees found.itemSpans)
    (fun _ _ found _ hfound => hfound.fits)
    (fun _ _ input _ _ => .cons (skippedSubtree_fits _ input) .nil)
  obtain ⟨declarations, _⟩ := file
  clear hfile
  induction declarations with
  | nil => exact .nil
  | cons found others ih =>
      obtain ⟨hfirst, hothers⟩ := List.forall_mem_cons.mp hall
      exact List.rel_append hfirst (ih hothers)

/-- A document whose spans nest: a node with a parent lies within it, and the
children of each node and the items of the document lie in order. -/
structure Document.Nested (document : Document) : Prop where
  within : ∀ id node owner, document.get? id = some node → node.parent = some owner →
    ∃ parent, document.get? owner = some parent ∧ parent.span.contains node.span = true
  children : ∀ id node, document.get? id = some node →
    node.children.IsChain (Precedes document.get?)
  items : document.items.IsChain (Precedes document.get?)

/-- The document of every source nests, however broken the source is. -/
theorem parse_nested (source path : String) : (Document.parse source path).Nested := by
  have hfile := parseTokens_spells source.toList
  have hlookup : ∀ id, (Document.parse source path).get? id = (layOut 0 ((parseTokens source.toList
      (tokenize source.toList)).declarations.flatMap Declaration.subtrees)).2[id]? := by
    intro id
    rw [parse_get?]
    rfl
  have hstand : StandAt (Document.parse source path).get? 0 (layOut 0 ((parseTokens source.toList
      (tokenize source.toList)).declarations.flatMap Declaration.subtrees)).2 := by
    intro i node hnode
    rw [hlookup, Nat.zero_add]
    exact hnode
  obtain ⟨hholds, hnests⟩ := layOut_fits hfile.fits hstand (by simp)
  have hnode : ∀ id node, (Document.parse source path).get? id = some node →
      NodeNests (Document.parse source path).get? node := by
    intro id node hget
    rw [hlookup] at hget
    exact hnests node (List.mem_of_getElem? hget)
  constructor
  · intro id node owner hget hparent
    exact (hnode id node hget).within owner hparent
  · intro id node hget
    exact (hnode id node hget).ordered
  · rw [parse_items]
    exact isChain_of_holdsSpan hholds hfile.spansIn.ordered

end ApiLang
