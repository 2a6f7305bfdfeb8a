/-
Building a document node by node.  Each action adds nodes at the end of a draft, tells
their parent, fills in what an earlier node says and lists names in the index.  Main
statement: whatever the tree is, the finished draft is the tree laid out, and its index
lists what its nodes declare, although a route comes into the index behind its handler
and stands before it.
-/
import ApiLang.Proofs.Document.Grouping
import ApiLang.Proofs.Document.Numbering
import ApiLang.Proofs.Tree.Whole

namespace ApiLang

section Index

/-- The index with declarations listed in it one after the other. -/
def NameIndex.listAll (index : NameIndex) (declared : List (DeclKind × String × NodeId)) :
    NameIndex :=
  declared.foldl (fun listed (kind, name, id) =>
    if name.isEmpty then listed else listed.insert kind name id) index

theorem NameIndex.listAll_append (index : NameIndex)
    (first second : List (DeclKind × String × NodeId)) :
    index.listAll (first ++ second) = (index.listAll first).listAll second :=
  List.foldl_append

/-- The declarations of a kind are listed in the map of that kind. -/
theorem NameIndex.ofKind_listAll (index : NameIndex)
    (declared : List (DeclKind × String × NodeId)) (kind : DeclKind) :
    (index.listAll declared).ofKind kind =
      (namesOf kind declared).foldl (fun map pair => map.append pair.1 pair.2)
        (index.ofKind kind) := by
  induction declared generalizing index with
  | nil => rfl
  | cons first others ih =>
      obtain ⟨found, name, id⟩ := first
      rw [listAll, List.foldl_cons, ← listAll, ih]
      by_cases hempty : name.isEmpty
      · simp [namesOf, hempty]
      · by_cases hkind : found = kind
        · simp [namesOf, hempty, hkind]
        · simp [namesOf, hempty, hkind, ofKind_insert_of_ne _ (Ne.symm hkind)]

/-- Of the order in which declarations are listed, only the order within a kind
matters. -/
theorem NameIndex.listAll_congr (index : NameIndex)
    {first second : List (DeclKind × String × NodeId)}
    (hnames : ∀ kind, namesOf kind first = namesOf kind second) :
    index.listAll first = index.listAll second := by
  ext1 kind
  rw [ofKind_listAll, ofKind_listAll, hnames]

end Index

section Drafts

/-- What a draft gains: subtrees with their roots and nodes, declarations in the order
in which they are listed, and warnings. -/
structure Gain where
  roots : List NodeId
  nodes : List Node
  declared : List (DeclKind × String × NodeId)
  warnings : List Diagnostic

def Gain.append (first second : Gain) : Gain where
  roots := first.roots ++ second.roots
  nodes := first.nodes ++ second.nodes
  declared := first.declared ++ second.declared
  warnings := first.warnings ++ second.warnings

/-- The parent has the new roots as its last children. -/
def adopt (parent : Option NodeId) (roots : List NodeId) (nodes : List Node) : List Node :=
  match parent with
  | some parent => nodes.modify parent fun node => { node with children := node.children ++ roots }
  | none => nodes

/-- The draft after a gain below `parent`, or among the items. -/
def Draft.gain (draft : Draft) (parent : Option NodeId) (gain : Gain) : Draft where
  nodes := (adopt parent gain.roots draft.nodes.toList ++ gain.nodes).toArray
  items := if parent = none then draft.items ++ gain.roots else draft.items
  index := draft.index.listAll gain.declared
  warnings := draft.warnings ++ gain.warnings

/-- The parent stands among the nodes. -/
def Draft.Holds (draft : Draft) (parent : Option NodeId) : Prop :=
  ∀ id ∈ parent, id < draft.nodes.size

theorem modify_append_left {nodes : List Node} {id : Nat} (hid : id < nodes.length)
    (change : Node → Node) (others : List Node) :
    (nodes ++ others).modify id change = nodes.modify id change ++ others := by
  have hfirst : (nodes ++ others).take id = nodes.take id :=
    List.take_append_of_le_length (Nat.le_of_lt hid)
  have hrest : (nodes ++ others).drop id = nodes.drop id ++ others :=
    List.drop_append_of_le_length (Nat.le_of_lt hid)
  have hne : nodes.drop id ≠ [] := by simpa using hid
  obtain ⟨node, behind, hdrop⟩ := List.exists_cons_of_ne_nil hne
  simp [List.modify_eq_take_drop, hfirst, hrest, hdrop]

theorem modify_append_cons (nodes : List Node) (node : Node) (others : List Node)
    (change : Node → Node) :
    (nodes ++ node :: others).modify nodes.length change = nodes ++ change node :: others := by
  simp [List.modify_eq_take_drop]

theorem adopt_nil (parent : Option NodeId) (nodes : List Node) : adopt parent [] nodes = nodes := by
  cases parent with
  | none => rfl
  | some parent =>
      simp only [adopt, List.append_nil]
      exact List.modify_id _ _

@[simp] theorem length_adopt (parent : Option NodeId) (roots : List NodeId) (nodes : List Node) :
    (adopt parent roots nodes).length = nodes.length := by
  cases parent with
  | none => rfl
  | some parent => exact List.length_modify _ _ _

@[simp] theorem Draft.size_gain (draft : Draft) (parent : Option NodeId) (gain : Gain) :
    (draft.gain parent gain).nodes.size = draft.nodes.size + gain.nodes.length := by
  simp [Draft.gain]

/-- Two gains below one parent are one. -/
theorem Draft.gain_gain {draft : Draft} {parent : Option NodeId} (hparent : draft.Holds parent)
    (first second : Gain) :
    (draft.gain parent first).gain parent second = draft.gain parent (first.append second) := by
  have hnodes : adopt parent second.roots
        (adopt parent first.roots draft.nodes.toList ++ first.nodes) =
      adopt parent (first.roots ++ second.roots) draft.nodes.toList ++ first.nodes := by
    cases parent with
    | none => rfl
    | some id =>
        have hid : id < draft.nodes.toList.length := hparent id rfl
        simp only [adopt]
        rw [modify_append_left (by simpa using hid), List.modify_modify_eq]
        congr 2
        funext node
        simp
  simp only [Draft.gain, Gain.append, hnodes, NameIndex.listAll_append, List.append_assoc]
  split <;> simp

/-- What is gained below the last root becomes part of its subtree. -/
theorem Draft.gain_below {draft : Draft} {parent : Option NodeId} {root : Node}
    {declared : List (DeclKind × String × NodeId)} {warnings : List Diagnostic} (below : Gain) :
    (draft.gain parent ⟨[draft.nodes.size], [root], declared, warnings⟩).gain
        (some draft.nodes.size) below =
      draft.gain parent
        { roots := [draft.nodes.size]
          nodes := { root with children := root.children ++ below.roots } :: below.nodes
          declared := declared ++ below.declared
          warnings := warnings ++ below.warnings } := by
  have hlength : draft.nodes.size =
      (adopt parent [draft.nodes.size] draft.nodes.toList).length := by simp
  have hnodes := modify_append_cons (adopt parent [draft.nodes.size] draft.nodes.toList) root []
    fun node => { node with children := node.children ++ below.roots }
  rw [← hlength] at hnodes
  have hadopt (nodes : List Node) : adopt (some draft.nodes.size) below.roots nodes =
      nodes.modify draft.nodes.size fun node =>
        { node with children := node.children ++ below.roots } := rfl
  simp [Draft.gain, hadopt, hnodes, NameIndex.listAll_append]

/-- Of the order in which the gain is listed, only the order within a kind matters. -/
theorem Draft.gain_congr (draft : Draft) (parent : Option NodeId) (roots : List NodeId)
    (nodes : List Node) {first second : List (DeclKind × String × NodeId)}
    (hnames : ∀ kind, namesOf kind first = namesOf kind second) (warnings : List Diagnostic) :
    draft.gain parent ⟨roots, nodes, first, warnings⟩ =
      draft.gain parent ⟨roots, nodes, second, warnings⟩ := by
  rw [Draft.gain, draft.index.listAll_congr hnames]
  rfl

/-- A run of an action, with its answer and the draft behind it. -/
def Runs {α : Type} (action : Drafting α) (draft : Draft) (answer : α) (after : Draft) : Prop :=
  action.run draft = (answer, after)

theorem Runs.pure {α : Type} (answer : α) (draft : Draft) :
    Runs (pure answer) draft answer draft :=
  rfl

theorem Runs.bind {α β : Type} {first : Drafting α} {next : α → Drafting β}
    {draft middle after : Draft} {a : α} {b : β} (hfirst : Runs first draft a middle)
    (hnext : Runs (next a) middle b after) : Runs (first >>= next) draft b after := by
  have hrun : (first >>= next).run draft =
      (next (first.run draft).1).run (first.run draft).2 := rfl
  rw [Runs, hrun, hfirst]
  exact hnext

theorem Runs.modify {change : Draft → Draft} {draft after : Draft} (hchange : change draft = after) :
    Runs (modify change) draft () after :=
  congrArg (Prod.mk ()) hchange

theorem push_runs {draft : Draft} {parent : Option NodeId} (hparent : draft.Holds parent)
    (span : Span) (kind : NodeKind) :
    Runs (Drafting.push span parent kind) draft draft.nodes.size
      (draft.gain parent ⟨[draft.nodes.size], [⟨span, parent, [], kind⟩], [], []⟩) := by
  cases parent with
  | none =>
      have hnodes (node : Node) : draft.nodes.push node =
          (draft.nodes.toList ++ [node]).toArray := Array.toList_inj.mp Array.toList_push
      simp only [Runs, Drafting.push, StateT.run, Draft.gain, adopt, NameIndex.listAll, hnodes,
        List.foldl_nil, List.append_nil, ↓reduceIte]
  | some id =>
      have hid : id < draft.nodes.toList.length := hparent id rfl
      have hnodes (node : Node) :
          (draft.nodes.push node).modify id (Node.addChild draft.nodes.size) =
            (adopt (some id) [draft.nodes.size] draft.nodes.toList ++ [node]).toArray := by
        apply Array.toList_inj.mp
        rw [Array.toList_modify, Array.toList_push, modify_append_left hid]
        rfl
      simp [Runs, Drafting.push, StateT.run, Draft.gain, hnodes, NameIndex.listAll]

theorem register_runs (kind : DeclKind) (name : String) (id : NodeId) (draft : Draft)
    (parent : Option NodeId) (gain : Gain) :
    Runs (Drafting.register kind name id) (draft.gain parent gain) ()
      (draft.gain parent { gain with declared := gain.declared ++ [(kind, name, id)] }) := by
  apply Runs.modify
  by_cases hempty : name = ""
  · simp [Draft.gain, NameIndex.listAll, hempty]
  · simp [Draft.gain, NameIndex.listAll, hempty]

/-- The last root can be revised after its subtree is there. -/
theorem revise_runs (change : NodeKind → NodeKind) (draft : Draft) (parent : Option NodeId)
    (roots : List NodeId) (root : Node) (others : List Node)
    (declared : List (DeclKind × String × NodeId)) (warnings : List Diagnostic) :
    Runs (Drafting.revise draft.nodes.size change)
      (draft.gain parent ⟨roots, root :: others, declared, warnings⟩) ()
      (draft.gain parent ⟨roots, root.revise change :: others, declared, warnings⟩) := by
  have hlength : draft.nodes.size = (adopt parent roots draft.nodes.toList).length := by simp
  have hnodes := modify_append_cons (adopt parent roots draft.nodes.toList) root others
    (Node.revise change)
  rw [← hlength] at hnodes
  apply Runs.modify
  simp [Draft.gain, hnodes]

/-- From place `next` on, and below `parent`, the action answers `answer` and makes the
draft gain `gain`. -/
def Adds {α : Type} (next : NodeId) (parent : Option NodeId) (action : Drafting α) (answer : α)
    (gain : Gain) : Prop :=
  ∀ draft : Draft, draft.nodes.size = next → draft.Holds parent →
    Runs action draft answer (draft.gain parent gain)

theorem Draft.Holds.gain {draft : Draft} {parent : Option NodeId} (hparent : draft.Holds parent)
    (other : Option NodeId) (gain : Gain) : (draft.gain other gain).Holds parent := by
  intro id hid
  rw [Draft.size_gain]
  exact Nat.lt_add_right _ (hparent id hid)

variable {α β : Type} {next : NodeId} {parent : Option NodeId}

/-- Gains below one parent follow each other. -/
theorem Adds.bind {first : Drafting α} {action : α → Drafting β} {a : α} {b : β}
    {gain more : Gain} (hfirst : Adds next parent first a gain)
    (haction : Adds (next + gain.nodes.length) parent (action a) b more) :
    Adds next parent (first >>= action) b (gain.append more) := by
  intro draft hnext hparent
  have hmore := haction (draft.gain parent gain) (by rw [Draft.size_gain, hnext])
    (hparent.gain parent gain)
  rw [Draft.gain_gain hparent] at hmore
  exact (hfirst draft hnext hparent).bind hmore

theorem Adds.map {action : Drafting α} {a : α} {gain : Gain}
    (haction : Adds next parent action a gain) (f : α → β) :
    Adds next parent (do return f (← action)) (f a) gain := by
  intro draft hnext hparent
  exact (haction draft hnext hparent).bind (.pure _ _)

/-- Subtrees in a row are a gain, with all that their nodes declare. -/
def Gain.ofSubtrees (next : NodeId) (subtrees : List Subtree) (warnings : List Diagnostic) :
    Gain where
  roots := (layOut next subtrees).1
  nodes := (layOut next subtrees).2
  declared := declarationsFrom next (layOut next subtrees).2
  warnings := warnings

theorem Gain.append_ofSubtrees (next : NodeId) (first second : List Subtree)
    (warnings more : List Diagnostic) :
    (ofSubtrees next first warnings).append
        (ofSubtrees (next + (layOut next first).2.length) second more) =
      ofSubtrees next (first ++ second) (warnings ++ more) := by
  simp [append, ofSubtrees, layOut_append, declarationsFrom_append]

/-- Two actions in a row lay their subtrees side by side. -/
theorem Adds.append {first : Drafting α} {action : α → Drafting β} {a : α} {b : β}
    {subtrees more : List Subtree} {middle : NodeId}
    (hfirst : Adds next parent first a (.ofSubtrees next subtrees []))
    (hmiddle : next + (layOut next subtrees).2.length = middle)
    (haction : Adds middle parent (action a) b (.ofSubtrees middle more [])) :
    Adds next parent (first >>= action) b (.ofSubtrees next (subtrees ++ more) []) := by
  rw [← List.append_nil ([] : List Diagnostic), ← Gain.append_ofSubtrees, hmiddle]
  apply hfirst.bind
  rwa [Gain.ofSubtrees, hmiddle]

/-- Warnings can come first. -/
theorem Adds.warned {first : Drafting α} {action : α → Drafting β} {a : α} {b : β}
    {subtrees : List Subtree} {warnings others : List Diagnostic}
    (hfirst : Adds next parent first a (.ofSubtrees next [] warnings))
    (haction : Adds next parent (action a) b (.ofSubtrees next subtrees others)) :
    Adds next parent (first >>= action) b (.ofSubtrees next subtrees (warnings ++ others)) := by
  rw [← List.nil_append subtrees, ← Gain.append_ofSubtrees]
  exact hfirst.bind haction

/-- An action that does nothing. -/
theorem Adds.pure (answer : α) : Adds next parent (pure answer) answer (.ofSubtrees next [] []) := by
  intro draft _ _
  have hsame : draft.gain parent (.ofSubtrees next [] []) = draft := by
    simp [Draft.gain, Gain.ofSubtrees, layOut, declarationsFrom, adopt_nil, NameIndex.listAll]
  rw [hsame]
  exact .pure answer draft

theorem warn_adds (warnings : List Diagnostic) :
    Adds next parent (Drafting.warn warnings) () (.ofSubtrees next [] warnings) := by
  intro draft _ _
  apply Runs.modify
  simp [Draft.gain, Gain.ofSubtrees, layOut, declarationsFrom, adopt_nil, NameIndex.listAll]

/-- Actions in a row lay their subtrees side by side. -/
theorem Adds.forM {action : α → Drafting Unit} {subtrees : α → List Subtree}
    {warnings : α → List Diagnostic} (inputs : List α)
    (haction : ∀ input ∈ inputs, ∀ next,
      Adds next parent (action input) () (.ofSubtrees next (subtrees input) (warnings input)))
    (next : NodeId) :
    Adds next parent (inputs.forM action) ()
      (.ofSubtrees next (inputs.flatMap subtrees) (inputs.flatMap warnings)) := by
  induction inputs generalizing next with
  | nil => exact .pure ()
  | cons input others ih =>
      obtain ⟨hfirst, hothers⟩ := List.forall_mem_cons.mp haction
      rw [List.flatMap_cons, List.flatMap_cons, ← Gain.append_ofSubtrees]
      exact (hfirst next).bind (ih hothers _)

/-- The same for actions that add one subtree each and do not warn. -/
theorem Adds.forM_map {action : α → Drafting Unit} {subtree : α → Subtree}
    (haction : ∀ input next,
      Adds next parent (action input) () (.ofSubtrees next [subtree input] []))
    (inputs : List α) (next : NodeId) :
    Adds next parent (inputs.forM action) () (.ofSubtrees next (inputs.map subtree) []) := by
  have hadds := Adds.forM inputs (fun input _ => haction input) next
  rwa [← List.map_eq_flatMap, List.flatMap_eq_nil_iff.mpr fun _ _ => rfl] at hadds

/-- A leaf that declares nothing is a push. -/
theorem push_adds {kind : NodeKind} (hkind : kind.declaration? = none) (span : Span) :
    Adds next parent (Drafting.push span parent kind) next
      (.ofSubtrees next [leaf span parent kind] []) := by
  rintro draft rfl hparent
  have hgain : Gain.ofSubtrees draft.nodes.size [leaf span parent kind] [] =
      ⟨[draft.nodes.size], [⟨span, parent, [], kind⟩], [], []⟩ := by
    simp [Gain.ofSubtrees, layOut, leaf, declarationsFrom, hkind]
  rw [hgain]
  exact push_runs hparent span kind

/-- A leaf that declares a name is pushed and then listed. -/
theorem push_register_adds {kind : NodeKind} {found : DeclKind} {name : String}
    (hkind : kind.declaration? = some (found, name)) (span : Span) :
    Adds next parent (do
        let id ← Drafting.push span parent kind
        Drafting.register found name id
        return id) next
      (.ofSubtrees next [leaf span parent kind] []) := by
  rintro draft rfl hparent
  have hgain : Gain.ofSubtrees draft.nodes.size [leaf span parent kind] [] =
      ⟨[draft.nodes.size], [⟨span, parent, [], kind⟩], [(found, name, draft.nodes.size)], []⟩ := by
    simp [Gain.ofSubtrees, layOut, leaf, declarationsFrom, hkind]
  rw [hgain]
  exact (push_runs hparent span kind).bind ((register_runs found name _ draft parent _).bind
    (.pure _ _))

/-- An action below the last root adds to its subtree. -/
theorem Adds.below {draft : Draft} {action : Drafting α} {answer : α} {below : Gain}
    (hadds : Adds (draft.nodes.size + 1) (some draft.nodes.size) action answer below)
    (root : Node) (declared : List (DeclKind × String × NodeId)) :
    Runs action (draft.gain parent ⟨[draft.nodes.size], [root], declared, []⟩) answer
      (draft.gain parent
        { roots := [draft.nodes.size]
          nodes := { root with children := root.children ++ below.roots } :: below.nodes
          declared := declared ++ below.declared
          warnings := below.warnings }) := by
  have hruns := hadds (draft.gain parent ⟨[draft.nodes.size], [root], declared, []⟩)
    (Draft.size_gain ..) ?_
  · rwa [Draft.gain_below] at hruns
  · rintro _ ⟨⟩
    rw [Draft.size_gain]
    exact Nat.lt_add_one _

theorem Gain.ofSubtrees_withChildren (next : NodeId) (span : Span) (parent : Option NodeId)
    (kind : NodeId → NodeKind) (children : NodeId → List Subtree) (warnings : List Diagnostic) :
    ofSubtrees next [fun id => withChildren span parent (kind id) children id] warnings =
      { roots := [next]
        nodes := ⟨span, parent, (layOut (next + 1) (children next)).1, kind next⟩ ::
          (layOut (next + 1) (children next)).2
        declared := ((kind next).declaration?.map fun (found, name) => (found, name, next)).toList ++
          declarationsFrom (next + 1) (layOut (next + 1) (children next)).2
        warnings := warnings } := by
  simp [ofSubtrees, layOut, withChildren, declarationsFrom_cons]

end Drafts

section Building

variable {next : NodeId}

theorem addSkipped_adds (parent : Option NodeId) (input : Skipped) :
    Adds next parent (Drafting.addSkipped parent input) ()
      (.ofSubtrees next [skippedSubtree parent input] []) :=
  (push_adds rfl input.span).map fun _ => ()

theorem addUse_adds (parent : NodeId) (role : ReferenceRole) (name : Spanned String) :
    Adds next (some parent) (Drafting.addUse parent role name) (TypeExpr.shape next (.named name))
      (.ofSubtrees next (useSubtrees parent role (.named name)) []) := by
  unfold Drafting.addUse
  by_cases hbuiltin : isBuiltinType name.val
  · simpa [hbuiltin, TypeExpr.shape, useSubtrees, TypeExpr.uses] using Adds.pure _
  · simpa [hbuiltin, TypeExpr.shape, useSubtrees, TypeExpr.uses] using
      (push_adds rfl name.span).map TypeShape.reference

/-- The uses in a type are added from left to right, and its shape names their places. -/
theorem addType_adds (parent : NodeId) (role : ReferenceRole) (type : TypeExpr) (next : NodeId) :
    Adds next (some parent) (Drafting.addType parent role type) (type.shape next)
      (.ofSubtrees next (useSubtrees parent role type) []) := by
  induction type generalizing next with
  | named name => exact addUse_adds parent role name
  | pointer inner _ ih => exact (ih next).map TypeShape.pointer
  | slice size element _ ih => exact (ih next).map (TypeShape.slice (size.map Spanned.val))
  | map key value span ihkey ihvalue =>
      have hsplit : useSubtrees parent role (.map key value span) =
          useSubtrees parent role key ++ useSubtrees parent role value := by
        simp [useSubtrees, TypeExpr.uses]
      rw [hsplit]
      exact (ihkey next).append (by rw [length_layOut_useSubtrees])
        ((ihvalue _).map (TypeShape.map (key.shape next)))
  | interface _ => exact .pure _

theorem addMember_adds (struct : NodeId) (line : Member) (next : NodeId) :
    Adds next (some struct) (Drafting.addMember struct line) ()
      (.ofSubtrees next [memberSubtree struct line] []) := by
  rintro draft rfl hstruct
  cases line with
  | field field =>
      rw [memberSubtree, Gain.ofSubtrees_withChildren]
      exact (push_runs hstruct _ _).bind
        (((addType_adds draft.nodes.size .field field.type _).below _ _).bind
          (revise_runs _ draft _ _ _ _ _ _))
  | embedded embedded =>
      rw [memberSubtree, Gain.ofSubtrees_withChildren]
      exact (push_runs hstruct _ _).bind
        (((addUse_adds draft.nodes.size .embedded embedded.name).below _ _).bind
          (revise_runs _ draft _ _ _ _ _ _))
  | skipped input => exact addSkipped_adds (some struct) input draft rfl hstruct

theorem addStruct_adds (struct : StructDef) (next : NodeId) :
    Adds next none (Drafting.addStruct struct) () (.ofSubtrees next [structSubtree struct] []) := by
  rintro draft rfl hnone
  have hmembers := Adds.forM_map (addMember_adds draft.nodes.size) struct.body.entries
    (draft.nodes.size + 1)
  rw [structSubtree, Gain.ofSubtrees_withChildren]
  exact (push_runs hnone _ _).bind ((register_runs _ _ _ draft none _).bind
    (hmembers.below _ _))

theorem addAnnotations_adds (parent : Option NodeId) (notes : List Annotation) :
    Adds next parent (notes.mapM Drafting.addAnnotation) (notes.map AnnotationFacts.ofTree)
      (.ofSubtrees next [] (notes.flatMap annotationWarnings)) := by
  induction notes with
  | nil => exact .pure []
  | cons note others ih =>
      have hnote : Adds next parent (Drafting.addAnnotation note) (.ofTree note)
          (.ofSubtrees next [] (annotationWarnings note)) :=
        (warn_adds (annotationWarnings note)).map fun _ => AnnotationFacts.ofTree note
      rw [List.mapM_cons, List.flatMap_cons]
      exact hnote.warned (ih.map (AnnotationFacts.ofTree note :: ·))

theorem Adds.option {α β : Type} {parent : Option NodeId} {action : α → Drafting β}
    {answer : α → β} {subtrees : α → List Subtree}
    (haction : ∀ input, Adds next parent (action input) (answer input)
      (.ofSubtrees next (subtrees input) []))
    (input : Option α) :
    Adds next parent (input.mapM action) (input.map answer)
      (.ofSubtrees next (input.toList.flatMap subtrees) []) := by
  cases input with
  | none => exact .pure none
  | some input =>
      rw [Option.toList_some, List.flatMap_singleton]
      exact (haction input).map some

theorem addHandler_adds (route : NodeId) (name : Spanned String) (next : NodeId) :
    Adds next (some route) (Drafting.addHandler route name) next
      (.ofSubtrees next [leaf name.span (some route) (.handler name)] []) :=
  push_register_adds rfl name.span

/-- No route stands behind a route. -/
theorem routeChildren_declare (route : Route) (root : NodeId) :
    ∀ subtree ∈ routeChildren route root,
      EachNode (fun node => ∀ name, node.kind.declaration? ≠ some (.route, name)) subtree := by
  have huses (role : ReferenceRole) (type : TypeExpr) :
      ∀ subtree ∈ useSubtrees root role type,
        EachNode (fun node => ∀ name, node.kind.declaration? ≠ some (.route, name)) subtree := by
    intro subtree hsubtree
    obtain ⟨name, _, rfl⟩ := List.mem_map.mp hsubtree
    exact eachNode_leaf fun _ => nofun
  exact forall_mem_routeChildren (fun _ _ => eachNode_leaf fun _ => nofun)
    (fun type _ => huses .request type) fun type _ => huses .response type

theorem addRouteParts_adds (root : NodeId) (route : Route) (next : NodeId) :
    let handler := handlerName? route.annotations
    let request := next + (if handler.isSome then 1 else 0)
    let response := request + optionalUses route.request
    Adds next (some root) (Drafting.addRouteParts root route)
      (handler.map fun _ => next, route.request.map (TypeExpr.shape request),
        route.response.map (TypeExpr.shape response))
      (.ofSubtrees next (routeChildren route root) []) := by
  intro handler request response
  have hhandler := Adds.option (fun name => addHandler_adds root name next) handler
  have hrequest := Adds.option (fun type => addType_adds root .request type request) route.request
  have hresponse := Adds.option (fun type => addType_adds root .response type response)
    route.response
  rw [← List.map_eq_flatMap] at hhandler
  rw [routeChildren, List.append_assoc]
  apply hhandler.append (by rw [length_layOut_handler])
  apply hrequest.append (by rw [length_layOut_optionalUses])
  exact hresponse.map fun response =>
    (handler.map fun _ => next, route.request.map (TypeExpr.shape request), response)

theorem addRoute_adds (service : NodeId) (route : Route) (next : NodeId) :
    Adds next (some service) (Drafting.addRoute service route) ()
      (.ofSubtrees next [routeSubtree service route]
        (route.annotations.flatMap annotationWarnings)) := by
  rw [← List.append_nil (route.annotations.flatMap annotationWarnings)]
  apply (addAnnotations_adds (some service) route.annotations).warned
  rintro draft rfl hservice
  -- The route comes into the index behind its handler, though it stands before it.
  have hothers : ∀ entry ∈ declarationsFrom (draft.nodes.size + 1)
      (layOut (draft.nodes.size + 1) (routeChildren route draft.nodes.size)).2,
        entry.1 ≠ .route := by
    rintro ⟨kind, name, id⟩ hentry rfl
    obtain ⟨node, hnode, hdeclared⟩ := mem_declarationsFrom hentry
    exact layOut_eachNode (routeChildren_declare route draft.nodes.size) _ node hnode name hdeclared
  have hroute : routeSubtree service route = fun id =>
      withChildren route.span (some service) (.route (routeFactsAt id route))
        (routeChildren route) id := rfl
  rw [hroute, Gain.ofSubtrees_withChildren, NodeKind.declaration?, Option.map_some,
    Option.toList_some, List.singleton_append,
    draft.gain_congr _ _ _ fun kind => (namesOf_route_last hothers _ draft.nodes.size kind).symm]
  exact (push_runs hservice _ _).bind
    (((addRouteParts_adds draft.nodes.size route _).below _ _).bind
      ((revise_runs _ draft _ _ _ _ _ _).bind (register_runs _ _ _ draft _ _)))

theorem addServiceEntry_adds (service : NodeId) (entry : ServiceEntry) (next : NodeId) :
    Adds next (some service) (Drafting.addServiceEntry service entry) ()
      (.ofSubtrees next [serviceEntrySubtree service entry] entry.warnings) := by
  cases entry with
  | route route => exact addRoute_adds service route next
  | skipped input => exact addSkipped_adds (some service) input

theorem addService_adds (service : Service) (next : NodeId) :
    Adds next none (Drafting.addService service) ()
      (.ofSubtrees next [serviceSubtree service]
        (service.annotations.flatMap annotationWarnings ++
          service.body.entries.flatMap ServiceEntry.warnings)) := by
  apply (addAnnotations_adds none service.annotations).warned
  rintro draft rfl hnone
  have hentries := Adds.forM service.body.entries
    (fun entry _ => addServiceEntry_adds draft.nodes.size entry) (draft.nodes.size + 1)
  rw [← List.map_eq_flatMap] at hentries
  have hservice : serviceSubtree service = fun id =>
      withChildren service.span none
        (.service service.name (service.annotations.map .ofTree)
          (.ofAnnotations (service.annotations.map .ofTree)))
        (fun root => service.body.entries.map (serviceEntrySubtree root)) id := rfl
  rw [hservice, Gain.ofSubtrees_withChildren]
  exact (push_runs hnone _ _).bind (hentries.below _ _)

theorem addImport_adds (path : Spanned String) (next : NodeId) :
    Adds next none (Drafting.addImport path) ()
      (.ofSubtrees next [leaf path.span none (.importPath path)] []) := by
  rintro draft rfl hnone
  exact (push_runs hnone _ _).bind (register_runs _ _ _ draft none _)

theorem addTypeEntry_adds (entry : TypeEntry) (next : NodeId) :
    Adds next none (Drafting.addTypeEntry entry) ()
      (.ofSubtrees next [typeEntrySubtree entry] []) := by
  cases entry with
  | struct struct => exact addStruct_adds struct next
  | skipped input => exact addSkipped_adds none input

/-- A declaration adds its subtrees, and the names that their nodes declare. -/
theorem addDeclaration_adds (found : Declaration) (next : NodeId) :
    Adds next none (Drafting.addDeclaration found) ()
      (.ofSubtrees next found.subtrees found.warnings) := by
  cases found with
  | version text span => exact (push_adds rfl span).map fun _ => ()
  | info entries span =>
      rw [Declaration.warnings, ← List.append_nil (entryWarnings entries)]
      exact (warn_adds _).warned ((push_adds rfl span).map fun _ => ())
  | imports paths _ => exact .forM_map addImport_adds paths next
  | types _ body => exact .forM_map addTypeEntry_adds body.entries next
  | service service => exact addService_adds service next
  | skipped input => exact addSkipped_adds none input

end Building

/-- A document is its tree laid out: the subtrees of its declarations stand side by
side, and the index lists what their nodes declare. -/
theorem Document.ofTree_eq (path source : String) (earlier : List Diagnostic)
    (file : SourceFile) :
    let laid := layOut 0 (file.declarations.flatMap Declaration.subtrees)
    Document.ofTree path source earlier file =
      { path, source
        nodes := laid.2.toArray
        items := laid.1
        index := NameIndex.listAll {} (declarationsFrom 0 laid.2)
        diagnostics :=
          Diagnostic.sortByPlace (earlier ++ file.declarations.flatMap Declaration.warnings) } := by
  have hruns := Adds.forM file.declarations (fun found _ => addDeclaration_adds found) 0 {} rfl nofun
  simp only [Document.ofTree]
  rw [hruns]
  simp [Draft.gain, Gain.ofSubtrees, adopt]

section Parsed

/-- The places of the items of a file, and its nodes. -/
def fileNodes (source : List Char) : List NodeId × List Node :=
  layOut 0 ((treeOf source).declarations.flatMap Declaration.subtrees)

/-- Everything said about a file on its own, not yet in order. -/
def fileComplaints (source : List Char) : List Diagnostic :=
  tokenDiagnostics (tokenize source) ++ (treeOf source).diagnostics ++
    (treeOf source).declarations.flatMap Declaration.warnings

/-- A parsed document, read off the tree. -/
theorem parse_eq (source path : String) :
    Document.parse source path =
      { path, source
        nodes := (fileNodes source.toList).2.toArray
        items := (fileNodes source.toList).1
        index := NameIndex.listAll {} (declarationsFrom 0 (fileNodes source.toList).2)
        diagnostics := Diagnostic.sortByPlace (fileComplaints source.toList) } :=
  Document.ofTree_eq path source _ _

theorem parse_nodes (source path : String) :
    (Document.parse source path).nodes.toList = (fileNodes source.toList).2 := by
  rw [parse_eq]

/-- What holds of the nodes of each declaration holds of the nodes of the document. -/
theorem parse_eachNode {P : Node → Prop} {source : String}
    (hall : ∀ found ∈ (treeOf source.toList).declarations,
      ∀ subtree ∈ found.subtrees, EachNode P subtree) (path : String) :
    ∀ node ∈ (Document.parse source path).nodes.toList, P node := by
  rw [parse_nodes]
  refine layOut_eachNode (fun subtree hsubtree => ?_) 0
  obtain ⟨found, hfound, hsubtree⟩ := List.mem_flatMap.mp hsubtree
  exact hall found hfound subtree hsubtree

theorem parse_items (source path : String) :
    (Document.parse source path).items = (fileNodes source.toList).1 := by
  rw [parse_eq]

theorem parse_get? (source path : String) :
    (Document.parse source path).get? = ((fileNodes source.toList).2[·]?) := by
  funext id
  rw [parse_eq]
  exact List.getElem?_toArray

/-- A document says what there is to say about its file. -/
theorem parse_diagnostics_perm (source path : String) :
    (Document.parse source path).diagnostics.Perm (fileComplaints source.toList) := by
  rw [parse_eq]
  exact List.mergeSort_perm _ _

/-- The index lists, kind by kind, the names that the nodes declare. -/
def Document.Indexed (document : Document) : Prop :=
  ∀ kind, document.index.ofKind kind =
    .group (namesOf kind (declarationsFrom 0 document.nodes.toList))

theorem parse_indexed (source path : String) : (Document.parse source path).Indexed := by
  intro kind
  rw [parse_eq, NameIndex.ofKind_listAll]
  cases kind <;> rfl

end Parsed

end ApiLang
