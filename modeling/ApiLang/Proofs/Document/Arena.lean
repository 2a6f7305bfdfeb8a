/-
What stands where in a document.  The tree decides which kinds of nodes a node holds
and which of them its kind refers to: the children of a field are the uses of
declared types in its type, and those of a route are its handler and the uses in its
request and its response, in this order.
-/
import ApiLang.Proofs.Document.Forest
import ApiLang.Proofs.Document.Places

namespace ApiLang

/-- The kinds of nodes that have no parent. -/
def NodeKind.isItem : NodeKind → Bool
  | .version _ | .info _ | .importPath _ | .struct _ | .service .. | .skipped _ => true
  | _ => false

/-- The kinds of nodes under a node of a given kind. -/
def NodeKind.mayHold : NodeKind → NodeKind → Bool
  | .struct _, .field .. | .struct _, .embedded .. | .struct _, .skipped _ => true
  | .service .., .route _ | .service .., .skipped _ => true
  | .route _, .handler _ | .route _, .typeRef .. => true
  | .field .., .typeRef .. | .embedded .., .typeRef .. => true
  | _, _ => false

/-- The place holds a use of a declared type. -/
def HoldsUse (lookup : NodeId → Option Node) (role : ReferenceRole) (id : NodeId) : Prop :=
  ∃ node name, lookup id = some node ∧ node.kind = .typeRef name role ∧
    isBuiltinType name.val = false

def HoldsHandler (lookup : NodeId → Option Node) (id : NodeId) : Prop :=
  ∃ node name, lookup id = some node ∧ node.kind = .handler name

/-- The children of a field or a route are the nodes its kind refers to, in order,
and each of these plays its part. -/
def Node.ListsReferences (lookup : NodeId → Option Node) (node : Node) : Prop :=
  match node.kind with
  | .field _ type _ =>
    node.children = type.references ∧ ∀ id ∈ type.references, HoldsUse lookup .field id
  | .embedded _ type =>
    node.children = type.references ∧ ∀ id ∈ type.references, HoldsUse lookup .embedded id
  | .route facts =>
    node.children = facts.handler.toList ++ facts.request.toList.flatMap TypeShape.references ++
      facts.response.toList.flatMap TypeShape.references ∧
    (∀ id ∈ facts.handler, HoldsHandler lookup id) ∧
    (∀ type ∈ facts.request, ∀ id ∈ type.references, HoldsUse lookup .request id) ∧
    ∀ type ∈ facts.response, ∀ id ∈ type.references, HoldsUse lookup .response id
  | _ => True

/-- The node holds nodes of the right kinds, and those it refers to. -/
structure NodeTyped (lookup : NodeId → Option Node) (node : Node) : Prop where
  kinds : ∀ child ∈ node.children, ∃ found, lookup child = some found ∧
    node.kind.mayHold found.kind = true
  references : node.ListsReferences lookup

/-- Wherever the subtree stands, it is one tree whose root has the given parent and
an allowed kind, and its nodes hold what they refer to. -/
structure SubtreeGrows (parent : Option NodeId) (allowed : NodeKind → Bool)
    (subtree : Subtree) : Prop where
  root : ∀ id, ∃ root inner, subtree id = root :: inner ∧ root.parent = parent ∧
    allowed root.kind = true ∧ Forest (some id) (id + 1) root.children inner
  typed : ∀ lookup id, StandAt lookup id (subtree id) → ∀ node ∈ subtree id,
    NodeTyped lookup node

section LayOut

variable {parent : Option NodeId} {allowed : NodeKind → Bool} {subtrees : List Subtree}
  {lookup : NodeId → Option Node}

/-- Trees side by side are a forest. -/
theorem layOut_forest (hgrow : ∀ subtree ∈ subtrees, SubtreeGrows parent allowed subtree)
    (next : Nat) : Forest parent next (layOut next subtrees).1 (layOut next subtrees).2 := by
  induction subtrees generalizing next with
  | nil => exact .nil
  | cons subtree others ih =>
      obtain ⟨hfirst, hothers⟩ := List.forall_mem_cons.mp hgrow
      obtain ⟨root, inner, hnodes, hparent, _, hinner⟩ := hfirst.root next
      have hrest := ih hothers (next + 1 + inner.length)
      rw [layOut, hnodes]
      rw [List.length_cons, Nat.add_comm inner.length, ← Nat.add_assoc]
      exact .cons hparent hinner hrest

/-- The roots of trees side by side have the allowed kinds, and all nodes hold what
they refer to. -/
theorem layOut_typed (hgrow : ∀ subtree ∈ subtrees, SubtreeGrows parent allowed subtree)
    {next : NodeId} (hstand : StandAt lookup next (layOut next subtrees).2) :
    (∀ root ∈ (layOut next subtrees).1, ∃ node, lookup root = some node ∧
      allowed node.kind = true) ∧
    ∀ node ∈ (layOut next subtrees).2, NodeTyped lookup node := by
  induction subtrees generalizing next with
  | nil => simp [layOut]
  | cons subtree others ih =>
      obtain ⟨hfirst, hothers⟩ := List.forall_mem_cons.mp hgrow
      rw [layOut] at hstand
      obtain ⟨hroots, hnodes⟩ := ih hothers hstand.right
      rw [layOut]
      refine ⟨List.forall_mem_cons.mpr ⟨?_, hroots⟩, List.forall_mem_append.mpr ⟨?_, hnodes⟩⟩
      · obtain ⟨root, inner, hsubtree, _, hkind, _⟩ := hfirst.root next
        have hfound := hstand.left
        rw [hsubtree] at hfound
        exact ⟨root, hfound.head, hkind⟩
      · exact hfirst.typed lookup next hstand.left

theorem leaf_grows (span : Span) (parent : Option NodeId) {kind : NodeKind}
    (hallowed : allowed kind = true)
    (hlists : ∀ lookup, Node.ListsReferences lookup ⟨span, parent, [], kind⟩) :
    SubtreeGrows parent allowed (leaf span parent kind) where
  root id := ⟨_, [], rfl, rfl, hallowed, .nil⟩
  typed lookup id _ node hnode := by
    rw [List.mem_singleton.mp hnode]
    exact ⟨by simp, hlists lookup⟩

/-- A root with trees of the kinds it may hold behind it.  What the root says may
depend on its place. -/
theorem withChildren_grows {span : Span} {kind : NodeId → NodeKind}
    {children : NodeId → List Subtree} (hallowed : ∀ id, allowed (kind id) = true)
    (hchildren : ∀ id, ∀ subtree ∈ children id,
      SubtreeGrows (some id) (kind id).mayHold subtree)
    (hlists : ∀ lookup id, StandAt lookup (id + 1) (layOut (id + 1) (children id)).2 →
      Node.ListsReferences lookup ⟨span, parent, (layOut (id + 1) (children id)).1, kind id⟩) :
    SubtreeGrows parent allowed fun id => withChildren span parent (kind id) children id where
  root id := ⟨_, _, rfl, rfl, hallowed id, layOut_forest (hchildren id) (id + 1)⟩
  typed lookup id hstand := by
    have hbehind : StandAt lookup (id + 1) (layOut (id + 1) (children id)).2 := hstand.tail
    obtain ⟨hroots, hnodes⟩ := layOut_typed (hchildren id) hbehind
    exact List.forall_mem_cons.mpr ⟨⟨hroots, hlists lookup id hbehind⟩, hnodes⟩

end LayOut

/-- Leaves side by side take one place each. -/
theorem layOut_leaves (next : Nat) (nodes : List Node) :
    layOut next (nodes.map fun node _ => [node]) = (List.range' next nodes.length, nodes) := by
  induction nodes generalizing next with
  | nil => rfl
  | cons node others ih =>
      rw [List.map_cons, layOut, List.length_singleton, ih]
      rfl

/-- The nodes for the uses of declared types in a type. -/
def useNodes (parent : NodeId) (role : ReferenceRole) (type : TypeExpr) : List Node :=
  type.uses.map fun name => ⟨name.span, some parent, [], .typeRef name role⟩

theorem useSubtrees_eq (parent : NodeId) (role : ReferenceRole) (type : TypeExpr) :
    useSubtrees parent role type = (useNodes parent role type).map fun node _ => [node] := by
  rw [useSubtrees, useNodes, List.map_map]
  rfl

theorem length_useNodes (parent : NodeId) (role : ReferenceRole) (type : TypeExpr) :
    (useNodes parent role type).length = type.uses.length :=
  List.length_map _

/-- The references of a shape are numbered from left to right. -/
theorem TypeExpr.references_shape (type : TypeExpr) (next : Nat) :
    (type.shape next).references = List.range' next type.uses.length := by
  induction type generalizing next with
  | named name =>
      rw [shape, uses]
      split <;> rfl
  | pointer inner span ih => exact ih next
  | slice size element span ih => exact ih next
  | map key value span ihKey ihValue =>
      rw [shape, uses, TypeShape.references, ihKey, ihValue, List.length_append,
        List.range'_append_1]
  | interface span => rfl

theorem TypeExpr.uses_not_builtin (type : TypeExpr) :
    ∀ name ∈ type.uses, isBuiltinType name.val = false := by
  induction type with
  | named name =>
      rw [uses]
      split
      · simp
      · rename_i hdeclared
        simpa using hdeclared
  | pointer inner span ih => exact ih
  | slice size element span ih => exact ih
  | map key value span ihKey ihValue => exact List.forall_mem_append.mpr ⟨ihKey, ihValue⟩
  | interface span => simp [uses]

/-- Where the uses of a type stand, its references hold them. -/
theorem StandAt.holdsUse {lookup : NodeId → Option Node} {next : Nat} {parent : NodeId}
    {role : ReferenceRole} {type : TypeExpr}
    (hstand : StandAt lookup next (useNodes parent role type)) :
    ∀ id ∈ (type.shape next).references, HoldsUse lookup role id := by
  intro id hid
  rw [type.references_shape, List.mem_range'_1] at hid
  obtain ⟨i, rfl⟩ := Nat.exists_eq_add_of_le hid.1
  have hbound : i < type.uses.length := by omega
  have hnode : (useNodes parent role type)[i]? =
      some ⟨type.uses[i].span, some parent, [], .typeRef type.uses[i] role⟩ := by
    rw [useNodes, List.getElem?_map, List.getElem?_eq_getElem hbound]
    rfl
  exact ⟨_, type.uses[i], hstand i _ hnode, rfl,
    type.uses_not_builtin _ (List.getElem_mem hbound)⟩

theorem useSubtrees_grow {parent : NodeId} {role : ReferenceRole} {type : TypeExpr}
    {allowed : NodeKind → Bool} (hallowed : ∀ name, allowed (.typeRef name role) = true) :
    ∀ subtree ∈ useSubtrees parent role type, SubtreeGrows (some parent) allowed subtree := by
  intro subtree hsubtree
  obtain ⟨name, _, rfl⟩ := List.mem_map.mp hsubtree
  exact leaf_grows _ _ (hallowed name) fun _ => trivial

theorem skippedSubtree_grows {allowed : NodeKind → Bool} (parent : Option NodeId) (input : Skipped)
    (hallowed : allowed (.skipped input.text) = true) :
    SubtreeGrows parent allowed (skippedSubtree parent input) :=
  leaf_grows _ _ hallowed fun _ => trivial

/-- The uses behind the root are what the shape at the root refers to. -/
theorem useSubtrees_listed {lookup : NodeId → Option Node} {id : Nat} {role : ReferenceRole}
    {type : TypeExpr}
    (hstand : StandAt lookup (id + 1) (layOut (id + 1) (useSubtrees id role type)).2) :
    (layOut (id + 1) (useSubtrees id role type)).1 = (type.shape (id + 1)).references ∧
      ∀ use ∈ (type.shape (id + 1)).references, HoldsUse lookup role use := by
  rw [useSubtrees_eq, layOut_leaves] at hstand ⊢
  exact ⟨by rw [type.references_shape, length_useNodes], hstand.holdsUse⟩

theorem memberSubtree_grows (struct : NodeId) (name : Spanned String) (line : Member) :
    SubtreeGrows (some struct) (NodeKind.struct name).mayHold (memberSubtree struct line) := by
  cases line with
  | field line =>
      exact withChildren_grows (fun _ => rfl) (fun _ => useSubtrees_grow fun _ => rfl)
        fun _ _ hstand => useSubtrees_listed hstand
  | embedded line =>
      exact withChildren_grows (fun _ => rfl) (fun _ => useSubtrees_grow fun _ => rfl)
        fun _ _ hstand => useSubtrees_listed hstand
  | skipped input => exact skippedSubtree_grows _ input rfl

theorem structSubtree_grows (struct : StructDef) :
    SubtreeGrows none NodeKind.isItem (structSubtree struct) := by
  refine withChildren_grows (fun _ => rfl) (fun id subtree hsubtree => ?_) fun _ _ _ => trivial
  obtain ⟨line, _, rfl⟩ := List.mem_map.mp hsubtree
  exact memberSubtree_grows id struct.name line

section Routes

/-- The node for the handler of a route, if it has one. -/
def handlerNodes (parent : NodeId) (handler : Option (Spanned String)) : List Node :=
  handler.toList.map fun name => ⟨name.span, some parent, [], .handler name⟩

/-- The nodes for the uses of declared types in an optional type. -/
def optionalUseNodes (parent : NodeId) (role : ReferenceRole) (type : Option TypeExpr) :
    List Node :=
  type.toList.flatMap (useNodes parent role)

theorem length_handlerNodes (parent : NodeId) (handler : Option (Spanned String)) :
    (handlerNodes parent handler).length = if handler.isSome then 1 else 0 := by
  cases handler <;> rfl

theorem length_optionalUseNodes (parent : NodeId) (role : ReferenceRole)
    (type : Option TypeExpr) :
    (optionalUseNodes parent role type).length = optionalUses type := by
  cases type with
  | none => rfl
  | some type => simp [optionalUseNodes, optionalUses, length_useNodes]

/-- The references of an optional shape are numbered from left to right. -/
theorem optional_references_shape (type : Option TypeExpr) (next : Nat) :
    (type.map (TypeExpr.shape next)).toList.flatMap TypeShape.references =
      List.range' next (optionalUses type) := by
  cases type with
  | none => rfl
  | some type => simp [optionalUses, type.references_shape]

theorem StandAt.holdsHandler {lookup : NodeId → Option Node} {next : Nat} {parent : NodeId}
    {handler : Option (Spanned String)}
    (hstand : StandAt lookup next (handlerNodes parent handler)) :
    ∀ id ∈ handler.map fun _ => next, HoldsHandler lookup id := by
  intro id hid
  obtain ⟨name, rfl, rfl⟩ := Option.map_eq_some_iff.mp hid
  exact ⟨_, name, hstand.head, rfl⟩

theorem StandAt.optional_holdsUse {lookup : NodeId → Option Node} {next : Nat} {parent : NodeId}
    {role : ReferenceRole} {type : Option TypeExpr}
    (hstand : StandAt lookup next (optionalUseNodes parent role type)) :
    ∀ shape ∈ type.map (TypeExpr.shape next), ∀ id ∈ shape.references,
      HoldsUse lookup role id := by
  intro shape hshape
  obtain ⟨type, rfl, rfl⟩ := Option.map_eq_some_iff.mp hshape
  rw [optionalUseNodes, Option.toList_some, List.flatMap_singleton] at hstand
  exact hstand.holdsUse

/-- All nodes under a route are leaves: its handler, then the uses of types in its
request and its response. -/
theorem routeChildren_eq (root : NodeId) (route : Route) :
    routeChildren route root = (handlerNodes root (handlerName? route.annotations) ++
      optionalUseNodes root .request route.request ++
      optionalUseNodes root .response route.response).map fun node _ => [node] := by
  have huses : ∀ (role : ReferenceRole) (type : Option TypeExpr),
      type.toList.flatMap (useSubtrees root role) =
        (optionalUseNodes root role type).map fun node _ => [node] := by
    intro role type
    rw [optionalUseNodes, List.map_flatMap]
    exact congrArg (List.flatMap · type.toList) (funext (useSubtrees_eq root role))
  rw [routeChildren, huses, huses, List.map_append, List.map_append, handlerNodes, List.map_map]
  rfl

theorem routeSubtree_grows (service : NodeId) {allowed : NodeKind → Bool}
    (hallowed : ∀ facts, allowed (.route facts) = true) (route : Route) :
    SubtreeGrows (some service) allowed (routeSubtree service route) := by
  refine withChildren_grows (fun _ => hallowed _) (fun id => ?_) fun lookup id hstand => ?_
  · exact forall_mem_routeChildren (fun _ _ => leaf_grows _ _ rfl fun _ => trivial)
      (fun _ _ => useSubtrees_grow fun _ => rfl) fun _ _ => useSubtrees_grow fun _ => rfl
  · rw [routeChildren_eq, layOut_leaves] at hstand ⊢
    have hhandler := hstand.left.left
    have hrequest := hstand.left.right
    have hresponse := hstand.right
    rw [List.length_append, length_optionalUseNodes, ← Nat.add_assoc] at hresponse
    rw [length_handlerNodes] at hrequest hresponse
    refine ⟨?_, hhandler.holdsHandler, hrequest.optional_holdsUse, hresponse.optional_holdsUse⟩
    have hplace : ((handlerName? route.annotations).map fun _ => id + 1).toList =
        List.range' (id + 1) (if (handlerName? route.annotations).isSome then 1 else 0) := by
      cases handlerName? route.annotations <;> rfl
    simp only [routeFactsAt]
    rw [optional_references_shape, optional_references_shape, hplace, List.length_append,
      List.length_append, length_handlerNodes, length_optionalUseNodes, length_optionalUseNodes,
      List.range'_append_1, Nat.add_assoc (id + 1), List.range'_append_1]

end Routes

theorem serviceSubtree_grows (service : Service) :
    SubtreeGrows none NodeKind.isItem (serviceSubtree service) := by
  refine withChildren_grows (fun _ => rfl) (fun id subtree hsubtree => ?_) fun _ _ _ => trivial
  obtain ⟨entry, _, rfl⟩ := List.mem_map.mp hsubtree
  cases entry with
  | route route => exact routeSubtree_grows id (fun _ => rfl) route
  | skipped input => exact skippedSubtree_grows _ input rfl

theorem Declaration.subtrees_grow (found : Declaration) :
    ∀ subtree ∈ found.subtrees, SubtreeGrows none NodeKind.isItem subtree := by
  intro subtree hsubtree
  cases found with
  | version | info =>
      rw [List.mem_singleton.mp hsubtree]
      exact leaf_grows _ _ rfl fun _ => trivial
  | imports paths span =>
      obtain ⟨path, _, rfl⟩ := List.mem_map.mp hsubtree
      exact leaf_grows _ _ rfl fun _ => trivial
  | types keyword body =>
      obtain ⟨entry, _, rfl⟩ := List.mem_map.mp hsubtree
      cases entry with
      | struct struct => exact structSubtree_grows struct
      | skipped input => exact skippedSubtree_grows _ input rfl
  | service service =>
      rw [List.mem_singleton.mp hsubtree]
      exact serviceSubtree_grows service
  | skipped input =>
      rw [List.mem_singleton.mp hsubtree]
      exact skippedSubtree_grows _ input rfl

/-- The nodes of a document make up a forest in the order of the source, in which
each node holds what its kind says. -/
structure Document.WellFormed (document : Document) : Prop where
  items : Enumerates document.items fun id =>
    ∃ node, document.get? id = some node ∧ node.parent = none
  children : ∀ id node, document.get? id = some node →
    Enumerates node.children (HasParent document.get? id)
  parents : ∀ id owner, HasParent document.get? owner id →
    owner < id ∧ ∃ parent, document.get? owner = some parent
  descendants : ∀ id node, document.get? id = some node →
    ∃ stop, ∀ other, Relation.TransGen (HasParent document.get?) id other ↔
      id < other ∧ other < stop
  starts : ∀ i j left right, i < j → document.get? i = some left → document.get? j = some right →
    left.span.start ≤ right.span.start
  itemKinds : ∀ id node, document.get? id = some node → node.parent = none →
    node.kind.isItem = true
  childKinds : ∀ id node owner parent, document.get? id = some node →
    node.parent = some owner → document.get? owner = some parent →
    parent.kind.mayHold node.kind = true
  references : ∀ id node, document.get? id = some node → node.ListsReferences document.get?

theorem subtrees_grow (file : SourceFile) :
    ∀ subtree ∈ file.declarations.flatMap Declaration.subtrees,
      SubtreeGrows none NodeKind.isItem subtree := by
  intro subtree hsubtree
  obtain ⟨found, _, hsubtree⟩ := List.mem_flatMap.mp hsubtree
  exact found.subtrees_grow subtree hsubtree

theorem fileNodes_forest (source : List Char) :
    Forest none 0 (fileNodes source).1 (fileNodes source).2 :=
  layOut_forest (subtrees_grow _) 0

theorem standAt_getElem? (nodes : List Node) : StandAt (nodes[·]?) 0 nodes := by
  intro i node hnode
  rw [Nat.zero_add]
  exact hnode

/-- The nodes of a file nest, and its items lie in order. -/
theorem fileNodes_nest (source : List Char) :
    (fileNodes source).1.IsChain (Precedes ((fileNodes source).2[·]?)) ∧
      ∀ node ∈ (fileNodes source).2, NodeNests ((fileNodes source).2[·]?) node := by
  have hfile := parseTokens_spells source
  obtain ⟨hholds, hnests⟩ := layOut_fits hfile.fits (standAt_getElem? _) (by simp)
  exact ⟨isChain_of_holdsSpan hholds hfile.spansIn.ordered, hnests⟩

/-- The nodes of a file come in the order in which they are numbered. -/
theorem fileNodes_ordered (source : String) :
    (fileNodes source.toList).2.Pairwise Node.ComesBefore := by
  obtain ⟨hitems, hnests⟩ := fileNodes_nest source.toList
  refine (fileNodes_forest source.toList).ordered (standAt_getElem? _) hnests ?_ hitems
  intro node hnode
  rw [← parse_nodes source ""] at hnode
  exact (parse_nameInside source "" node hnode).start_lt_stop.le

theorem parse_comesBefore (source path : String) {i j : NodeId} {left right : Node} (hlt : i < j)
    (hleft : (Document.parse source path).get? i = some left)
    (hright : (Document.parse source path).get? j = some right) : left.ComesBefore right := by
  rw [parse_get?] at hleft hright
  obtain ⟨hi, rfl⟩ := List.getElem?_eq_some_iff.mp hleft
  obtain ⟨hj, rfl⟩ := List.getElem?_eq_some_iff.mp hright
  exact List.pairwise_iff_getElem.mp (fileNodes_ordered source) i j hi hj hlt

/-- The document of every source is well-formed, however broken the source is. -/
theorem parse_wellFormed (source path : String) : (Document.parse source path).WellFormed := by
  have hforest := fileNodes_forest source.toList
  obtain ⟨hroots, htyped⟩ := layOut_typed (subtrees_grow (treeOf source.toList))
    (standAt_getElem? (fileNodes source.toList).2)
  have hnode : ∀ id node, (fileNodes source.toList).2[id]? = some node →
      NodeTyped ((fileNodes source.toList).2[·]?) node :=
    fun id node hget => htyped node (List.mem_of_getElem? hget)
  constructor
  all_goals rw [parse_get?]
  · rw [parse_items]
    exact hforest.enumerates_roots
  · exact fun id node hget => hforest.enumerates_children hget
  · rintro id owner ⟨node, hget, hparent⟩
    obtain ⟨hlt, parent, hfound, _⟩ := hforest.exists_parent hget hparent
    exact ⟨hlt, parent, hfound⟩
  · exact fun id node hget => hforest.descends_iff hget
  · intro i j left right hlt hleft hright
    rw [← parse_get? source path] at hleft hright
    exact (parse_comesBefore source path hlt hleft hright).1
  · intro id node hget hparent
    have hroot := (hforest.enumerates_roots.mem_iff id).mpr ⟨node, hget, hparent⟩
    obtain ⟨found, hfound, hkind⟩ := hroots id hroot
    cases hget.symm.trans hfound
    exact hkind
  · intro id node owner parent hget hparent howner
    have hchild := ((hforest.enumerates_children howner).mem_iff id).mpr ⟨node, hget, hparent⟩
    obtain ⟨found, hfound, hkind⟩ := (hnode owner parent howner).kinds id hchild
    cases hget.symm.trans hfound
    exact hkind
  · exact fun id node hget => (hnode id node hget).references

end ApiLang
