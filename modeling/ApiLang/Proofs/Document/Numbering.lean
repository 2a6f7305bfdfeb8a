/-
Where the nodes of a tree come to stand.  The nodes of a subtree stand in a row behind
its root, so numbering is a matter of laying subtrees side by side, and what a node
declares is known by its kind.
-/
import ApiLang.Document.Build

namespace ApiLang

section Layout

/-- The nodes of a subtree once the place of its root is known.  The root comes
first. -/
abbrev Subtree : Type :=
  NodeId → List Node

/-- Subtrees in a row from place `next` on: the places of their roots, and all
their nodes. -/
def layOut (next : NodeId) : List Subtree → List NodeId × List Node
  | [] => ([], [])
  | subtree :: rest =>
    let nodes := subtree next
    let (roots, others) := layOut (next + nodes.length) rest
    (next :: roots, nodes ++ others)

/-- A root with the subtrees of its children behind it. -/
def withChildren (span : Span) (parent : Option NodeId) (kind : NodeKind)
    (children : NodeId → List Subtree) : Subtree := fun id =>
  let (roots, nodes) := layOut (id + 1) (children id)
  { span, parent, children := roots, kind } :: nodes

/-- A node without children. -/
def leaf (span : Span) (parent : Option NodeId) (kind : NodeKind) : Subtree := fun _ =>
  [{ span, parent, children := [], kind }]

/-- The uses of declared types in a type, from left to right. -/
def TypeExpr.uses : TypeExpr → List (Spanned String)
  | .named name => if isBuiltinType name.val then [] else [name]
  | .pointer inner _ => inner.uses
  | .slice _ element _ => element.uses
  | .map key value _ => key.uses ++ value.uses
  | .interface _ => []

/-- The shape of a type whose uses are numbered from `next` on. -/
def TypeExpr.shape (next : NodeId) : TypeExpr → TypeShape
  | .named name => if isBuiltinType name.val then .builtin name.val else .reference next
  | .pointer inner _ => .pointer (inner.shape next)
  | .slice size element _ => .slice (size.map Spanned.val) (element.shape next)
  | .map key value _ => .map (key.shape next) (value.shape (next + key.uses.length))
  | .interface _ => .interface

/-- One node for each use of a declared type. -/
def useSubtrees (parent : NodeId) (role : ReferenceRole) (type : TypeExpr) : List Subtree :=
  type.uses.map fun name => leaf name.span (some parent) (.typeRef name role)

def skippedSubtree (parent : Option NodeId) (input : Skipped) : Subtree :=
  leaf input.span parent (.skipped input.text)

def memberSubtree (struct : NodeId) : Member → Subtree
  | .field field => fun id =>
    withChildren field.span (some struct)
      (.field field.name (field.type.shape (id + 1)) field.tag)
      (fun root => useSubtrees root .field field.type) id
  | .embedded embedded => fun id =>
    let type := TypeExpr.named embedded.name
    withChildren embedded.span (some struct) (.embedded embedded.pointer (type.shape (id + 1)))
      (fun root => useSubtrees root .embedded type) id
  | .skipped input => skippedSubtree (some struct) input

def structSubtree (struct : StructDef) : Subtree :=
  withChildren struct.span none (.struct struct.name) fun root =>
    struct.body.entries.map (memberSubtree root)

/-- The uses of an optional type. -/
def optionalUses : Option TypeExpr → Nat
  | some type => type.uses.length
  | none => 0

/-- The subtrees behind a route: its handler, and the uses of its types. -/
def routeChildren (route : Route) (root : NodeId) : List Subtree :=
  ((handlerName? route.annotations).toList.map fun name =>
      leaf name.span (some root) (.handler name)) ++
    route.request.toList.flatMap (useSubtrees root .request) ++
    route.response.toList.flatMap (useSubtrees root .response)

/-- What a route at place `id` says, its handler being the first of its children. -/
def routeFactsAt (id : NodeId) (route : Route) : RouteFacts :=
  let annotations := route.annotations.map AnnotationFacts.ofTree
  let handler := handlerName? route.annotations
  let request := id + 1 + (if handler.isSome then 1 else 0)
  let response := request + optionalUses route.request
  { method := route.method
    path := route.path
    handler := handler.map fun _ => id + 1
    request := route.request.map (TypeExpr.shape request)
    response := route.response.map (TypeExpr.shape response)
    doc := routeDoc? annotations
    annotations }

def routeSubtree (service : NodeId) (route : Route) : Subtree := fun id =>
  withChildren route.span (some service) (.route (routeFactsAt id route)) (routeChildren route) id

def serviceEntrySubtree (service : NodeId) : ServiceEntry → Subtree
  | .route route => routeSubtree service route
  | .skipped input => skippedSubtree (some service) input

def serviceSubtree (service : Service) : Subtree :=
  let annotations := service.annotations.map AnnotationFacts.ofTree
  withChildren service.span none
    (.service service.name annotations (.ofAnnotations annotations)) fun root =>
      service.body.entries.map (serviceEntrySubtree root)

def typeEntrySubtree : TypeEntry → Subtree
  | .struct struct => structSubtree struct
  | .skipped input => skippedSubtree none input

/-- The subtrees of a declaration.  Groups are flattened: one for each path of an
import, and one for each entry of a group of types. -/
def Declaration.subtrees : Declaration → List Subtree
  | .version text span => [leaf span none (.version text)]
  | .info entries span => [leaf span none (.info (canonicalEntries entries))]
  | .imports paths _ => paths.map fun path => leaf path.span none (.importPath path)
  | .types _ body => body.entries.map typeEntrySubtree
  | .service block => [serviceSubtree block]
  | .skipped input => [skippedSubtree none input]

def ServiceEntry.warnings : ServiceEntry → List Diagnostic
  | .route line => line.annotations.flatMap annotationWarnings
  | .skipped _ => []

/-- The warnings about the annotation values of a declaration. -/
def Declaration.warnings : Declaration → List Diagnostic
  | .info entries _ => entryWarnings entries
  | .service block =>
    block.annotations.flatMap annotationWarnings ++
      block.body.entries.flatMap ServiceEntry.warnings
  | .version .. | .imports .. | .types .. | .skipped _ => []

theorem layOut_append (next : NodeId) (first second : List Subtree) :
    layOut next (first ++ second) =
      ((layOut next first).1 ++ (layOut (next + (layOut next first).2.length) second).1,
        (layOut next first).2 ++ (layOut (next + (layOut next first).2.length) second).2) := by
  induction first generalizing next with
  | nil => simp [layOut]
  | cons subtree others ih => simp [layOut, ih, Nat.add_assoc]

@[simp] theorem length_layOut_useSubtrees (next parent : NodeId) (role : ReferenceRole)
    (type : TypeExpr) : (layOut next (useSubtrees parent role type)).2.length = type.uses.length := by
  rw [useSubtrees]
  induction type.uses generalizing next with
  | nil => rfl
  | cons name others ih => simp [layOut, leaf, ih]

theorem length_layOut_handler (next root : NodeId) (handler : Option (Spanned String)) :
    (layOut next (handler.toList.map fun name =>
      leaf name.span (some root) (.handler name))).2.length =
        if handler.isSome then 1 else 0 := by
  cases handler <;> rfl

theorem length_layOut_optionalUses (next root : NodeId) (role : ReferenceRole)
    (type : Option TypeExpr) :
    (layOut next (type.toList.flatMap (useSubtrees root role))).2.length = optionalUses type := by
  cases type with
  | none => rfl
  | some type => simp [optionalUses]

/-- What stands behind a route is its handler or the use of a type. -/
theorem forall_mem_routeChildren {P : Subtree → Prop} {route : Route} {root : NodeId}
    (hhandler : ∀ name, handlerName? route.annotations = some name →
      P (leaf name.span (some root) (.handler name)))
    (hrequest : ∀ type, route.request = some type →
      ∀ subtree ∈ useSubtrees root .request type, P subtree)
    (hresponse : ∀ type, route.response = some type →
      ∀ subtree ∈ useSubtrees root .response type, P subtree) :
    ∀ subtree ∈ routeChildren route root, P subtree := by
  intro subtree hsubtree
  simp only [routeChildren, List.mem_append, List.mem_map, List.mem_flatMap,
    Option.mem_toList] at hsubtree
  rcases hsubtree with (⟨name, hname, rfl⟩ | ⟨type, htype, hsubtree⟩) | ⟨type, htype, hsubtree⟩
  · exact hhandler name hname
  · exact hrequest type htype subtree hsubtree
  · exact hresponse type htype subtree hsubtree

end Layout

/-- Every node of the subtree satisfies `P`, wherever the subtree stands. -/
def EachNode (P : Node → Prop) (subtree : Subtree) : Prop :=
  ∀ id, ∀ node ∈ subtree id, P node

section EachNode

variable {P : Node → Prop}

theorem layOut_eachNode {subtrees : List Subtree}
    (hsubtrees : ∀ subtree ∈ subtrees, EachNode P subtree) (next : NodeId) :
    ∀ node ∈ (layOut next subtrees).2, P node := by
  induction subtrees generalizing next with
  | nil => simp [layOut]
  | cons subtree others ih =>
      obtain ⟨hfirst, hothers⟩ := List.forall_mem_cons.mp hsubtrees
      intro node hnode
      rcases List.mem_append.mp hnode with hnode | hnode
      · exact hfirst next node hnode
      · exact ih hothers _ node hnode

theorem eachNode_leaf {span : Span} {parent : Option NodeId} {kind : NodeKind}
    (hnode : P ⟨span, parent, [], kind⟩) : EachNode P (leaf span parent kind) := by
  intro id node hmem
  rw [List.mem_singleton.mp hmem]
  exact hnode

theorem eachNode_withChildren {span : Span} {parent : Option NodeId} {kind : NodeId → NodeKind}
    {children : NodeId → List Subtree}
    (hroot : ∀ id roots, P ⟨span, parent, roots, kind id⟩)
    (hchildren : ∀ id, ∀ subtree ∈ children id, EachNode P subtree) :
    EachNode P fun id => withChildren span parent (kind id) children id := by
  intro id node hnode
  rcases List.mem_cons.mp hnode with rfl | hnode
  · exact hroot id _
  · exact layOut_eachNode (hchildren id) _ node hnode

end EachNode

section Declared

/-- What a node declares: a struct and a handler their names, a route its method in
lower case and its path, an import its path as written. -/
inductive NodeKind.Declares : NodeKind → DeclKind → String → Prop
  | struct (name : Spanned String) : Declares (.struct name) .struct name.val
  | handler (name : Spanned String) : Declares (.handler name) .handler name.val
  | route (facts : RouteFacts) :
      Declares (.route facts) .route (facts.method.val.toLower ++ " " ++ facts.path.val)
  | importPath (path : Spanned String) : Declares (.importPath path) .importPath path.val

/-- The kind and the name that a node declares. -/
def NodeKind.declaration? : NodeKind → Option (DeclKind × String)
  | .struct name => some (.struct, name.val)
  | .handler name => some (.handler, name.val)
  | .route facts => some (.route, facts.method.val.toLower ++ " " ++ facts.path.val)
  | .importPath path => some (.importPath, path.val)
  | _ => none

theorem NodeKind.declaration?_eq_some_iff {kind : NodeKind} {found : DeclKind} {name : String} :
    kind.declaration? = some (found, name) ↔ kind.Declares found name := by
  constructor
  · intro hdeclared
    cases kind with
    | struct | handler | route | importPath =>
        cases hdeclared
        constructor
    | version | info | field | embedded | service | typeRef | skipped => cases hdeclared
  · rintro ⟨⟩ <;> rfl

/-- The declarations among nodes that stand from place `next` on. -/
def declarationsFrom (next : NodeId) (nodes : List Node) : List (DeclKind × String × NodeId) :=
  (nodes.zipIdx next).filterMap fun (node, id) =>
    node.kind.declaration?.map fun (kind, name) => (kind, name, id)

theorem declarationsFrom_cons (next : NodeId) (node : Node) (nodes : List Node) :
    declarationsFrom next (node :: nodes) =
      (node.kind.declaration?.map fun (kind, name) => (kind, name, next)).toList ++
        declarationsFrom (next + 1) nodes := by
  rw [declarationsFrom, List.zipIdx_cons]
  cases hdeclared : node.kind.declaration? with
  | none => simp [hdeclared, declarationsFrom]
  | some declared => simp [hdeclared, declarationsFrom]

theorem declarationsFrom_append (next : NodeId) (first second : List Node) :
    declarationsFrom next (first ++ second) =
      declarationsFrom next first ++ declarationsFrom (next + first.length) second := by
  rw [declarationsFrom, List.zipIdx_append, List.filterMap_append]
  rfl

/-- The declarations of one kind that have a name. -/
def namesOf (kind : DeclKind) (declared : List (DeclKind × String × NodeId)) :
    List (String × NodeId) :=
  (declared.filter fun (found, name, _) => found = kind && !name.isEmpty).map Prod.snd

theorem namesOf_append (kind : DeclKind) (first second : List (DeclKind × String × NodeId)) :
    namesOf kind (first ++ second) = namesOf kind first ++ namesOf kind second := by
  rw [namesOf, List.filter_append, List.map_append]
  rfl

/-- Where nothing is a route, a route can be listed before or after it. -/
theorem namesOf_route_last {declared : List (DeclKind × String × NodeId)}
    (hothers : ∀ entry ∈ declared, entry.1 ≠ .route) (key : String) (id : NodeId)
    (kind : DeclKind) :
    namesOf kind (declared ++ [(.route, key, id)]) = namesOf kind ((.route, key, id) :: declared) := by
  rw [namesOf_append, ← List.singleton_append (l := declared), namesOf_append]
  by_cases hkind : kind = .route
  · have hnone : namesOf kind declared = [] := by
      simp only [namesOf, List.map_eq_nil_iff, List.filter_eq_nil_iff]
      intro entry hentry
      simp [hkind, hothers entry hentry]
    rw [hnone, List.nil_append, List.append_nil]
  · have hnone : namesOf kind [(.route, key, id)] = [] := by simp [namesOf, Ne.symm hkind]
    rw [hnone, List.nil_append, List.append_nil]

theorem mem_declarationsFrom {next : NodeId} {nodes : List Node}
    {entry : DeclKind × String × NodeId} (hentry : entry ∈ declarationsFrom next nodes) :
    ∃ node ∈ nodes, node.kind.declaration? = some (entry.1, entry.2.1) := by
  obtain ⟨⟨node, id⟩, hnode, hdeclared⟩ := List.mem_filterMap.mp hentry
  obtain ⟨declared, hfound, rfl⟩ := Option.map_eq_some_iff.mp hdeclared
  exact ⟨node, List.fst_mem_of_mem_zipIdx hnode, hfound⟩

end Declared

end ApiLang
