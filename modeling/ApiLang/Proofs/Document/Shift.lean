/-
Documents at another place.  Shifting a node moves its spans to the right and
renumbers the nodes it refers to.  A tree that is moved has the nodes and the
warnings that it had, moved.
-/
import ApiLang.Proofs.Document.Names
import ApiLang.Proofs.Tree.Shift
import Mathlib.Data.List.Forall2

namespace ApiLang

variable {α β κ : Type}

def TypeShape.renumber (count : Nat) : TypeShape → TypeShape
  | .builtin name => .builtin name
  | .reference node => .reference (node + count)
  | .pointer inner => .pointer (inner.renumber count)
  | .slice size element => .slice size (element.renumber count)
  | .map key value => .map (key.renumber count) (value.renumber count)
  | .interface => .interface

def OrderedMap.mapValues (f : α → β) (map : OrderedMap κ α) : OrderedMap κ β :=
  ⟨map.entries.map (Prod.map id f)⟩

def AnnotationFacts.shift (distance : Nat) (facts : AnnotationFacts) : AnnotationFacts :=
  { name := facts.name.shift distance
    value := facts.value.map (Spanned.shift distance)
    properties := facts.properties.mapValues (Spanned.shift distance)
    span := facts.span.shift distance }

def RouteFacts.shift (count distance : Nat) (facts : RouteFacts) : RouteFacts :=
  { method := facts.method.shift distance
    path := facts.path.shift distance
    handler := facts.handler.map (· + count)
    request := facts.request.map (TypeShape.renumber count)
    response := facts.response.map (TypeShape.renumber count)
    doc := facts.doc
    annotations := facts.annotations.map (AnnotationFacts.shift distance) }

def NodeKind.shift (count distance : Nat) : NodeKind → NodeKind
  | .version text => .version (text.shift distance)
  | .info properties => .info (properties.mapValues (Spanned.shift distance))
  | .importPath path => .importPath (path.shift distance)
  | .struct name => .struct (name.shift distance)
  | .field name type tag =>
    .field (name.shift distance) (type.renumber count) (tag.map (Spanned.shift distance))
  | .embedded pointer type => .embedded pointer (type.renumber count)
  | .service name annotations options =>
    .service (name.shift distance) (annotations.map (AnnotationFacts.shift distance)) options
  | .route facts => .route (facts.shift count distance)
  | .handler name => .handler (name.shift distance)
  | .typeRef name role => .typeRef (name.shift distance) role
  | .skipped text => .skipped text

/-- The node with all places of nodes increased by `count` and all spans moved by
`distance`. -/
def Node.shift (count distance : Nat) (node : Node) : Node :=
  { span := node.span.shift distance
    parent := node.parent.map (· + count)
    children := node.children.map (· + count)
    kind := node.kind.shift count distance }

namespace OrderedMap

variable [DecidableEq κ]

theorem mapValues_set (f : α → β) (map : OrderedMap κ α) (key : κ) (a : α) :
    (map.set key a).mapValues f = (map.mapValues f).set key (f a) := by
  obtain ⟨entries⟩ := map
  simp only [mapValues, set, alter, mk.injEq]
  induction entries with
  | nil => rfl
  | cons entry others ih =>
      by_cases hsame : entry.1 = key
      · simp [alterEntries, hsame]
      · simp [alterEntries, hsame, ih, Prod.map]

theorem mapValues_ofList (f : α → β) (pairs : List (κ × α)) :
    (ofList pairs).mapValues f = ofList (pairs.map (Prod.map id f)) := by
  have hfold : ∀ (map : OrderedMap κ α),
      (pairs.foldl (fun map pair => map.set pair.1 pair.2) map).mapValues f =
        (pairs.map (Prod.map id f)).foldl (fun map pair => map.set pair.1 pair.2)
          (map.mapValues f) := by
    induction pairs with
    | nil => exact fun _ => rfl
    | cons pair others ih =>
        intro map
        rw [List.foldl_cons, ih, mapValues_set]
        rfl
  exact hfold empty

theorem find?_mapValues (f : α → β) (map : OrderedMap κ α) (key : κ) :
    (map.mapValues f).find? key = (map.find? key).map f := by
  simp [find?, mapValues, List.find?_map, Function.comp_def]

end OrderedMap

section Values

variable (distance : Nat)

/-- What a value means does not depend on its place. -/
@[simp] theorem canonicalValue_shift (key : String) (value : ValueList) :
    canonicalValue key (value.shift distance) = canonicalValue key value := by
  simp [canonicalValue, ValueList.shift, Function.comp_def]

theorem valueWarning_shift (key : String) (value : ValueList) :
    valueWarning key (value.shift distance) =
      (valueWarning key value).map (Diagnostic.shift distance) := by
  rw [valueWarning, valueWarning, canonicalValue_shift]
  split <;> rfl

theorem entryWarnings_shift (entries : List KeyValue) :
    entryWarnings (entries.map (KeyValue.shift distance)) =
      (entryWarnings entries).map (Diagnostic.shift distance) := by
  rw [entryWarnings, entryWarnings, List.flatMap_map, List.map_flatMap]
  exact congrArg (List.flatMap · entries) (funext fun entry => valueWarning_shift distance _ _)

theorem canonicalEntries_shift (entries : List KeyValue) :
    canonicalEntries (entries.map (KeyValue.shift distance)) =
      (canonicalEntries entries).mapValues (Spanned.shift distance) := by
  rw [canonicalEntries, canonicalEntries, OrderedMap.mapValues_ofList, List.map_map, List.map_map]
  refine congrArg (fun f => OrderedMap.ofList (entries.map f)) (funext fun entry => ?_)
  simp only [Function.comp_apply, KeyValue.shift, Spanned.val_shift, canonicalValue_shift]
  rfl

theorem AnnotationFacts.ofTree_shift (note : Annotation) :
    AnnotationFacts.ofTree (note.shift distance) =
      (AnnotationFacts.ofTree note).shift distance := by
  obtain ⟨name, body, span⟩ := note
  cases body with
  | empty => rfl
  | inline value =>
      simp only [AnnotationFacts.ofTree, Annotation.shift, AnnotationBody.shift, Spanned.val_shift,
        canonicalValue_shift]
      rfl
  | block entries =>
      simp only [AnnotationFacts.ofTree, Annotation.shift, AnnotationBody.shift,
        canonicalEntries_shift]
      rfl

theorem AnnotationFacts.map_ofTree_shift (notes : List Annotation) :
    (notes.map <| Annotation.shift distance).map AnnotationFacts.ofTree =
      (notes.map AnnotationFacts.ofTree).map (AnnotationFacts.shift distance) := by
  simp [AnnotationFacts.ofTree_shift]

theorem annotationWarnings_shift (note : Annotation) :
    annotationWarnings (note.shift distance) =
      (annotationWarnings note).map (Diagnostic.shift distance) := by
  obtain ⟨name, body, span⟩ := note
  cases body with
  | empty => rfl
  | inline value => exact valueWarning_shift distance name.val value
  | block entries => exact entryWarnings_shift distance entries

theorem AnnotationFacts.get?_shift (facts : AnnotationFacts) (key : String) :
    (facts.shift distance).get? key = facts.get? key := by
  rw [AnnotationFacts.get?, AnnotationFacts.get?, AnnotationFacts.shift,
    OrderedMap.find?_mapValues, Option.map_map]
  rfl

theorem ServerOptions.ofAnnotations_shift (facts : List AnnotationFacts) :
    ServerOptions.ofAnnotations (facts.map (AnnotationFacts.shift distance)) =
      ServerOptions.ofAnnotations facts := by
  simp [ServerOptions.ofAnnotations, List.filter_map, List.flatMap_map, Function.comp_def,
    AnnotationFacts.shift, OrderedMap.mapValues]

theorem routeDoc?_shift (facts : List AnnotationFacts) :
    routeDoc? (facts.map (AnnotationFacts.shift distance)) = routeDoc? facts := by
  have hname : (fun facts : AnnotationFacts => facts.name.val == "doc") ∘
      AnnotationFacts.shift distance = fun facts => facts.name.val == "doc" := rfl
  rw [routeDoc?, routeDoc?, List.find?_map, hname]
  cases facts.find? fun facts => facts.name.val == "doc" with
  | none => rfl
  | some found =>
      simp only [Option.map_some, AnnotationFacts.get?_shift]
      obtain ⟨_, value, _, _⟩ := found
      cases value <;> rfl

/-- The item that an annotation offers as the name of a handler. -/
def handlerItem? (note : Annotation) : Option (Spanned ValueItem) :=
  if note.name.val == "handler" then
    match note.body with
    | .inline value => value.items.head?
    | _ => none
  else none

theorem handlerItem?_shift (note : Annotation) :
    handlerItem? (note.shift distance) = (handlerItem? note).map (Spanned.shift distance) := by
  obtain ⟨name, body, span⟩ := note
  by_cases hname : name.val = "handler"
  · cases body <;>
      simp [handlerItem?, Annotation.shift, AnnotationBody.shift, ValueList.shift, hname]
  · simp [handlerItem?, Annotation.shift, hname]

/-- The items of inline values do not end at the first byte. -/
def ItemsPlaced (notes : List Annotation) : Prop :=
  ∀ note ∈ notes, ∀ value, note.body = .inline value → ∀ item ∈ value.items, 0 < item.span.stop

/-- The name of a handler moves with its annotations. -/
theorem handlerName?_shift {notes : List Annotation} (hplaced : ItemsPlaced notes) :
    handlerName? (notes.map <| Annotation.shift distance) =
      (handlerName? notes).map (Spanned.shift distance) := by
  have hitem : (notes.map <| Annotation.shift distance).findSome? handlerItem? =
      (notes.findSome? handlerItem?).map (Spanned.shift distance) := by
    rw [List.findSome?_map, List.map_findSome?]
    exact congrArg (List.findSome? · notes) (funext fun note => handlerItem?_shift distance note)
  change Option.bind ((notes.map <| Annotation.shift distance).findSome? handlerItem?) _ =
    (Option.bind (notes.findSome? handlerItem?) _).map (Spanned.shift distance)
  rw [hitem]
  cases hfound : notes.findSome? handlerItem? with
  | none => rfl
  | some item =>
      have hstop : 0 < item.span.stop := by
        obtain ⟨note, hnote, hitem⟩ := List.exists_of_findSome?_eq_some hfound
        unfold handlerItem? at hitem
        split at hitem
        · split at hitem
          · rename_i value hbody
            exact hplaced note hnote value hbody item (List.mem_of_head? hitem)
          · cases hitem
        · cases hitem
      obtain ⟨val, start, stop⟩ := item
      have hquoted : stop + distance - 1 = stop - 1 + distance := by
        simp only at hstop
        omega
      cases val <;>
        simp [Spanned.shift, Span.shift, apply_ite, hquoted, Nat.add_right_comm start distance]

end Values

section Types

variable (count distance : Nat)

theorem TypeExpr.uses_shift (type : TypeExpr) :
    (type.shift distance).uses = type.uses.map (Spanned.shift distance) := by
  induction type with
  | named name =>
      by_cases hbuiltin : isBuiltinType name.val <;> simp [TypeExpr.uses, TypeExpr.shift, hbuiltin]
  | pointer inner span ih => exact ih
  | slice size element span ih => exact ih
  | map key value span ihKey ihValue => simp [TypeExpr.uses, TypeExpr.shift, ihKey, ihValue]
  | interface span => rfl

theorem TypeExpr.shape_shift (type : TypeExpr) (next : NodeId) :
    (type.shift distance).shape (next + count) = (type.shape next).renumber count := by
  induction type generalizing next with
  | named name =>
      by_cases hbuiltin : isBuiltinType name.val <;>
        simp [TypeExpr.shape, TypeExpr.shift, TypeShape.renumber, hbuiltin]
  | pointer inner span ih => simp [TypeExpr.shape, TypeExpr.shift, TypeShape.renumber, ih]
  | slice size element span ih =>
      simp [TypeExpr.shape, TypeExpr.shift, TypeShape.renumber, ih, Function.comp_def]
  | map key value span ihKey ihValue =>
      simp [TypeExpr.shape, TypeExpr.shift, TypeShape.renumber, ihKey, TypeExpr.uses_shift,
        Nat.add_right_comm next count, ihValue]
  | interface span => rfl

end Types

section Subtrees

variable (count distance : Nat)

/-- Wherever it stands, the second subtree is the first one, moved. -/
def Moves (subtree subtree' : Subtree) : Prop :=
  ∀ id, subtree' (id + count) = (subtree id).map (Node.shift count distance)

variable {count distance}

/-- Subtrees in a row at another place. -/
theorem layOut_shift {subtrees subtrees' : List Subtree}
    (hmoves : List.Forall₂ (Moves count distance) subtrees subtrees') (next : NodeId) :
    layOut (next + count) subtrees' =
      ((layOut next subtrees).1.map (· + count),
        (layOut next subtrees).2.map (Node.shift count distance)) := by
  induction hmoves generalizing next with
  | nil => rfl
  | @cons subtree subtree' subtrees subtrees' hfirst _ ih =>
      simp only [layOut, hfirst next, List.length_map, Nat.add_right_comm next count, ih,
        List.map_cons, List.map_append]

theorem leaf_moves {span : Span} {parent : Option NodeId} {kind : NodeKind} :
    Moves count distance (leaf span parent kind)
      (leaf (span.shift distance) (parent.map (· + count)) (kind.shift count distance)) :=
  fun _ => rfl

theorem withChildren_moves {span : Span} {parent : Option NodeId} {kind kind' : NodeId → NodeKind}
    {children children' : NodeId → List Subtree}
    (hkind : ∀ id, kind' (id + count) = (kind id).shift count distance)
    (hchildren : ∀ id, List.Forall₂ (Moves count distance) (children id) (children' (id + count))) :
    Moves count distance (fun id => withChildren span parent (kind id) children id)
      (fun id => withChildren (span.shift distance) (parent.map (· + count)) (kind' id)
        children' id) := by
  intro id
  simp only [withChildren, hkind, Nat.add_right_comm id count, layOut_shift (hchildren id),
    List.map_cons, Node.shift]

theorem useSubtrees_moves (parent : NodeId) (role : ReferenceRole) (type : TypeExpr) :
    List.Forall₂ (Moves count distance) (useSubtrees parent role type)
      (useSubtrees (parent + count) role (type.shift distance)) := by
  rw [useSubtrees, useSubtrees, TypeExpr.uses_shift, List.forall₂_map_left_iff,
    List.forall₂_map_right_iff, List.forall₂_map_right_iff, List.forall₂_same]
  exact fun _ _ => leaf_moves

theorem memberSubtree_moves (struct : NodeId) (line : Member) :
    Moves count distance (memberSubtree struct line)
      (memberSubtree (struct + count) (line.shift distance)) := by
  cases line with
  | field field =>
      refine withChildren_moves (fun id => ?_) fun id => useSubtrees_moves id .field field.type
      rw [Nat.add_right_comm id count, NodeKind.shift, ← TypeExpr.shape_shift count distance]
      rfl
  | embedded embedded =>
      refine withChildren_moves (fun id => ?_) fun id =>
        useSubtrees_moves id .embedded (.named embedded.name)
      rw [Nat.add_right_comm id count, NodeKind.shift, ← TypeExpr.shape_shift count distance]
      rfl
  | skipped input => exact leaf_moves

theorem structSubtree_moves (struct : StructDef) :
    Moves count distance (structSubtree struct) (structSubtree (struct.shift distance)) := by
  rw [structSubtree, structSubtree, StructDef.span_shift]
  refine withChildren_moves (fun _ => rfl) fun id => ?_
  rw [StructDef.shift, Block.shift, List.forall₂_map_left_iff, List.forall₂_map_right_iff,
    List.forall₂_map_right_iff, List.forall₂_same]
  exact fun line _ => memberSubtree_moves id line

theorem typeEntrySubtree_moves (entry : TypeEntry) :
    Moves count distance (typeEntrySubtree entry) (typeEntrySubtree (entry.shift distance)) := by
  cases entry with
  | struct struct => exact structSubtree_moves struct
  | skipped input => exact leaf_moves

theorem optionalUses_shift (type : Option TypeExpr) :
    optionalUses (type.map (TypeExpr.shift distance)) = optionalUses type := by
  cases type with
  | none => rfl
  | some type => simp [optionalUses, TypeExpr.uses_shift]

theorem optionalShape_shift (type : Option TypeExpr) (next : NodeId) :
    (type.map (TypeExpr.shift distance)).map (TypeExpr.shape (next + count)) =
      (type.map (TypeExpr.shape next)).map (TypeShape.renumber count) := by
  cases type with
  | none => rfl
  | some type => simp [TypeExpr.shape_shift]

/-- A route moves with its handler. -/
theorem routeSubtree_moves (service : NodeId) {route : Route}
    (hplaced : ItemsPlaced route.annotations) :
    Moves count distance (routeSubtree service route)
      (routeSubtree (service + count) (route.shift distance)) := by
  have htypes : ∀ (id : NodeId) (role : ReferenceRole) (type : Option TypeExpr),
      List.Forall₂ (Moves count distance) (type.toList.flatMap (useSubtrees id role))
        ((type.map (TypeExpr.shift distance)).toList.flatMap (useSubtrees (id + count) role)) := by
    intro id role type
    cases type with
    | none => exact .nil
    | some type => simpa using useSubtrees_moves id role type
  refine withChildren_moves (fun id => ?_) fun id => ?_
  · simp only [routeFactsAt, Route.shift, AnnotationFacts.map_ofTree_shift,
      handlerName?_shift distance hplaced, Option.isSome_map, Nat.add_right_comm _ count,
      optionalUses_shift, optionalShape_shift, routeDoc?_shift, NodeKind.shift, RouteFacts.shift]
    cases handlerName? route.annotations <;> rfl
  · simp only [routeChildren, Route.shift, handlerName?_shift distance hplaced]
    refine List.rel_append (List.rel_append ?_ (htypes id .request _)) (htypes id .response _)
    cases handlerName? route.annotations with
    | none => exact .nil
    | some name => exact .cons leaf_moves .nil

theorem serviceSubtree_moves {service : Service}
    (hplaced : ∀ route, .route route ∈ service.body.entries → ItemsPlaced route.annotations) :
    Moves count distance (serviceSubtree service) (serviceSubtree (service.shift distance)) := by
  rw [serviceSubtree, serviceSubtree, Service.span_shift]
  refine withChildren_moves (fun _ => ?_) fun id => ?_
  · simp only [NodeKind.shift, Service.shift, AnnotationFacts.map_ofTree_shift,
      ServerOptions.ofAnnotations_shift]
  · rw [Service.shift, Block.shift, List.forall₂_map_left_iff, List.forall₂_map_right_iff,
      List.forall₂_map_right_iff, List.forall₂_same]
    intro entry hentry
    cases entry with
    | route route => exact routeSubtree_moves id (hplaced route hentry)
    | skipped input => exact leaf_moves

/-- A declaration that is moved has its subtrees moved. -/
theorem Declaration.subtrees_moves {found : Declaration}
    (hplaced : ∀ service route, found = .service service →
      .route route ∈ service.body.entries → ItemsPlaced route.annotations) :
    List.Forall₂ (Moves count distance) found.subtrees (found.shift distance).subtrees := by
  cases found with
  | version text span => exact .cons leaf_moves .nil
  | info entries span =>
      refine .cons ?_ .nil
      rw [canonicalEntries_shift]
      exact leaf_moves
  | imports paths span =>
      rw [Declaration.subtrees, Declaration.shift, Declaration.subtrees, List.forall₂_map_left_iff,
        List.forall₂_map_right_iff, List.forall₂_map_right_iff, List.forall₂_same]
      exact fun _ _ => leaf_moves
  | types keyword body =>
      have hentries : (body.shift distance).entries =
          body.entries.map (TypeEntry.shift distance) := by
        cases body <;> rfl
      rw [Declaration.subtrees, Declaration.shift, Declaration.subtrees, hentries,
        List.forall₂_map_left_iff, List.forall₂_map_right_iff, List.forall₂_map_right_iff,
        List.forall₂_same]
      exact fun entry _ => typeEntrySubtree_moves entry
  | service service =>
      exact .cons (serviceSubtree_moves fun route => hplaced service route rfl) .nil
  | skipped input => exact .cons leaf_moves .nil

end Subtrees

/-- The warnings about a declaration move with it. -/
theorem Declaration.warnings_shift (distance : Nat) (found : Declaration) :
    (found.shift distance).warnings = found.warnings.map (Diagnostic.shift distance) := by
  have hnotes : ∀ notes : List Annotation,
      (notes.map <| Annotation.shift distance).flatMap annotationWarnings =
        (notes.flatMap annotationWarnings).map (Diagnostic.shift distance) := by
    intro notes
    rw [List.flatMap_map, List.map_flatMap]
    simp only [annotationWarnings_shift]
  cases found with
  | version | imports | types | skipped => rfl
  | info entries span => exact entryWarnings_shift distance entries
  | service service =>
      have hentry : ∀ entry : ServiceEntry, (entry.shift distance).warnings =
          entry.warnings.map (Diagnostic.shift distance) := by
        intro entry
        cases entry with
        | route route => exact hnotes route.annotations
        | skipped => rfl
      simp only [Declaration.warnings, Declaration.shift, Service.shift, Block.shift, hnotes,
        List.flatMap_map, List.map_append, List.map_flatMap, hentry]

end ApiLang
