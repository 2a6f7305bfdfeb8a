/-
The listing of symbols.  Symbols are gathered kind by kind and sorted; still each
declaration of a parsed document is listed once, in the order of the source, because
the names of declarations do not overlap.  The name of a service stands before its
routes, and that of a handler before the method of its route.
-/
import ApiLang.Symbol
import ApiLang.Proofs.Document.Index
import ApiLang.Proofs.Document.Sorting

namespace ApiLang

/-- The kind under which a node is listed. -/
def NodeKind.symbolKind? : NodeKind → Option SymbolKind
  | .importPath _ => some .importPath
  | .struct _ => some .struct
  | .service .. => some .service
  | .route _ => some .route
  | .handler _ => some .handler
  | .version _ | .info _ | .field .. | .embedded .. | .typeRef .. | .skipped _ => none

def NodeKind.isListed (kind : NodeKind) : Bool :=
  kind.symbolKind?.isSome

/-- The names of the nodes do not overlap, if both are listed. -/
def Node.NamesApart (left right : Node) : Prop :=
  left.kind.isListed = true → right.kind.isListed = true →
    left.nameSpan.stop ≤ right.nameSpan.start ∨ right.nameSpan.stop ≤ left.nameSpan.start

/-- The names of the listed nodes of a row lie apart between two offsets. -/
structure NamesIn (lo hi : Nat) (nodes : List Node) : Prop where
  within : ∀ node ∈ nodes, node.kind.isListed = true →
    lo ≤ node.nameSpan.start ∧ node.nameSpan.stop ≤ hi
  apart : nodes.Pairwise Node.NamesApart

/-- The names of the listed nodes of a subtree lie apart within a span, wherever the
subtree stands. -/
def SubtreeLists (subtree : Subtree) (span : Span) : Prop :=
  ∀ id, NamesIn span.start span.stop (subtree id)

section Rows

variable {lo hi : Nat} {nodes : List Node}

theorem NamesIn.unlisted (hnodes : ∀ node ∈ nodes, node.kind.isListed = false) :
    NamesIn lo hi nodes := by
  refine ⟨fun node hnode hlisted => ?_, ?_⟩
  · rw [hnodes node hnode] at hlisted
    cases hlisted
  · refine List.pairwise_of_forall_mem_list fun left hleft right _ hlisted => ?_
    rw [hnodes left hleft] at hlisted
    cases hlisted

theorem NamesIn.cons {root : Node}
    (hroot : lo ≤ root.nameSpan.start ∧ root.nameSpan.stop ≤ hi)
    (hapart : ∀ node ∈ nodes, root.NamesApart node) (hnodes : NamesIn lo hi nodes) :
    NamesIn lo hi (root :: nodes) where
  within := List.forall_mem_cons.mpr ⟨fun _ => hroot, hnodes.within⟩
  apart := List.pairwise_cons.mpr ⟨hapart, hnodes.apart⟩

theorem NamesIn.mono {hi' : Nat} (hnodes : NamesIn lo hi nodes) (hhi : hi ≤ hi') :
    NamesIn lo hi' nodes := by
  refine ⟨fun node hnode hlisted => ?_, hnodes.apart⟩
  exact (hnodes.within node hnode hlisted).imp_right hhi.trans'

theorem NamesIn.append_unlisted {more : List Node} (hnodes : NamesIn lo hi nodes)
    (hmore : ∀ node ∈ more, node.kind.isListed = false) : NamesIn lo hi (nodes ++ more) := by
  have hrest : NamesIn lo hi more := .unlisted hmore
  refine ⟨List.forall_mem_append.mpr ⟨hnodes.within, hrest.within⟩,
    List.pairwise_append.mpr ⟨hnodes.apart, hrest.apart, ?_⟩⟩
  intro left _ right hright _ hlisted
  rw [hmore right hright] at hlisted
  cases hlisted

/-- Subtrees side by side have their names apart if their spans lie in order. -/
theorem layOut_namesIn {subtrees : List Subtree} {spans : List Span}
    (hsubtrees : List.Forall₂ SubtreeLists subtrees spans) (hspans : SpansIn lo hi spans)
    (next : NodeId) : NamesIn lo hi (layOut next subtrees).2 := by
  induction hsubtrees generalizing lo next with
  | nil => exact ⟨by simp [layOut], .nil⟩
  | @cons subtree span subtrees spans hfirst _ ih =>
      obtain ⟨hfirstSpan, hothersSpan⟩ := List.forall_mem_cons.mp hspans.within
      obtain ⟨hbefore, hordered⟩ := List.pairwise_cons.mp hspans.ordered
      have hothers := ih ⟨hothersSpan, hordered⟩ (next + (subtree next).length)
      -- The other subtrees also lie behind the end of the first one.
      have hbehindSpans : SpansIn span.stop hi spans :=
        ⟨fun other hother => ⟨hbefore other hother, (hothersSpan other hother).2⟩, hordered⟩
      have hbehind := ih hbehindSpans (next + (subtree next).length)
      refine ⟨List.forall_mem_append.mpr ⟨fun node hnode hlisted => ?_, hothers.within⟩,
        List.pairwise_append.mpr ⟨(hfirst next).apart, hothers.apart, ?_⟩⟩
      · have hinside := (hfirst next).within node hnode hlisted
        omega
      · intro left hleft right hright hleftListed hrightListed
        have hleftInside := (hfirst next).within left hleft hleftListed
        have hrightInside := hbehind.within right hright hrightListed
        omega

theorem leaf_unlisted {span : Span} {parent : Option NodeId} {kind : NodeKind}
    (hkind : kind.isListed = false) (bounds : Span) :
    SubtreeLists (leaf span parent kind) bounds :=
  fun _ => .unlisted (List.forall_mem_singleton.mpr hkind)

end Rows

section Subtrees

variable {start : Nat} {run : List Lexeme}

theorem useNodes_unlisted (parent : NodeId) (role : ReferenceRole) (type : TypeExpr) :
    ∀ node ∈ useNodes parent role type, node.kind.isListed = false :=
  List.forall_mem_map.mpr fun _ _ => rfl

theorem optionalUseNodes_unlisted (parent : NodeId) (role : ReferenceRole)
    (type : Option TypeExpr) :
    ∀ node ∈ optionalUseNodes parent role type, node.kind.isListed = false := by
  intro node hnode
  obtain ⟨type, _, hnode⟩ := List.mem_flatMap.mp hnode
  exact useNodes_unlisted parent role type node hnode

/-- Nothing in a line of a struct is listed. -/
theorem memberSubtree_unlisted (struct : NodeId) (line : Member) :
    EachNode (fun node => node.kind.isListed = false) (memberSubtree struct line) := by
  have huses : ∀ (parent : NodeId) (role : ReferenceRole) (type : TypeExpr),
      ∀ subtree ∈ useSubtrees parent role type,
        EachNode (fun node => node.kind.isListed = false) subtree := by
    intro parent role type subtree hsubtree
    obtain ⟨name, _, rfl⟩ := List.mem_map.mp hsubtree
    exact eachNode_leaf rfl
  cases line with
  | field line => exact eachNode_withChildren (fun _ _ => rfl) fun id => huses id .field _
  | embedded line => exact eachNode_withChildren (fun _ _ => rfl) fun id => huses id .embedded _
  | skipped input => exact eachNode_leaf rfl

theorem SpellsStruct.lists {struct : StructDef} (hstruct : SpellsStruct start run struct)
    (hrun : Lexed run) : SubtreeLists (structSubtree struct) struct.span := by
  intro id
  have hinside := hstruct.nameInside hrun id _ List.mem_cons_self
  have hlines : ∀ node ∈ (layOut (id + 1) (struct.body.entries.map (memberSubtree id))).2,
      node.kind.isListed = false := by
    refine layOut_eachNode (fun subtree hsubtree => ?_) (id + 1)
    obtain ⟨line, _, rfl⟩ := List.mem_map.mp hsubtree
    exact memberSubtree_unlisted id line
  refine .cons ⟨hinside.start_le, hinside.stop_le⟩ ?_ (.unlisted hlines)
  intro node hnode _ hlisted
  rw [hlines node hnode] at hlisted
  cases hlisted

/-- The handler of a route stands before its method. -/
theorem SpellsRoute.handler_bounds {route : Route} (hroute : SpellsRoute start run route)
    {name : Spanned String} (hname : handlerName? route.annotations = some name) :
    route.span.start ≤ name.span.start ∧ name.span.stop ≤ route.method.span.start := by
  obtain ⟨hnotes, _, _, _, _, _, _, _, _⟩ := hroute
  exact handlerName?_bounds hnotes hname

/-- A route is listed from its method on. -/
theorem SpellsRoute.method_start {route : Route} (hroute : SpellsRoute start run route) :
    route.method.span.start ≤ (route.method.span.union route.path.span).start ∧
      route.method.span.start ≤ route.span.stop := by
  obtain ⟨_, _, _, _, _, _, _, _, _⟩ := hroute
  simp only [Span.union, nameAt, spanAt, widthOf_append, widthOf_cons]
  omega

/-- The nodes of a route: its own, its handler, and the uses of types. -/
theorem routeSubtree_nodes (service : NodeId) (route : Route) (id : NodeId) :
    ∃ root, routeSubtree service route id = root ::
        (handlerNodes id (handlerName? route.annotations) ++
          optionalUseNodes id .request route.request ++
          optionalUseNodes id .response route.response) ∧
      root.span = route.span ∧ root.nameSpan = route.method.span.union route.path.span := by
  have hnodes := congrArg (fun children => (layOut (id + 1) children).2)
    (routeChildren_eq id route)
  exact ⟨_, congrArg (List.cons _) (hnodes.trans (congrArg Prod.snd (layOut_leaves (id + 1) _))),
    rfl, rfl⟩

theorem SpellsRoute.lists {route : Route} (hroute : SpellsRoute start run route)
    (hrun : Lexed run) (service : NodeId) :
    SubtreeLists (routeSubtree service route) route.span := by
  intro id
  obtain ⟨hhead, hmethod⟩ := hroute.method_start
  have hinside := hroute.nameInside hrun service id
  have hhandler : NamesIn route.span.start route.method.span.start
      (handlerNodes id (handlerName? route.annotations)) := by
    cases hname : handlerName? route.annotations with
    | none => exact .unlisted (by simp [handlerNodes])
    | some name => exact .cons (hroute.handler_bounds hname) (by simp) (.unlisted (by simp))
  have hchildren := (hhandler.append_unlisted
    (optionalUseNodes_unlisted id .request route.request)).append_unlisted
      (optionalUseNodes_unlisted id .response route.response)
  obtain ⟨root, hnodes, hspan, hname⟩ := routeSubtree_nodes service route id
  rw [hnodes] at hinside ⊢
  have hroot := hinside root List.mem_cons_self
  rw [← hspan]
  refine .cons ⟨hroot.start_le, hroot.stop_le⟩ ?_ (hspan ▸ hchildren.mono hmethod)
  intro node hnode _ hlisted
  rw [hname]
  exact .inr ((hchildren.within node hnode hlisted).2.trans hhead)

/-- The name of a service stands before its routes. -/
theorem SpellsService.routes_spansIn {service : Service}
    (hservice : SpellsService start run service) :
    SpansIn service.name.span.stop service.span.stop
      (service.body.entries.map ServiceEntry.span) := by
  have hwithin := hservice.spansIn.2.within
  obtain ⟨_, _, _, _, _, _, _, hbody⟩ := hservice
  obtain ⟨_, hentries⟩ := hbody.spansIn ServiceEntry.span
    (fun start run entry hentry => hentry.between) (fun input => rfl)
  refine ⟨fun span hspan => ⟨?_, (hwithin span hspan).2⟩, hentries.ordered⟩
  have hstart := (hentries.within span hspan).1
  simp only [nameAt, spanAt, widthOf_append, widthOf_cons] at hstart ⊢
  omega

theorem SpellsService.lists {service : Service} (hservice : SpellsService start run service)
    (hrun : Lexed run) : SubtreeLists (serviceSubtree service) service.span := by
  intro id
  have hinside := hservice.nameInside hrun id _ List.mem_cons_self
  have hbefore := hservice.routes_spansIn
  have hwithin := hservice.spansIn.2
  have hentries : List.Forall₂ SubtreeLists
      (service.body.entries.map (serviceEntrySubtree id))
      (service.body.entries.map ServiceEntry.span) := by
    obtain @⟨_, _, _, _, bodyRun, _, _, _, _, _, _, _, _, _, _, _, hbody⟩ := hservice
    have hbodyRun : Lexed bodyRun := fun lexeme hlexeme => hrun lexeme (by simp [hlexeme])
    rw [List.forall₂_map_left_iff, List.forall₂_map_right_iff, List.forall₂_same]
    refine hbody.forall_mem
      (fun entry => SubtreeLists (serviceEntrySubtree id entry) entry.span) ?_
      (fun _ _ input _ _ => leaf_unlisted rfl input.span)
    rintro _ _ _ hpiece ⟨hroute⟩
    exact hroute.lists (hbodyRun.mono hpiece) id
  have hroutes := layOut_namesIn hentries hbefore (id + 1)
  refine .cons ⟨hinside.start_le, hinside.stop_le⟩ ?_ (layOut_namesIn hentries hwithin (id + 1))
  intro node hnode _ hlisted
  exact .inl (hroutes.within node hnode hlisted).1

theorem importPath_lists (path : Spanned String) :
    SubtreeLists (leaf path.span none (.importPath path)) path.span :=
  fun _ => .cons ⟨le_refl _, le_refl _⟩ (by simp) (.unlisted (by simp))

theorem SpellsDeclaration.lists {found : Declaration} (hfound : SpellsDeclaration start run found)
    (hrun : Lexed run) : List.Forall₂ SubtreeLists found.subtrees found.itemSpans := by
  cases hfound with
  | version | info => exact .cons (leaf_unlisted rfl _) .nil
  | importOne | imports =>
      rw [Declaration.subtrees, Declaration.itemSpans, List.forall₂_map_left_iff,
        List.forall₂_map_right_iff, List.forall₂_same]
      exact fun path _ => importPath_lists path
  | struct _ _ hstruct => exact .cons (hstruct.lists (hrun.mono (by simp))) .nil
  | @types word gap run block _ _ hblock =>
      have hblockRun : Lexed run := hrun.mono (by simp)
      rw [Declaration.subtrees, Declaration.itemSpans, List.forall₂_map_left_iff,
        List.forall₂_map_right_iff, List.forall₂_same]
      refine hblock.forall_mem (fun entry => SubtreeLists (typeEntrySubtree entry) entry.span)
        ?_ (fun _ _ input _ _ => leaf_unlisted rfl input.span)
      rintro _ _ _ hpiece ⟨hstruct⟩
      exact hstruct.lists (hblockRun.mono hpiece)
  | service hservice => exact .cons (hservice.lists hrun) .nil

end Subtrees

/-- The names of the listed nodes of a parsed document do not overlap. -/
theorem parse_namesApart (source path : String) :
    (Document.parse source path).nodes.toList.Pairwise Node.NamesApart := by
  have hfile := parseTokens_spells source.toList
  have hlexed : Lexed (lexemes source.toList) := fun _ => standsBefore_of_mem_lexemes
  have hall := SpellsEntries.forall_mem hfile
    (fun found => List.Forall₂ SubtreeLists found.subtrees found.itemSpans)
    (fun _ _ found hpiece hfound => hfound.lists (hlexed.mono hpiece))
    (fun _ _ input _ _ => .cons (leaf_unlisted rfl _) .nil)
  have hsame : List.Forall₂ (fun found other : Declaration =>
      List.Forall₂ SubtreeLists found.subtrees other.itemSpans) _ _ :=
    List.forall₂_same.mpr hall
  rw [parse_nodes]
  exact (layOut_namesIn (List.rel_flatMap hsame fun _ _ => id) hfile.spansIn 0).apart

/-- The symbol of a node, if its kind is listed.  A route goes by its method and its
path. -/
def Node.symbol? (style : NamingStyle) (document : Document) (node : Node) : Option Symbol :=
  let symbol (kind : SymbolKind) (name : String) (span : Span) (stem : Option String) : Symbol :=
    { name, kind, span, position := document.position span.start, fileStem := stem }
  match node.kind with
  | .importPath path => some (symbol .importPath path.val path.span none)
  | .struct name => some (symbol .struct name.val name.span none)
  | .service name .. => some (symbol .service name.val name.span none)
  | .route facts => some (symbol .route (routeKey facts.method.val facts.path.val)
      (facts.method.span.union facts.path.span) none)
  | .handler name =>
    some (symbol .handler name.val name.span (some (style.format (handlerStem name.val))))
  | .version _ | .info _ | .field .. | .embedded .. | .typeRef .. | .skipped _ => none

/-- One symbol for each node that is listed, in the order of the nodes. -/
def Document.nodeSymbols (style : NamingStyle) (document : Document) : List Symbol :=
  document.nodes.toList.filterMap (Node.symbol? style document)

section Symbols

variable {style : NamingStyle} {document : Document}

/-- The symbol of a node stands at its name. -/
theorem Node.symbol?_eq_some {node : Node} {symbol : Symbol}
    (hsymbol : node.symbol? style document = some symbol) :
    node.kind.isListed = true ∧ symbol.span = node.nameSpan ∧
      symbol.position = document.position symbol.span.start ∧
        (symbol.fileStem.isSome = true ↔ symbol.kind = .handler) := by
  unfold Node.symbol? at hsymbol
  cases hkind : node.kind with
  | importPath | struct | service | route | handler =>
      rw [hkind] at hsymbol
      cases hsymbol
      rw [Node.nameSpan, hkind]
      exact ⟨rfl, rfl, rfl, by simp⟩
  | version | info | field | embedded | typeRef | skipped =>
      rw [hkind] at hsymbol
      cases hsymbol

theorem SymbolKind.nodes_eq (document : Document) (kind : SymbolKind) :
    kind.nodes document = document.nodesWhere fun node => node.symbolKind? == some kind := by
  cases kind with
  | service =>
      refine congrArg document.nodesWhere (funext fun node => ?_)
      cases node <;> rfl
  | importPath | struct | route | handler =>
      rw [SymbolKind.nodes, Document.declarationsOf]
      refine congrArg document.nodesWhere (funext fun node => ?_)
      cases node <;> rfl

/-- The symbol of a node under one kind is its symbol, if it has that kind. -/
theorem symbolOf?_eq {id : NodeId} {node : Node} (hget : document.get? id = some node)
    (kind : SymbolKind) :
    (if node.kind.symbolKind? == some kind then symbolOf? style document kind id else none) =
      (node.symbol? style document).filter fun symbol => symbol.kind = kind := by
  unfold symbolOf? Node.symbol? Node.listing?
  rw [hget]
  cases hkind : node.kind with
  | importPath | struct | service | route | handler =>
      cases kind <;> simp [hkind, NodeKind.symbolKind?, NodeKind.name?, Option.filter,
        RouteFacts.key, RouteFacts.headSpan]
  | version | info | field | embedded | typeRef | skipped => simp [NodeKind.symbolKind?]

theorem Document.numbered_map_snd (document : Document) :
    document.numbered.map Prod.snd = document.nodes.toList := by
  rw [Document.numbered, List.map_map]
  exact List.zipIdx_map_fst 0 _

theorem symbolsOfKind_eq (kind : SymbolKind) :
    symbolsOfKind style document kind =
      (document.nodeSymbols style).filter fun symbol => symbol.kind = kind := by
  rw [symbolsOfKind, SymbolKind.nodes_eq, Document.nodesWhere, List.filterMap_map,
    List.filterMap_filter, Document.nodeSymbols, ← document.numbered_map_snd, List.filterMap_map,
    List.filter_filterMap]
  refine List.filterMap_congr fun numbered hnumbered => ?_
  exact symbolOf?_eq (Document.mem_numbered.mp hnumbered) kind

/-- Symbols gathered kind by kind are all symbols. -/
theorem flatMap_kinds_perm (listing : List Symbol) :
    (SymbolKind.all.flatMap fun kind => listing.filter fun symbol => symbol.kind = kind).Perm
      listing := by
  induction listing with
  | nil => exact .nil
  | cons symbol others ih =>
      have hown : (SymbolKind.all.flatMap fun kind =>
          if symbol.kind = kind then [symbol] else []) = [symbol] := by
        cases symbol.kind <;> rfl
      have hcons : ∀ kind, (symbol :: others).filter (fun symbol => symbol.kind = kind) =
          (if symbol.kind = kind then [symbol] else []) ++
            others.filter fun symbol => symbol.kind = kind := by
        intro kind
        by_cases hkind : symbol.kind = kind <;> simp [hkind]
      simp only [hcons]
      refine (List.flatMap_append_perm _ _ _).symm.trans ?_
      rw [hown]
      exact ih.cons symbol

theorem filter_flatMap_kinds (listing : List Symbol) (kind : SymbolKind) :
    (SymbolKind.all.flatMap fun kind => listing.filter fun symbol => symbol.kind = kind).filter
      (fun symbol => symbol.kind = kind) = listing.filter fun symbol => symbol.kind = kind := by
  have hother : ∀ other, (listing.filter fun symbol => symbol.kind = other).filter
      (fun symbol => symbol.kind = kind) =
        if other = kind then listing.filter fun symbol => symbol.kind = kind else [] := by
    intro other
    rw [List.filter_filter]
    split
    · rename_i hsame
      simp [hsame]
    · rename_i hdiffer
      refine List.filter_eq_nil_iff.mpr fun symbol _ => ?_
      simp only [Bool.and_eq_true, decide_eq_true_eq]
      rintro ⟨rfl, rfl⟩
      exact hdiffer rfl
  rw [List.filter_flatMap]
  simp only [hother]
  cases kind <;> simp [SymbolKind.all]

/-- Sorting and leaving out can change places. -/
theorem mergeSort_key_filter {α : Type} (key : α → Nat) (items : List α) (test : α → Bool) :
    ((items.filter test).mergeSort fun a b => key a ≤ key b) =
      (items.mergeSort fun a b => key a ≤ key b).filter test := by
  apply eq_of_pairwise_of_filter (pairwise_mergeSort_key key _)
    ((pairwise_mergeSort_key key _).filter _)
  intro k
  calc List.filter _ ((items.filter test).mergeSort fun a b => key a ≤ key b)
    _ = (items.filter test).filter fun a => key a = k := filter_mergeSort_key key _ k
    _ = (items.filter fun a => key a = k).filter test := List.filter_comm _ _ _
    _ = ((items.mergeSort fun a b => key a ≤ key b).filter fun a => key a = k).filter test := by
        rw [filter_mergeSort_key]
    _ = _ := List.filter_comm _ _ _

theorem flatMap_symbolsOfKind (style : NamingStyle) (document : Document)
    (kinds : List SymbolKind) :
    kinds.flatMap (symbolsOfKind style document) = kinds.flatMap fun kind =>
      (document.nodeSymbols style).filter fun symbol => symbol.kind = kind :=
  congrArg (kinds.flatMap ·) (funext symbolsOfKind_eq)

/-- The symbols are those of the nodes, in some order. -/
theorem symbols_perm (style : NamingStyle) (document : Document) :
    (symbols style document none).Perm (document.nodeSymbols style) := by
  refine (List.mergeSort_perm _ _).trans ?_
  rw [flatMap_symbolsOfKind]
  exact flatMap_kinds_perm _

/-- Asking for one kind leaves out the others. -/
theorem symbols_some (style : NamingStyle) (document : Document) (kind : SymbolKind) :
    symbols style document (some kind) =
      (symbols style document none).filter fun symbol => symbol.kind = kind := by
  rw [symbols, symbols, flatMap_symbolsOfKind, flatMap_symbolsOfKind,
    ← mergeSort_key_filter fun symbol : Symbol => symbol.span.start, filter_flatMap_kinds,
    List.flatMap_singleton]

/-- Every symbol is that of a node. -/
theorem exists_node_of_mem_symbols {kind : Option SymbolKind} {symbol : Symbol}
    (hsymbol : symbol ∈ symbols style document kind) :
    ∃ node ∈ document.nodes.toList, node.symbol? style document = some symbol := by
  have hall : symbol ∈ symbols style document none := by
    cases kind with
    | none => exact hsymbol
    | some kind =>
        rw [symbols_some] at hsymbol
        exact List.mem_of_mem_filter hsymbol
  exact List.mem_filterMap.mp ((symbols_perm style document).mem_iff.mp hall)

/-- Symbols that do not overlap come in the order of the source. -/
theorem symbols_ordered (hapart : document.nodes.toList.Pairwise Node.NamesApart)
    (hproper : ∀ node ∈ document.nodes.toList, node.nameSpan.start < node.nameSpan.stop) :
    (symbols style document none).Pairwise fun left right =>
      left.span.start < right.span.start ∧ left.span.stop ≤ right.span.start := by
  have hnodes : (document.nodeSymbols style).Pairwise fun left right =>
      left.span.stop ≤ right.span.start ∨ right.span.stop ≤ left.span.start := by
    refine List.Pairwise.filterMap _ ?_ hapart
    intro left right hapart first hfirst second hsecond
    obtain ⟨hleft, hleftSpan, _⟩ := Node.symbol?_eq_some hfirst
    obtain ⟨hright, hrightSpan, _⟩ := Node.symbol?_eq_some hsecond
    rw [hleftSpan, hrightSpan]
    exact hapart hleft hright
  have hsymbols := ((symbols_perm style document).pairwise_iff Or.symm).mpr hnodes
  have hsorted : (symbols style document none).Pairwise fun left right =>
      left.span.start ≤ right.span.start :=
    pairwise_mergeSort_key (fun symbol : Symbol => symbol.span.start) _
  refine (hsorted.and hsymbols).imp_of_mem ?_
  intro left right hleft hright hboth
  obtain ⟨leftNode, hleftNode, hleftSymbol⟩ := exists_node_of_mem_symbols hleft
  obtain ⟨rightNode, hrightNode, hrightSymbol⟩ := exists_node_of_mem_symbols hright
  have hleftProper := hproper leftNode hleftNode
  have hrightProper := hproper rightNode hrightNode
  rw [← (Node.symbol?_eq_some hleftSymbol).2.1] at hleftProper
  rw [← (Node.symbol?_eq_some hrightSymbol).2.1] at hrightProper
  omega

end Symbols

/-- The symbols of a document: one for each node of a listed kind, in the order of the
source and apart from each other.  Asking for one kind picks from them, and handlers
are the ones that have a file. -/
structure Document.ListsSymbols (document : Document) (style : NamingStyle) : Prop where
  each_once : (symbols style document none).Perm (document.nodeSymbols style)
  ordered : (symbols style document none).Pairwise fun left right =>
    left.span.start < right.span.start ∧ left.span.stop ≤ right.span.start
  filtered : ∀ kind, symbols style document (some kind) =
    (symbols style document none).filter fun symbol => symbol.kind = kind
  stems : ∀ kind, ∀ symbol ∈ symbols style document kind,
    symbol.fileStem.isSome = true ↔ symbol.kind = .handler

/-- The symbols of every parsed document are listed so, in every naming style. -/
theorem parse_listsSymbols (source path : String) (style : NamingStyle) :
    (Document.parse source path).ListsSymbols style := by
  constructor
  · exact symbols_perm style _
  · refine symbols_ordered (parse_namesApart source path) fun node hnode => ?_
    exact (parse_nameInside source path node hnode).proper
  · exact symbols_some style _
  · intro kind symbol hsymbol
    obtain ⟨node, _, hnode⟩ := exists_node_of_mem_symbols hsymbol
    exact (Node.symbol?_eq_some hnode).2.2.2

end ApiLang
