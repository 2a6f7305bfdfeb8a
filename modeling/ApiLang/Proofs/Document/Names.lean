/-
The names of a document.  No struct, field or handler of a parsed document is
without a name, whatever the source: their names are words of the source, or were
looked for among the items that are not empty.
-/
import ApiLang.Proofs.Document.Building
import ApiLang.Proofs.Token.Tiling
import ApiLang.Proofs.Tree.Extent
import ApiLang.Proofs.Tree.ReadingFiles

namespace ApiLang

theorem StandsBefore.identifier_ne_empty {lexeme : Lexeme} {rest : List Char}
    (hstands : StandsBefore lexeme rest) {text : String}
    (htoken : lexeme.token = .identifier text) : text ≠ "" := by
  have hwritten := hstands.writtenAs
  rw [htoken] at hwritten
  rcases hwritten with hsame | ⟨hblank, _⟩
  · rintro rfl
    exact hstands.text_ne_nil (Option.some.inj hsame).symm
  · cases hblank

theorem SpellsName.val_ne_empty {start : Nat} {run : List Lexeme} {name : Spanned String}
    (hname : SpellsName start run name) (hrun : Lexed run) : name.val ≠ "" := by
  obtain @⟨first, tail, _, _⟩ := hname
  obtain ⟨_, hstands⟩ := hrun first List.mem_cons_self
  simp [nameAt, hstands.text_ne_nil]

/-- A struct, a field or a handler has a name that is not empty. -/
def NodeKind.Named : NodeKind → Prop
  | .struct name | .field name _ _ | .handler name => name.val ≠ ""
  | _ => True

/-- All nodes of the subtree that should have a name have one. -/
def NamesAll (subtree : Subtree) : Prop :=
  EachNode (fun node => node.kind.Named) subtree

theorem useSubtrees_named (parent : NodeId) (role : ReferenceRole) (type : TypeExpr) :
    ∀ subtree ∈ useSubtrees parent role type, NamesAll subtree := by
  intro subtree hsubtree
  obtain ⟨name, _, rfl⟩ := List.mem_map.mp hsubtree
  exact eachNode_leaf trivial

theorem skippedSubtree_named (parent : Option NodeId) (input : Skipped) :
    NamesAll (skippedSubtree parent input) :=
  eachNode_leaf trivial

theorem SpellsMember.named {start : Nat} {run : List Lexeme} {line : Member}
    (hline : SpellsMember start run line) (hrun : Lexed run) (struct : NodeId) :
    NamesAll (memberSubtree struct line) := by
  cases hline with
  | pointer _ _ _ | embedded _ _ =>
      exact eachNode_withChildren (fun _ _ => trivial) fun id => useSubtrees_named id .embedded _
  | field hname _ _ _ _ | tagged hname _ _ _ _ _ _ =>
      have hnamed := hname.val_ne_empty (hrun.mono (by simp))
      exact eachNode_withChildren (fun _ _ => hnamed) fun id => useSubtrees_named id .field _

theorem SpellsStruct.named {start : Nat} {run : List Lexeme} {struct : StructDef}
    (hstruct : SpellsStruct start run struct) (hrun : Lexed run) :
    NamesAll (structSubtree struct) := by
  obtain @⟨name, text, gap, run, body, hname, _, hbody⟩ := hstruct
  obtain ⟨_, hstands⟩ := hrun name List.mem_cons_self
  have hbodyRun : Lexed run := hrun.mono (by simp)
  refine eachNode_withChildren (fun _ _ => hstands.identifier_ne_empty hname) ?_
  intro id subtree hsubtree
  obtain ⟨line, hline, rfl⟩ := List.mem_map.mp hsubtree
  exact hbody.forall_mem (fun line => NamesAll (memberSubtree id line))
    (fun _ _ line hpiece hspells => hspells.named (hbodyRun.mono hpiece) id)
    (fun _ _ input _ _ => skippedSubtree_named _ input) line hline

/-- A handler that is found is not nameless. -/
theorem handlerName?_ne_empty {notes : List Annotation} {name : Spanned String}
    (hname : handlerName? notes = some name) : name.val ≠ "" := by
  obtain ⟨item, _, hname⟩ := Option.bind_eq_some_iff.mp hname
  split at hname
  · cases hname
  · rename_i hfull
    cases hname
    simpa using hfull

theorem routeSubtree_named (service : NodeId) (route : Route) :
    NamesAll (routeSubtree service route) := by
  refine eachNode_withChildren (fun _ _ => trivial) fun id => ?_
  exact forall_mem_routeChildren (fun _ hname => eachNode_leaf (handlerName?_ne_empty hname))
    (fun type _ => useSubtrees_named id .request type)
    fun type _ => useSubtrees_named id .response type

theorem serviceSubtree_named (service : Service) :
    NamesAll (serviceSubtree service) := by
  refine eachNode_withChildren (fun _ _ => trivial) ?_
  intro id subtree hsubtree
  obtain ⟨entry, _, rfl⟩ := List.mem_map.mp hsubtree
  cases entry with
  | route route => exact routeSubtree_named id route
  | skipped input => exact skippedSubtree_named _ input

theorem SpellsDeclaration.named {start : Nat} {run : List Lexeme} {found : Declaration}
    (hfound : SpellsDeclaration start run found) (hrun : Lexed run) :
    ∀ subtree ∈ found.subtrees, NamesAll subtree := by
  intro subtree hsubtree
  cases hfound with
  | version _ _ _ _ _ | info _ _ _ _ =>
      rw [List.mem_singleton.mp hsubtree]
      exact eachNode_leaf trivial
  | importOne _ _ _ | imports _ _ _ _ =>
      obtain ⟨path, _, rfl⟩ := List.mem_map.mp hsubtree
      exact eachNode_leaf trivial
  | struct _ _ hstruct =>
      rw [List.mem_singleton.mp hsubtree]
      exact hstruct.named (hrun.mono (by simp))
  | @types word gap run block _ _ hblock =>
      have hblockRun : Lexed run := hrun.mono (by simp)
      obtain ⟨entry, hentry, rfl⟩ := List.mem_map.mp hsubtree
      refine hblock.forall_mem (fun entry => NamesAll (typeEntrySubtree entry))
        ?_ (fun _ _ input _ _ => skippedSubtree_named _ input) entry hentry
      rintro _ _ _ hpiece ⟨hstruct⟩
      exact hstruct.named (hblockRun.mono hpiece)
  | service _ =>
      rw [List.mem_singleton.mp hsubtree]
      exact serviceSubtree_named _

/-- The structs, fields and handlers of a parsed document have names. -/
theorem parse_named (source path : String) :
    ∀ node ∈ (Document.parse source path).nodes.toList, node.kind.Named := by
  have hlexed : Lexed (lexemes source.toList) := fun _ => standsBefore_of_mem_lexemes
  have hall := SpellsEntries.forall_mem (parseTokens_spells source.toList)
    (fun found => ∀ subtree ∈ found.subtrees, NamesAll subtree)
    (fun _ _ found hpiece hfound => hfound.named (hlexed.mono hpiece))
    (fun _ _ input _ _ => by simp [Declaration.subtrees, skippedSubtree_named])
  exact parse_eachNode hall path

end ApiLang
