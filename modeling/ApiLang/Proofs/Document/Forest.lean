/-
Numbering grows trees.  The nodes of a document make up a forest: each node stands
in front of the trees of its children, which stand side by side in the order in
which it lists them.  So a node comes before what it owns, its descendants follow it
without a gap, and children and parents agree.
-/
import ApiLang.Proofs.Document.Nesting
import Mathlib.Logic.Relation

namespace ApiLang

/-- Nodes in a row from place `next` on that make up trees with these roots.  Each
root has the given parent, and the trees of its children stand behind it. -/
inductive Forest : Option NodeId → Nat → List Nat → List Node → Prop
  | nil {parent : Option NodeId} {next : Nat} : Forest parent next [] []
  | cons {parent : Option NodeId} {next : Nat} {node : Node} {roots : List Nat}
      {inner rest : List Node} (hparent : node.parent = parent)
      (hinner : Forest (some next) (next + 1) node.children inner)
      (hrest : Forest parent (next + 1 + inner.length) roots rest) :
      Forest parent next (next :: roots) (node :: (inner ++ rest))

/-- The list holds exactly the places that satisfy `P`, each once and in increasing
order. -/
structure Enumerates (ids : List Nat) (P : Nat → Prop) : Prop where
  increasing : ids.Pairwise (· < ·)
  mem_iff : ∀ id, id ∈ ids ↔ P id

/-- A list in increasing order is determined by what it holds. -/
theorem Enumerates.unique {ids others : List Nat} {P : Nat → Prop} (hids : Enumerates ids P)
    (hothers : Enumerates others P) : ids = others := by
  have hperm : ids.Perm others := by
    refine (List.perm_ext_iff_of_nodup (hids.increasing.imp Nat.ne_of_lt)
      (hothers.increasing.imp Nat.ne_of_lt)).mpr fun id => ?_
    rw [hids.mem_iff, hothers.mem_iff]
  refine hperm.eq_of_pairwise ?_ hids.increasing hothers.increasing
  intro left right _ _ hlt hgt
  exact absurd hlt (Nat.lt_asymm hgt)

/-- The left node starts first.  If it has no children, it ends before the right one
starts. -/
def Node.ComesBefore (left right : Node) : Prop :=
  left.span.start ≤ right.span.start ∧ (left.children = [] → left.span.stop ≤ right.span.start)

/-- The node at place `id` has the parent `owner`. -/
def HasParent (lookup : NodeId → Option Node) (owner id : Nat) : Prop :=
  ∃ node, lookup id = some node ∧ node.parent = some owner

section Row

variable {first : Node} {inner : List Node}

theorem getElem?_inner (rest : List Node) {i : Nat} (hbound : i < inner.length) :
    (first :: (inner ++ rest))[i + 1]? = inner[i]? := by
  rw [List.getElem?_cons_succ, List.getElem?_append_left hbound]

theorem getElem?_rest (rest : List Node) (i : Nat) :
    (first :: (inner ++ rest))[inner.length + i + 1]? = rest[i]? := by
  rw [List.getElem?_cons_succ, List.getElem?_append_right (Nat.le_add_right _ _),
    Nat.add_sub_cancel_left]

/-- A node in a row is the first one, one of the tree behind it, or one of the rest. -/
theorem getElem?_row {rest : List Node} {i : Nat} {node : Node}
    (hnode : (first :: (inner ++ rest))[i]? = some node) :
    i = 0 ∧ node = first ∨
      (∃ k < inner.length, i = k + 1 ∧ inner[k]? = some node) ∨
        ∃ k, i = inner.length + k + 1 ∧ rest[k]? = some node := by
  cases i with
  | zero => exact .inl ⟨rfl, (Option.some.inj hnode).symm⟩
  | succ k =>
      by_cases hinner : k < inner.length
      · exact .inr (.inl ⟨k, hinner, rfl, (getElem?_inner rest hinner).symm.trans hnode⟩)
      · obtain ⟨j, rfl⟩ := Nat.exists_eq_add_of_le (Nat.le_of_not_lt hinner)
        exact .inr (.inr ⟨j, rfl, (getElem?_rest rest j).symm.trans hnode⟩)

end Row

namespace Forest

variable {parent : Option NodeId} {next : Nat} {roots : List Nat} {nodes : List Node}

/-- A root is a node of the forest, and has the parent of the forest. -/
theorem exists_root (hforest : Forest parent next roots nodes) :
    ∀ root ∈ roots, ∃ i node, root = next + i ∧ nodes[i]? = some node ∧ node.parent = parent := by
  induction hforest with
  | nil => simp
  | @cons parent next node roots inner rest hparent _ _ _ ih =>
      refine List.forall_mem_cons.mpr ⟨⟨0, node, rfl, rfl, hparent⟩, fun root hroot => ?_⟩
      obtain ⟨i, found, rfl, hfound, hshared⟩ := ih root hroot
      exact ⟨inner.length + i + 1, found, by omega, (getElem?_rest rest i).trans hfound, hshared⟩

theorem roots_increasing (hforest : Forest parent next roots nodes) :
    roots.Pairwise (· < ·) := by
  induction hforest with
  | nil => exact .nil
  | cons _ _ hrest _ ih =>
      refine List.pairwise_cons.mpr ⟨fun root hroot => ?_, ih⟩
      obtain ⟨i, _, rfl, _⟩ := hrest.exists_root root hroot
      omega

/-- Behind each node of a forest stand the trees of its children. -/
theorem exists_inner (hforest : Forest parent next roots nodes) {i : Nat} {node : Node}
    (hnode : nodes[i]? = some node) :
    ∃ inner, Forest (some (next + i)) (next + i + 1) node.children inner ∧
      i + 1 + inner.length ≤ nodes.length ∧
        ∀ k < inner.length, nodes[i + 1 + k]? = inner[k]? := by
  induction hforest generalizing i with
  | nil => cases hnode
  | @cons parent next first roots inner rest _ hinner _ ihInner ihRest =>
      rw [List.length_cons, List.length_append]
      rcases getElem?_row hnode with ⟨rfl, rfl⟩ | ⟨m, _, rfl, hfound⟩ | ⟨m, rfl, hfound⟩
      · refine ⟨inner, hinner, by omega, fun k hk => ?_⟩
        rw [Nat.add_comm, getElem?_inner rest hk]
      · obtain ⟨own, hown, hlength, hplaces⟩ := ihInner hfound
        have hplace : next + 1 + m = next + (m + 1) := by omega
        refine ⟨own, hplace ▸ hown, by omega, fun k hk => ?_⟩
        have hindex : m + 1 + 1 + k = m + 1 + k + 1 := by omega
        rw [hindex, getElem?_inner rest (by omega), hplaces k hk]
      · obtain ⟨own, hown, hlength, hplaces⟩ := ihRest hfound
        have hplace : next + 1 + inner.length + m = next + (inner.length + m + 1) := by omega
        refine ⟨own, hplace ▸ hown, by omega, fun k hk => ?_⟩
        have hindex : inner.length + m + 1 + 1 + k = inner.length + (m + 1 + k) + 1 := by omega
        rw [hindex, getElem?_rest, hplaces k hk]

/-- A node of a forest is a root, or an earlier node lists it among its children. -/
theorem exists_owner (hforest : Forest parent next roots nodes) {i : Nat} {node : Node}
    (hnode : nodes[i]? = some node) :
    (node.parent = parent ∧ next + i ∈ roots) ∨
      ∃ j owner, j < i ∧ nodes[j]? = some owner ∧ node.parent = some (next + j) ∧
        next + i ∈ owner.children := by
  induction hforest generalizing i with
  | nil => cases hnode
  | @cons parent next first roots inner rest hparent _ _ ihInner ihRest =>
      rcases getElem?_row hnode with ⟨rfl, rfl⟩ | ⟨k, hk, rfl, hfound⟩ | ⟨k, rfl, hfound⟩
      · exact .inl ⟨hparent, List.mem_cons_self⟩
      · have hplace : next + 1 + k = next + (k + 1) := by omega
        rcases ihInner hfound with ⟨hfirst, hmem⟩ | ⟨j, owner, hlt, howner, hchild, hmem⟩
        · exact .inr ⟨0, first, Nat.succ_pos k, rfl, hfirst, hplace ▸ hmem⟩
        · refine .inr ⟨j + 1, owner, by omega, ?_, ?_, hplace ▸ hmem⟩
          · exact (getElem?_inner rest (hlt.trans hk)).trans howner
          · rw [hchild]
            exact congrArg some (by omega)
      · have hplace : next + 1 + inner.length + k = next + (inner.length + k + 1) := by omega
        rcases ihRest hfound with ⟨hroot, hmem⟩ | ⟨j, owner, hlt, howner, hchild, hmem⟩
        · exact .inl ⟨hroot, List.mem_cons_of_mem _ (hplace ▸ hmem)⟩
        · refine .inr ⟨inner.length + j + 1, owner, by omega, ?_, ?_, hplace ▸ hmem⟩
          · exact (getElem?_rest rest j).trans howner
          · rw [hchild]
            exact congrArg some (by omega)

/-- The children of a node stand behind it, within the forest. -/
theorem children_bounds (hforest : Forest parent next roots nodes) {i : Nat} {node : Node}
    (hnode : nodes[i]? = some node) {child : Nat} (hchild : child ∈ node.children) :
    next + i < child ∧ child < next + nodes.length := by
  obtain ⟨inner, hinner, hlength, _⟩ := hforest.exists_inner hnode
  obtain ⟨k, found, rfl, hfound, _⟩ := hinner.exists_root child hchild
  have hbound := (List.getElem?_eq_some_iff.mp hfound).1
  omega

/-- The roots of a whole forest are the nodes without a parent. -/
theorem enumerates_roots (hforest : Forest none 0 roots nodes) :
    Enumerates roots fun id => ∃ node, nodes[id]? = some node ∧ node.parent = none := by
  refine ⟨hforest.roots_increasing, fun id => ⟨fun hroot => ?_, ?_⟩⟩
  · obtain ⟨i, node, rfl, hnode, hparent⟩ := hforest.exists_root id hroot
    rw [Nat.zero_add]
    exact ⟨node, hnode, hparent⟩
  · rintro ⟨node, hnode, hparent⟩
    rcases hforest.exists_owner hnode with ⟨_, hroot⟩ | ⟨_, _, _, _, howned, _⟩
    · rwa [Nat.zero_add] at hroot
    · rw [hparent] at howned
      cases howned

/-- A node with a parent is listed by an earlier node, its parent. -/
theorem exists_parent (hforest : Forest none 0 roots nodes) {id owner : Nat} {node : Node}
    (hnode : nodes[id]? = some node) (hparent : node.parent = some owner) :
    owner < id ∧ ∃ parent, nodes[owner]? = some parent ∧ id ∈ parent.children := by
  rcases hforest.exists_owner hnode with ⟨hroot, _⟩ | ⟨j, parent, hlt, hfound, howned, hmem⟩
  · rw [hparent] at hroot
    cases hroot
  · rw [Nat.zero_add] at howned hmem
    rw [hparent] at howned
    cases howned
    exact ⟨hlt, parent, hfound, hmem⟩

/-- The children of a node are the nodes whose parent it is. -/
theorem enumerates_children (hforest : Forest none 0 roots nodes) {id : Nat} {node : Node}
    (hnode : nodes[id]? = some node) :
    Enumerates node.children (HasParent (nodes[·]?) id) := by
  obtain ⟨inner, hinner, _, hplaces⟩ := hforest.exists_inner hnode
  rw [Nat.zero_add] at hinner
  refine ⟨hinner.roots_increasing, fun child => ⟨fun hchild => ?_, ?_⟩⟩
  · obtain ⟨k, found, rfl, hfound, hparent⟩ := hinner.exists_root child hchild
    have hbound := (List.getElem?_eq_some_iff.mp hfound).1
    exact ⟨found, (hplaces k hbound).trans hfound, hparent⟩
  · rintro ⟨found, hfound, hparent⟩
    obtain ⟨_, owner, howner, hmem⟩ := hforest.exists_parent hfound hparent
    rw [hnode] at howner
    cases howner
    exact hmem

/-- What descends from a node follows it without a gap. -/
theorem descends_iff (hforest : Forest none 0 roots nodes) {id : Nat} {node : Node}
    (hnode : nodes[id]? = some node) :
    ∃ stop, ∀ other, Relation.TransGen (HasParent (nodes[·]?)) id other ↔
      id < other ∧ other < stop := by
  obtain ⟨inner, hinner, _, hplaces⟩ := hforest.exists_inner hnode
  rw [Nat.zero_add] at hinner
  refine ⟨id + 1 + inner.length, fun other => ⟨fun hdescends => ?_, fun ⟨hlo, hhi⟩ => ?_⟩⟩
  · -- A child of the node, or of one of the nodes behind it, is one of these.
    induction hdescends with
    | single hchild =>
        have hmem := ((hforest.enumerates_children hnode).mem_iff _).mpr hchild
        obtain ⟨k, found, rfl, hfound, _⟩ := hinner.exists_root _ hmem
        have hbound := (List.getElem?_eq_some_iff.mp hfound).1
        omega
    | @tail middle last _ hchild ih =>
        obtain ⟨k, rfl⟩ := Nat.exists_eq_add_of_lt ih.1
        obtain ⟨found, hfound, hparent⟩ := hchild
        obtain ⟨_, owner, howner, hmem⟩ := hforest.exists_parent hfound hparent
        have hinside : inner[k]? = some owner := by
          rw [← hplaces k (by omega), ← howner]
          congr 1
          omega
        have hbounds := hinner.children_bounds hinside hmem
        omega
  · -- The owner of a node behind `id` is `id`, or stands between the two.
    have hbehind : ∀ k < inner.length,
        Relation.TransGen (HasParent (nodes[·]?)) id (id + 1 + k) := by
      intro k
      induction k using Nat.strong_induction_on with
      | _ k ih =>
          intro hk
          have hplace := (hplaces k hk).trans (List.getElem?_eq_getElem hk)
          rcases hinner.exists_owner (List.getElem?_eq_getElem hk) with
            ⟨hparent, _⟩ | ⟨j, _, hlt, _, hparent, _⟩
          · exact .single ⟨inner[k], hplace, hparent⟩
          · exact (ih j hlt (hlt.trans hk)).tail ⟨inner[k], hplace, hparent⟩
    obtain ⟨k, rfl⟩ := Nat.exists_eq_add_of_le (Nat.succ_le_of_lt hlo)
    exact hbehind k (by omega)

section Spans

variable {lookup : NodeId → Option Node}

/-- All nodes of a forest lie within its owner, if each lies within its parent. -/
theorem within (hforest : Forest parent next roots nodes) (hstand : StandAt lookup next nodes)
    (hnests : ∀ node ∈ nodes, NodeNests lookup node) {place : NodeId} {owner : Node}
    (hparent : parent = some place) (howner : lookup place = some owner) :
    ∀ node ∈ nodes, owner.span.contains node.span = true := by
  induction hforest generalizing place owner with
  | nil => simp
  | @cons parent next first roots inner rest hfirst _ _ ihInner ihRest =>
      obtain ⟨hfirstNests, hothers⟩ := List.forall_mem_cons.mp hnests
      obtain ⟨hinnerNests, hrestNests⟩ := List.forall_mem_append.mp hothers
      have hbehind := hstand.tail
      obtain ⟨found, hfound, hcontains⟩ := hfirstNests.within place (hfirst.trans hparent)
      rw [howner] at hfound
      cases hfound
      refine List.forall_mem_cons.mpr ⟨hcontains, List.forall_mem_append.mpr ⟨?_, ?_⟩⟩
      · intro node hnode
        have hinside := ihInner hbehind.left hinnerNests rfl hstand.head node hnode
        simp only [Span.contains, Bool.and_eq_true, decide_eq_true_eq] at hcontains hinside ⊢
        omega
      · exact ihRest hbehind.right hrestNests hparent howner

/-- A forest without roots has no nodes. -/
theorem eq_nil (hforest : Forest parent next roots nodes) (hroots : roots = []) : nodes = [] := by
  cases hforest with
  | nil => rfl
  | cons => cases hroots

/-- If the nodes nest and none ends before it starts, they come in order. -/
theorem ordered (hforest : Forest parent next roots nodes)
    (hstand : StandAt lookup next nodes) (hnests : ∀ node ∈ nodes, NodeNests lookup node)
    (hproper : ∀ node ∈ nodes, node.span.start ≤ node.span.stop)
    (hroots : roots.IsChain (Precedes lookup)) : nodes.Pairwise Node.ComesBefore := by
  induction hforest with
  | nil => exact .nil
  | @cons parent next first roots inner rest _ hinner hrest ihInner ihRest =>
      obtain ⟨hfirstNests, hothers⟩ := List.forall_mem_cons.mp hnests
      obtain ⟨hinnerNests, hrestNests⟩ := List.forall_mem_append.mp hothers
      obtain ⟨hfirstProper, hothersProper⟩ := List.forall_mem_cons.mp hproper
      obtain ⟨hinnerProper, hrestProper⟩ := List.forall_mem_append.mp hothersProper
      have hbehind := hstand.tail
      have hinnerOrdered := ihInner hbehind.left hinnerNests hinnerProper hfirstNests.ordered
      have hrestOrdered := ihRest hbehind.right hrestNests hrestProper hroots.tail
      have hinside : ∀ node ∈ inner, first.span.start ≤ node.span.start ∧
          node.span.stop ≤ first.span.stop := by
        intro node hnode
        have hcontains := hinner.within hbehind.left hinnerNests rfl hstand.head node hnode
        simpa [Span.contains] using hcontains
      -- The first root of the rest starts where the tree in front of it ends, or behind.
      have houtside : ∀ node ∈ rest, first.span.stop ≤ node.span.start := by
        cases hrest with
        | nil => simp
        | @cons _ _ second _ _ _ _ _ _ =>
            obtain ⟨left, right, hleft, hright, hle⟩ := hroots.rel
            rw [hstand.head] at hleft
            rw [hbehind.right.head] at hright
            cases hleft
            cases hright
            refine List.forall_mem_cons.mpr ⟨hle, fun node hnode => ?_⟩
            exact hle.trans ((List.pairwise_cons.mp hrestOrdered).1 node hnode).1
      refine List.pairwise_cons.mpr ⟨List.forall_mem_append.mpr ⟨?_, ?_⟩,
        List.pairwise_append.mpr ⟨hinnerOrdered, hrestOrdered, ?_⟩⟩
      · intro node hnode
        refine ⟨(hinside node hnode).1, fun hleaf => ?_⟩
        rw [hinner.eq_nil hleaf] at hnode
        cases hnode
      · intro node hnode
        have hafter := houtside node hnode
        exact ⟨hfirstProper.trans hafter, fun _ => hafter⟩
      · intro left hleft right hright
        have hafter := (hinside left hleft).2.trans (houtside right hright)
        exact ⟨(hinnerProper left hleft).trans hafter, fun _ => hafter⟩

end Spans

end Forest

end ApiLang
