/-
The reference under a cursor.  The references of a parsed document lie one behind the
other, and so a cursor touches one of them, or none, or two that meet where it stands;
of these two the earlier one is found.
-/
import ApiLang.Proofs.Document.Locating

namespace ApiLang

/-- The node at place `id` is a reference: the use of a type, or an import. -/
def Document.RefersAt (document : Document) (id : NodeId) (node : Node) : Prop :=
  document.get? id = some node ∧
    ((∃ name role, node.kind = .typeRef name role) ∨ ∃ path, node.kind = .importPath path)

/-- References are the nodes among which a cursor searches. -/
theorem Document.refersAt_iff {document : Document} {id : NodeId} {node : Node} :
    document.RefersAt id node ↔
      document.get? id = some node ∧ node.kind.isReference = true := by
  refine and_congr_right fun _ => ?_
  cases node.kind <;> simp [NodeKind.isReference]

theorem Span.touches_iff {span : Span} {offset : Nat} :
    span.touches offset = true ↔ span.start ≤ offset ∧ offset ≤ span.stop := by
  simp [Span.touches]

section Search

variable {document : Document} {offset : Nat} {id : NodeId} {node : Node}

/-- What is found is a reference that the cursor touches, and no earlier one is
touched. -/
theorem Document.referenceAt?_first (hfound : document.referenceAt? offset = some id) :
    ∃ node, document.RefersAt id node ∧ node.span.touches offset = true ∧
      ∀ other before, document.RefersAt other before → before.span.touches offset = true →
        id ≤ other := by
  obtain ⟨⟨place, node⟩, hnode, rfl⟩ := Option.map_eq_some_iff.mp hfound
  obtain ⟨htest, front, back, hrow, hfront⟩ := List.find?_eq_some_iff_append.mp hnode
  rw [Bool.and_eq_true] at htest
  have hget : document.get? place = some node :=
    Document.mem_numbered.mp (List.mem_of_find?_eq_some hnode)
  refine ⟨node, Document.refersAt_iff.mpr ⟨hget, htest.1⟩, htest.2, ?_⟩
  intro other before hbefore htouched
  obtain ⟨hother, hkind⟩ := Document.refersAt_iff.mp hbefore
  have hmem : (other, before) ∈ front ++ (place, node) :: back := by
    rw [← hrow]
    exact Document.mem_numbered.mpr hother
  have hincreasing := document.numbered_increasing
  rw [hrow] at hincreasing
  rcases List.mem_append.mp hmem with hmem | hmem
  · have hmissed := hfront _ hmem
    simp [hkind, htouched] at hmissed
  · rcases List.mem_cons.mp hmem with hsame | hlater
    · cases hsame
      exact le_refl place
    · have hbehind := (List.pairwise_append.mp hincreasing).2.1
      exact ((List.pairwise_cons.mp hbehind).1 _ hlater).le

/-- Where the cursor touches a reference, some reference is found. -/
theorem Document.RefersAt.exists_found (hnode : document.RefersAt id node)
    (htouched : node.span.touches offset = true) :
    ∃ found, document.referenceAt? offset = some found := by
  rw [← Option.isSome_iff_exists, Document.referenceAt?, Option.isSome_map, List.find?_isSome]
  refine ⟨(id, node), Document.mem_numbered.mpr hnode.1, ?_⟩
  exact Bool.and_eq_true_iff.mpr ⟨(Document.refersAt_iff.mp hnode).2, htouched⟩

/-- A touched reference is found if every other one that is touched comes later. -/
theorem Document.RefersAt.found (hnode : document.RefersAt id node)
    (htouched : node.span.touches offset = true)
    (hfirst : ∀ other before, document.RefersAt other before →
      before.span.touches offset = true → id ≤ other) :
    document.referenceAt? offset = some id := by
  obtain ⟨found, hfound⟩ := hnode.exists_found htouched
  obtain ⟨before, hbefore, hreached, hleast⟩ := Document.referenceAt?_first hfound
  have hle := hleast id node hnode htouched
  have hge := hfirst found before hbefore hreached
  rw [hfound, le_antisymm hle hge]

end Search

section Parsed

variable {source path : String} {i j : NodeId} {left right : Node}

theorem Document.RefersAt.proper (hleft : (Document.parse source path).RefersAt i left) :
    left.span.start < left.span.stop :=
  (parse_nameInside source path left (Document.mem_nodes hleft.1)).start_lt_stop

/-- A reference ends before a later one starts, or where it starts. -/
theorem Document.RefersAt.before (hleft : (Document.parse source path).RefersAt i left)
    (hright : (Document.parse source path).RefersAt j right) (hlt : i < j) :
    left.span.stop ≤ right.span.start := by
  have hleaf := parse_reference_leaf hleft.1 (Document.refersAt_iff.mp hleft).2
  exact (parse_comesBefore source path hlt hleft.1 hright.1).2 hleaf

/-- References are numbered in the order in which they start. -/
theorem Document.RefersAt.lt_of_start_lt (hleft : (Document.parse source path).RefersAt i left)
    (hright : (Document.parse source path).RefersAt j right)
    (hlt : left.span.start < right.span.start) : i < j := by
  rcases Nat.lt_trichotomy i j with horder | hsame | horder
  · exact horder
  · subst hsame
    cases hleft.1.symm.trans hright.1
    exact absurd hlt (Nat.lt_irrefl _)
  · have hbefore := hright.before hleft horder
    have hproper := hright.proper
    omega

end Parsed

/-- References lie apart, in the order of their nodes, and the cursor finds the one that
it touches.  Where one ends and another starts, the first of the two is found. -/
structure Document.FindsReferences (document : Document) : Prop where
  proper : ∀ id node, document.RefersAt id node → node.span.start < node.span.stop
  ordered : ∀ i j left right, document.RefersAt i left → document.RefersAt j right → i < j →
    left.span.stop ≤ right.span.start
  inside : ∀ id node offset, document.RefersAt id node → node.span.start < offset →
    offset ≤ node.span.stop → document.referenceAt? offset = some id
  at_start : ∀ id node, document.RefersAt id node →
    (∀ other before, document.RefersAt other before → before.span.stop ≠ node.span.start) →
      document.referenceAt? node.span.start = some id
  at_joint : ∀ id node other before, document.RefersAt id node → document.RefersAt other before →
    before.span.stop = node.span.start →
      other < id ∧ document.referenceAt? node.span.start = some other
  outside : ∀ offset,
    (∀ id node, document.RefersAt id node → offset < node.span.start ∨ node.span.stop < offset) →
      document.referenceAt? offset = none

/-- The cursor finds the references of every parsed document, however broken its source
is. -/
theorem parse_findsReferences (source path : String) :
    (Document.parse source path).FindsReferences := by
  have hinside : ∀ id node offset, (Document.parse source path).RefersAt id node →
      node.span.start < offset → offset ≤ node.span.stop →
        (Document.parse source path).referenceAt? offset = some id := by
    intro id node offset hnode hstart hstop
    refine hnode.found (Span.touches_iff.mpr ⟨hstart.le, hstop⟩)
      fun other before hother hreached => ?_
    rw [Span.touches_iff] at hreached
    -- An earlier reference ends where this one starts, at the latest.
    by_contra hearlier
    have hbefore := hother.before hnode (Nat.lt_of_not_le hearlier)
    omega
  constructor
  · exact fun id node hnode => hnode.proper
  · exact fun i j left right hleft hright hlt => hleft.before hright hlt
  · exact hinside
  · intro id node hnode halone
    have hproper := hnode.proper
    refine hnode.found (Span.touches_iff.mpr ⟨le_refl _, hproper.le⟩)
      fun other before hother hreached => ?_
    rw [Span.touches_iff] at hreached
    by_contra hearlier
    have hbefore := hother.before hnode (Nat.lt_of_not_le hearlier)
    exact halone other before hother (le_antisymm hbefore hreached.2)
  · intro id node other before hnode hother hmeets
    have hproper := hother.proper
    refine ⟨hother.lt_of_start_lt hnode (by omega), ?_⟩
    exact hinside other before node.span.start hother (by omega) (by omega)
  · intro offset hfree
    rw [Option.eq_none_iff_forall_ne_some]
    intro id hfound
    obtain ⟨node, hnode, hreached, _⟩ := Document.referenceAt?_first hfound
    rw [Span.touches_iff] at hreached
    have hmissed := hfree id node hnode
    omega

end ApiLang
