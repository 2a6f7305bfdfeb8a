/-
The name index of a document.  The index of a parsed document lists the nodes that
declare a name, all of them and nothing else, and its names stand in the order of
their first declarations.
-/
import ApiLang.Proofs.Document.Arena
import Mathlib.Data.Set.Card

namespace ApiLang

theorem Document.mem_nodes {document : Document} {id : NodeId} {node : Node}
    (hget : document.get? id = some node) : node ∈ document.nodes.toList :=
  Array.mem_toList_iff.mpr (Array.mem_of_getElem? hget)

theorem Document.mem_numbered {document : Document} {id : NodeId} {node : Node} :
    (id, node) ∈ document.numbered ↔ document.get? id = some node := by
  simp [numbered, get?, List.mem_zipIdx_iff_getElem?]

theorem Document.mem_declarationsOf {document : Document} {kind : DeclKind} {id : NodeId} :
    id ∈ document.declarationsOf kind ↔
      ∃ node, document.get? id = some node ∧ node.kind.declKind? = some kind := by
  simp [declarationsOf, nodesWhere, mem_numbered]

/-- The node at place `id` declares the name. -/
def Document.Declares (document : Document) (kind : DeclKind) (name : String) (id : Nat) : Prop :=
  ∃ node, document.get? id = some node ∧ node.kind.Declares kind name

/-- Whether the node is an import whose path is empty. -/
def Document.importsNothing (document : Document) (id : NodeId) : Bool :=
  match (document.get? id).map Node.kind with
  | some (.importPath path) => path.val.isEmpty
  | _ => false

/-- An index that lists exactly the named declarations of its document. -/
structure Document.IndexExact (document : Document) : Prop where
  lookup : ∀ kind name, name ≠ "" →
    Enumerates (document.index.lookup kind name) (document.Declares kind name)
  lookup_empty : ∀ kind, document.index.lookup kind "" = []
  mem_entries : ∀ kind name ids, (name, ids) ∈ document.index.entries kind ↔
    ids ≠ [] ∧ ids = document.index.lookup kind name
  names_nodup : ∀ kind, ((document.index.entries kind).map Prod.fst).Nodup
  names_ordered : ∀ kind, (document.index.entries kind).Pairwise fun left right =>
    ∀ first ∈ left.2.head?, ∀ second ∈ right.2.head?, first < second
  flatten : ∀ kind, ((document.index.entries kind).flatMap Prod.snd).Perm
    ((document.declarationsOf kind).filter fun id => !document.importsNothing id)
  size : document.index.size = Set.ncard { declared : DeclKind × String |
    declared.2 ≠ "" ∧ ∃ id, document.Declares declared.1 declared.2 id }

theorem zipIdx_increasing (nodes : List Node) :
    nodes.zipIdx.Pairwise fun left right => left.2 < right.2 := by
  rw [← List.pairwise_map (f := Prod.snd) (R := fun left right => left < right),
    List.zipIdx_map_snd]
  exact List.pairwise_lt_range'

/-- Names are listed in the order of their nodes. -/
theorem namesOf_increasing (kind : DeclKind) (nodes : List Node) :
    (namesOf kind (declarationsFrom 0 nodes)).Pairwise fun left right => left.2 < right.2 := by
  rw [namesOf, List.pairwise_map]
  refine List.Pairwise.filter _ (List.Pairwise.filterMap _ ?_ (zipIdx_increasing nodes))
  intro left right hlt first hfirst second hsecond
  obtain ⟨_, _, rfl⟩ := Option.map_eq_some_iff.mp hfirst
  obtain ⟨_, _, rfl⟩ := Option.map_eq_some_iff.mp hsecond
  exact hlt

theorem mem_namesOf {nodes : List Node} {kind : DeclKind} {name : String} {id : Nat} :
    (name, id) ∈ namesOf kind (declarationsFrom 0 nodes) ↔
      name ≠ "" ∧ ∃ node, nodes[id]? = some node ∧ node.kind.Declares kind name := by
  simp only [← NodeKind.declaration?_eq_some_iff]
  constructor
  · intro hlisted
    obtain ⟨⟨found, _, _⟩, hnamed, ⟨⟩⟩ := List.mem_map.mp hlisted
    obtain ⟨hnamed, hfull⟩ := List.mem_filter.mp hnamed
    obtain ⟨⟨node, _⟩, hnode, hfound⟩ := List.mem_filterMap.mp hnamed
    obtain ⟨declared, hdeclared, ⟨⟩⟩ := Option.map_eq_some_iff.mp hfound
    simp only [Bool.and_eq_true, decide_eq_true_eq] at hfull
    obtain ⟨rfl, hfull⟩ := hfull
    exact ⟨by simpa using hfull, node, List.mem_zipIdx_iff_getElem?.mp hnode, hdeclared⟩
  · rintro ⟨hfull, node, hnode, hdeclared⟩
    refine List.mem_map.mpr ⟨(kind, name, id), List.mem_filter.mpr ⟨?_, by simpa using hfull⟩, rfl⟩
    refine List.mem_filterMap.mpr ⟨(node, id), List.mem_zipIdx_iff_getElem?.mpr hnode, ?_⟩
    exact Option.map_eq_some_iff.mpr ⟨(kind, name), hdeclared, rfl⟩

/-- The names of an index, with their kinds. -/
def NameIndex.names (index : NameIndex) : List (DeclKind × String) :=
  DeclKind.all.flatMap fun kind => (index.entries kind).map fun entry => (kind, entry.1)

theorem DeclKind.mem_all (kind : DeclKind) : kind ∈ DeclKind.all := by
  cases kind <;> decide

theorem NameIndex.mem_names {index : NameIndex} {kind : DeclKind} {name : String} :
    (kind, name) ∈ index.names ↔ name ∈ (index.entries kind).map Prod.fst := by
  simp only [names, List.mem_flatMap, List.mem_map, Prod.mk.injEq]
  constructor
  · rintro ⟨_, _, entry, hentry, rfl, rfl⟩
    exact ⟨entry, hentry, rfl⟩
  · rintro ⟨entry, hentry, rfl⟩
    exact ⟨kind, kind.mem_all, entry, hentry, rfl, rfl⟩

theorem NameIndex.length_names (index : NameIndex) : index.names.length = index.size := by
  simp [names, size, DeclKind.all, entries, ofKind, OrderedMap.size, Nat.add_assoc]

theorem NameIndex.nodup_names {index : NameIndex}
    (hentries : ∀ kind, ((index.entries kind).map Prod.fst).Nodup) : index.names.Nodup := by
  refine List.nodup_flatMap.mpr ⟨fun kind _ => ?_, ?_⟩
  · have hnames := hentries kind
    rw [List.Nodup, List.pairwise_map] at hnames ⊢
    exact hnames.imp fun hdiffer hsame => hdiffer (Prod.ext_iff.mp hsame).2
  · have hkinds : DeclKind.all.Nodup := by decide
    refine hkinds.imp ?_
    rintro left right hdiffer ⟨kind, name⟩ hleft hright
    obtain ⟨_, _, hfirst⟩ := List.mem_map.mp hleft
    obtain ⟨_, _, hsecond⟩ := List.mem_map.mp hright
    exact hdiffer (Prod.ext_iff.mp (hfirst.trans hsecond.symm)).1

section Exact

variable {document : Document}

/-- The names of a kind that a document declares, with the nodes that declare them. -/
def Document.named (document : Document) (kind : DeclKind) : List (String × NodeId) :=
  namesOf kind (declarationsFrom 0 document.nodes.toList)

theorem Document.mem_named {kind : DeclKind} {name : String} {id : Nat} :
    (name, id) ∈ document.named kind ↔ name ≠ "" ∧ document.Declares kind name id := by
  rw [Document.named, mem_namesOf, Document.Declares, Document.get?]
  simp

theorem Document.Indexed.entries_eq (hindex : document.Indexed) (kind : DeclKind) :
    document.index.entries kind = (OrderedMap.group (document.named kind)).entries := by
  rw [NameIndex.entries, hindex kind, Document.named]

theorem Document.Indexed.lookup_eq (hindex : document.Indexed) (kind : DeclKind) (name : String) :
    document.index.lookup kind name = OrderedMap.valuesOf name (document.named kind) := by
  rw [NameIndex.lookup, hindex kind, OrderedMap.find?_group, ← Document.named]
  split
  · rename_i hnone
    exact hnone.symm
  · rfl

theorem Document.Indexed.mem_lookup (hindex : document.Indexed) {kind : DeclKind} {name : String}
    {id : Nat} :
    id ∈ document.index.lookup kind name ↔ name ≠ "" ∧ document.Declares kind name id := by
  rw [hindex.lookup_eq, OrderedMap.mem_valuesOf, Document.mem_named]

theorem Document.Indexed.lookup_increasing (hindex : document.Indexed) (kind : DeclKind)
    (name : String) : (document.index.lookup kind name).Pairwise (· < ·) := by
  rw [hindex.lookup_eq, OrderedMap.valuesOf, List.pairwise_map]
  exact (namesOf_increasing kind _).filter _

/-- The index lists the nodes that declare a name. -/
theorem Document.Indexed.enumerates_lookup (hindex : document.Indexed) (kind : DeclKind)
    {name : String} (hfull : name ≠ "") :
    Enumerates (document.index.lookup kind name) (document.Declares kind name) := by
  refine ⟨hindex.lookup_increasing kind name, fun id => hindex.mem_lookup.trans ?_⟩
  exact and_iff_right hfull

/-- The entries of a kind are the names that have declarations, with these. -/
theorem Document.Indexed.mem_entries_iff (hindex : document.Indexed) {kind : DeclKind}
    {name : String} {ids : List NodeId} : (name, ids) ∈ document.index.entries kind ↔
      ids ≠ [] ∧ ids = document.index.lookup kind name := by
  rw [hindex.lookup_eq, hindex.entries_eq, OrderedMap.mem_entries_group]

theorem Document.Indexed.entries_nodup (hindex : document.Indexed) (kind : DeclKind) :
    ((document.index.entries kind).map Prod.fst).Nodup := by
  rw [hindex.entries_eq]
  exact OrderedMap.nodup_keys_group _

/-- Names stand in the order of their first declarations. -/
theorem Document.Indexed.entries_ordered (hindex : document.Indexed) (kind : DeclKind) :
    (document.index.entries kind).Pairwise fun left right =>
      ∀ first ∈ left.2.head?, ∀ second ∈ right.2.head?, first < second := by
  rw [hindex.entries_eq]
  exact OrderedMap.entries_group_ordered (namesOf_increasing kind _)

/-- A node declares one name at most. -/
theorem Document.Declares.unique {kind other : DeclKind} {name second : String} {id : Nat}
    (hfirst : document.Declares kind name id) (hsecond : document.Declares other second id) :
    kind = other ∧ name = second := by
  obtain ⟨node, hnode, hname⟩ := hfirst
  obtain ⟨found, hfound, hother⟩ := hsecond
  cases hnode.symm.trans hfound
  rw [← NodeKind.declaration?_eq_some_iff] at hname hother
  cases hname.symm.trans hother
  exact ⟨rfl, rfl⟩

theorem Document.numbered_increasing (document : Document) :
    document.numbered.Pairwise fun left right => left.1 < right.1 := by
  rw [Document.numbered, List.pairwise_map]
  exact zipIdx_increasing _

theorem Document.declarationsOf_increasing (document : Document) (kind : DeclKind) :
    (document.declarationsOf kind).Pairwise (· < ·) := by
  rw [Document.declarationsOf, Document.nodesWhere, List.pairwise_map]
  exact document.numbered_increasing.filter _

/-- A node lies in one entry at most. -/
theorem Document.Indexed.nodup_flatMap (hindex : document.Indexed) (kind : DeclKind) :
    ((document.index.entries kind).flatMap Prod.snd).Nodup := by
  refine List.nodup_flatMap.mpr ⟨?_, ?_⟩
  · rintro ⟨name, ids⟩ hentry
    obtain ⟨_, rfl⟩ := hindex.mem_entries_iff.mp hentry
    exact (hindex.lookup_increasing kind name).imp Nat.ne_of_lt
  · have hnames := hindex.entries_nodup kind
    rw [List.Nodup, List.pairwise_map] at hnames
    refine hnames.imp_of_mem ?_
    rintro ⟨name, ids⟩ ⟨other, others⟩ hentry hother hdiffer id hid hshared
    obtain ⟨_, rfl⟩ := hindex.mem_entries_iff.mp hentry
    obtain ⟨_, rfl⟩ := hindex.mem_entries_iff.mp hother
    have hfirst := (hindex.mem_lookup.mp hid).2
    have hsecond := (hindex.mem_lookup.mp hshared).2
    exact hdiffer (hfirst.unique hsecond).2

theorem Document.Indexed.mem_flatMap (hindex : document.Indexed) {kind : DeclKind} {id : Nat} :
    id ∈ (document.index.entries kind).flatMap Prod.snd ↔
      ∃ name, name ≠ "" ∧ document.Declares kind name id := by
  constructor
  · intro hid
    obtain ⟨⟨name, ids⟩, hentry, hid⟩ := List.mem_flatMap.mp hid
    obtain ⟨_, rfl⟩ := hindex.mem_entries_iff.mp hentry
    exact ⟨name, hindex.mem_lookup.mp hid⟩
  · rintro ⟨name, hdeclares⟩
    have hid := hindex.mem_lookup.mpr hdeclares
    exact List.mem_flatMap.mpr ⟨(name, document.index.lookup kind name),
      hindex.mem_entries_iff.mpr ⟨List.ne_nil_of_mem hid, rfl⟩, hid⟩

/-- The index has one entry for each kind and name that some node declares. -/
theorem Document.Indexed.size_eq (hindex : document.Indexed) :
    document.index.size = Set.ncard { declared : DeclKind × String |
      declared.2 ≠ "" ∧ ∃ id, document.Declares declared.1 declared.2 id } := by
  have hset : { declared : DeclKind × String |
      declared.2 ≠ "" ∧ ∃ id, document.Declares declared.1 declared.2 id } =
        ((document.index.names.toFinset : Finset (DeclKind × String)) :
          Set (DeclKind × String)) := by
    ext ⟨kind, name⟩
    rw [List.coe_toFinset, Set.mem_ofPred_eq, Set.mem_ofPred_eq, NameIndex.mem_names,
      hindex.entries_eq, OrderedMap.mem_keys_group]
    simp only [Document.mem_named, exists_and_left]
  rw [hset, Set.ncard_coe_finset, List.toFinset_card_of_nodup, NameIndex.length_names]
  exact NameIndex.nodup_names hindex.entries_nodup

end Exact

/-- The kind of a declaration is the kind of the name that it declares. -/
theorem NodeKind.declKind?_eq_some_iff {kind : NodeKind} {found : DeclKind} :
    kind.declKind? = some found ↔ ∃ name, kind.Declares found name := by
  constructor
  · intro hfound
    cases kind with
    | struct | handler | route | importPath =>
        cases hfound
        exact ⟨_, by constructor⟩
    | version | info | field | embedded | service | typeRef | skipped => cases hfound
  · rintro ⟨name, ⟨⟩⟩ <;> rfl

/-- What declares a name is a declaration of its kind. -/
theorem Document.mem_declarationsOf_iff {document : Document} {kind : DeclKind} {id : Nat} :
    id ∈ document.declarationsOf kind ↔ ∃ name, document.Declares kind name id := by
  simp only [Document.mem_declarationsOf, Document.Declares, NodeKind.declKind?_eq_some_iff]
  exact ⟨fun ⟨node, hget, name, hname⟩ => ⟨name, node, hget, hname⟩,
    fun ⟨name, node, hget, hname⟩ => ⟨node, hget, name, hname⟩⟩

/-- Of the declarations of a parsed document, only imports can be without a name. -/
theorem parse_nameless_iff (source path : String) {kind : DeclKind} {name : String} {id : Nat}
    (hdeclares : (Document.parse source path).Declares kind name id) :
    name = "" ↔ (Document.parse source path).importsNothing id = true := by
  obtain ⟨node, hget, hname⟩ := hdeclares
  have hnamed := parse_named source path node (Document.mem_nodes hget)
  rw [Document.importsNothing, hget, Option.map_some]
  generalize node.kind = found at hnamed hname
  cases hname with
  | struct name | handler name => simpa [NodeKind.Named] using hnamed
  | route facts => simp
  | importPath path => simp

/-- The index of a parsed document lists exactly its named declarations. -/
theorem parse_index_exact (source path : String) : (Document.parse source path).IndexExact := by
  have hindex := parse_indexed source path
  constructor
  · exact fun kind name => hindex.enumerates_lookup kind
  · intro kind
    refine List.eq_nil_iff_forall_not_mem.mpr fun id hid => ?_
    exact (hindex.mem_lookup.mp hid).1 rfl
  · exact fun kind name ids => hindex.mem_entries_iff
  · exact hindex.entries_nodup
  · exact hindex.entries_ordered
  · intro kind
    have hincreasing := (Document.parse source path).declarationsOf_increasing kind
    refine (List.perm_ext_iff_of_nodup (hindex.nodup_flatMap kind)
      ((hincreasing.imp Nat.ne_of_lt).filter _)).mpr fun id => ?_
    rw [hindex.mem_flatMap, List.mem_filter, Document.mem_declarationsOf_iff,
      ← exists_and_right]
    refine exists_congr fun name => ?_
    rw [and_comm]
    refine and_congr_right fun hdeclares => ?_
    simpa using not_congr (parse_nameless_iff source path hdeclares)
  · exact hindex.size_eq

end ApiLang
