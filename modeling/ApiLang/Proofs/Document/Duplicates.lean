/-
The rules against duplicates.  The index gathers all declarations that have a name,
and the fields of a struct are the nodes that have it as their parent; so the rules
are silent about a parsed document exactly if no two structs, handlers or routes share
a name, and no two fields of one struct.
-/
import ApiLang.Proofs.Document.Index
import ApiLang.Validation

namespace ApiLang

section Fields

variable {document : Document} {struct : NodeId}

/-- The node at place `id` is a field of this name, and its parent stands at place
`struct`. -/
def Document.HasField (document : Document) (struct : NodeId) (name : Spanned String)
    (id : NodeId) : Prop :=
  ∃ node type tag, document.get? id = some node ∧ node.parent = some struct ∧
    node.kind = .field name type tag

/-- The fields whose parent stands at place `struct`, in the order of the source. -/
def Document.fieldsIn (document : Document) (struct : NodeId) : List (NodeId × Spanned String) :=
  document.nodes.toList.zipIdx.filterMap fun (node, id) =>
    match node.kind with
    | .field name _ _ => if node.parent = some struct then some (id, name) else none
    | _ => none

theorem Document.mem_zipIdx {node : Node} {id : NodeId} :
    (node, id) ∈ document.nodes.toList.zipIdx ↔ document.get? id = some node := by
  rw [List.mem_zipIdx_iff_getElem?, Document.get?, Array.getElem?_toList]

theorem Document.mem_fieldsIn {name : Spanned String} {id : NodeId} :
    (id, name) ∈ document.fieldsIn struct ↔ document.HasField struct name id := by
  rw [Document.fieldsIn, List.mem_filterMap]
  constructor
  · rintro ⟨⟨node, place⟩, hnode, hfound⟩
    dsimp only at hfound
    split at hfound
    · rename_i hkind
      split at hfound
      · rename_i hparent
        cases hfound
        exact ⟨node, _, _, Document.mem_zipIdx.mp hnode, hparent, hkind⟩
      · cases hfound
    · cases hfound
  · rintro ⟨node, type, tag, hget, hparent, hkind⟩
    refine ⟨(node, id), Document.mem_zipIdx.mpr hget, ?_⟩
    simp [hkind, hparent]

theorem Document.fieldsIn_increasing (document : Document) (struct : NodeId) :
    (document.fieldsIn struct).Pairwise fun left right => left.1 < right.1 := by
  refine List.Pairwise.filterMap _ ?_ (zipIdx_increasing document.nodes.toList)
  rintro ⟨left, first⟩ ⟨right, second⟩ hlt field hfield other hother
  dsimp only at hfield hother hlt
  split at hfield
  · split at hfield
    · split at hother
      · split at hother
        · cases hfield
          cases hother
          exact hlt
        · cases hother
      · cases hother
    · cases hfield
  · cases hfield

/-- If a node lists the nodes that have it as their parent, the fields it lists are
those. -/
theorem Document.fields_eq_fieldsIn {owner : Node}
    (hchildren : Enumerates owner.children (HasParent document.get? struct)) :
    document.fields owner = document.fieldsIn struct := by
  have hplaces : Enumerates
      ((document.nodes.toList.zipIdx.filter fun (node, _) => node.parent = some struct).map
        Prod.snd) (HasParent document.get? struct) := by
    constructor
    · rw [List.pairwise_map]
      exact (zipIdx_increasing _).filter _
    · simp [HasParent, Document.mem_zipIdx]
  rw [Document.fields, hchildren.unique hplaces, List.filterMap_map, List.filterMap_filter,
    Document.fieldsIn]
  refine List.filterMap_congr fun placed hplaced => ?_
  rw [Function.comp_apply, Document.mem_zipIdx.mp hplaced]
  cases hkind : placed.1.kind <;> simp [hkind]

/-- The fields of a struct of a parsed document are those that have it as their
parent. -/
theorem parse_fields (source path : String) {owner : Node}
    (hget : (Document.parse source path).get? struct = some owner) :
    (Document.parse source path).fields owner =
      (Document.parse source path).fieldsIn struct := by
  apply Document.fields_eq_fieldsIn
  rw [parse_get?] at hget ⊢
  exact (fileNodes_forest source.toList).enumerates_children hget

end Fields

/-- No two nodes declare the same name as `kind`. -/
def Document.DeclaresOnce (document : Document) (kind : DeclKind) : Prop :=
  ∀ name id other, document.Declares kind name id → document.Declares kind name other →
    id = other

/-- The names of a document differ: those of structs, of handlers and of routes
across the document, and those of fields within their struct. -/
structure Document.DistinctNames (document : Document) : Prop where
  structs : document.DeclaresOnce .struct
  handlers : document.DeclaresOnce .handler
  routes : document.DeclaresOnce .route
  fields : ∀ owner struct, document.Declares .struct owner struct →
    ∀ (left right : Spanned String) id other, document.HasField struct left id →
      document.HasField struct right other → left.val = right.val → id = other

/-- Complaints about each value of each key that has several: there are none
exactly if no key has several. -/
theorem flatMap_several_eq_nil_iff {κ α β : Type} (entries : List (κ × List α))
    (complain : κ → List α → α → β) :
    ((entries.filter fun (_, values) => 1 < values.length).flatMap fun (key, values) =>
      values.map (complain key values)) = [] ↔ ∀ entry ∈ entries, entry.2.length ≤ 1 := by
  rw [List.flatMap_eq_nil_iff]
  constructor
  · intro hsilent entry hentry
    by_contra hmany
    have hmem := hsilent entry (List.mem_filter.mpr ⟨hentry, by simpa using hmany⟩)
    rw [List.map_eq_nil_iff] at hmem
    simp [hmem] at hmany
  · intro hfew entry hentry
    obtain ⟨hentry, hmany⟩ := List.mem_filter.mp hentry
    have hone := hfew entry hentry
    simp only [decide_eq_true_eq] at hmany
    omega

/-- A list in increasing order has at most one member exactly if its members are the
same. -/
theorem length_le_one_iff {ids : List Nat} (hincreasing : ids.Pairwise (· < ·)) :
    ids.length ≤ 1 ↔ ∀ id ∈ ids, ∀ other ∈ ids, id = other := by
  match ids with
  | [] => simp
  | [id] => simp
  | id :: other :: rest =>
      have hlt : id < other := (List.pairwise_cons.mp hincreasing).1 other (by simp)
      refine iff_of_false (by simp) fun hsame => ?_
      exact hlt.ne (hsame id (by simp) other (by simp))

/-- The rule against duplicates of a kind is silent exactly if no name of the kind
is declared twice, provided that no declaration of the kind is without a name. -/
theorem duplicateDeclarations_eq_nil_iff {document : Document} (hindex : document.Indexed)
    {kind : DeclKind} (hnamed : ∀ id, ¬ document.Declares kind "" id) (code : DiagnosticCode) :
    duplicateDeclarations document kind code = [] ↔ document.DeclaresOnce kind := by
  rw [duplicateDeclarations, NameIndex.duplicates, flatMap_several_eq_nil_iff]
  have hone : ∀ name, (document.index.lookup kind name).length ≤ 1 ↔
      ∀ id ∈ document.index.lookup kind name, ∀ other ∈ document.index.lookup kind name,
        id = other := fun name => length_le_one_iff (hindex.lookup_increasing kind name)
  constructor
  · intro hfew name id other hid hother
    have hfull : name ≠ "" := fun hempty => hnamed id (hempty ▸ hid)
    have hfirst := hindex.mem_lookup.mpr ⟨hfull, hid⟩
    have hsecond := hindex.mem_lookup.mpr ⟨hfull, hother⟩
    have hentry := hindex.mem_entries_iff.mpr ⟨List.ne_nil_of_mem hfirst, rfl⟩
    exact (hone name).mp (hfew _ hentry) id hfirst other hsecond
  · rintro honce ⟨name, ids⟩ hentry
    obtain ⟨_, rfl⟩ := hindex.mem_entries_iff.mp hentry
    refine (hone name).mpr fun id hid other hother => ?_
    exact honce name id other (hindex.mem_lookup.mp hid).2 (hindex.mem_lookup.mp hother).2

/-- If no field is without a name, all of them are gathered. -/
theorem Document.fieldsByName_eq {document : Document} {owner : Node}
    (hnamed : ∀ field ∈ document.fields owner, field.2.val ≠ "") :
    document.fieldsByName owner =
      .group ((document.fields owner).map fun (_, name) => (name.val, name.span)) := by
  have hall : ((document.fields owner).filter fun (_, name) => !name.val.isEmpty) =
      document.fields owner := by
    rw [List.filter_eq_self]
    intro field hfield
    simpa using hnamed field hfield
  rw [fieldsByName, hall]

theorem duplicateFieldsOf_eq_nil_iff {document : Document} {owner : Node}
    (hnamed : ∀ field ∈ document.fields owner, field.2.val ≠ "") :
    duplicateFieldsOf document owner = [] ↔
      ((document.fields owner).map fun (_, name) => name.val).Nodup := by
  have hcount : ∀ name, ((document.fields owner).map fun (_, name) => name.val).count name =
      ((document.fields owner).map fun (_, name) => (name.val, name.span)).countP
        fun pair => pair.1 = name := by
    intro name
    rw [List.count, List.countP_map, List.countP_map]
    rfl
  rw [duplicateFieldsOf, flatMap_several_eq_nil_iff, Document.fieldsByName_eq hnamed,
    Prod.forall, List.nodup_iff_count_le_one]
  refine forall_congr' fun name => ?_
  rw [hcount]
  exact OrderedMap.group_length_le_one_iff _ name

/-- The names of the fields under a node differ exactly if fields of one name are one
field. -/
theorem Document.nodup_fieldsIn_iff (document : Document) (struct : NodeId) :
    ((document.fieldsIn struct).map fun (_, name) => name.val).Nodup ↔
      ∀ (left right : Spanned String) id other, document.HasField struct left id →
        document.HasField struct right other → left.val = right.val → id = other := by
  have hnodup : (document.fieldsIn struct).Nodup :=
    (document.fieldsIn_increasing struct).imp fun hlt hsame => hlt.ne (congrArg Prod.fst hsame)
  rw [List.nodup_map_iff_inj_on hnodup]
  simp only [Prod.forall, Document.mem_fieldsIn, Prod.mk.injEq]
  constructor
  · intro hinjective left right id other hleft hright hsame
    exact (hinjective id left hleft other right hright hsame).1
  · intro hone id left hleft other right hright hsame
    have hplace := hone left right id other hleft hright hsame
    subst hplace
    obtain ⟨node, _, _, hget, _, hkind⟩ := hleft
    obtain ⟨found, _, _, hfound, _, hother⟩ := hright
    cases hget.symm.trans hfound
    cases hkind.symm.trans hother
    exact ⟨rfl, rfl⟩

theorem parse_fields_ne_empty (source path : String) {owner : Node} :
    ∀ field ∈ (Document.parse source path).fields owner, field.2.val ≠ "" := by
  intro field hfield
  obtain ⟨child, _, hchild⟩ := List.mem_filterMap.mp hfield
  split at hchild
  · rename_i name _ _ hkind
    obtain ⟨node, hget, hnode⟩ := Option.map_eq_some_iff.mp hkind
    have hnamed := parse_named source path node (Document.mem_nodes hget)
    rw [hnode] at hnamed
    cases hchild
    exact hnamed
  · cases hchild

theorem parse_duplicateFields_eq_nil_iff (source path : String) :
    duplicateFields (Document.parse source path) = [] ↔
      ∀ owner struct, (Document.parse source path).Declares .struct owner struct →
        ∀ (left right : Spanned String) id other,
          (Document.parse source path).HasField struct left id →
          (Document.parse source path).HasField struct right other → left.val = right.val →
            id = other := by
  rw [duplicateFields, List.flatMap_eq_nil_iff]
  have hstruct {id : NodeId} {owner : Node}
      (hget : (Document.parse source path).get? id = some owner) :
      duplicateFieldsOf (Document.parse source path) owner = [] ↔
        ∀ (left right : Spanned String) field other,
          (Document.parse source path).HasField id left field →
          (Document.parse source path).HasField id right other → left.val = right.val →
            field = other := by
    rw [duplicateFieldsOf_eq_nil_iff (parse_fields_ne_empty source path),
      parse_fields source path hget, Document.nodup_fieldsIn_iff]
  constructor
  · rintro hsilent name id ⟨owner, hget, hdeclares⟩
    have hid := Document.mem_declarationsOf_iff.mpr ⟨name, owner, hget, hdeclares⟩
    exact (hstruct hget).mp (hsilent owner (List.mem_filterMap.mpr ⟨id, hid, hget⟩))
  · intro hdistinct owner howner
    obtain ⟨id, hid, hget⟩ := List.mem_filterMap.mp howner
    obtain ⟨name, hdeclares⟩ := Document.mem_declarationsOf_iff.mp hid
    exact (hstruct hget).mpr (hdistinct name id hdeclares)

/-- Only imports can be without a name. -/
theorem parse_declares_ne_empty (source path : String) {kind : DeclKind}
    (hkind : kind ≠ .importPath) (id : NodeId) :
    ¬ (Document.parse source path).Declares kind "" id := by
  intro hdeclares
  have hnothing := (parse_nameless_iff source path hdeclares).mp rfl
  obtain ⟨node, hget, hname⟩ := hdeclares
  rw [Document.importsNothing, hget, Option.map_some] at hnothing
  split at hnothing
  · rename_i hpath
    rw [Option.some.inj hpath, ← NodeKind.declaration?_eq_some_iff] at hname
    exact hkind (congrArg Prod.fst (Option.some.inj hname)).symm
  · cases hnothing

/-- The rules against duplicates. -/
def duplicateComplaints (document : Document) : List Diagnostic :=
  duplicateDeclarations document .struct .duplicateStruct ++
    (duplicateDeclarations document .handler .duplicateHandler ++
      (duplicateDeclarations document .route .duplicateRoute ++ duplicateFields document))

theorem localComplaints_eq (document : Document) :
    localComplaints document = document.diagnostics ++ duplicateComplaints document := by
  simp [localComplaints, duplicateComplaints]

/-- The rules against duplicates are silent about a parsed document exactly if its
names differ. -/
theorem duplicateComplaints_eq_nil_iff (source path : String) :
    duplicateComplaints (Document.parse source path) = [] ↔
      (Document.parse source path).DistinctNames := by
  have hdeclarations : ∀ kind ≠ .importPath, ∀ code,
      duplicateDeclarations (Document.parse source path) kind code = [] ↔
        (Document.parse source path).DeclaresOnce kind := fun kind hkind =>
    duplicateDeclarations_eq_nil_iff (parse_indexed source path)
      (parse_declares_ne_empty source path hkind)
  simp only [duplicateComplaints, List.append_eq_nil_iff]
  rw [hdeclarations .struct (by decide), hdeclarations .handler (by decide),
    hdeclarations .route (by decide), parse_duplicateFields_eq_nil_iff]
  constructor
  · rintro ⟨hstructs, hhandlers, hroutes, hfields⟩
    exact ⟨hstructs, hhandlers, hroutes, hfields⟩
  · rintro ⟨hstructs, hhandlers, hroutes, hfields⟩
    exact ⟨hstructs, hhandlers, hroutes, hfields⟩

end ApiLang
