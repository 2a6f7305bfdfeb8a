/-
What references mean.  The answer to a reference is told by the declarations in the
sources alone: the index of a document lists its structs and handlers, its import
paths are those written in it, and an imported document is a parsed document again.
-/
import ApiLang.Proofs.Document.Duplicates
import ApiLang.Proofs.Document.Quoting
import ApiLang.Proofs.Document.Sessions

namespace ApiLang

/-- What follows from the candidates: none, a single one, or several of which none is
preferred. -/
inductive Decides : List Target → Resolution → Prop
  | none : Decides [] .unresolved
  | one (target : Target) : Decides [target] (.resolved target)
  | several (first second : Target) (others : List Target) :
      Decides (first :: second :: others) (.ambiguous (first :: second :: others))

theorem decides_ofTargets (targets : List Target) : Decides targets (.ofTargets targets) := by
  match targets with
  | [] => exact .none
  | [target] => exact .one target
  | first :: second :: others => exact .several first second others

theorem Decides.eq_nil {targets : List Target} (hdecides : Decides targets .unresolved) :
    targets = [] := by
  cases hdecides
  rfl

theorem Decides.eq_singleton {targets : List Target} {target : Target}
    (hdecides : Decides targets (.resolved target)) : targets = [target] := by
  cases hdecides
  rfl

theorem Decides.eq_of_ambiguous {targets candidates : List Target}
    (hdecides : Decides candidates (.ambiguous targets)) : candidates = targets := by
  cases hdecides
  rfl

/-- The path of an import, as written. -/
def NodeKind.importText? : NodeKind → Option String
  | .importPath path => some path.val
  | _ => none

/-- Whether the path leads to a file that is called `qualifier`, but for its
extension. -/
def isCalled (qualifier written : String) : Bool :=
  (Path.ofText written).fileStem? == some qualifier

namespace Document

variable (document : Document)

/-- The structs of a name, in the order of the source. -/
def structsNamed (name : String) : List NodeId :=
  document.nodesWhere fun
    | .struct found => found.val == name
    | _ => false

/-- The handlers of a name, in the order of the source. -/
def handlersNamed (name : String) : List NodeId :=
  document.nodesWhere fun
    | .handler found => found.val == name
    | _ => false

/-- The import paths as written, each where it comes first. -/
def importSpellings : List String :=
  (document.nodes.toList.filterMap fun node => node.kind.importText?).eraseDups

/-- The import paths whose file is called `qualifier`. -/
def importsCalled (qualifier : String) : List String :=
  document.importSpellings.filter (isCalled qualifier)

/-- The structs of a name in the document that an import names, if it has one. -/
def importedStructs (loader : Loader) (struct written : String) : List Target :=
  match freshAnswer (importDocument loader document written) with
  | .ok imported => (imported.structsNamed struct).map (.externalNode imported)
  | .error _ => []

end Document

section Index

variable {document : Document}

theorem Document.enumerates_nodesWhere (document : Document) (test : NodeKind → Bool) :
    Enumerates (document.nodesWhere test)
      fun id => ∃ node, document.get? id = some node ∧ test node.kind = true := by
  constructor
  · rw [Document.nodesWhere, List.pairwise_map]
    exact document.numbered_increasing.filter _
  · simp [Document.nodesWhere, Document.mem_numbered]

/-- Of a kind without nameless declarations, the index lists the nodes that declare the
name. -/
theorem parse_lookup_eq {source path : String} {kind : DeclKind} (hkind : kind ≠ .importPath)
    {name : String} {test : NodeKind → Bool}
    (htest : ∀ node : NodeKind, test node = true ↔ node.Declares kind name) :
    (Document.parse source path).index.lookup kind name =
      (Document.parse source path).nodesWhere test := by
  refine Enumerates.unique ?_ ((Document.parse source path).enumerates_nodesWhere test)
  have hindex := parse_indexed source path
  refine ⟨hindex.lookup_increasing kind name, fun id => ?_⟩
  simp only [htest]
  refine hindex.mem_lookup.trans (and_iff_right_of_imp ?_)
  rintro hdeclares rfl
  exact parse_declares_ne_empty source path hkind id hdeclares

theorem parse_lookup_struct (source path name : String) :
    (Document.parse source path).index.lookup .struct name =
      (Document.parse source path).structsNamed name := by
  refine parse_lookup_eq (by decide) fun node => ?_
  rw [← NodeKind.declaration?_eq_some_iff]
  cases node <;> simp [NodeKind.declaration?]

theorem parse_lookup_handler (source path name : String) :
    (Document.parse source path).index.lookup .handler name =
      (Document.parse source path).handlersNamed name := by
  refine parse_lookup_eq (by decide) fun node => ?_
  rw [← NodeKind.declaration?_eq_some_iff]
  cases node <;> simp [NodeKind.declaration?]

/-- Among the names that an index lists, the imports are those written; one without a
path leads to no file. -/
theorem Document.filter_named_imports (document : Document) (qualifier : String) :
    ((document.named .importPath).map Prod.fst).filter (isCalled qualifier) =
      (document.nodes.toList.filterMap fun node => node.kind.importText?).filter
        (isCalled qualifier) := by
  have hnodes : document.nodes.toList = document.nodes.toList.zipIdx.map Prod.fst :=
    (List.zipIdx_map_fst 0 _).symm
  conv_rhs => rw [hnodes]
  rw [Document.named, namesOf, declarationsFrom]
  simp only [List.filter_filterMap, List.filterMap_map, List.map_filterMap]
  refine List.filterMap_congr fun placed _ => ?_
  obtain ⟨node, id⟩ := placed
  cases hkind : node.kind with
  | importPath path =>
      by_cases hempty : path.val = ""
      · have hnone : isCalled qualifier "" = false := rfl
        simp [NodeKind.declaration?, NodeKind.importText?, hkind, hempty, hnone, Option.filter_some]
      · simp [NodeKind.declaration?, NodeKind.importText?, hkind, hempty, Option.filter_some]
  | struct | handler | route =>
      simp [NodeKind.declaration?, NodeKind.importText?, hkind, Option.filter_some]
  | version | info | field | embedded | service | typeRef | skipped =>
      simp [NodeKind.declaration?, NodeKind.importText?, hkind]

theorem filter_eraseDups {α : Type} [DecidableEq α] (test : α → Bool) (items : List α) :
    items.eraseDups.filter test = (items.filter test).eraseDups := by
  simp only [← List.filterMap_eq_filter]
  refine eraseDups_filterMap (fun first second a hfirst hsecond => ?_) items
  rw [Option.guard_eq_some_iff] at hfirst hsecond
  exact hfirst.1.trans hsecond.1.symm

/-- The index lists the import paths that are written in the document. -/
theorem Document.Indexed.importsNamed_eq (hindex : document.Indexed) (qualifier : String) :
    document.importsNamed qualifier = document.importsCalled qualifier := by
  have hnamed : document.importsNamed qualifier =
      ((document.index.entries .importPath).map Prod.fst).filter (isCalled qualifier) := rfl
  rw [hnamed, hindex.entries_eq, OrderedMap.keys_group, filter_eraseDups,
    document.filter_named_imports, Document.importsCalled, Document.importSpellings,
    filter_eraseDups]

end Index

section Names

end Names

section Answers

variable {document : Document} {loader : Loader} {id : NodeId}

theorem freshAnswer_resolve :
    freshAnswer (resolve loader document id) =
      .ofTargets (freshAnswer (candidates loader document id)) :=
  rfl

/-- An imported document is a parsed one, with the path that it was asked for. -/
theorem importDocument_parsed {written : String} {imported : Document}
    (himport : freshAnswer (importDocument loader document written) = .ok imported) :
    ∃ source, imported = Document.parse source (document.importTarget written).render := by
  rw [freshAnswer_importDocument, loadDocument] at himport
  split at himport
  · split at himport
    · cases himport
      exact ⟨_, rfl⟩
    · cases himport
  · cases himport

theorem externalStructs_importDocument (struct written : String) :
    externalStructs struct (freshAnswer (importDocument loader document written)) =
      document.importedStructs loader struct written := by
  unfold Document.importedStructs
  cases himport : freshAnswer (importDocument loader document written) with
  | error fault => rfl
  | ok imported =>
      obtain ⟨source, rfl⟩ := importDocument_parsed himport
      rw [externalStructs, parse_lookup_struct]

theorem freshAnswer_typeTargets_qualified {name qualifier struct : String}
    (hname : name = qualifier ++ "." ++ struct) (hfirst : '.' ∉ qualifier.toList) :
    freshAnswer (typeTargets loader document name) =
      (document.importsNamed qualifier).flatMap (document.importedStructs loader struct) := by
  rw [hname, typeTargets, splitQualified?_append hfirst]
  have himport : ∀ written, Steady loader (importDocument loader document written) :=
    importDocument_steady document
  have hanswer := freshAnswer_mapM himport (document.importsNamed qualifier)
  calc freshAnswer _
      = (freshAnswer ((document.importsNamed qualifier).mapM
          (importDocument loader document))).flatMap (externalStructs struct) := rfl
    _ = _ := by
        rw [hanswer, List.flatMap_map]
        exact List.flatMap_congr fun written _ => externalStructs_importDocument struct written

/-- A plain name is looked up without an import. -/
theorem resolve_plain_run {name : Spanned String} {role : ReferenceRole}
    (hkind : (document.get? id).map Node.kind = some (.typeRef name role))
    (hplain : '.' ∉ name.val.toList) (cache : ImportCache) :
    (resolve loader document id).run cache =
      (.ofTargets (localTargets document .struct name.val), cache) := by
  rw [resolve, candidates, hkind]
  dsimp only
  rw [typeTargets, splitQualified?_eq_none hplain]
  rfl

/-- The only candidate for an import is its document. -/
theorem freshAnswer_importTargets (written : String) :
    freshAnswer (importTargets loader document written) =
      if written = "" then []
      else match freshAnswer (importDocument loader document written) with
        | .ok imported => [.wholeDocument imported]
        | .error _ => [] := by
  unfold importTargets
  by_cases hempty : written = ""
  · subst hempty
    rfl
  · have hfull : ¬written.isEmpty = true := by simpa using hempty
    rw [if_neg hfull, if_neg hempty]
    refine (freshAnswer_bind (importDocument_steady document written) fun answer => ?_).trans ?_
    · cases answer <;> exact .pure _
    · cases freshAnswer (importDocument loader document written) <;> rfl

end Answers

section Parsed

variable {source path : String} {loader : Loader} {id : NodeId}

theorem parse_plain_decides {name : Spanned String} {role : ReferenceRole}
    (hkind : ((Document.parse source path).get? id).map Node.kind = some (.typeRef name role))
    (hplain : '.' ∉ name.val.toList) :
    Decides (((Document.parse source path).structsNamed name.val).map .localNode)
      (freshAnswer (resolve loader (Document.parse source path) id)) := by
  rw [freshAnswer, resolve_plain_run hkind hplain, localTargets, parse_lookup_struct]
  exact decides_ofTargets _

theorem parse_qualified_decides {name : Spanned String} {role : ReferenceRole}
    {qualifier struct : String}
    (hkind : ((Document.parse source path).get? id).map Node.kind = some (.typeRef name role))
    (hname : name.val = qualifier ++ "." ++ struct) (hfirst : '.' ∉ qualifier.toList) :
    Decides (((Document.parse source path).importsCalled qualifier).flatMap
        ((Document.parse source path).importedStructs loader struct))
      (freshAnswer (resolve loader (Document.parse source path) id)) := by
  rw [freshAnswer_resolve, candidates, hkind]
  dsimp only
  rw [freshAnswer_typeTargets_qualified hname hfirst,
    (parse_indexed source path).importsNamed_eq]
  exact decides_ofTargets _

end Parsed

end ApiLang
