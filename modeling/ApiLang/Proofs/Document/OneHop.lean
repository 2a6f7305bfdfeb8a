/-
Validation goes one hop.  Of the files behind a loader it reads those that the
document imports, each once, and not what these import in turn; and all it sees of a
file is whether it can be read and how many structs it has of each name.
-/
import ApiLang.Proofs.Document.Faults
import ApiLang.Proofs.Document.Meaning

namespace ApiLang

variable {α β : Type}

/-- Some import of the document names the file. -/
def Document.NamesFile (document : Document) (file : Path) : Prop :=
  ∃ id node written, document.get? id = some node ∧ node.kind = .importPath written ∧
    written.val ≠ "" ∧ document.importTarget written.val = file

/-- The file is an `.api` file that some import of the document names. -/
def Document.ImportsFile (document : Document) (file : Path) : Prop :=
  file.extension? = some "api" ∧ document.NamesFile file

/-- What two loaders say of a file, if validation cannot tell them apart: the same
fault, or sources that have as many structs of each name. -/
inductive LooksAlike (file : Path) : Except ReadFault String → Except ReadFault String → Prop
  | failed (fault : ReadFault) : LooksAlike file (.error fault) (.error fault)
  | read {source other : String}
      (hstructs : ∀ name, ((Document.parse source file.render).structsNamed name).length =
        ((Document.parse other file.render).structsNamed name).length) :
      LooksAlike file (.ok source) (.ok other)

section Asking

/-- The computation keeps what holds of the cache. -/
def Preserves (inv : ImportCache → Prop) (action : Importing α) : Prop :=
  ∀ cache, inv cache → inv (action.run cache).2

variable {inv : ImportCache → Prop} {loader : Loader}

theorem Preserves.pure (a : α) : Preserves inv (pure a) :=
  fun _ hcache => hcache

theorem Preserves.bind {first : Importing α} {next : α → Importing β}
    (hfirst : Preserves inv first) (hnext : ∀ a, Preserves inv (next a)) :
    Preserves inv (first >>= next) :=
  fun cache hcache => hnext _ _ (hfirst cache hcache)

theorem Preserves.mapM {action : α → Importing β} (haction : ∀ a, Preserves inv (action a))
    (inputs : List α) : Preserves inv (inputs.mapM action) := by
  induction inputs with
  | nil => exact .pure []
  | cons input others ih =>
      rw [List.mapM_cons]
      exact (haction input).bind fun b => ih.bind fun bs => .pure (b :: bs)

/-- What a computation brings about holds behind those that keep it. -/
theorem bind_establishes {first : Importing α} {next : α → Importing β}
    (hfirst : ∀ cache, inv (first.run cache).2) (hnext : ∀ a, Preserves inv (next a))
    (cache : ImportCache) : inv ((first >>= next).run cache).2 :=
  hnext _ _ (hfirst cache)

theorem mapM_establishes {action : α → Importing β} (haction : ∀ a, Preserves inv (action a))
    {inputs : List α} {input : α} (hinput : input ∈ inputs)
    (hholds : ∀ cache, inv ((action input).run cache).2) (cache : ImportCache) :
    inv ((inputs.mapM action).run cache).2 := by
  induction inputs generalizing cache with
  | nil => cases hinput
  | cons first others ih =>
      rw [List.mapM_cons]
      rcases List.mem_cons.mp hinput with rfl | hothers
      · exact bind_establishes hholds
          (fun b => (Preserves.mapM haction others).bind fun bs => .pure (b :: bs)) cache
      · exact ih hothers _

/-- Whatever importing one file keeps, looking up a type keeps. -/
theorem typeTargets_preserves (hrecall : ∀ file, Preserves inv (recallDocument loader file))
    (document : Document) (name : String) :
    Preserves inv (typeTargets loader document name) := by
  unfold typeTargets
  split
  · exact .pure _
  · exact (Preserves.mapM (fun written => hrecall _) _).bind fun _ => .pure _

theorem resolve_preserves (hrecall : ∀ file, Preserves inv (recallDocument loader file))
    (document : Document) (id : NodeId) : Preserves inv (resolve loader document id) := by
  have hcandidates : Preserves inv (candidates loader document id) := by
    unfold candidates
    split
    · exact typeTargets_preserves hrecall document _
    · exact .pure _
    · unfold importTargets
      split
      · exact .pure _
      · refine (hrecall _).bind fun answer => ?_
        cases answer with
        | ok | error => exact .pure _
    · exact .pure _
  exact hcandidates.bind fun _ => .pure _

theorem checkReference_preserves (hrecall : ∀ file, Preserves inv (recallDocument loader file))
    (document : Document) (id : NodeId) (node : Node) :
    Preserves inv (checkReference loader document id node) := by
  unfold checkReference
  split
  · exact (resolve_preserves hrecall document id).bind fun _ => .pure _
  · exact .pure _

theorem checkImport_preserves (hrecall : ∀ file, Preserves inv (recallDocument loader file))
    (document : Document) (node : Node) : Preserves inv (checkImport loader document node) := by
  unfold checkImport
  split
  · split
    · exact .pure _
    · refine (hrecall _).bind fun answer => ?_
      cases answer with
      | ok | error => exact .pure _
  · exact .pure _

theorem validateImporting_preserves (hrecall : ∀ file, Preserves inv (recallDocument loader file))
    (document : Document) : Preserves inv (validateImporting loader document) := by
  have hcomplaints : Preserves inv (importComplaints loader document) :=
    (Preserves.mapM (fun numbered : NodeId × Node =>
        checkReference_preserves hrecall document numbered.1 numbered.2) _).bind fun _ =>
      (Preserves.mapM (fun numbered : NodeId × Node =>
        checkImport_preserves hrecall document numbered.2) _).bind fun _ => .pure _
  exact hcomplaints.bind fun _ => .pure _

/-- What importing a file adds to the cache. -/
theorem recallDocument_adds (loader : Loader) (file : Path) (cache : ImportCache) :
    (∀ other, ((recallDocument loader file).run cache).2.known.find? other =
      if other = file then some ((recallDocument loader file).run cache).1
      else cache.known.find? other) ∧
    ((recallDocument loader file).run cache).2.loads =
      if cache.known.find? file = none ∧ file.extension? = some "api" then cache.loads ++ [file]
      else cache.loads := by
  cases hknown : cache.known.find? file with
  | some answer =>
      rw [recallDocument_run_known loader hknown]
      refine ⟨fun other => ?_, by simp⟩
      by_cases hsame : other = file
      · rw [if_pos hsame, hsame, hknown]
      · rw [if_neg hsame]
  | none =>
      rw [recallDocument_run_new loader hknown]
      refine ⟨fun other => ?_, by simp [isApiPath_iff]⟩
      by_cases hsame : other = file
      · rw [if_pos hsame, hsame, OrderedMap.find?_set_self]
      · rw [if_neg hsame, OrderedMap.find?_set_of_ne _ hsame]

/-- The file was imported, successfully or not. -/
def ImportCache.Knows (file : Path) (cache : ImportCache) : Prop :=
  cache.known.find? file ≠ none

/-- Every `.api` file that is known was asked for. -/
def ImportCache.Logged (cache : ImportCache) : Prop :=
  ∀ file, file.extension? = some "api" → cache.Knows file → file ∈ cache.loads

theorem recallDocument_knows (loader : Loader) (file : Path) (cache : ImportCache) :
    ((recallDocument loader file).run cache).2.Knows file := by
  rw [ImportCache.Knows, (recallDocument_adds loader file cache).1, if_pos rfl]
  exact Option.some_ne_none _

theorem recallDocument_keepsKnown (loader : Loader) (file other : Path) :
    Preserves (ImportCache.Knows file) (recallDocument loader other) := by
  intro cache hknown
  rw [ImportCache.Knows, (recallDocument_adds loader other cache).1]
  split
  · exact Option.some_ne_none _
  · exact hknown

theorem recallDocument_logs (loader : Loader) (file : Path) :
    Preserves ImportCache.Logged (recallDocument loader file) := by
  intro cache hlogged other hapi hknown
  obtain ⟨hfind, hloads⟩ := recallDocument_adds loader file cache
  rw [ImportCache.Knows, hfind] at hknown
  rw [hloads]
  by_cases hbefore : cache.Knows other
  · have hmem := hlogged other hapi hbefore
    split
    · exact List.mem_append_left _ hmem
    · exact hmem
  · -- What becomes known here is the file itself, which was not known before.
    by_cases hsame : other = file
    · subst hsame
      rw [ImportCache.Knows, not_not] at hbefore
      rw [if_pos ⟨hbefore, hapi⟩]
      exact List.mem_append_right _ List.mem_cons_self
    · rw [if_neg hsame] at hknown
      exact absurd hknown hbefore

/-- Behind validation the files of all imports are known. -/
theorem validateImporting_knows (loader : Loader) {document : Document} {id : NodeId}
    {node : Node} {written : Spanned String} (hget : document.get? id = some node)
    (hkind : node.kind = .importPath written) (hfull : written.val ≠ "") (cache : ImportCache) :
    ((validateImporting loader document).run cache).2.Knows
      (document.importTarget written.val) := by
  have hnode : ∀ cache, ((checkImport loader document node).run cache).2.Knows
      (document.importTarget written.val) := by
    have hnonempty : written.val.isEmpty = false := by simpa using hfull
    simp only [checkImport, hkind, hnonempty, Bool.false_eq_true, ↓reduceIte]
    refine bind_establishes (recallDocument_knows loader _) fun answer => ?_
    cases answer with
    | ok | error => exact .pure _
  have hkeeps : ∀ numbered : NodeId × Node, Preserves
      (ImportCache.Knows (document.importTarget written.val))
      (checkImport loader document numbered.2) := fun numbered =>
    checkImport_preserves (recallDocument_keepsKnown loader _) document numbered.2
  exact mapM_establishes hkeeps (Document.mem_numbered.mpr hget) hnode _

end Asking

section Reach

variable {document : Document}

/-- The import paths by which a qualified name is looked up are those of imports. -/
theorem Document.Indexed.exists_import (hindex : document.Indexed) {qualifier written : String}
    (hwritten : written ∈ document.importsNamed qualifier) :
    ∃ id node path, document.get? id = some node ∧ node.kind = .importPath path ∧
      path.val ≠ "" ∧ path.val = written := by
  rw [hindex.importsNamed_eq, Document.importsCalled, List.mem_filter,
    Document.importSpellings, List.mem_eraseDups, List.mem_filterMap] at hwritten
  obtain ⟨⟨node, hnode, htext⟩, hcalled⟩ := hwritten
  obtain ⟨id, hget⟩ := List.mem_iff_getElem?.mp hnode
  rw [Array.getElem?_toList] at hget
  cases hkind : node.kind with
  | importPath path =>
      rw [hkind, NodeKind.importText?, Option.some.injEq] at htext
      refine ⟨id, node, path, hget, hkind, ?_, htext⟩
      rintro hempty
      rw [← htext, hempty] at hcalled
      cases hcalled
  | version | info | struct | field | embedded | service | route | handler | typeRef | skipped =>
      rw [hkind] at htext
      cases htext

theorem checkReference_remembers (hindex : document.Indexed) (id : NodeId) (node : Node) :
    Remembers document.NamesFile fun loader => checkReference loader document id node := by
  unfold checkReference
  split
  · refine ((resolve_remembers document id).mono fun file hreach => ?_).bind fun _ => .pure _
    unfold Document.Reaches at hreach
    split at hreach
    · obtain ⟨_, _, _, _, written, hwritten, rfl⟩ := hreach
      obtain ⟨id, node, path, hget, hkind, hfull, rfl⟩ := hindex.exists_import hwritten
      exact ⟨id, node, path, hget, hkind, hfull, rfl⟩
    · rename_i written hwritten
      obtain ⟨node, hget, hkind⟩ := Option.map_eq_some_iff.mp hwritten
      exact ⟨id, node, written, hget, hkind, hreach.1, hreach.2.symm⟩
    · exact hreach.elim
  · exact .pure _

theorem checkImport_remembers {id : NodeId} {node : Node} (hget : document.get? id = some node) :
    Remembers document.NamesFile fun loader => checkImport loader document node := by
  unfold checkImport
  split
  · rename_i written hkind
    split
    · exact .pure _
    · rename_i hfull
      have hnames : document.NamesFile (document.importTarget written.val) :=
        ⟨id, node, written, hget, hkind, by simpa using hfull, rfl⟩
      refine (importDocument_remembers document hnames).bind fun answer => ?_
      cases answer with
      | ok | error => exact .pure _
  · exact .pure _

/-- Validation reads no file but those that an import of the document names. -/
theorem validateImporting_remembers (hindex : document.Indexed) :
    Remembers document.NamesFile fun loader => validateImporting loader document := by
  have hreferences : ∀ numbered ∈ document.numbered, Remembers document.NamesFile
      fun loader => checkReference loader document numbered.1 numbered.2 :=
    fun numbered _ => checkReference_remembers hindex numbered.1 numbered.2
  have himports : ∀ numbered ∈ document.numbered, Remembers document.NamesFile
      fun loader => checkImport loader document numbered.2 :=
    fun numbered hnumbered => checkImport_remembers (Document.mem_numbered.mp hnumbered)
  exact ((Remembers.mapM hreferences).bind fun _ =>
    (Remembers.mapM himports).bind fun _ => .pure _).bind fun _ => .pure _

/-- Validation asks for the `.api` files that an import names, for each of them once. -/
theorem validateImporting_loads (hindex : document.Indexed) (loader : Loader) :
    ((validateImporting loader document).run {}).2.loads.Nodup ∧
      ∀ file, file ∈ ((validateImporting loader document).run {}).2.loads ↔
        document.ImportsFile file := by
  obtain ⟨asked, hreads⟩ := (validateImporting_remembers hindex).reads loader {}
  have hasked : ((validateImporting loader document).run {}).2.loads = asked := hreads.loads
  refine ⟨hasked ▸ hreads.nodup, fun file => ⟨fun hfile => ?_, ?_⟩⟩
  · rw [hasked] at hfile
    exact hreads.allowed file hfile
  · rintro ⟨hapi, id, node, written, hget, hkind, hfull, rfl⟩
    have hempty : ImportCache.Logged {} := fun _ _ hknown => absurd rfl hknown
    exact validateImporting_preserves (recallDocument_logs loader) document {} hempty _ hapi
      (validateImporting_knows loader hget hkind hfull {})

theorem validateImporting_steady (loader : Loader) (document : Document) :
    Steady loader (validateImporting loader document) := by
  have huses := Steady.mapM (fun numbered : NodeId × Node =>
    checkReference_steady loader document numbered.1 numbered.2) document.numbered
  have himports := Steady.mapM (fun numbered : NodeId × Node =>
    checkImport_steady loader document numbered.2) document.numbered
  exact (huses.bind fun _ => himports.bind fun _ => .pure _).bind fun _ => .pure _

/-- Behind validation each file asked for is known as the loader gave it. -/
theorem validateImporting_answers (hindex : document.Indexed) (loader : Loader) :
    ∀ file ∈ ((validateImporting loader document).run {}).2.loads,
      ((validateImporting loader document).run {}).2.known.find? file =
        some (loadDocument loader file) := by
  obtain ⟨asked, hreads⟩ := (validateImporting_remembers hindex).reads loader {}
  have hasked : ((validateImporting loader document).run {}).2.loads = asked := hreads.loads
  have hfaithful := (validateImporting_steady loader document {}
    (ImportCache.faithful_empty loader)).2
  intro file hfile
  rw [hasked] at hfile
  obtain ⟨answer, hanswer⟩ := Option.ne_none_iff_exists'.mp (hreads.known file hfile)
  rw [hanswer, hfaithful file answer hanswer]

end Reach

section Seeing

variable {document : Document} {loader other : Loader}

/-- Two answers to an import, if validation cannot tell them apart. -/
inductive SeenAlike : Except ImportFault Document → Except ImportFault Document → Prop
  | failed (fault : ImportFault) : SeenAlike (.error fault) (.error fault)
  | read {imported other : Document}
      (hstructs : ∀ name,
        (imported.structsNamed name).length = (other.structsNamed name).length) :
      SeenAlike (.ok imported) (.ok other)

/-- Files that are not `.api` files look alike, whatever they hold. -/
theorem loadDocument_seenAlike {file : Path}
    (halike : file.extension? = some "api" → LooksAlike file (loader file) (other file)) :
    SeenAlike (loadDocument loader file) (loadDocument other file) := by
  unfold loadDocument
  by_cases hapi : file.extension? = some "api"
  · rw [if_pos hapi, if_pos hapi]
    have hlooks := halike hapi
    generalize loader file = answer at hlooks
    generalize other file = answer' at hlooks
    cases hlooks with
    | failed fault => exact .failed _
    | read hstructs => exact .read hstructs
  · rw [if_neg hapi, if_neg hapi]
    exact .failed _

theorem SeenAlike.length_importedStructs {written : String}
    (hseen : SeenAlike (freshAnswer (importDocument loader document written))
      (freshAnswer (importDocument other document written))) (struct : String) :
    (document.importedStructs loader struct written).length =
      (document.importedStructs other struct written).length := by
  unfold Document.importedStructs
  generalize freshAnswer (importDocument loader document written) = answer at hseen
  generalize freshAnswer (importDocument other document written) = answer' at hseen
  cases hseen with
  | failed fault => rfl
  | read hstructs => simpa using hstructs struct

theorem SeenAlike.failedImport_eq {path : Spanned String} (hfull : path.val ≠ "")
    (hseen : SeenAlike (freshAnswer (importDocument loader document path.val))
      (freshAnswer (importDocument other document path.val))) :
    document.failedImport loader path = document.failedImport other path := by
  rw [freshAnswer_importDocument, freshAnswer_importDocument] at hseen
  rw [document.failedImport_eq loader hfull, document.failedImport_eq other hfull]
  generalize loadDocument loader (document.importTarget path.val) = answer at hseen
  generalize loadDocument other (document.importTarget path.val) = answer' at hseen
  cases hseen with
  | failed | read => rfl

/-- Imported candidates have no place in the document. -/
theorem candidateSpans_importedStructs (document : Document) (loader : Loader)
    (writtens : List String) (struct : String) :
    candidateSpans document (writtens.flatMap (document.importedStructs loader struct)) = [] := by
  refine List.filterMap_eq_nil_iff.mpr fun target htarget => ?_
  obtain ⟨written, _, hmem⟩ := List.mem_flatMap.mp htarget
  unfold Document.importedStructs at hmem
  split at hmem
  · obtain ⟨id, _, rfl⟩ := List.mem_map.mp hmem
    rfl
  · cases hmem

/-- The complaint about a use counts its candidates and shows those of the document. -/
theorem referenceComplaint_congr {targets others : List Target}
    (hlength : targets.length = others.length)
    (hspans : candidateSpans document targets = candidateSpans document others) (name : String)
    (span : Span) :
    referenceComplaint document name span (.ofTargets targets) =
      referenceComplaint document name span (.ofTargets others) := by
  match targets, others with
  | [], [] | [_], [_] => rfl
  | _ :: _ :: _, _ :: _ :: _ =>
      simp only [Resolution.ofTargets, referenceComplaint, hlength, hspans]

/-- Loaders between which nothing can be seen at the files that the document names. -/
def Document.SeesAlike (document : Document) (loader other : Loader) : Prop :=
  ∀ id node written, document.get? id = some node → node.kind = .importPath written →
    written.val ≠ "" →
      SeenAlike (freshAnswer (importDocument loader document written.val))
        (freshAnswer (importDocument other document written.val))

theorem Document.seesAlike (halike : ∀ file, document.ImportsFile file →
    LooksAlike file (loader file) (other file)) : document.SeesAlike loader other := by
  intro id node written hget hkind hfull
  rw [freshAnswer_importDocument, freshAnswer_importDocument]
  exact loadDocument_seenAlike fun hapi =>
    halike _ ⟨hapi, id, node, written, hget, hkind, hfull, rfl⟩

theorem Document.SeesAlike.checkImport_eq (hsees : document.SeesAlike loader other) {id : NodeId}
    {node : Node} (hget : document.get? id = some node) :
    freshAnswer (checkImport loader document node) =
      freshAnswer (checkImport other document node) := by
  rw [freshAnswer_checkImport_eq, freshAnswer_checkImport_eq]
  cases hkind : node.kind with
  | importPath path =>
      dsimp only
      by_cases hempty : path.val = ""
      · simp [Document.failedImport, hempty]
      · exact (hsees id node path hget hkind hempty).failedImport_eq hempty
  | version | info | struct | field | embedded | service | route | handler | typeRef | skipped =>
      rfl

theorem Document.SeesAlike.checkReference_eq (hsees : document.SeesAlike loader other)
    (hindex : document.Indexed) {id : NodeId} {node : Node}
    (hget : document.get? id = some node) :
    freshAnswer (checkReference loader document id node) =
      freshAnswer (checkReference other document id node) := by
  cases hkind : node.kind with
  | typeRef name role =>
      have hnode : (document.get? id).map Node.kind = some (.typeRef name role) := by
        rw [hget, Option.map_some, hkind]
      rw [freshAnswer_checkReference _ _ hkind, freshAnswer_checkReference _ _ hkind]
      by_cases hdot : '.' ∈ name.val.toList
      · obtain ⟨qualifier, struct, hname, hfirst⟩ := exists_qualified hdot
        rw [freshAnswer_resolve, freshAnswer_resolve, candidates, candidates, hnode]
        dsimp only
        rw [freshAnswer_typeTargets_qualified hname hfirst,
          freshAnswer_typeTargets_qualified hname hfirst]
        refine referenceComplaint_congr ?_ ?_ _ _
        · rw [List.length_flatMap, List.length_flatMap]
          refine congrArg List.sum (List.map_congr_left fun written hwritten => ?_)
          obtain ⟨place, found, path, hplace, hpath, hfull, rfl⟩ := hindex.exists_import hwritten
          exact (hsees place found path hplace hpath hfull).length_importedStructs struct
        · rw [candidateSpans_importedStructs, candidateSpans_importedStructs]
      · rw [freshAnswer, freshAnswer, resolve_plain_run hnode hdot, resolve_plain_run hnode hdot]
  | version | info | importPath | struct | field | embedded | service | route | handler
  | skipped =>
      simp only [checkReference, hkind]

/-- Validation says the same with loaders between which it sees no difference. -/
theorem Document.SeesAlike.validate_eq (hsees : document.SeesAlike loader other)
    (hindex : document.Indexed) : validate loader document = validate other document := by
  have himported : freshAnswer (importComplaints loader document) =
      freshAnswer (importComplaints other document) := by
    rw [freshAnswer_importComplaints, freshAnswer_importComplaints]
    refine congrArg₂ _ (List.flatMap_congr fun numbered hnumbered => ?_)
      (List.flatMap_congr fun numbered hnumbered => ?_)
    · exact hsees.checkReference_eq hindex (Document.mem_numbered.mp hnumbered)
    · exact hsees.checkImport_eq (Document.mem_numbered.mp hnumbered)
  exact congrArg (fun imported =>
    Diagnostic.sortByPlace (localComplaints document ++ imported)) himported

end Seeing

/-- Validation asks for each file that the document imports once, and for no other, goes
by what the loader says of it, and cannot tell files apart that have as many structs of
each name. -/
theorem validate_oneHop (source path : String) (loader : Loader) :
    let document := Document.parse source path
    let after := ((validateImporting loader document).run {}).2
    (after.loads.Nodup ∧ ∀ file, file ∈ after.loads ↔ document.ImportsFile file) ∧
      (∀ file ∈ after.loads, after.known.find? file = some (
        match loader file with
        | .ok text => .ok (Document.parse text file.render)
        | .error fault => .error (.unreadable file fault))) ∧
      ∀ other : Loader,
        (∀ file, document.ImportsFile file → LooksAlike file (loader file) (other file)) →
          validate loader document = validate other document := by
  have hindex := parse_indexed source path
  intro document after
  obtain ⟨hnodup, hasked⟩ := validateImporting_loads hindex loader
  refine ⟨⟨hnodup, hasked⟩, fun file hfile => ?_, fun other halike => ?_⟩
  · have hanswer := validateImporting_answers hindex loader file hfile
    rwa [loadDocument, if_pos ((hasked file).mp hfile).1] at hanswer
  · exact (Document.seesAlike halike).validate_eq hindex

end ApiLang
