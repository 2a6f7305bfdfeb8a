/-
Imports are answered alike however many came before.  The cache only ever holds
what the loader says, so a computation that imports documents can be taken apart
into steps that each start from nothing.
-/
import ApiLang.Resolution

namespace ApiLang

variable {α β : Type} {loader : Loader}

section Loading

/-- What a loader has at a path in normal form: the document of the source it gives,
or the reason why there is none. -/
def loadDocument (loader : Loader) (path : Path) : Except ImportFault Document :=
  if path.extension? = some "api" then
    match loader path with
    | .ok source => .ok (Document.parse source path.render)
    | .error fault => .error (.unreadable path fault)
  else .error (.notApi path)

theorem isApiPath_iff {path : Path} : isApiPath path = true ↔ path.extension? = some "api" := by
  simp [isApiPath]

theorem askLoader_run (loader : Loader) (path : Path) (cache : ImportCache) :
    (askLoader loader path).run cache =
      (loader path, { cache with loads := cache.loads ++ [path] }) :=
  rfl

/-- A document read anew is what the loader has, and the loader is asked exactly if
the path is that of an `.api` file. -/
theorem readDocument_run (loader : Loader) (path : Path) (cache : ImportCache) :
    (readDocument loader path).run cache =
      (loadDocument loader path,
        { cache with loads := if isApiPath path then cache.loads ++ [path] else cache.loads }) := by
  by_cases hapi : isApiPath path = true
  · have hextension := isApiPath_iff.mp hapi
    simp only [readDocument, loadDocument, hapi, hextension, Bool.not_true, Bool.false_eq_true,
      ↓reduceIte]
    cases hanswer : loader path with
    | ok source | error fault =>
        rw [StateT.run_bind, askLoader_run, hanswer]
        rfl
  · have hextension := mt isApiPath_iff.mpr hapi
    simp only [readDocument, loadDocument, hapi, hextension, ↓reduceIte]
    rfl

/-- A known document is recalled without asking. -/
theorem recallDocument_run_known (loader : Loader) {path : Path} {cache : ImportCache}
    {answer : Except ImportFault Document} (hknown : cache.known.find? path = some answer) :
    (recallDocument loader path).run cache = (answer, cache) := by
  rw [recallDocument, StateT.run_bind, StateT.run_get, pure_bind, hknown]
  rfl

/-- A document that is not known is read and remembered. -/
theorem recallDocument_run_new (loader : Loader) {path : Path} {cache : ImportCache}
    (hnew : cache.known.find? path = none) :
    (recallDocument loader path).run cache =
      (loadDocument loader path,
        { known := cache.known.set path (loadDocument loader path)
          loads := if isApiPath path then cache.loads ++ [path] else cache.loads }) := by
  rw [recallDocument, StateT.run_bind, StateT.run_get, pure_bind, hnew]
  dsimp only
  rw [StateT.run_bind, readDocument_run]
  rfl

/-- An import path has a document exactly if it names a readable `.api` file. -/
theorem loadDocument_isOk_iff (loader : Loader) (path : Path) :
    (∃ document, loadDocument loader path = .ok document) ↔
      path.extension? = some "api" ∧ ∃ source, loader path = .ok source := by
  rw [loadDocument]
  by_cases hpath : path.extension? = some "api"
  · cases hloaded : loader path with
    | ok source => simp [hpath]
    | error fault => simp [hpath]
  · simp [hpath]

end Loading

/-- What the cache knows is what the loader says. -/
def ImportCache.Faithful (loader : Loader) (cache : ImportCache) : Prop :=
  ∀ path answer, cache.known.find? path = some answer → answer = loadDocument loader path

theorem ImportCache.faithful_empty (loader : Loader) : ImportCache.Faithful loader {} := by
  intro path answer hfound
  cases hfound

/-- What a computation answers if nothing was imported before. -/
def freshAnswer (action : Importing α) : α :=
  (action.run {}).1

/-- The answer does not depend on what was imported before, and what is imported
is remembered as the loader gave it. -/
def Steady (loader : Loader) (action : Importing α) : Prop :=
  ∀ cache : ImportCache, cache.Faithful loader →
    (action.run cache).1 = freshAnswer action ∧ (action.run cache).2.Faithful loader

theorem Steady.pure (a : α) : Steady loader (pure a) := by
  intro cache hcache
  exact ⟨rfl, hcache⟩

theorem freshAnswer_pure (a : α) : freshAnswer (pure a) = a :=
  rfl

/-- Two computations in a row answer as if the second were the first. -/
theorem freshAnswer_bind {first : Importing α} {next : α → Importing β}
    (hfirst : Steady loader first) (hnext : ∀ a, Steady loader (next a)) :
    freshAnswer (first >>= next) = freshAnswer (next (freshAnswer first)) := by
  have hcache := (hfirst {} (ImportCache.faithful_empty loader)).2
  exact (hnext (freshAnswer first) _ hcache).1

theorem Steady.bind {first : Importing α} {next : α → Importing β}
    (hfirst : Steady loader first) (hnext : ∀ a, Steady loader (next a)) :
    Steady loader (first >>= next) := by
  intro cache hcache
  obtain ⟨hanswer, hafter⟩ := hfirst cache hcache
  have hsecond := hnext (first.run cache).1 _ hafter
  refine ⟨?_, hsecond.2⟩
  rw [freshAnswer_bind hfirst hnext, ← hanswer]
  exact hsecond.1

theorem Steady.mapM {action : α → Importing β} (haction : ∀ a, Steady loader (action a))
    (inputs : List α) : Steady loader (inputs.mapM action) := by
  induction inputs with
  | nil => exact .pure []
  | cons input others ih =>
      rw [List.mapM_cons]
      exact (haction input).bind fun b => ih.bind fun bs => .pure (b :: bs)

/-- Answers in a row are the answers one by one. -/
theorem freshAnswer_mapM {action : α → Importing β} (haction : ∀ a, Steady loader (action a))
    (inputs : List α) :
    freshAnswer (inputs.mapM action) = inputs.map fun input => freshAnswer (action input) := by
  induction inputs with
  | nil => rfl
  | cons input others ih =>
      have hothers := Steady.mapM haction others
      rw [List.mapM_cons, freshAnswer_bind (haction input) fun b =>
        hothers.bind fun bs => .pure (b :: bs), freshAnswer_bind hothers fun bs => .pure (_ :: bs),
        ih]
      rfl

/-- A document that was imported before is the document as the loader gives it. -/
theorem recallDocument_steady (path : Path) : Steady loader (recallDocument loader path) := by
  intro cache hcache
  have hfresh : freshAnswer (recallDocument loader path) = loadDocument loader path :=
    congrArg Prod.fst (recallDocument_run_new loader rfl)
  rw [hfresh]
  cases hknown : cache.known.find? path with
  | some answer =>
      rw [recallDocument_run_known loader hknown]
      exact ⟨hcache path answer hknown, hcache⟩
  | none =>
      rw [recallDocument_run_new loader hknown]
      refine ⟨rfl, ?_⟩
      intro other answer hfound
      by_cases hsame : other = path
      · rw [hsame, OrderedMap.find?_set_self] at hfound
        rw [hsame, Option.some.inj hfound]
      · rw [OrderedMap.find?_set_of_ne _ hsame] at hfound
        exact hcache other answer hfound

theorem importDocument_steady (document : Document) (written : String) :
    Steady loader (importDocument loader document written) :=
  recallDocument_steady _

theorem freshAnswer_importDocument (document : Document) (written : String) :
    freshAnswer (importDocument loader document written) =
      loadDocument loader (document.importTarget written) :=
  congrArg Prod.fst (recallDocument_run_new loader rfl)

theorem typeTargets_steady (document : Document) (name : String) :
    Steady loader (typeTargets loader document name) := by
  unfold typeTargets
  split
  · exact .pure _
  · exact (Steady.mapM (importDocument_steady document) _).bind fun _ => .pure _

theorem importTargets_steady (document : Document) (written : String) :
    Steady loader (importTargets loader document written) := by
  unfold importTargets
  split
  · exact .pure _
  · refine (importDocument_steady document written).bind ?_
    intro answer
    cases answer with
    | ok imported | error fault => exact .pure _

theorem candidates_steady (document : Document) (id : NodeId) :
    Steady loader (candidates loader document id) := by
  unfold candidates
  split
  · exact typeTargets_steady document _
  · exact .pure _
  · exact importTargets_steady document _
  · exact .pure _

/-- What a node points at does not depend on what was imported before. -/
theorem resolve_steady (document : Document) (id : NodeId) :
    Steady loader (resolve loader document id) :=
  (candidates_steady document id).bind fun _ => .pure _

end ApiLang
