/-
The many spellings of a file.  Normal forms of paths agree with joining, so two
spellings of an import with one normal form name the same file: it is looked up
alike among sources in memory, imported with one answer and read once.
-/
import ApiLang.Proofs.Path
import ApiLang.Proofs.Document.OneHop

namespace ApiLang

/-- The normal form of a path: it starts where the path starts, goes up first and then
down to names, and is its own normal form. -/
structure Path.FoldsTo (path normal : Path) : Prop where
  root : normal.absolute = path.absolute
  moves : .here ∉ normal.parts
  steps : ∃ ups names, normal.parts = List.replicate ups .up ++ List.map .name names
  stable : normal.normalize = normal

theorem Path.foldsTo_normalize (path : Path) : path.FoldsTo path.normalize := by
  refine ⟨rfl, path.here_notMem_normalize, ?_, path.normalize_normalize⟩
  obtain ⟨names, ups, hsteps⟩ := path.normalize_stacked
  refine ⟨ups, names.reverse, ?_⟩
  rw [← List.reverse_reverse path.normalize.parts, hsteps, List.reverse_append,
    List.reverse_replicate, List.map_reverse]

namespace MemoryFiles

/-- Sources in memory are found under every spelling of their paths. -/
theorem loader_normalize (files : List (Path × String)) (path : Path) :
    (ofList files).loader path.normalize = (ofList files).loader path := by
  simp only [loader, Path.normalize_normalize]

end MemoryFiles

/-- Spellings with one normal form name the same file. -/
theorem Document.importTarget_congr (document : Document) {written again : String}
    (hsame : (Path.ofText written).normalize = (Path.ofText again).normalize) :
    document.importTarget written = document.importTarget again := by
  rw [Document.importTarget, Document.importTarget, Path.normalize_join, hsame,
    ← Path.normalize_join]

section Session

variable {document : Document} {cache : ImportCache} {steps : List (Loader × Query)}

/-- Whatever importing one file keeps, answering a query keeps. -/
theorem Query.ask_preserves {inv : ImportCache → Prop} {loader : Loader}
    (hrecall : ∀ file, Preserves inv (recallDocument loader file)) (document : Document)
    (query : Query) : Preserves inv (query.ask document loader) := by
  cases query with
  | importOf written => exact (hrecall _).bind fun _ => .pure _
  | resolve id => exact (resolve_preserves hrecall document id).bind fun _ => .pure _

/-- A file that is imported in a session is asked for in it, if it was not asked for
before. -/
theorem session_asks (hlogged : cache.Logged) {i : Nat} {loader : Loader} {written : String}
    (hstep : steps[i]? = some (loader, .importOf written))
    (hapi : (document.importTarget written).extension? = some "api") :
    document.importTarget written ∈
      cache.loads ++ (document.session steps cache).flatMap Turn.asked := by
  induction steps generalizing cache i with
  | nil => cases hstep
  | cons step steps ih =>
      obtain ⟨first, query⟩ := step
      obtain ⟨asked, hreads⟩ := (query.ask_remembers document).reads first cache
      have hafter : ((query.ask document first).run cache).2.Logged :=
        query.ask_preserves (recallDocument_logs first) document cache hlogged
      -- What was asked for so far is the log of the cache behind the first step.
      rw [session_cons hreads, List.flatMap_cons, ← List.append_assoc, ← hreads.loads]
      cases i with
      | zero =>
          cases hstep
          refine List.mem_append_left _ (hafter _ hapi ?_)
          exact recallDocument_knows loader (document.importTarget written) cache
      | succ i => exact ih hafter hstep

theorem ImportCache.logged_empty : ImportCache.Logged {} :=
  fun _ _ hknown => absurd rfl hknown

/-- An imported file is read once if it is an `.api` file, and never otherwise. -/
theorem session_count {i : Nat} {loader : Loader} {written : String}
    (hstep : steps[i]? = some (loader, .importOf written)) :
    ((document.session steps {}).flatMap Turn.asked).count (document.importTarget written) =
      if (document.importTarget written).extension? = some "api" then 1 else 0 := by
  obtain ⟨hnodup, hasked⟩ := session_asked document steps {}
  split
  · rename_i hapi
    exact List.count_eq_one_of_mem hnodup (session_asks ImportCache.logged_empty hstep hapi)
  · rename_i hother
    exact List.count_eq_zero.mpr fun hmem => hother (hasked _ hmem).1

end Session

/-- The turns of a session go by the files that are imported and not by the spellings of
their paths: all imports of a file have one answer, and it is read once, or never if it
is not an `.api` file. -/
structure Document.ImportsByFile (document : Document) (steps : List (Loader × Query))
    (turns : List Turn) : Prop where
  same : ∀ (i j : Nat) (loader other : Loader) (written again : String),
    steps[i]? = some (loader, .importOf written) → steps[j]? = some (other, .importOf again) →
      document.importTarget written = document.importTarget again →
        ∃ answer, turns[i]?.map Turn.answer = some answer ∧
          turns[j]?.map Turn.answer = some answer
  once : ∀ (i : Nat) (loader : Loader) (written : String),
    steps[i]? = some (loader, .importOf written) →
      (turns.flatMap Turn.asked).count (document.importTarget written) =
        if (document.importTarget written).extension? = some "api" then 1 else 0

theorem session_importsByFile (document : Document) (steps : List (Loader × Query)) :
    document.ImportsByFile steps (document.session steps {}) := by
  refine ⟨?_, fun _ _ _ => session_count⟩
  intro i j loader other written again hfirst hagain htarget
  refine session_repeats (fun loader => ?_) hfirst hagain
  rw [Query.ask, Query.ask, importDocument, importDocument, htarget]

/-- Normal forms stand for all spellings of a path: they are canonical, agree with
joining, and decide what is found in memory, what is imported and what is read. -/
theorem normalForms_standFor_paths :
    (∀ path : Path, path.FoldsTo path.normalize) ∧
    (∀ base next : Path,
      (base.join next).normalize = (base.normalize.join next.normalize).normalize ∧
        (next.absolute = true → base.join next = next)) ∧
    (∀ files path, (MemoryFiles.ofList files).loader path.normalize =
      (MemoryFiles.ofList files).loader path) ∧
    ∀ document : Document,
      (∀ written again, (Path.ofText written).normalize = (Path.ofText again).normalize →
        document.importTarget written = document.importTarget again) ∧
      ∀ steps, document.ImportsByFile steps (document.session steps {}) := by
  refine ⟨Path.foldsTo_normalize, fun base next => ?_, MemoryFiles.loader_normalize,
    fun document => ⟨fun _ _ => document.importTarget_congr, session_importsByFile document⟩⟩
  exact ⟨Path.normalize_join base next, Path.join_of_absolute⟩

end ApiLang
