/-
Sessions with one cache.  A document is asked about one thing after the other while
the files behind the loader change.  Main statement: each file is read once, what was
answered is answered again, and as long as the files stay as they are every answer is
the one that an empty cache gives.
-/
import ApiLang.Proofs.Document.Imports
import Mathlib.Data.List.Nodup

namespace ApiLang

variable {α β : Type} {reach : Path → Prop}

namespace ImportCache

/-- What the earlier cache knows, the later one knows alike. -/
def Extends (later earlier : ImportCache) : Prop :=
  ∀ path answer, earlier.known.find? path = some answer → later.known.find? path = some answer

theorem Extends.refl (cache : ImportCache) : cache.Extends cache :=
  fun _ _ hknown => hknown

theorem Extends.trans {last later earlier : ImportCache} (hlast : last.Extends later)
    (hlater : later.Extends earlier) : last.Extends earlier :=
  fun path answer hknown => hlast path answer (hlater path answer hknown)

theorem Extends.unknown {later earlier : ImportCache} (hlater : later.Extends earlier)
    {path : Path} (hunknown : later.known.find? path = none) :
    earlier.known.find? path = none := by
  cases hknown : earlier.known.find? path with
  | none => rfl
  | some answer =>
      rw [hlater path answer hknown] at hunknown
      cases hunknown

end ImportCache

/-- What a run adds to the log.  The paths asked for were unknown before and are known
afterwards, none comes twice, and elsewhere the loader plays no part. -/
structure Reads (reach : Path → Prop) (action : Loader → Importing α) (loader : Loader)
    (before : ImportCache) (asked : List Path) : Prop where
  loads : ((action loader).run before).2.loads = before.loads ++ asked
  nodup : asked.Nodup
  allowed : ∀ path ∈ asked, path.extension? = some "api" ∧ reach path
  unknown : ∀ path ∈ asked, before.known.find? path = none
  known : ∀ path ∈ asked, ((action loader).run before).2.known.find? path ≠ none
  alone : ∀ other : Loader, (∀ path ∈ asked, other path = loader path) →
    (action other).run before = (action loader).run before

/-- A computation that reads files through the cache alone, and none but those within
`reach`. -/
structure Remembers (reach : Path → Prop) (action : Loader → Importing α) : Prop where
  /-- Nothing is forgotten. -/
  grows : ∀ loader before, ((action loader).run before).2.Extends before
  /-- What was answered is answered again without reading, whatever the files have
  become by then. -/
  settles : ∀ loader before other later, later.Extends ((action loader).run before).2 →
    (action other).run later = (((action loader).run before).1, later)
  reads : ∀ loader before, ∃ asked, Reads reach action loader before asked

namespace Remembers

theorem mono {wider : Path → Prop} {action : Loader → Importing α}
    (haction : Remembers reach action) (hreach : ∀ path, reach path → wider path) :
    Remembers wider action := by
  refine ⟨haction.grows, haction.settles, fun loader before => ?_⟩
  obtain ⟨asked, hreads⟩ := haction.reads loader before
  refine ⟨asked, { hreads with allowed := fun path hpath => ?_ }⟩
  exact (hreads.allowed path hpath).imp_right (hreach path)

theorem pure (a : α) : Remembers reach fun _ => (Pure.pure a : Importing α) := by
  constructor
  · exact fun _ before => .refl before
  · exact fun _ _ _ _ _ => rfl
  · intro loader before
    refine ⟨[], ?_, List.nodup_nil, ?_, ?_, ?_, fun _ _ => rfl⟩
    · exact (List.append_nil _).symm
    all_goals simp

/-- Two computations in a row, the second as the first one answers. -/
theorem bind {first : Loader → Importing α} {next : α → Loader → Importing β}
    (hfirst : Remembers reach first) (hnext : ∀ a, Remembers reach (next a)) :
    Remembers reach fun loader => first loader >>= fun a => next a loader := by
  have hrun : ∀ (loader : Loader) (before : ImportCache),
      (first loader >>= fun a => next a loader).run before =
        (next ((first loader).run before).1 loader).run ((first loader).run before).2 :=
    fun _ _ => rfl
  constructor
  · intro loader before
    exact ((hnext _).grows loader _).trans (hfirst.grows loader before)
  · intro loader before other later hlater
    have hmiddle := hlater.trans ((hnext _).grows loader _)
    rw [hrun, hfirst.settles loader before other later hmiddle]
    exact (hnext _).settles loader _ other later hlater
  · intro loader before
    obtain ⟨asked, hreads⟩ := hfirst.reads loader before
    obtain ⟨more, hmore⟩ := (hnext ((first loader).run before).1).reads loader
      ((first loader).run before).2
    refine ⟨asked ++ more, ?_, ?_, ?_, ?_, ?_, ?_⟩
    · rw [hrun, hmore.loads, hreads.loads, List.append_assoc]
    · refine hreads.nodup.append hmore.nodup fun path hpath hagain => ?_
      exact hreads.known path hpath (hmore.unknown path hagain)
    · exact List.forall_mem_append.mpr ⟨hreads.allowed, hmore.allowed⟩
    · refine List.forall_mem_append.mpr ⟨hreads.unknown, fun path hpath => ?_⟩
      exact (hfirst.grows loader before).unknown (hmore.unknown path hpath)
    · refine List.forall_mem_append.mpr ⟨fun path hpath hunknown => ?_, hmore.known⟩
      exact hreads.known path hpath (((hnext _).grows loader _).unknown hunknown)
    · intro other hother
      obtain ⟨hasked, hagain⟩ := List.forall_mem_append.mp hother
      rw [hrun, hrun, hreads.alone other hasked]
      exact hmore.alone other hagain

theorem mapM {action : α → Loader → Importing β} {inputs : List α}
    (haction : ∀ a ∈ inputs, Remembers reach (action a)) :
    Remembers reach fun loader => inputs.mapM fun a => action a loader := by
  induction inputs with
  | nil => exact .pure []
  | cons input others ih =>
      obtain ⟨hinput, hothers⟩ := List.forall_mem_cons.mp haction
      simp only [List.mapM_cons]
      exact hinput.bind fun b => (ih hothers).bind fun bs => .pure (b :: bs)

end Remembers

/-- A path is read if it is not known, and known from then on. -/
theorem recallDocument_remembers {path : Path} (hpath : reach path) :
    Remembers reach fun loader => recallDocument loader path := by
  constructor
  · intro loader before
    cases hknown : before.known.find? path with
    | some answer => rw [recallDocument_run_known loader hknown]; exact .refl before
    | none =>
        rw [recallDocument_run_new loader hknown]
        intro other answer hother
        have hdiffer : other ≠ path := by
          rintro rfl
          rw [hknown] at hother
          cases hother
        exact (OrderedMap.find?_set_of_ne _ hdiffer _).trans hother
  · intro loader before other later hlater
    apply recallDocument_run_known
    apply hlater
    cases hknown : before.known.find? path with
    | some answer => rw [recallDocument_run_known loader hknown]; exact hknown
    | none => rw [recallDocument_run_new loader hknown]; exact OrderedMap.find?_set_self _ _ _
  · intro loader before
    cases hknown : before.known.find? path with
    | some answer =>
        refine ⟨[], ?_, List.nodup_nil, by simp, by simp, by simp, fun other _ => ?_⟩
        · rw [recallDocument_run_known loader hknown, List.append_nil]
        · rw [recallDocument_run_known loader hknown, recallDocument_run_known other hknown]
    | none =>
        by_cases hapi : isApiPath path = true
        · refine ⟨[path], ?_, List.nodup_singleton path, ?_, ?_, ?_, fun other hother => ?_⟩
          · rw [recallDocument_run_new loader hknown]
            exact if_pos hapi
          · exact List.forall_mem_singleton.mpr ⟨isApiPath_iff.mp hapi, hpath⟩
          · exact List.forall_mem_singleton.mpr hknown
          · rw [List.forall_mem_singleton, recallDocument_run_new loader hknown]
            simp
          · have hsame : loadDocument other path = loadDocument loader path := by
              rw [loadDocument, loadDocument, hother path List.mem_cons_self]
            rw [recallDocument_run_new loader hknown, recallDocument_run_new other hknown, hsame]
        · refine ⟨[], ?_, List.nodup_nil, by simp, by simp, by simp, fun other _ => ?_⟩
          · rw [recallDocument_run_new loader hknown, List.append_nil]
            exact if_neg hapi
          · have hsame : loadDocument other path = loadDocument loader path := by
              have hextension := mt isApiPath_iff.mpr hapi
              rw [loadDocument, loadDocument, if_neg hextension, if_neg hextension]
            rw [recallDocument_run_new loader hknown, recallDocument_run_new other hknown, hsame]

section Document

variable (document : Document)

/-- The paths that the meaning of a node may depend on: for the use of `pkg.Name` the
imports called `pkg`, which has no dot, and for an import the file it names. -/
def Document.Reaches (id : NodeId) (path : Path) : Prop :=
  match (document.get? id).map Node.kind with
  | some (.typeRef name _) =>
    ∃ qualifier struct, name.val = qualifier ++ "." ++ struct ∧ '.' ∉ qualifier.toList ∧
      ∃ written ∈ document.importsNamed qualifier, path = document.importTarget written
  | some (.importPath written) => written.val ≠ "" ∧ path = document.importTarget written.val
  | _ => False

theorem importDocument_remembers {written : String}
    (hreach : reach (document.importTarget written)) :
    Remembers reach fun loader => importDocument loader document written :=
  recallDocument_remembers hreach

theorem typeTargets_remembers {name : String}
    (hreach : ∀ qualifier struct, splitQualified? name = some (qualifier, struct) →
      ∀ written ∈ document.importsNamed qualifier, reach (document.importTarget written)) :
    Remembers reach fun loader => typeTargets loader document name := by
  unfold typeTargets
  split
  · exact .pure _
  · rename_i qualifier struct hsplit
    have himports : ∀ written ∈ document.importsNamed qualifier,
        Remembers reach fun loader => importDocument loader document written :=
      fun written hwritten => importDocument_remembers document (hreach _ _ hsplit written hwritten)
    exact (Remembers.mapM himports).bind fun _ => .pure _

theorem importTargets_remembers {written : String}
    (hreach : written ≠ "" → reach (document.importTarget written)) :
    Remembers reach fun loader => importTargets loader document written := by
  unfold importTargets
  split
  · exact .pure _
  · rename_i hfull
    refine (importDocument_remembers document (hreach (by simpa using hfull))).bind fun answer => ?_
    cases answer with
    | ok imported | error fault => exact .pure _

/-- What a node points at is found by reading no file but those it reaches. -/
theorem resolve_remembers (id : NodeId) :
    Remembers (document.Reaches id) fun loader => resolve loader document id := by
  have hcandidates : Remembers (document.Reaches id)
      fun loader => candidates loader document id := by
    unfold candidates
    split
    · rename_i name role hkind
      refine typeTargets_remembers document fun qualifier struct hsplit written hwritten => ?_
      rw [Document.Reaches, hkind]
      obtain ⟨hname, hfirst⟩ := splitQualified?_eq_some_iff.mp hsplit
      exact ⟨qualifier, struct, hname, hfirst, written, hwritten, rfl⟩
    · exact .pure _
    · rename_i written hkind
      refine importTargets_remembers document fun hfull => ?_
      rw [Document.Reaches, hkind]
      exact ⟨hfull, rfl⟩
    · exact .pure _
  exact hcandidates.bind fun _ => .pure _

end Document

/-- What a document can be asked about while its cache lives. -/
inductive Query where
  | importOf (written : String)
  | resolve (id : NodeId)

inductive Answer where
  | imported (found : Except ImportFault Document)
  | resolved (found : Resolution)

def Query.ask (document : Document) (loader : Loader) : Query → Importing Answer
  | .importOf written => return .imported (← importDocument loader document written)
  | .resolve id => return .resolved (← ApiLang.resolve loader document id)

/-- One step of a session: the answer, and the paths the loader was asked for. -/
structure Turn where
  answer : Answer
  asked : List Path

/-- Queries one after the other, each with the loader as it is by then. -/
def Document.session (document : Document) : List (Loader × Query) → ImportCache → List Turn
  | [], _ => []
  | (loader, query) :: steps, cache =>
    let (answer, after) := (query.ask document loader).run cache
    ⟨answer, after.loads.drop cache.loads.length⟩ :: document.session steps after

/-- The path is the normal form of some import of the document. -/
def Document.IsTarget (document : Document) (path : Path) : Prop :=
  ∃ written, path = document.importTarget written

section Session

variable {document : Document} {cache : ImportCache} {steps : List (Loader × Query)}

theorem Query.ask_remembers (document : Document) (query : Query) :
    Remembers document.IsTarget fun loader => query.ask document loader := by
  cases query with
  | importOf written =>
      exact (importDocument_remembers document ⟨written, rfl⟩).bind fun _ => .pure _
  | resolve id =>
      refine ((resolve_remembers document id).mono fun path hreach => ?_).bind fun _ => .pure _
      unfold Document.Reaches at hreach
      split at hreach
      · obtain ⟨_, _, _, _, written, _, rfl⟩ := hreach
        exact ⟨written, rfl⟩
      · exact ⟨_, hreach.2⟩
      · exact hreach.elim

theorem Query.ask_steady {loader : Loader} (document : Document) (query : Query) :
    Steady loader (query.ask document loader) := by
  cases query with
  | importOf written => exact (importDocument_steady document written).bind fun _ => .pure _
  | resolve id => exact (resolve_steady document id).bind fun _ => .pure _

/-- A step adds to the log what it asked for. -/
theorem session_cons {loader : Loader} {query : Query} {asked : List Path}
    (hreads : Reads document.IsTarget (fun loader => query.ask document loader) loader cache
      asked) :
    document.session ((loader, query) :: steps) cache =
      ⟨((query.ask document loader).run cache).1, asked⟩ ::
        document.session steps ((query.ask document loader).run cache).2 := by
  have hdrop : ((query.ask document loader).run cache).2.loads.drop cache.loads.length = asked := by
    rw [hreads.loads, List.drop_left]
  conv_rhs => rw [← hdrop]
  rfl

theorem length_session (steps : List (Loader × Query)) (cache : ImportCache) :
    (document.session steps cache).length = steps.length := by
  induction steps generalizing cache with
  | nil => rfl
  | cons step steps ih => exact congrArg (· + 1) (ih _)

/-- A session asks for each path at most once, and for none that is known at its
beginning. -/
theorem session_asked (document : Document) (steps : List (Loader × Query))
    (cache : ImportCache) :
    ((document.session steps cache).flatMap Turn.asked).Nodup ∧
      ∀ path ∈ (document.session steps cache).flatMap Turn.asked,
        path.extension? = some "api" ∧ document.IsTarget path ∧
          cache.known.find? path = none := by
  induction steps generalizing cache with
  | nil => simp [Document.session]
  | cons step steps ih =>
      obtain ⟨loader, query⟩ := step
      have hquery := query.ask_remembers document
      obtain ⟨asked, hreads⟩ := hquery.reads loader cache
      obtain ⟨hnodup, hlater⟩ := ih ((query.ask document loader).run cache).2
      rw [session_cons hreads, List.flatMap_cons]
      constructor
      · refine hreads.nodup.append hnodup fun path hpath hagain => ?_
        exact hreads.known path hpath (hlater path hagain).2.2
      · intro path hpath
        rcases List.mem_append.mp hpath with hpath | hpath
        · obtain ⟨hapi, htarget⟩ := hreads.allowed path hpath
          exact ⟨hapi, htarget, hreads.unknown path hpath⟩
        · obtain ⟨hapi, htarget, hunknown⟩ := hlater path hpath
          exact ⟨hapi, htarget, (hquery.grows loader cache).unknown hunknown⟩

/-- Loaders that agree at the paths asked for give the same session. -/
theorem session_eq_of_asked {others : List (Loader × Query)}
    (hqueries : others.map Prod.snd = steps.map Prod.snd)
    (hagree : ∀ (i : Nat) (step other : Loader × Query) (turn : Turn),
      steps[i]? = some step → others[i]? = some other →
      (document.session steps cache)[i]? = some turn →
        ∀ path ∈ turn.asked, other.1 path = step.1 path) :
    document.session others cache = document.session steps cache := by
  induction steps generalizing others cache with
  | nil =>
      rw [List.map_nil, List.map_eq_nil_iff] at hqueries
      rw [hqueries]
  | cons step steps ih =>
      cases others with
      | nil => cases hqueries
      | cons other others =>
          obtain ⟨loader, query⟩ := step
          obtain ⟨otherLoader, otherQuery⟩ := other
          obtain ⟨hquery, hrest⟩ := List.cons.inj hqueries
          cases hquery
          obtain ⟨asked, hreads⟩ := (query.ask_remembers document).reads loader cache
          rw [session_cons hreads] at hagree ⊢
          have hsame := hreads.alone otherLoader (hagree 0 _ _ _ rfl rfl rfl)
          have htail := ih hrest fun i step other turn hstep hother hturn =>
            hagree (i + 1) step other turn hstep hother hturn
          rw [Document.session, hsame, ← htail]
          exact session_cons hreads

/-- From this cache on the query has this answer. -/
def Settled (document : Document) (query : Query) (answer : Answer) (cache : ImportCache) : Prop :=
  ∀ loader later, later.Extends cache → (query.ask document loader).run later = (answer, later)

/-- A settled query is answered alike at every step. -/
theorem session_settled {query : Query} {answer : Answer}
    (hsettled : Settled document query answer cache) {i : Nat} {loader : Loader}
    (hstep : steps[i]? = some (loader, query)) :
    (document.session steps cache)[i]?.map Turn.answer = some answer := by
  induction steps generalizing cache i with
  | nil => cases hstep
  | cons step steps ih =>
      obtain ⟨first, other⟩ := step
      cases i with
      | zero =>
          cases hstep
          have hrun := hsettled loader cache (.refl cache)
          rw [Document.session, hrun]
          rfl
      | succ i =>
          have hgrows := (other.ask_remembers document).grows first cache
          exact ih (fun loader later hlater => hsettled loader later (hlater.trans hgrows)) hstep

/-- Behind a step, a query that comes to the same is answered as the step was. -/
theorem session_settled_behind {query again : Query}
    (hsame : ∀ loader, query.ask document loader = again.ask document loader) {j : Nat}
    {loader other : Loader} (hagain : steps[j]? = some (other, again)) :
    (document.session steps ((query.ask document loader).run cache).2)[j]?.map Turn.answer =
      some ((query.ask document loader).run cache).1 := by
  refine session_settled (fun other later hlater => ?_) hagain
  rw [← hsame]
  exact (query.ask_remembers document).settles loader cache other later hlater

/-- Queries that come to the same are answered alike wherever they stand in a
session. -/
theorem session_repeats {query again : Query}
    (hsame : ∀ loader, query.ask document loader = again.ask document loader) {i j : Nat}
    {loader other : Loader} (hquery : steps[i]? = some (loader, query))
    (hagain : steps[j]? = some (other, again)) :
    ∃ answer, (document.session steps cache)[i]?.map Turn.answer = some answer ∧
      (document.session steps cache)[j]?.map Turn.answer = some answer := by
  induction steps generalizing cache i j with
  | nil => cases hquery
  | cons step steps ih =>
      cases i with
      | zero =>
          cases hquery
          cases j with
          | zero => cases hagain; exact ⟨_, rfl, rfl⟩
          | succ j => exact ⟨_, rfl, session_settled_behind hsame hagain⟩
      | succ i =>
          cases j with
          | zero =>
              cases hagain
              exact ⟨_, session_settled_behind (fun loader => (hsame loader).symm) hquery, rfl⟩
          | succ j => exact ih hquery hagain

/-- While the files stay as they are, each answer is that of an empty cache. -/
theorem session_steady {loader : Loader} (hloader : ∀ step ∈ steps, step.1 = loader)
    (hcache : cache.Faithful loader) :
    (document.session steps cache).map Turn.answer =
      steps.map fun step => freshAnswer (step.2.ask document loader) := by
  induction steps generalizing cache with
  | nil => rfl
  | cons step steps ih =>
      obtain ⟨hfirst, hothers⟩ := List.forall_mem_cons.mp hloader
      obtain ⟨found, query⟩ := step
      cases hfirst
      obtain ⟨hanswer, hafter⟩ := query.ask_steady document cache hcache
      exact congrArg₂ List.cons hanswer (ih hothers hafter)

end Session

/-- How the turns of a session answer to its steps. -/
structure Document.KeepsAnswers (document : Document) (steps : List (Loader × Query))
    (turns : List Turn) : Prop where
  answered : turns.length = steps.length
  /-- The loader is asked for a path in normal form, never twice for the same and only
  for `.api` files. -/
  asked_once : (turns.flatMap Turn.asked).Nodup
  asked_api : ∀ turn ∈ turns, ∀ path ∈ turn.asked,
    path.extension? = some "api" ∧ document.IsTarget path
  /-- What the loader has at other paths, or at other times, plays no part. -/
  asked_only : ∀ others : List (Loader × Query), others.map Prod.snd = steps.map Prod.snd →
    (∀ (i : Nat) (step other : Loader × Query) (turn : Turn), steps[i]? = some step →
      others[i]? = some other → turns[i]? = some turn →
        ∀ path ∈ turn.asked, other.1 path = step.1 path) →
        document.session others {} = turns
  /-- Imports of one normal form have one answer. -/
  imports : ∀ (i j : Nat) (loader other : Loader) (written again : String),
    steps[i]? = some (loader, .importOf written) → steps[j]? = some (other, .importOf again) →
      document.importTarget written = document.importTarget again →
        ∃ answer, turns[i]?.map Turn.answer = some answer ∧
          turns[j]?.map Turn.answer = some answer
  /-- A node has one meaning. -/
  resolutions : ∀ (i j : Nat) (loader other : Loader) (id : NodeId),
    steps[i]? = some (loader, .resolve id) → steps[j]? = some (other, .resolve id) →
      ∃ answer, turns[i]?.map Turn.answer = some answer ∧
        turns[j]?.map Turn.answer = some answer
  /-- While the files stay as they are, nothing that came before a step matters. -/
  steady : ∀ loader, (∀ step ∈ steps, step.1 = loader) →
    turns.map Turn.answer = steps.map fun step => freshAnswer (step.2.ask document loader)

/-- A session keeps to the answers it has given, whatever becomes of the files. -/
theorem session_keepsAnswers (document : Document) (steps : List (Loader × Query)) :
    document.KeepsAnswers steps (document.session steps {}) := by
  obtain ⟨hnodup, hasked⟩ := session_asked document steps {}
  constructor
  · exact length_session steps {}
  · exact hnodup
  · intro turn hturn path hpath
    obtain ⟨hapi, htarget, _⟩ := hasked path (List.mem_flatMap.mpr ⟨turn, hturn, hpath⟩)
    exact ⟨hapi, htarget⟩
  · exact fun others => session_eq_of_asked
  · intro i j loader other written again hfirst hagain htarget
    refine session_repeats (fun loader => ?_) hfirst hagain
    rw [Query.ask, Query.ask, importDocument, importDocument, htarget]
  · intro i j loader other id hfirst hagain
    exact session_repeats (fun _ => rfl) hfirst hagain
  · exact fun loader hloader => session_steady hloader (ImportCache.faithful_empty loader)

end ApiLang
