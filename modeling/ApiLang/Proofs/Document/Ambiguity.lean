/-
Several candidates for one reference.  Candidates are told apart by where they stand:
the normal form of the path of their document, and their node in it.  Imports are
gathered by the spelling of their paths, so that a struct comes twice exactly if its
file is imported under two spellings.
-/
import ApiLang.Proofs.Document.Meaning
import ApiLang.Proofs.Path

namespace ApiLang

/-- Where the target of a reference in `home` stands. -/
def Target.place (home : Document) (target : Target) : Path × Option NodeId :=
  ((Path.ofText (target.documentFrom home).path).normalize, target.node?)

/-- The name is that of a struct in a file which is imported under two spellings of its
path. -/
def Document.SpelledTwice (document : Document) (loader : Loader) (name : String) : Prop :=
  ∃ qualifier struct : String, name = qualifier ++ "." ++ struct ∧ '.' ∉ qualifier.toList ∧
    ∃ first ∈ document.importsCalled qualifier, ∃ second ∈ document.importsCalled qualifier,
      first ≠ second ∧ document.importTarget first = document.importTarget second ∧
        document.importedStructs loader struct first ≠ []

section Imports

variable {document : Document} {loader : Loader}

theorem Document.importTarget_spelled (document : Document) (written : String) :
    (document.importTarget written).Spelled := by
  have hdirectory : ((Path.ofText document.path).parent?.getD .empty).Spelled := by
    cases hparent : (Path.ofText document.path).parent? with
    | none => exact fun _ hpart => absurd hpart List.not_mem_nil
    | some directory => exact (Path.ofText_spelled document.path).parent hparent
  exact (hdirectory.join (Path.ofText_spelled written)).normalize

/-- The path of an imported document is the one that it was asked for. -/
theorem Document.normalize_ofText_importTarget (document : Document) (written : String) :
    (Path.ofText (document.importTarget written).render).normalize =
      document.importTarget written := by
  have hread : Path.ofText (document.importTarget written).render =
      document.importTarget written :=
    Path.ofText_render (document.importTarget_spelled written) (Path.here_notMem_normalize _)
  rw [hread]
  exact Path.normalize_normalize _

theorem Document.nodup_importsCalled (document : Document) (qualifier : String) :
    (document.importsCalled qualifier).Nodup :=
  (nodup_eraseDups _).filter _

theorem Document.nodup_nodesWhere (document : Document) (test : NodeKind → Bool) :
    (document.nodesWhere test).Nodup :=
  (document.enumerates_nodesWhere test).increasing.imp Nat.ne_of_lt

/-- The structs of one import stand in its file, each at a place of its own. -/
theorem importedStructs_places (document : Document) (loader : Loader)
    (struct written : String) :
    ∃ ids : List NodeId, ids.Nodup ∧
      (document.importedStructs loader struct written).map (Target.place document) =
        ids.map fun id => (document.importTarget written, some id) := by
  unfold Document.importedStructs
  cases himport : freshAnswer (importDocument loader document written) with
  | error fault => exact ⟨[], List.nodup_nil, rfl⟩
  | ok imported =>
      have hpath : imported.path = (document.importTarget written).render := by
        obtain ⟨source, rfl⟩ := importDocument_parsed himport
        rfl
      refine ⟨imported.structsNamed struct, imported.nodup_nodesWhere _, ?_⟩
      rw [List.map_map]
      refine List.map_congr_left fun id _ => congrArg (·, some id) ?_
      rw [← document.normalize_ofText_importTarget, ← hpath]
      rfl

theorem importedStructs_nodup (document : Document) (loader : Loader)
    (struct written : String) :
    ((document.importedStructs loader struct written).map (Target.place document)).Nodup := by
  obtain ⟨ids, hids, hplaces⟩ := importedStructs_places document loader struct written
  rw [hplaces]
  refine hids.map fun id other hsame => ?_
  exact Option.some.inj (Prod.mk.inj hsame).2

theorem importedStructs_path {struct written : String} {place : Path × Option NodeId}
    (hplace : place ∈
      (document.importedStructs loader struct written).map (Target.place document)) :
    place.1 = document.importTarget written := by
  obtain ⟨ids, -, hplaces⟩ := importedStructs_places document loader struct written
  rw [hplaces] at hplace
  obtain ⟨id, -, rfl⟩ := List.mem_map.mp hplace
  rfl

/-- Two spellings of one path import the same structs. -/
theorem importedStructs_congr {first second : String}
    (hsame : document.importTarget first = document.importTarget second) (struct : String) :
    document.importedStructs loader struct first =
      document.importedStructs loader struct second := by
  unfold Document.importedStructs
  rw [freshAnswer_importDocument, freshAnswer_importDocument, hsame]

/-- Imported structs stand at different places exactly if no file that has some is
imported under two spellings. -/
theorem nodup_importedStructs_iff {qualifier struct : String} :
    (((document.importsCalled qualifier).flatMap (document.importedStructs loader struct)).map
        (Target.place document)).Nodup ↔
      ∀ first ∈ document.importsCalled qualifier, ∀ second ∈ document.importsCalled qualifier,
        first ≠ second → document.importTarget first = document.importTarget second →
          document.importedStructs loader struct first = [] := by
  rw [List.map_flatMap, List.nodup_flatMap]
  constructor
  · rintro ⟨-, hapart⟩ first hfirst second hsecond hdiffer hsame
    have hsymm : Std.Symm (Function.onFun List.Disjoint fun written =>
        (document.importedStructs loader struct written).map (Target.place document)) :=
      ⟨fun _ _ hdisjoint => hdisjoint.symm⟩
    refine List.eq_nil_iff_forall_not_mem.mpr fun target htarget => ?_
    have hplace := List.mem_map_of_mem (f := Target.place document) htarget
    apply hapart.forall hfirst hsecond hdiffer hplace
    rwa [importedStructs_congr hsame] at hplace
  · intro hsingle
    refine ⟨fun written _ => importedStructs_nodup document loader struct written, ?_⟩
    refine (document.nodup_importsCalled qualifier).pairwise_of_forall_ne ?_
    intro first hfirst second hsecond hdiffer place hplace hagain
    by_cases hsame : document.importTarget first = document.importTarget second
    · have hnone := hsingle first hfirst second hsecond hdiffer hsame
      simp [hnone] at hplace
    · exact hsame ((importedStructs_path hplace).symm.trans (importedStructs_path hagain))

end Imports

section Candidates

variable {document : Document} {loader : Loader}

theorem nodup_localPlaces (document : Document) (test : NodeKind → Bool) :
    (((document.nodesWhere test).map Target.localNode).map (Target.place document)).Nodup := by
  rw [List.map_map]
  refine (document.nodup_nodesWhere test).map fun id other hsame => ?_
  exact Option.some.inj (Prod.mk.inj hsame).2

theorem not_spelledTwice_of_plain {name : String} (hplain : '.' ∉ name.toList) :
    ¬document.SpelledTwice loader name := by
  rintro ⟨qualifier, struct, rfl, -⟩
  simp at hplain

theorem not_spelledTwice_iff {qualifier struct : String} (hfirst : '.' ∉ qualifier.toList) :
    ¬document.SpelledTwice loader (qualifier ++ "." ++ struct) ↔
      ∀ first ∈ document.importsCalled qualifier, ∀ second ∈ document.importsCalled qualifier,
        first ≠ second → document.importTarget first = document.importTarget second →
          document.importedStructs loader struct first = [] := by
  constructor
  · intro hsingle first hcalled second hagain hdiffer hsame
    by_contra hfound
    exact hsingle ⟨qualifier, struct, rfl, hfirst, first, hcalled, second, hagain, hdiffer, hsame,
      hfound⟩
  · rintro hsingle ⟨other, struct', hname, hother, first, hcalled, second, hagain, hdiffer, hsame,
      hfound⟩
    obtain ⟨rfl, rfl⟩ := qualified_inj hname hfirst hother
    exact hfound (hsingle first hcalled second hagain hdiffer hsame)

/-- An import has one candidate at most. -/
theorem nodup_importPlaces (document : Document) (loader : Loader) (written : String) :
    ((freshAnswer (importTargets loader document written)).map (Target.place document)).Nodup := by
  rw [freshAnswer_importTargets]
  split
  · exact List.nodup_nil
  · split
    · exact List.nodup_singleton _
    · exact List.nodup_nil

theorem nodup_typePlaces_iff (source path : String) (loader : Loader) (name : String) :
    ((freshAnswer (typeTargets loader (Document.parse source path) name)).map
        (Target.place (Document.parse source path))).Nodup ↔
      ¬(Document.parse source path).SpelledTwice loader name := by
  by_cases hdot : '.' ∈ name.toList
  · obtain ⟨qualifier, struct, hname, hfirst⟩ := exists_qualified hdot
    rw [freshAnswer_typeTargets_qualified hname hfirst, (parse_indexed source path).importsNamed_eq,
      nodup_importedStructs_iff, hname, not_spelledTwice_iff hfirst]
  · refine iff_of_true ?_ (not_spelledTwice_of_plain hdot)
    rw [typeTargets, splitQualified?_eq_none hdot, freshAnswer_pure, localTargets,
      parse_lookup_struct]
    exact nodup_localPlaces _ _

/-- The candidates of a node stand at different places, unless the node names a struct
of a file that is imported under two spellings. -/
theorem nodup_candidatePlaces_iff (source path : String) (loader : Loader) (id : NodeId) :
    ((freshAnswer (candidates loader (Document.parse source path) id)).map
        (Target.place (Document.parse source path))).Nodup ↔
      ¬∃ name role,
        ((Document.parse source path).get? id).map Node.kind = some (.typeRef name role) ∧
          (Document.parse source path).SpelledTwice loader name.val := by
  unfold candidates
  cases hkind : ((Document.parse source path).get? id).map Node.kind with
  | none => exact iff_of_true List.nodup_nil (by simp)
  | some kind =>
      cases kind with
      | typeRef name role =>
          refine (nodup_typePlaces_iff source path loader name.val).trans (not_congr ?_)
          constructor
          · exact fun htwice => ⟨name, role, rfl, htwice⟩
          · rintro ⟨_, _, ⟨⟩, htwice⟩
            exact htwice
      | handler name =>
          refine iff_of_true ?_ (by simp)
          rw [freshAnswer_pure, localTargets, parse_lookup_handler]
          exact nodup_localPlaces _ _
      | importPath written =>
          exact iff_of_true (nodup_importPlaces _ loader written.val) (by simp)
      | version | info | struct | field | embedded | service | route | skipped =>
          exact iff_of_true List.nodup_nil (by simp)

end Candidates

/-- The candidates of an ambiguous reference stand at different places, unless the
reference names a struct of a file that is imported under two spellings. -/
theorem ambiguous_places_nodup_iff {source path : String} {loader : Loader} {cache : ImportCache}
    (hcache : cache.Faithful loader) {id : NodeId} {targets : List Target}
    (hanswer : ((resolve loader (Document.parse source path) id).run cache).1 =
      .ambiguous targets) :
    (targets.map (Target.place (Document.parse source path))).Nodup ↔
      ¬∃ name role,
        ((Document.parse source path).get? id).map Node.kind = some (.typeRef name role) ∧
          (Document.parse source path).SpelledTwice loader name.val := by
  rw [(resolve_steady _ id cache hcache).1, freshAnswer_resolve] at hanswer
  have hdecides := decides_ofTargets
    (freshAnswer (candidates loader (Document.parse source path) id))
  rw [hanswer] at hdecides
  rw [← hdecides.eq_of_ambiguous]
  exact nodup_candidatePlaces_iff source path loader id

theorem Resolution.eq_ambiguous (answer : Resolution) (hseveral : 2 ≤ answer.targets.length) :
    answer = .ambiguous answer.targets := by
  cases answer with
  | ambiguous targets => rfl
  | resolved target => simp [Resolution.targets] at hseveral
  | unresolved => simp [Resolution.targets] at hseveral

/-- A field of the type `a.T`, behind two imports. -/
def fieldBehind (first second : String) : String :=
  "import \"" ++ first ++ "\"\nimport \"" ++ second ++ "\"\ntype S \x7b\n  F a.T\n\x7d\n"

/-- Sources that each declare the type `T`. -/
def filesOfT (paths : List String) : MemoryFiles :=
  .ofList (paths.map fun path => (Path.ofText path, "type T \x7b\x7d\n"))

/-- Two files of one name, and a type in each. -/
theorem ambiguous_places_nodup_iff_twoFiles :
    ¬∃ name role,
      ((Document.parse (fieldBehind "x/a.api" "y/a.api") "main.api").get? 4).map Node.kind =
          some (.typeRef name role) ∧
        (Document.parse (fieldBehind "x/a.api" "y/a.api") "main.api").SpelledTwice
          (filesOfT ["x/a.api", "y/a.api"]).loader name.val := by
  have hanswer := Resolution.eq_ambiguous
    (freshAnswer (resolve (filesOfT ["x/a.api", "y/a.api"]).loader
      (Document.parse (fieldBehind "x/a.api" "y/a.api") "main.api") 4)) (by decide +kernel)
  exact (ambiguous_places_nodup_iff (ImportCache.faithful_empty _) hanswer).mp (by decide +kernel)

/-- A type that is declared once, in a file that is imported under two spellings of its
path, is ambiguous with itself. -/
theorem singleType_ambiguous :
    (Document.parse "type T \x7b\x7d\n" "a.api").structsNamed "T" = [0] ∧
      ∃ targets, freshAnswer (resolve (filesOfT ["a.api"]).loader
          (Document.parse (fieldBehind "a.api" "./a.api") "main.api") 4) = .ambiguous targets ∧
        ¬(targets.map
          (Target.place (Document.parse (fieldBehind "a.api" "./a.api") "main.api"))).Nodup := by
  refine ⟨by decide +kernel, _, Resolution.eq_ambiguous _ ?_, ?_⟩
  · decide +kernel
  · decide +kernel

end ApiLang
