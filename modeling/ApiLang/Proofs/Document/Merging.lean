/-
What a merged map holds.  Pairs set one after the other leave each key once, where
it came first, with the value that came last; and merging what was merged before is
merging all pairs at once.
-/
import ApiLang.Proofs.Document.Grouping

namespace ApiLang

section Distinct

variable {α : Type} [DecidableEq α]

theorem eraseDups_of_nodup {items : List α} (hitems : items.Nodup) : items.eraseDups = items := by
  induction items using List.reverseRecOn with
  | nil => rfl
  | append_singleton items last ih =>
      obtain ⟨hnodup, _, hapart⟩ := List.nodup_append.mp hitems
      have hnew : last ∉ items := fun hmem => hapart last hmem last List.mem_cons_self rfl
      rw [eraseDups_concat, if_neg hnew, ih hnodup]

/-- Repetitions are dropped from two lists as if they had been dropped from each
before. -/
theorem eraseDups_append_congr {first first' second second' : List α}
    (hfirst : first.eraseDups = first'.eraseDups)
    (hsecond : second.eraseDups = second'.eraseDups) :
    (first ++ second).eraseDups = (first' ++ second').eraseDups := by
  have hremove : ∀ items : List α, (items.removeAll first).eraseDups =
      items.eraseDups.filter fun a => !first.elem a := by
    intro items
    rw [← List.filterMap_eq_filter, eraseDups_filterMap, List.filterMap_eq_filter]
    · rfl
    · grind
  have hsame : second'.removeAll first' = second'.removeAll first := by
    refine List.filter_congr fun a _ => ?_
    have hmem : a ∈ first' ↔ a ∈ first := by
      rw [← List.mem_eraseDups, ← hfirst, List.mem_eraseDups]
    simp [hmem]
  rw [List.eraseDups_append, List.eraseDups_append, hfirst, hsame, hremove, hremove, hsecond]

end Distinct

namespace OrderedMap

variable {κ α ε : Type} [DecidableEq κ]

theorem ofList_concat (pairs : List (κ × α)) (pair : κ × α) :
    ofList (pairs ++ [pair]) = (ofList pairs).set pair.1 pair.2 := by
  simp [ofList]

/-- The keys of a merged map are those that came, each where it came first. -/
theorem keys_ofList (pairs : List (κ × α)) :
    (ofList pairs).entries.map Prod.fst = (pairs.map Prod.fst).eraseDups := by
  induction pairs using List.reverseRecOn with
  | nil => rfl
  | append_singleton pairs pair ih =>
      rw [ofList_concat, set, alter, keys_alterEntries, ih, List.map_append, List.map_singleton,
        eraseDups_concat]
      simp only [List.mem_eraseDups]

theorem nodup_keys_ofList (pairs : List (κ × α)) :
    ((ofList pairs).entries.map Prod.fst).Nodup := by
  rw [keys_ofList]
  exact nodup_eraseDups _

/-- The value of a key is the last one that it came with. -/
theorem find?_ofList (pairs : List (κ × α)) (key : κ) :
    (ofList pairs).find? key = (valuesOf key pairs).getLast? := by
  induction pairs using List.reverseRecOn with
  | nil => rfl
  | append_singleton pairs pair ih =>
      rw [ofList_concat, valuesOf_append]
      by_cases hsame : key = pair.1
      · have hlast : valuesOf key [pair] = [pair.2] := by simp [valuesOf, hsame]
        rw [hlast, hsame, find?_set_self, List.getLast?_concat]
      · have hnone : valuesOf key [pair] = [] := by simp [valuesOf, Ne.symm hsame]
        rw [hnone, List.append_nil, find?_set_of_ne _ hsame, ih]

/-- Where keys do not repeat, a key has the value that is found for it. -/
theorem valuesOf_entries {map : OrderedMap κ α} (hkeys : (map.entries.map Prod.fst).Nodup)
    (key : κ) : valuesOf key map.entries = (map.find? key).toList := by
  obtain ⟨entries⟩ := map
  induction entries with
  | nil => rfl
  | cons entry rest ih =>
      obtain ⟨hnew, hrest⟩ := List.nodup_cons.mp hkeys
      by_cases hsame : entry.1 = key
      · have hnone : valuesOf key rest = [] := by
          refine List.eq_nil_iff_forall_not_mem.mpr fun a ha => hnew ?_
          rw [hsame]
          exact List.mem_map_of_mem (mem_valuesOf.mp ha)
        simp only [valuesOf] at hnone
        simp [valuesOf, find?, hsame, hnone]
      · simpa [valuesOf, find?, hsame] using ih hrest

/-- Where keys do not repeat, the entries are the keys with what is found for them. -/
theorem entries_eq_flatMap_keys {map : OrderedMap κ α}
    (hkeys : (map.entries.map Prod.fst).Nodup) :
    map.entries = (map.entries.map Prod.fst).flatMap
      fun key => (map.find? key).toList.map (Prod.mk key) := by
  have hone : ∀ entry ∈ map.entries,
      (map.find? entry.1).toList.map (Prod.mk entry.1) = [entry] := by
    intro entry hentry
    rw [(find?_eq_some_iff hkeys).mpr hentry]
    rfl
  rw [List.flatMap_map, List.flatMap_congr hone, List.flatMap_singleton']

/-- Two maps with the same keys in the same order are the same if they answer alike. -/
theorem eq_of_find? {left right : OrderedMap κ α} (hleft : (left.entries.map Prod.fst).Nodup)
    (hkeys : left.entries.map Prod.fst = right.entries.map Prod.fst)
    (hfind : ∀ key, left.find? key = right.find? key) : left = right := by
  have hentries : left.entries = right.entries :=
    calc left.entries
        = (left.entries.map Prod.fst).flatMap
            fun key => (left.find? key).toList.map (Prod.mk key) := entries_eq_flatMap_keys hleft
      _ = (right.entries.map Prod.fst).flatMap
            fun key => (right.find? key).toList.map (Prod.mk key) := by simp only [hkeys, hfind]
      _ = right.entries := (entries_eq_flatMap_keys (hkeys ▸ hleft)).symm
  exact congrArg mk hentries

/-- Merging lists of pairs that were each merged before is merging all the pairs. -/
theorem ofList_flatMap_entries (blocks : List (List (κ × α))) :
    ofList (blocks.flatMap fun pairs => (ofList pairs).entries) = ofList blocks.flatten := by
  refine eq_of_find? (nodup_keys_ofList _) ?_ fun key => ?_
  · rw [keys_ofList, keys_ofList]
    induction blocks with
    | nil => rfl
    | cons pairs blocks ih =>
        rw [List.flatMap_cons, List.flatten_cons, List.map_append, List.map_append]
        refine eraseDups_append_congr ?_ ih
        rw [eraseDups_of_nodup (nodup_keys_ofList pairs), keys_ofList]
  · rw [find?_ofList, find?_ofList]
    induction blocks with
    | nil => rfl
    | cons pairs blocks ih =>
        rw [List.flatMap_cons, List.flatten_cons, valuesOf_append, valuesOf_append,
          List.getLast?_append, List.getLast?_append, ih, valuesOf_entries (nodup_keys_ofList _),
          find?_ofList]
        cases (valuesOf key pairs).getLast? <;> rfl

/-- The map has each key of the entries once, where it came first, and under it what
`Stands` for the last entry of the key. -/
structure KeepsLast (keyOf : ε → κ) (Stands : ε → α → Prop) (entries : List ε)
    (map : OrderedMap κ α) : Prop where
  keys : map.entries.map Prod.fst = (entries.map keyOf).eraseDups
  last : ∀ key a, (key, a) ∈ map.entries →
    ∃ entry, (entries.filter fun entry => keyOf entry = key).getLast? = some entry ∧
      Stands entry a

/-- Setting entries one after the other keeps the last of each key. -/
theorem keepsLast_ofList {keyOf : ε → κ} {valueOf : ε → α} {Stands : ε → α → Prop}
    (hstands : ∀ entry, Stands entry (valueOf entry)) (entries : List ε) :
    KeepsLast keyOf Stands entries
      (ofList (entries.map fun entry => (keyOf entry, valueOf entry))) := by
  refine ⟨?_, fun key a hmem => ?_⟩
  · rw [keys_ofList, List.map_map]
    rfl
  · rw [← find?_eq_some_iff (nodup_keys_ofList _), find?_ofList, valuesOf, List.filter_map,
      List.map_map, List.getLast?_map] at hmem
    obtain ⟨entry, hentry, rfl⟩ := Option.map_eq_some_iff.mp hmem
    exact ⟨entry, hentry, hstands entry⟩

end OrderedMap

end ApiLang
