/-
What a grouped map holds.  Each key has one entry, and the entry lists what the
key was paired with, in order; so a key with more than one value is a key that
came more than once.
-/
import ApiLang.OrderedMap
import Mathlib.Data.List.Induction
import Mathlib.Data.List.Nodup

namespace ApiLang

namespace OrderedMap

variable {κ α : Type} [DecidableEq κ]

/-- What `pairs` puts under a key, in order. -/
def valuesOf (key : κ) (pairs : List (κ × α)) : List α :=
  (pairs.filter fun pair => pair.1 = key).map Prod.snd

theorem length_valuesOf (key : κ) (pairs : List (κ × α)) :
    (valuesOf key pairs).length = pairs.countP fun pair => pair.1 = key := by
  rw [valuesOf, List.length_map, List.countP_eq_length_filter]

theorem valuesOf_append (key : κ) (left right : List (κ × α)) :
    valuesOf key (left ++ right) = valuesOf key left ++ valuesOf key right := by
  simp [valuesOf]

theorem group_concat (pairs : List (κ × α)) (pair : κ × α) :
    group (pairs ++ [pair]) = (group pairs).append pair.1 pair.2 := by
  simp [group]

/-- A change adds its key at the end, unless the key is there. -/
theorem keys_alterEntries (key : κ) (change : Option α → α) (entries : List (κ × α)) :
    (alterEntries key change entries).map Prod.fst =
      if key ∈ entries.map Prod.fst then entries.map Prod.fst
      else entries.map Prod.fst ++ [key] := by
  induction entries with
  | nil => simp [alterEntries]
  | cons entry rest ih =>
      obtain ⟨other, a⟩ := entry
      by_cases hsame : other = key
      · simp [alterEntries, hsame]
      · simp only [alterEntries, hsame, ↓reduceIte, List.map_cons, ih, List.mem_cons,
          Ne.symm hsame, false_or]
        split <;> rfl

theorem nodup_keys_alterEntries (key : κ) (change : Option α → α) {entries : List (κ × α)}
    (hkeys : (entries.map Prod.fst).Nodup) :
    ((alterEntries key change entries).map Prod.fst).Nodup := by
  rw [keys_alterEntries]
  split
  · exact hkeys
  · rename_i hnew
    rw [← List.concat_eq_append]
    exact hkeys.concat hnew

/-- A grouped map has one entry for each key. -/
theorem nodup_keys_group (pairs : List (κ × α)) :
    ((group pairs).entries.map Prod.fst).Nodup := by
  induction pairs using List.reverseRecOn with
  | nil => exact List.nodup_nil
  | append_singleton pairs pair ih =>
      rw [group_concat]
      exact nodup_keys_alterEntries _ _ ih

/-- The entry of a key, if the key is there, has all its values. -/
theorem find?_group (pairs : List (κ × α)) (key : κ) :
    (group pairs).find? key =
      if valuesOf key pairs = [] then none else some (valuesOf key pairs) := by
  induction pairs using List.reverseRecOn with
  | nil => rfl
  | append_singleton pairs pair ih =>
      rw [group_concat, valuesOf_append]
      by_cases hsame : key = pair.1
      · have hlast : valuesOf key [pair] = [pair.2] := by simp [valuesOf, hsame]
        rw [hlast, append, ← hsame, find?_alter_self, ih]
        by_cases hfirst : valuesOf key pairs = [] <;> simp [hfirst]
      · have hlast : valuesOf key [pair] = [] := by simp [valuesOf, Ne.symm hsame]
        rw [hlast, List.append_nil, append, find?_alter_of_ne _ hsame, ih]

/-- Where keys do not repeat, looking a key up finds its entry. -/
theorem find?_eq_some_iff {map : OrderedMap κ α} (hkeys : (map.entries.map Prod.fst).Nodup)
    {key : κ} {a : α} : map.find? key = some a ↔ (key, a) ∈ map.entries := by
  obtain ⟨entries⟩ := map
  induction entries with
  | nil => simp [find?]
  | cons entry rest ih =>
      obtain ⟨hnew, hrest⟩ := List.nodup_cons.mp hkeys
      by_cases hsame : entry.1 = key
      · have hnone : (key, a) ∉ rest := by
          intro hmem
          rw [hsame] at hnew
          exact hnew (List.mem_map_of_mem hmem)
        simp [find?, hsame, hnone, Prod.ext_iff, eq_comm]
      · have hother : (key, a) ≠ entry := by
          rintro rfl
          exact hsame rfl
        simpa [find?, hsame, hother] using ih hrest

/-- A key has at most one value exactly if it comes at most once. -/
theorem group_length_le_one_iff (pairs : List (κ × α)) (key : κ) :
    (∀ values, (key, values) ∈ (group pairs).entries → values.length ≤ 1) ↔
      (pairs.countP fun pair => pair.1 = key) ≤ 1 := by
  simp only [← find?_eq_some_iff (nodup_keys_group pairs), find?_group, ← length_valuesOf]
  by_cases hvalues : valuesOf key pairs = []
  · simp [hvalues]
  · simp [hvalues]

theorem mem_valuesOf {key : κ} {pairs : List (κ × α)} {a : α} :
    a ∈ valuesOf key pairs ↔ (key, a) ∈ pairs := by
  simp [valuesOf]

/-- The entries of a grouped map are the keys that came, with all their values. -/
theorem mem_entries_group {pairs : List (κ × α)} {key : κ} {values : List α} :
    (key, values) ∈ (group pairs).entries ↔ values ≠ [] ∧ values = valuesOf key pairs := by
  rw [← find?_eq_some_iff (nodup_keys_group pairs), find?_group]
  split
  · rename_i hnone
    simp [hnone]
  · rename_i hsome
    constructor
    · rintro ⟨⟩
      exact ⟨hsome, rfl⟩
    · rintro ⟨_, rfl⟩
      rfl

theorem mem_keys_group {pairs : List (κ × α)} {key : κ} :
    key ∈ (group pairs).entries.map Prod.fst ↔ ∃ a, (key, a) ∈ pairs := by
  constructor
  · intro hkey
    obtain ⟨⟨_, values⟩, hentry, rfl⟩ := List.mem_map.mp hkey
    obtain ⟨hne, rfl⟩ := mem_entries_group.mp hentry
    obtain ⟨a, ha⟩ := List.exists_mem_of_ne_nil _ hne
    exact ⟨a, mem_valuesOf.mp ha⟩
  · rintro ⟨a, ha⟩
    have hne : valuesOf key pairs ≠ [] := List.ne_nil_of_mem (mem_valuesOf.mpr ha)
    exact List.mem_map.mpr ⟨(key, valuesOf key pairs), mem_entries_group.mpr ⟨hne, rfl⟩, rfl⟩

/-- Adding a value keeps the first values of the entries, and a new key comes
last. -/
theorem heads_append (key : κ) (a : α) {entries : List (κ × List α)}
    (hfull : ∀ entry ∈ entries, entry.2 ≠ []) :
    ((alterEntries key (fun found => found.getD [] ++ [a]) entries).map
        fun entry => entry.2.head?) =
      if key ∈ entries.map Prod.fst then entries.map fun entry => entry.2.head?
      else (entries.map fun entry => entry.2.head?) ++ [some a] := by
  induction entries with
  | nil => simp [alterEntries]
  | cons entry rest ih =>
      obtain ⟨hfirst, hrest⟩ := List.forall_mem_cons.mp hfull
      obtain ⟨other, values⟩ := entry
      by_cases hsame : other = key
      · simp [alterEntries, hsame, List.head?_append_of_ne_nil _ hfirst]
      · simp only [alterEntries, hsame, ↓reduceIte, List.map_cons, ih hrest, List.mem_cons,
          Ne.symm hsame, false_or]
        split <;> rfl

/-- Entries stand in the order of their first values, if the values came in order. -/
theorem entries_group_ordered {r : α → α → Prop} {pairs : List (κ × α)}
    (hordered : pairs.Pairwise fun left right => r left.2 right.2) :
    (group pairs).entries.Pairwise fun left right =>
      ∀ first ∈ left.2.head?, ∀ second ∈ right.2.head?, r first second := by
  rw [← List.pairwise_map (f := fun entry : κ × List α => entry.2.head?)
    (R := fun left right => ∀ first ∈ left, ∀ second ∈ right, r first second)]
  induction pairs using List.reverseRecOn with
  | nil => exact .nil
  | append_singleton pairs pair ih =>
      obtain ⟨hpairs, _, hlast⟩ := List.pairwise_append.mp hordered
      have hfull : ∀ entry ∈ (group pairs).entries, entry.2 ≠ [] :=
        fun entry hentry => (mem_entries_group.mp hentry).1
      rw [group_concat, append, alter, heads_append pair.1 pair.2 hfull]
      split
      · exact ih hpairs
      · refine List.pairwise_append.mpr ⟨ih hpairs, List.pairwise_singleton _ _, ?_⟩
        intro head hhead last hmem first hfirst second hsecond
        obtain ⟨⟨key, values⟩, hentry, rfl⟩ := List.mem_map.mp hhead
        rw [List.mem_singleton.mp hmem] at hsecond
        cases hsecond
        obtain ⟨_, rfl⟩ := mem_entries_group.mp hentry
        exact hlast (key, first) (mem_valuesOf.mp (List.mem_of_head? hfirst)) pair (by simp)

/-- The pairs that entries stand for. -/
def ungroup (entries : List (κ × List α)) : List (κ × α) :=
  entries.flatMap fun entry => entry.2.map (Prod.mk entry.1)

theorem ungroup_append_perm (key : κ) (a : α) (entries : List (κ × List α)) :
    (ungroup (alterEntries key (fun found => found.getD [] ++ [a]) entries)).Perm
      (ungroup entries ++ [(key, a)]) := by
  induction entries with
  | nil => simp [alterEntries, ungroup]
  | cons entry rest ih =>
      obtain ⟨other, values⟩ := entry
      by_cases hsame : other = key
      · simp only [alterEntries, ungroup, hsame, ↓reduceIte, List.flatMap_cons, List.map_append,
          Option.getD_some, List.append_assoc]
        exact List.perm_append_comm.append_left _
      · simp only [alterEntries, ungroup, hsame, ↓reduceIte, List.flatMap_cons,
          List.append_assoc]
        exact ih.append_left _

/-- Grouping only brings pairs into another order. -/
theorem ungroup_group_perm (pairs : List (κ × α)) :
    (ungroup (group pairs).entries).Perm pairs := by
  induction pairs using List.reverseRecOn with
  | nil => exact .nil
  | append_singleton pairs pair ih =>
      rw [group_concat]
      exact (ungroup_append_perm pair.1 pair.2 _).trans (ih.append_right [pair])

/-- What is said about each value of each entry is said about each pair, with the
values of its key at hand. -/
theorem flatMap_group_perm {β : Type} (pairs : List (κ × α)) (f : κ → List α → α → List β) :
    ((group pairs).entries.flatMap fun entry => entry.2.flatMap (f entry.1 entry.2)).Perm
      (pairs.flatMap fun pair => f pair.1 (valuesOf pair.1 pairs) pair.2) := by
  have hvalues : ((group pairs).entries.flatMap fun entry => entry.2.flatMap (f entry.1 entry.2)) =
      (ungroup (group pairs).entries).flatMap
        fun pair => f pair.1 (valuesOf pair.1 pairs) pair.2 := by
    rw [ungroup, List.flatMap_assoc]
    refine List.flatMap_congr fun entry hentry => ?_
    obtain ⟨key, values⟩ := entry
    obtain ⟨_, rfl⟩ := mem_entries_group.mp hentry
    rw [List.flatMap_map]
  rw [hvalues]
  exact (ungroup_group_perm pairs).flatMap_right _

end OrderedMap

section Distinct

variable {α β : Type} [DecidableEq α]

theorem eraseDups_concat (items : List α) (last : α) :
    (items ++ [last]).eraseDups =
      if last ∈ items then items.eraseDups else items.eraseDups ++ [last] := by
  rw [List.eraseDups_append]
  by_cases hlast : last ∈ items
  · simp [List.removeAll, hlast]
  · simp [List.removeAll, hlast, List.eraseDups_cons]

theorem nodup_eraseDups (items : List α) : items.eraseDups.Nodup := by
  induction items using List.reverseRecOn with
  | nil => exact List.nodup_nil
  | append_singleton items last ih =>
      rw [eraseDups_concat]
      by_cases hlast : last ∈ items
      · rwa [if_pos hlast]
      · rw [if_neg hlast]
        refine ih.append (List.nodup_singleton last) ?_
        simpa using hlast

/-- Repetitions can be dropped before or after a choice that keeps different things
different. -/
theorem eraseDups_filterMap [DecidableEq β] {f : α → Option β}
    (hdiffer : ∀ a b c, f a = some c → f b = some c → a = b) (items : List α) :
    items.eraseDups.filterMap f = (items.filterMap f).eraseDups := by
  induction items using List.reverseRecOn with
  | nil => rfl
  | append_singleton items last ih =>
      rw [eraseDups_concat, List.filterMap_append]
      cases hlast : f last with
      | none =>
          split
          · simp [hlast, ih]
          · simp [hlast, ih]
      | some b =>
          have hmem : b ∈ items.filterMap f ↔ last ∈ items := by
            rw [List.mem_filterMap]
            constructor
            · rintro ⟨a, ha, hfound⟩
              rwa [hdiffer last a b hlast hfound]
            · exact fun ha => ⟨last, ha, hlast⟩
          have hsingle : [last].filterMap f = [b] := by simp [hlast]
          rw [hsingle, eraseDups_concat]
          simp only [hmem]
          split
          · exact ih
          · rw [List.filterMap_append, hsingle, ih]

/-- The keys of a grouped map are those that came, each where it came first. -/
theorem OrderedMap.keys_group (pairs : List (α × β)) :
    (group pairs).entries.map Prod.fst = (pairs.map Prod.fst).eraseDups := by
  induction pairs using List.reverseRecOn with
  | nil => rfl
  | append_singleton pairs pair ih =>
      rw [group_concat, append, alter, keys_alterEntries, ih, List.map_append, List.map_singleton,
        eraseDups_concat]
      simp only [List.mem_eraseDups]

end Distinct

end ApiLang
