/-
Sorting by a key, as diagnostics are sorted by their places.  What has the same key
keeps its order, so a sorted list is known by the elements that it has of each key.
-/
import Mathlib.Data.List.Nodup
import Mathlib.Order.Nat

namespace ApiLang

variable {α : Type} {key : α → Nat}

theorem mem_iff_of_filter {left right : List α}
    (hsame : ∀ k, left.filter (fun a => key a = k) = right.filter fun a => key a = k) (a : α) :
    a ∈ left ↔ a ∈ right := by
  have hfilter : a ∈ left.filter (fun b => key b = key a) ↔
      a ∈ right.filter fun b => key b = key a := by
    rw [hsame]
  simpa using hfilter

/-- Lists in order that agree on the elements of each key are the same. -/
theorem eq_of_pairwise_of_filter {left right : List α}
    (hleft : left.Pairwise fun a b => key a ≤ key b)
    (hright : right.Pairwise fun a b => key a ≤ key b)
    (hsame : ∀ k, left.filter (fun a => key a = k) = right.filter fun a => key a = k) :
    left = right := by
  induction left generalizing right with
  | nil =>
      refine (List.eq_nil_iff_forall_not_mem.mpr fun a ha => ?_).symm
      cases (mem_iff_of_filter hsame a).mpr ha
  | cons a left ih =>
      cases right with
      | nil => cases (mem_iff_of_filter hsame a).mp List.mem_cons_self
      | cons b right =>
          obtain ⟨hfirst, hothers⟩ := List.pairwise_cons.mp hleft
          obtain ⟨hfirst', hothers'⟩ := List.pairwise_cons.mp hright
          -- Both lists start with an element of the least key, and so with the same one.
          have hle : key a ≤ key b := by
            rcases List.mem_cons.mp ((mem_iff_of_filter hsame b).mpr List.mem_cons_self) with
              rfl | hb
            · exact le_refl _
            · exact hfirst b hb
          have hge : key b ≤ key a := by
            rcases List.mem_cons.mp ((mem_iff_of_filter hsame a).mp List.mem_cons_self) with
              rfl | ha
            · exact le_refl _
            · exact hfirst' a ha
          have hhead := hsame (key a)
          simp only [List.filter_cons, le_antisymm hge hle, decide_true, ↓reduceIte,
            List.cons.injEq] at hhead
          obtain ⟨rfl, _⟩ := hhead
          refine congrArg (a :: ·) (ih hothers hothers' fun k => ?_)
          by_cases hk : key a = k
          · simpa [List.filter_cons, hk] using hsame k
          · simpa [List.filter_cons, hk] using hsame k

variable (key)

theorem pairwise_mergeSort_key (items : List α) :
    (items.mergeSort fun a b => key a ≤ key b).Pairwise fun a b => key a ≤ key b := by
  have hsorted : (items.mergeSort fun a b => key a ≤ key b).Pairwise
      fun a b => decide (key a ≤ key b) = true :=
    List.pairwise_mergeSort (by grind) (by grind) items
  exact hsorted.imp of_decide_eq_true

/-- Sorting keeps the elements of one key in their order. -/
theorem filter_mergeSort_key (items : List α) (k : Nat) :
    (items.mergeSort fun a b => key a ≤ key b).filter (fun a => key a = k) =
      items.filter fun a => key a = k := by
  have hsorted : (items.filter fun a => key a = k).Pairwise
      fun a b => decide (key a ≤ key b) = true := by
    refine List.pairwise_of_forall_mem_list fun a ha b hb => ?_
    have hka := List.of_mem_filter ha
    have hkb := List.of_mem_filter hb
    simp only [decide_eq_true_eq] at hka hkb ⊢
    omega
  have hsublist := (List.sublist_mergeSort (by grind) (by grind) hsorted
    List.filter_sublist).filter fun a => key a = k
  have hlength := (List.mergeSort_perm items fun a b => key a ≤ key b).filter
    (fun a => decide (key a = k)) |>.length_eq
  rw [List.filter_filter] at hsublist
  simp only [Bool.and_self] at hsublist
  exact (hsublist.eq_of_length hlength.symm).symm

/-- Elements whose keys are less than all others are sorted in front of them. -/
theorem mergeSort_key_append {early late more : List α}
    (hearly : ∀ a ∈ early, ∀ b ∈ late ++ more, key a < key b) :
    ((late ++ (early ++ more)).mergeSort fun a b => key a ≤ key b) =
      (early.mergeSort fun a b => key a ≤ key b) ++
        (late ++ more).mergeSort fun a b => key a ≤ key b := by
  apply eq_of_pairwise_of_filter (pairwise_mergeSort_key key _)
  · refine List.pairwise_append.mpr
      ⟨pairwise_mergeSort_key key _, pairwise_mergeSort_key key _, fun a ha b hb => ?_⟩
    exact le_of_lt (hearly a (List.mem_mergeSort.mp ha) b (List.mem_mergeSort.mp hb))
  · intro k
    simp only [filter_mergeSort_key, List.filter_append]
    by_cases hnone : early.filter (fun a => key a = k) = []
    · simp [hnone]
    · obtain ⟨a, ha⟩ := List.exists_mem_of_ne_nil _ hnone
      obtain ⟨ha, hkey⟩ := List.mem_filter.mp ha
      have hlate : late.filter (fun b => key b = k) = [] := by
        refine List.filter_eq_nil_iff.mpr fun b hb => ?_
        have hlt := hearly a ha b (List.mem_append_left more hb)
        simp only [decide_eq_true_eq] at hkey ⊢
        omega
      simp [hlate]

end ApiLang
