/-
Slices of a text.  An offset that is the width of a beginning of the text falls
between two characters, and cutting there gives back exactly that beginning and
what follows it.
-/
import ApiLang.Text.Offset
import Mathlib.Tactic

namespace ApiLang

@[simp] theorem byteWidth_nil : byteWidth [] = 0 := rfl

@[simp] theorem byteWidth_cons (c : Char) (cs : List Char) :
    byteWidth (c :: cs) = c.utf8Size + byteWidth cs := rfl

@[simp] theorem byteWidth_append (left right : List Char) :
    byteWidth (left ++ right) = byteWidth left + byteWidth right := by
  induction left with
  | nil => simp
  | cons c cs ih => simp [ih, Nat.add_assoc]

theorem byteWidth_pos {text : List Char} (hne : text ≠ []) : 0 < byteWidth text := by
  cases text with
  | nil => exact absurd rfl hne
  | cons c cs =>
      have hsize := c.utf8Size_pos
      rw [byteWidth_cons]
      omega

/-- An offset that falls between two characters of the text, or at one of its
ends. -/
def IsBoundary (text : List Char) (offset : Nat) : Prop :=
  ∃ before after, text = before ++ after ∧ byteWidth before = offset

theorem takeBytes_zero (text : List Char) : takeBytes text 0 = some [] := by
  cases text <;> rfl

theorem dropBytes_zero (text : List Char) : dropBytes text 0 = some text := by
  cases text <;> rfl

theorem takeBytes_cons_add (c : Char) (cs : List Char) (offset : Nat) :
    takeBytes (c :: cs) (c.utf8Size + offset) = (takeBytes cs offset).map (c :: ·) := by
  obtain ⟨size, hsize⟩ := Nat.exists_eq_add_one_of_ne_zero c.utf8Size_pos.ne'
  have hsum : c.utf8Size + offset = (size + offset) + 1 := by omega
  rw [hsum, takeBytes, if_pos (by omega)]
  congr 2
  omega

theorem dropBytes_cons_add (c : Char) (cs : List Char) (offset : Nat) :
    dropBytes (c :: cs) (c.utf8Size + offset) = dropBytes cs offset := by
  obtain ⟨size, hsize⟩ := Nat.exists_eq_add_one_of_ne_zero c.utf8Size_pos.ne'
  have hsum : c.utf8Size + offset = (size + offset) + 1 := by omega
  rw [hsum, dropBytes, if_pos (by omega)]
  congr 1
  omega

theorem takeBytes_append (before after : List Char) :
    takeBytes (before ++ after) (byteWidth before) = some before := by
  induction before with
  | nil => exact takeBytes_zero _
  | cons c cs ih => rw [List.cons_append, byteWidth_cons, takeBytes_cons_add, ih]; rfl

theorem dropBytes_append (before after : List Char) :
    dropBytes (before ++ after) (byteWidth before) = some after := by
  induction before with
  | nil => exact dropBytes_zero _
  | cons c cs ih => rw [List.cons_append, byteWidth_cons, dropBytes_cons_add, ih]

/-- The slice between two boundaries is the text between them. -/
theorem slice?_append (before middle after : List Char) :
    slice? (before ++ (middle ++ after))
      ⟨byteWidth before, byteWidth before + byteWidth middle⟩ = some middle := by
  have hlength : byteWidth before + byteWidth middle - byteWidth before = byteWidth middle := by
    omega
  rw [slice?, if_pos (Nat.le_add_right _ _), dropBytes_append]
  simp only [Option.bind_some, hlength]
  exact takeBytes_append middle after

theorem sliceText_append (before middle after : List Char) :
    sliceText (before ++ (middle ++ after))
      ⟨byteWidth before, byteWidth before + byteWidth middle⟩ = String.ofList middle := by
  rw [sliceText, slice?_append]
  rfl

theorem dropBytes_append_add (before after : List Char) (offset : Nat) :
    dropBytes (before ++ after) (byteWidth before + offset) = dropBytes after offset := by
  induction before with
  | nil => rw [List.nil_append, byteWidth_nil, Nat.zero_add]
  | cons c cs ih => rw [List.cons_append, byteWidth_cons, Nat.add_assoc, dropBytes_cons_add, ih]

/-- A slice does not change when text comes before it. -/
theorem sliceText_append_shift (before text : List Char) (span : Span) :
    sliceText (before ++ text) (span.shift (byteWidth before)) = sliceText text span := by
  have hstart : (span.shift (byteWidth before)).start = byteWidth before + span.start :=
    Nat.add_comm _ _
  have hlength : (span.shift (byteWidth before)).stop - (span.shift (byteWidth before)).start =
      span.stop - span.start :=
    Nat.add_sub_add_right ..
  have horder : (span.shift (byteWidth before)).start ≤ (span.shift (byteWidth before)).stop ↔
      span.start ≤ span.stop :=
    Nat.add_le_add_iff_right
  simp only [sliceText, slice?, horder, hlength]
  rw [hstart, dropBytes_append_add]

theorem takeBytes_append_of_le {before : List Char} {offset : Nat}
    (hoffset : offset ≤ byteWidth before) (after other : List Char) :
    takeBytes (before ++ after) offset = takeBytes (before ++ other) offset := by
  induction before generalizing offset with
  | nil =>
      rw [Nat.le_zero.mp hoffset, takeBytes_zero, takeBytes_zero]
  | cons c cs ih =>
      cases offset with
      | zero => rfl
      | succ offset =>
          rw [byteWidth_cons] at hoffset
          have hcs : offset + 1 - c.utf8Size ≤ byteWidth cs := by omega
          rw [List.cons_append, List.cons_append, takeBytes, takeBytes, ih hcs]

/-- A slice depends only on the text before its end. -/
theorem sliceText_append_of_le {before : List Char} {span : Span}
    (hstop : span.stop ≤ byteWidth before) (after other : List Char) :
    sliceText (before ++ after) span = sliceText (before ++ other) span := by
  obtain ⟨start, stop⟩ := span
  suffices hslice : start ≤ stop →
      ((dropBytes (before ++ after) start).bind fun rest => takeBytes rest (stop - start)) =
        (dropBytes (before ++ other) start).bind fun rest => takeBytes rest (stop - start) by
    unfold sliceText slice?
    by_cases horder : start ≤ stop
    · simp only [horder, if_true, hslice horder]
    · simp only [horder, if_false]
  intro horder
  induction before generalizing start stop with
  | nil =>
      have hstart : start = 0 := by simp only [byteWidth_nil] at hstop; omega
      have hend : stop = 0 := by simp only [byteWidth_nil] at hstop; omega
      subst hstart hend
      simp only [dropBytes_zero, Option.bind_some, Nat.sub_self, takeBytes_zero]
  | cons c cs ih =>
      cases start with
      | zero =>
          simp only [dropBytes_zero, Option.bind_some]
          exact takeBytes_append_of_le hstop after other
      | succ start =>
          simp only [List.cons_append, dropBytes]
          simp only [byteWidth_cons] at hstop
          by_cases hwide : c.utf8Size ≤ start + 1
          · have hlength : stop - (start + 1) =
                stop - c.utf8Size - (start + 1 - c.utf8Size) := by omega
            simp only [hwide, if_true, hlength]
            exact ih (start + 1 - c.utf8Size) (stop - c.utf8Size) (by simp only; omega) (by omega)
          · simp only [hwide, if_false]

end ApiLang
