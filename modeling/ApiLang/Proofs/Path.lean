/-
Normal forms of paths and the texts of paths.  A normal form goes up first and down to
names after that, and leads from everywhere where the path leads, so normal forms agree
with joining.  What was read from texts is read back from its own text, and so paths in
normal form are told apart by their texts.
-/
import ApiLang.Path
import Mathlib.Data.List.Basic
import Mathlib.Data.List.Induction

namespace ApiLang

/-- No piece of a text that was cut at a mark has the mark in it. -/
theorem not_mem_of_mem_splitOn {mark : Char} {text segment : List Char}
    (hsegment : segment ∈ text.splitOn mark) : mark ∉ segment := by
  induction text generalizing segment with
  | nil =>
      rw [List.splitOn_nil, List.mem_singleton] at hsegment
      simp [hsegment]
  | cons c text ih =>
      rw [List.splitOn_cons_eq_if_modifyHead] at hsegment
      by_cases hmark : c = mark
      · rw [if_pos (beq_iff_eq.mpr hmark)] at hsegment
        rcases List.mem_cons.mp hsegment with rfl | hlater
        · exact List.not_mem_nil
        · exact ih hlater
      · rw [if_neg (by simpa using hmark)] at hsegment
        cases hsplit : text.splitOn mark with
        | nil =>
            rw [hsplit] at hsegment
            cases hsegment
        | cons first others =>
            rw [hsplit] at ih hsegment
            rcases List.mem_cons.mp hsegment with rfl | hlater
            · have hfirst := ih List.mem_cons_self
              simp [hfirst, Ne.symm hmark]
            · exact ih (List.mem_cons_of_mem first hlater)

namespace PathPart

@[simp]
theorem text_ofText (text : String) : (ofText text).text = text := by
  unfold ofText
  split <;> rfl

/-- The text of the part stands between slashes and is read as the part again. -/
structure Spelled (part : PathPart) : Prop where
  full : part.text.toList ≠ []
  solid : '/' ∉ part.text.toList
  read : ofText part.text = part

theorem ofText_spelled {text : String} (hfull : text.toList ≠ []) (hsolid : '/' ∉ text.toList) :
    (ofText text).Spelled := by
  constructor
  · rwa [text_ofText]
  · rwa [text_ofText]
  · rw [text_ofText]

end PathPart

namespace Path

section Normal

variable {done parts : List PathPart} {step : PathPart}

/-- The steps of a normal form, last first: steps down to names, and steps up before
them. -/
def Stacked (done : List PathPart) : Prop :=
  ∃ names ups, done = List.map PathPart.name names ++ List.replicate ups .up

theorem Stacked.tail (hstacked : Stacked (step :: done)) : Stacked done := by
  obtain ⟨names, ups, hsteps⟩ := hstacked
  cases names with
  | cons name names => exact ⟨names, ups, (List.cons.inj hsteps).2⟩
  | nil =>
      cases ups with
      | zero => cases hsteps
      | succ ups => exact ⟨[], ups, (List.cons.inj hsteps).2⟩

/-- A step keeps the steps in order. -/
theorem takeStep_stacked (hstacked : Stacked done) (step : PathPart) :
    Stacked (takeStep done step) := by
  obtain ⟨names, ups, rfl⟩ := hstacked
  cases step with
  | here => exact ⟨names, ups, rfl⟩
  | name text => exact ⟨text :: names, ups, rfl⟩
  | up =>
      cases names with
      | cons name names => exact ⟨names, ups, rfl⟩
      | nil =>
          refine ⟨[], ups + 1, ?_⟩
          cases ups <;> rfl

/-- No step undoes another one if the steps are in order. -/
theorem takeStep_of_stacked (hstacked : Stacked (step :: done)) :
    takeStep done step = step :: done := by
  obtain ⟨names, ups, hsteps⟩ := hstacked
  cases names with
  | cons name names =>
      obtain ⟨rfl, rfl⟩ := List.cons.inj hsteps
      rfl
  | nil =>
      cases ups with
      | zero => cases hsteps
      | succ ups =>
          obtain ⟨rfl, rfl⟩ := List.cons.inj hsteps
          cases ups <;> rfl

theorem foldl_takeStep_stacked (parts : List PathPart) (hstacked : Stacked done) :
    Stacked (parts.foldl takeStep done) := by
  induction parts generalizing done with
  | nil => exact hstacked
  | cons part parts ih => exact ih (takeStep_stacked hstacked part)

theorem foldl_takeStep_of_stacked (hstacked : Stacked parts.reverse) :
    parts.foldl takeStep [] = parts.reverse := by
  -- from the end, since the steps are stacked last first
  induction parts using List.reverseRecOn with
  | nil => rfl
  | append_singleton parts step ih =>
      rw [List.reverse_concat] at hstacked ⊢
      rw [List.foldl_concat, ih hstacked.tail, takeStep_of_stacked hstacked]

theorem normalize_stacked (path : Path) : Stacked path.normalize.parts.reverse := by
  rw [normalize, List.reverse_reverse]
  exact foldl_takeStep_stacked path.parts ⟨[], 0, rfl⟩

@[simp]
theorem normalize_normalize (path : Path) : path.normalize.normalize = path.normalize := by
  have hagain := foldl_takeStep_of_stacked path.normalize_stacked
  rw [normalize, hagain, List.reverse_reverse]

/-- In a normal form every step moves. -/
theorem here_notMem_normalize (path : Path) : .here ∉ path.normalize.parts := by
  obtain ⟨names, ups, hsteps⟩ := path.normalize_stacked
  rw [← List.mem_reverse, hsteps]
  simp

theorem mem_takeStep {part : PathPart} (hpart : part ∈ takeStep done step) :
    part ∈ done ∨ part = step := by
  unfold takeStep at hpart
  split at hpart
  · exact .inl hpart
  · exact (List.mem_cons.mp hpart).symm
  · split at hpart
    · exact .inl (List.mem_cons_of_mem _ hpart)
    · exact (List.mem_cons.mp hpart).symm

theorem mem_foldl_takeStep {part : PathPart} (hpart : part ∈ parts.foldl takeStep done) :
    part ∈ done ∨ part ∈ parts := by
  induction parts generalizing done with
  | nil => exact .inl hpart
  | cons step parts ih =>
      rcases ih hpart with hdone | hlater
      · refine (mem_takeStep hdone).imp_right ?_
        rintro rfl
        exact List.mem_cons_self
      · exact .inr (List.mem_cons_of_mem step hlater)

end Normal

section Joining

variable {base next : Path}

/-- A step comes to the same before and behind folding, from everywhere. -/
theorem foldl_takeStep_takeStep (kept done : List PathPart) (step : PathPart) :
    (takeStep kept step).reverse.foldl takeStep done =
      takeStep (kept.reverse.foldl takeStep done) step := by
  cases step with
  | here => rfl
  | name text => rw [takeStep, List.reverse_cons, List.foldl_concat]
  | up =>
      cases kept with
      | nil => rfl
      | cons last earlier =>
          cases last with
          | name text =>
              -- the step up undoes the name on both sides
              rw [List.reverse_cons, List.foldl_concat]
              rfl
          | here | up =>
              change (PathPart.up :: _).reverse.foldl takeStep done = _
              rw [List.reverse_cons, List.foldl_concat]

/-- Steps lead from everywhere to the same place as the steps of their normal form. -/
theorem foldl_takeStep_folded (parts done : List PathPart) :
    (parts.foldl takeStep []).reverse.foldl takeStep done = parts.foldl takeStep done := by
  induction parts using List.reverseRecOn with
  | nil => rfl
  | append_singleton parts step ih =>
      rw [List.foldl_concat, List.foldl_concat, foldl_takeStep_takeStep, ih]

theorem foldl_takeStep_dropHere (parts done : List PathPart) :
    (dropHere parts).foldl takeStep done = parts.foldl takeStep done := by
  induction parts generalizing done with
  | nil => rfl
  | cons step parts ih =>
      cases step with
      | here => exact ih done
      | up | name => exact ih _

theorem join_of_absolute (habsolute : next.absolute = true) : base.join next = next := by
  rw [join, habsolute, Bool.true_or, if_pos rfl]

/-- A relative path is taken step by step from where its base leads. -/
theorem normalize_join_of_relative (hrelative : next.absolute = false) :
    (base.join next).normalize =
      ⟨base.absolute, (next.parts.foldl takeStep (base.parts.foldl takeStep [])).reverse⟩ := by
  by_cases hempty : base.isEmpty = true
  · obtain ⟨absolute, parts⟩ := base
    simp only [isEmpty, Bool.and_eq_true, Bool.not_eq_true', List.isEmpty_iff] at hempty
    obtain ⟨rfl, rfl⟩ := hempty
    rw [join, if_pos (by simp [isEmpty]), normalize, hrelative]
    rfl
  · rw [join, if_neg (by simp [hrelative, hempty]), normalize, List.foldl_append,
      foldl_takeStep_dropHere]

/-- Joining and normal forms agree. -/
theorem normalize_join (base next : Path) :
    (base.join next).normalize = (base.normalize.join next.normalize).normalize := by
  cases hnext : next.absolute with
  | true =>
      have hnormal : next.normalize.absolute = true := hnext
      rw [join_of_absolute hnext, join_of_absolute hnormal, normalize_normalize]
  | false =>
      have hnormal : next.normalize.absolute = false := hnext
      rw [normalize_join_of_relative hnext, normalize_join_of_relative hnormal]
      simp only [normalize, foldl_takeStep_folded]

end Joining

section Texts

/-- All parts have texts that are read as the parts again. -/
def Spelled (path : Path) : Prop :=
  ∀ part ∈ path.parts, part.Spelled

/-- The parts of a text, steps that stay included. -/
def textParts (text : String) : List PathPart :=
  ((text.toList.splitOn '/').filter fun segment => !segment.isEmpty).map fun segment =>
    PathPart.ofText (String.ofList segment)

theorem textParts_spelled {text : String} {part : PathPart} (hpart : part ∈ textParts text) :
    part.Spelled := by
  obtain ⟨segment, hsegment, rfl⟩ := List.mem_map.mp hpart
  obtain ⟨hpiece, hfull⟩ := List.mem_filter.mp hsegment
  apply PathPart.ofText_spelled
  · simpa using hfull
  · simpa using not_mem_of_mem_splitOn hpiece

theorem ofText_absolute {text : String} {rest : List Char} (htext : text.toList = '/' :: rest) :
    ofText text = ⟨true, dropHere (textParts text)⟩ := by
  simp only [ofText, textParts, htext]

theorem ofText_relative {text : String} (htext : ∀ rest, text.toList ≠ '/' :: rest)
    (hmoves : .here ∉ textParts text) : ofText text = ⟨false, dropHere (textParts text)⟩ := by
  unfold ofText
  dsimp only
  split
  · rename_i rest hrest
    exact absurd hrest (htext rest)
  · rename_i others hothers _
    apply absurd _ hmoves
    rw [textParts, hothers]
    exact List.mem_cons_self
  · rfl

theorem ofText_parts_subset (text : String) : (ofText text).parts ⊆ textParts text := by
  unfold ofText
  dsimp only
  split
  · exact List.filter_sublist.subset
  · rename_i others hothers _
    rw [textParts, hothers]
    exact List.cons_subset_cons _ List.filter_sublist.subset
  · exact List.filter_sublist.subset

theorem ofText_spelled (text : String) : (ofText text).Spelled :=
  fun _ hpart => textParts_spelled (ofText_parts_subset text hpart)

theorem Spelled.normalize {path : Path} (hpath : path.Spelled) : path.normalize.Spelled := by
  intro part hpart
  rw [Path.normalize, List.mem_reverse] at hpart
  exact hpath part ((mem_foldl_takeStep hpart).resolve_left List.not_mem_nil)

theorem Spelled.join {base next : Path} (hbase : base.Spelled) (hnext : next.Spelled) :
    (base.join next).Spelled := by
  unfold Path.join
  split
  · exact hnext
  · refine List.forall_mem_append.mpr ⟨hbase, fun part hpart => ?_⟩
    exact hnext part (List.mem_of_mem_filter hpart)

theorem Spelled.parent {path directory : Path} (hpath : path.Spelled)
    (hparent : path.parent? = some directory) : directory.Spelled := by
  unfold Path.parent? at hparent
  split at hparent
  · cases hparent
  · cases hparent
    exact fun part hpart => hpath part (List.dropLast_subset _ hpart)

theorem toList_render (path : Path) :
    path.render.toList = (if path.absolute then ['/'] else []) ++
      ['/'].intercalate (path.parts.map fun part => part.text.toList) := by
  rw [render, String.toList_append, String.toList_intercalate, List.map_map]
  cases path.absolute <;> rfl

/-- Pieces joined with slashes are cut apart again. -/
theorem filter_splitOn_intercalate {pieces : List (List Char)}
    (hpieces : ∀ piece ∈ pieces, piece ≠ [] ∧ '/' ∉ piece) :
    ((['/'].intercalate pieces).splitOn '/').filter (fun segment => !segment.isEmpty) =
      pieces := by
  by_cases hnone : pieces = []
  · subst hnone
    rfl
  · rw [List.splitOn_intercalate '/' (fun piece hpiece => (hpieces piece hpiece).2) hnone,
      List.filter_eq_self]
    intro piece hpiece
    simpa using (hpieces piece hpiece).1

/-- The text of a path is cut into the texts of its parts. -/
theorem textParts_render {path : Path} (hpath : path.Spelled) :
    textParts path.render = path.parts := by
  have hpieces : ∀ piece ∈ path.parts.map fun part => part.text.toList,
      piece ≠ [] ∧ '/' ∉ piece := by
    intro piece hpiece
    obtain ⟨part, hpart, rfl⟩ := List.mem_map.mp hpiece
    exact ⟨(hpath part hpart).full, (hpath part hpart).solid⟩
  have hcut : (path.render.toList.splitOn '/').filter (fun segment => !segment.isEmpty) =
      path.parts.map fun part => part.text.toList := by
    rw [toList_render]
    cases path.absolute with
    | false => exact filter_splitOn_intercalate hpieces
    | true =>
        -- the slash of the root leaves an empty piece in front
        refine Eq.trans ?_ (filter_splitOn_intercalate hpieces)
        simp [List.splitOn_cons_eq_if_modifyHead]
  rw [textParts, hcut, List.map_map]
  refine (List.map_congr_left fun part hpart => ?_).trans (List.map_id path.parts)
  rw [Function.comp_apply, String.ofList_toList, (hpath part hpart).read, id]

/-- The text of a relative path does not begin with a slash. -/
theorem toList_render_relative {parts : List PathPart} (hparts : Spelled ⟨false, parts⟩)
    (rest : List Char) : (render ⟨false, parts⟩).toList ≠ '/' :: rest := by
  intro htext
  rw [toList_render] at htext
  cases parts with
  | nil => cases htext
  | cons first others =>
      obtain ⟨more, hmore⟩ : ∃ more, ['/'].intercalate
          ((first :: others).map fun part => part.text.toList) = first.text.toList ++ more := by
        cases others with
        | nil => exact ⟨[], by simp⟩
        | cons second others =>
            exact ⟨_, List.intercalate_cons_cons.trans (List.append_assoc _ _ _)⟩
      replace htext : first.text.toList ++ more = '/' :: rest := hmore.symm.trans htext
      obtain ⟨hfull, hsolid, -⟩ := hparts first List.mem_cons_self
      rcases List.append_eq_cons_iff.mp htext with ⟨hnil, -⟩ | ⟨letters, hslash, -⟩
      · exact hfull hnil
      · rw [hslash] at hsolid
        exact hsolid List.mem_cons_self

/-- A path whose steps all move is read back from its text. -/
theorem ofText_render {path : Path} (hpath : path.Spelled) (hmoves : .here ∉ path.parts) :
    ofText path.render = path := by
  have hparts : dropHere (textParts path.render) = path.parts := by
    rw [textParts_render hpath, dropHere, List.filter_eq_self]
    intro part hpart
    rw [bne_iff_ne]
    rintro rfl
    exact hmoves hpart
  obtain ⟨absolute, parts⟩ := path
  cases absolute with
  | true => rw [ofText_absolute (toList_render _), hparts]
  | false =>
      rw [ofText_relative (toList_render_relative hpath) (by rwa [textParts_render hpath]), hparts]

end Texts

end Path

end ApiLang
