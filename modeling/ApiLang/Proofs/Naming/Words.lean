/-
The words of a name.  Cutting a name into words loses nothing but its separators, and the
cuts are where a separator stands and where a capital follows a small letter or a digit.
This settles the words: there is one way to cut a name like that.
-/
import ApiLang.Naming
import Mathlib.Data.List.Basic

namespace ApiLang

theorem mapCase_ne_nil {expansions : List (Nat × List Nat)} {shifts : List CaseShift}
    (hfull : ∀ expansion ∈ expansions, expansion.2 ≠ []) (c : Char) :
    mapCase expansions shifts c ≠ [] := by
  unfold mapCase
  split
  · rename_i codes hlookup
    obtain ⟨before, after, hentry, -⟩ := List.lookup_eq_some_iff.mp hlookup
    have hcodes := hfull (c.toNat, codes) (by simp [hentry])
    exact fun hnone => hcodes (List.map_eq_nil_iff.mp hnone)
  · split <;> exact List.cons_ne_nil _ _

theorem lowerChar_ne_nil (c : Char) : lowerChar c ≠ [] :=
  mapCase_ne_nil (by decide) c

section Scan

/-- Whether a name goes on with the word at hand, which a capital ends if it would begin
another one. -/
def wordGoesOn (small : Bool) : (rest : List Char) → Bool
  | [] => false
  | next :: _ => !isNameSeparator next && !(small && isUppercase next)

/-- The word at hand, if there is one, in front of the words behind it.  If it goes on,
it does so in the first of them. -/
def joinWord (current : List Char) (goesOn : Bool) (words : List (List Char)) :
    List (List Char) :=
  if current.isEmpty then words
  else
    match goesOn, words with
    | true, word :: others => (current ++ word) :: others
    | _, _ => current :: words

/-- The words of a name, found by looking one character ahead. -/
def aheadWords : List Char → List (List Char)
  | [] => []
  | c :: rest =>
    if isNameSeparator c then aheadWords rest
    else joinWord (lowerChar c) (wordGoesOn (endsSmall c) rest) (aheadWords rest)

theorem joinWord_end {current : List Char} (hcurrent : current ≠ []) (words : List (List Char)) :
    joinWord current false words = current :: words := by
  simp [joinWord, hcurrent]

theorem joinWord_ne_nil {current : List Char} (hcurrent : current ≠ []) (goesOn : Bool)
    (words : List (List Char)) : joinWord current goesOn words ≠ [] := by
  cases goesOn <;> cases words <;> simp [joinWord, hcurrent]

/-- A word that is read in two pieces is joined in one. -/
theorem joinWord_append (current : List Char) {piece : List Char} (hpiece : piece ≠ [])
    (goesOn : Bool) (words : List (List Char)) :
    joinWord (current ++ piece) goesOn words =
      joinWord current true (joinWord piece goesOn words) := by
  by_cases hcurrent : current = []
  · simp [joinWord, hcurrent]
  · cases goesOn with
    | false => simp [joinWord, hcurrent, hpiece]
    | true => cases words <;> simp [joinWord, hcurrent, hpiece]

/-- A capital cuts only where a word has begun. -/
def WordScan.Ready (scan : WordScan) : Prop :=
  scan.small = true → scan.current ≠ []

theorem WordScan.ready_step (scan : WordScan) (c : Char) : (scan.step c).Ready := by
  unfold WordScan.step
  split
  · exact nofun
  · exact fun _ => by simp [lowerChar_ne_nil]

/-- The loop finds what looking ahead finds: finished words stay, and the word at hand is
joined with what follows it. -/
theorem WordScan.words_foldl {scan : WordScan} (hready : scan.Ready) (name : List Char) :
    (name.foldl WordScan.step scan).words =
      scan.finished ++ joinWord scan.current (wordGoesOn scan.small name) (aheadWords name) := by
  induction name generalizing scan with
  | nil =>
      by_cases hcurrent : scan.current = []
      · simp [WordScan.words, aheadWords, joinWord, hcurrent]
      · simp [WordScan.words, WordScan.cut, wordGoesOn, aheadWords, joinWord, hcurrent]
  | cons c rest ih =>
      rw [List.foldl_cons, ih (scan.ready_step c), aheadWords]
      cases hsep : isNameSeparator c with
      | true =>
          by_cases hcurrent : scan.current = []
          · simp [WordScan.step, hsep, joinWord, hcurrent]
          · simp [WordScan.step, WordScan.cut, wordGoesOn, hsep, joinWord, hcurrent]
      | false =>
          cases hcut : scan.small && isUppercase c with
          | true =>
              -- The capital cuts the word at hand, which is not empty.
              have hcurrent := hready (Bool.and_eq_true_iff.mp hcut).1
              rw [Bool.and_comm] at hcut
              have hends : wordGoesOn scan.small (c :: rest) = false := by
                simp [wordGoesOn, Bool.and_comm scan.small, hcut]
              rw [hends, joinWord_end hcurrent]
              simp [WordScan.step, WordScan.cut, hsep, hcut]
          | false =>
              have hgoes : wordGoesOn scan.small (c :: rest) = true := by
                simp [wordGoesOn, hsep, hcut]
              rw [Bool.and_comm] at hcut
              rw [hgoes, if_neg Bool.false_ne_true,
                ← joinWord_append scan.current (lowerChar_ne_nil c)]
              simp [WordScan.step, hsep, hcut]

theorem nameWords_eq (name : List Char) : nameWords name = aheadWords name := by
  have hready : WordScan.Ready {} := nofun
  exact WordScan.words_foldl hready name

end Scan

section Steps

variable {c : Char} {rest : List Char}

@[simp]
theorem nameWords_nil : nameWords [] = [] := rfl

theorem nameWords_cons_separator (hsep : isNameSeparator c = true) :
    nameWords (c :: rest) = nameWords rest := by
  rw [nameWords_eq, nameWords_eq, aheadWords, if_pos hsep]

theorem nameWords_cons (hsolid : isNameSeparator c = false) :
    nameWords (c :: rest) =
      joinWord (lowerChar c) (wordGoesOn (endsSmall c) rest) (nameWords rest) := by
  rw [nameWords_eq, nameWords_eq, aheadWords, if_neg (by simp [hsolid])]

theorem nameWords_cons_end (hsolid : isNameSeparator c = false)
    (hend : wordGoesOn (endsSmall c) rest = false) :
    nameWords (c :: rest) = lowerChar c :: nameWords rest := by
  rw [nameWords_cons hsolid, hend, joinWord_end (lowerChar_ne_nil c)]

/-- A word that goes on behind a character goes on in the first word of the rest. -/
theorem nameWords_cons_goesOn (hsolid : isNameSeparator c = false)
    (hgoes : wordGoesOn (endsSmall c) rest = true) :
    ∃ word words, nameWords rest = word :: words ∧
      nameWords (c :: rest) = (lowerChar c ++ word) :: words := by
  have hsome : nameWords rest ≠ [] := by
    match rest with
    | [] => cases hgoes
    | next :: more =>
        simp only [wordGoesOn, Bool.and_eq_true, Bool.not_eq_true'] at hgoes
        rw [nameWords_cons hgoes.1]
        exact joinWord_ne_nil (lowerChar_ne_nil next) _ _
  obtain ⟨word, words, hwords⟩ := List.exists_cons_of_ne_nil hsome
  refine ⟨word, words, hwords, ?_⟩
  rw [nameWords_cons hsolid, hgoes, hwords]
  simp [joinWord, lowerChar_ne_nil]

/-- What a character adds to the words of a name: nothing if it is a separator, else its
lower case, as a word of its own or in front of the next word. -/
theorem nameWords_cons_cases (c : Char) (rest : List Char) :
    (isNameSeparator c = true ∧ nameWords (c :: rest) = nameWords rest) ∨
    (isNameSeparator c = false ∧ wordGoesOn (endsSmall c) rest = false ∧
      nameWords (c :: rest) = lowerChar c :: nameWords rest) ∨
    (isNameSeparator c = false ∧ wordGoesOn (endsSmall c) rest = true ∧
      ∃ word words, nameWords rest = word :: words ∧
        nameWords (c :: rest) = (lowerChar c ++ word) :: words) := by
  cases hsep : isNameSeparator c with
  | true => exact .inl ⟨rfl, nameWords_cons_separator hsep⟩
  | false =>
      cases hgoes : wordGoesOn (endsSmall c) rest with
      | false => exact .inr (.inl ⟨rfl, rfl, nameWords_cons_end hsep hgoes⟩)
      | true => exact .inr (.inr ⟨rfl, rfl, nameWords_cons_goesOn hsep hgoes⟩)

end Steps

theorem nil_notMem_nameWords (name : List Char) : [] ∉ nameWords name := by
  induction name with
  | nil => exact List.not_mem_nil
  | cons c rest ih =>
      obtain ⟨-, hwords⟩ | ⟨-, -, hwords⟩ | ⟨-, -, word, words, hrest, hwords⟩ :=
        nameWords_cons_cases c rest
      · rwa [hwords]
      · rw [hwords, List.mem_cons, not_or]
        exact ⟨(lowerChar_ne_nil c).symm, ih⟩
      · rw [hrest, List.mem_cons, not_or] at ih
        rw [hwords, List.mem_cons, not_or]
        exact ⟨by simp [lowerChar_ne_nil], ih.2⟩

section Spelling

/-- The characters of a name that are no separators, each in lower case. -/
def nameSpelling (name : List Char) : List Char :=
  (name.filter fun c => !isNameSeparator c).flatMap lowerChar

variable {c : Char} {name : List Char}

@[simp]
theorem nameSpelling_nil : nameSpelling [] = [] := rfl

theorem nameSpelling_cons_separator (hsep : isNameSeparator c = true) :
    nameSpelling (c :: name) = nameSpelling name := by
  simp [nameSpelling, hsep]

theorem nameSpelling_cons_solid (hsolid : isNameSeparator c = false) :
    nameSpelling (c :: name) = lowerChar c ++ nameSpelling name := by
  simp [nameSpelling, hsolid]

@[simp]
theorem nameSpelling_append (before after : List Char) :
    nameSpelling (before ++ after) = nameSpelling before ++ nameSpelling after := by
  simp [nameSpelling]

theorem nameSpelling_separators (hseps : ∀ c ∈ name, isNameSeparator c = true) :
    nameSpelling name = [] := by
  have hnone : name.filter (fun c => !isNameSeparator c) = [] := by simpa using hseps
  rw [nameSpelling, hnone, List.flatMap_nil]

theorem nameSpelling_concat_ne_nil (hsolid : isNameSeparator c = false) :
    nameSpelling (name ++ [c]) ≠ [] := by
  simp [nameSpelling_cons_solid hsolid, lowerChar_ne_nil]

/-- Nothing but separators is lost. -/
theorem nameWords_flatten (name : List Char) :
    (nameWords name).flatten = nameSpelling name := by
  induction name with
  | nil => rfl
  | cons c rest ih =>
      obtain ⟨hsep, hwords⟩ | ⟨hsolid, -, hwords⟩ | ⟨hsolid, -, word, words, hrest, hwords⟩ :=
        nameWords_cons_cases c rest
      · rw [hwords, ih, nameSpelling_cons_separator hsep]
      · rw [hwords, List.flatten_cons, ih, nameSpelling_cons_solid hsolid]
      · rw [hrest, List.flatten_cons] at ih
        rw [hwords, List.flatten_cons, List.append_assoc, ih, nameSpelling_cons_solid hsolid]

end Spelling

section Cuts

/-- The first few words spell `front` together, so that no word goes on behind it. -/
def CutAfter (words : List (List Char)) (front : List Char) : Prop :=
  ∃ early late, words = early ++ late ∧ early.flatten = front

variable {lead word front : List Char} {words others : List (List Char)}

theorem cutAfter_nil (words : List (List Char)) : CutAfter words [] :=
  ⟨[], words, rfl, rfl⟩

theorem CutAfter.eq_nil (hcut : CutAfter [] front) : front = [] := by
  obtain ⟨early, late, hwords, rfl⟩ := hcut
  obtain ⟨rfl, -⟩ := List.append_eq_nil_iff.mp hwords.symm
  rfl

theorem cutAfter_flatten (words : List (List Char)) : CutAfter words words.flatten :=
  ⟨words, [], (List.append_nil words).symm, rfl⟩

theorem cutAfter_first : CutAfter (word :: words) word :=
  ⟨[word], words, rfl, by simp⟩

/-- The first cut behind the beginning is behind the first word. -/
theorem CutAfter.first (hcut : CutAfter (word :: words) front) (hfront : front ≠ []) :
    ∃ more, front = word ++ more ∧ CutAfter words more := by
  obtain ⟨early, late, hwords, rfl⟩ := hcut
  cases early with
  | nil => exact absurd rfl hfront
  | cons first early =>
      obtain ⟨rfl, rfl⟩ := List.cons.inj hwords
      exact ⟨early.flatten, rfl, early, late, rfl, rfl⟩

theorem CutAfter.cons (hcut : CutAfter words front) : CutAfter (word :: words) (word ++ front) := by
  obtain ⟨early, late, rfl, rfl⟩ := hcut
  exact ⟨word :: early, late, rfl, rfl⟩

theorem cutAfter_cons_iff (hword : word ≠ []) :
    CutAfter (word :: words) (word ++ front) ↔ CutAfter words front := by
  refine ⟨fun hcut => ?_, CutAfter.cons⟩
  obtain ⟨more, hmore, hlater⟩ := hcut.first (by simp [hword])
  rwa [List.append_cancel_left hmore]

/-- A longer first word moves the cuts behind it. -/
theorem cutAfter_lead_iff (hfront : front ≠ []) :
    CutAfter ((lead ++ word) :: words) (lead ++ front) ↔ CutAfter (word :: words) front := by
  constructor
  · intro hcut
    obtain ⟨more, hmore, hlater⟩ := hcut.first (by simp [hfront])
    rw [List.append_assoc] at hmore
    rw [List.append_cancel_left hmore]
    exact hlater.cons
  · intro hcut
    obtain ⟨more, rfl, hlater⟩ := hcut.first hfront
    rw [← List.append_assoc]
    exact hlater.cons

/-- Words are told by the cuts between them. -/
theorem eq_of_cutAfter_iff (hwords : [] ∉ words) (hothers : [] ∉ others)
    (hcuts : ∀ front, CutAfter words front ↔ CutAfter others front) : words = others := by
  induction words generalizing others with
  | nil =>
      cases others with
      | nil => rfl
      | cons other others =>
          have hempty : other = [] := ((hcuts other).mpr cutAfter_first).eq_nil
          exact absurd (hempty ▸ List.mem_cons_self) hothers
  | cons word words ih =>
      rw [List.mem_cons, not_or] at hwords
      cases others with
      | nil =>
          have hempty : word = [] := ((hcuts word).mp cutAfter_first).eq_nil
          exact absurd hempty.symm hwords.1
      | cons other others =>
          rw [List.mem_cons, not_or] at hothers
          obtain ⟨more, hmore, -⟩ :=
            ((hcuts word).mp cutAfter_first).first (Ne.symm hwords.1)
          obtain ⟨less, hless, -⟩ :=
            ((hcuts other).mpr cutAfter_first).first (Ne.symm hothers.1)
          -- each first word begins with the other one
          have hlength : word.length ≤ other.length :=
            hless ▸ (List.prefix_append word less).length_le
          obtain rfl : other = word :=
            List.IsPrefix.eq_of_length_le ⟨more, hmore.symm⟩ hlength
          rw [ih hwords.2 hothers.2 fun front => ?_]
          rw [← cutAfter_cons_iff (Ne.symm hwords.1), hcuts, cutAfter_cons_iff (Ne.symm hwords.1)]

end Cuts

/-- Cuts are made between characters only, and not within the lower case of one. -/
theorem cutAfter_nameWords {name front : List Char} (hcut : CutAfter (nameWords name) front) :
    ∃ before after, name = before ++ after ∧ front = nameSpelling before := by
  induction name generalizing front with
  | nil => exact ⟨[], [], rfl, hcut.eq_nil⟩
  | cons c rest ih =>
      by_cases hfront : front = []
      · exact ⟨[], c :: rest, rfl, hfront⟩
      · obtain ⟨hsep, hwords⟩ | ⟨hsolid, -, hwords⟩ | ⟨hsolid, -, word, words, hrest, hwords⟩ :=
          nameWords_cons_cases c rest
        · rw [hwords] at hcut
          obtain ⟨before, after, rfl, hspelled⟩ := ih hcut
          exact ⟨c :: before, after, rfl, by rw [hspelled, nameSpelling_cons_separator hsep]⟩
        · rw [hwords] at hcut
          obtain ⟨more, rfl, hlater⟩ := hcut.first hfront
          obtain ⟨before, after, rfl, rfl⟩ := ih hlater
          exact ⟨c :: before, after, rfl, by rw [nameSpelling_cons_solid hsolid]⟩
        · rw [hwords] at hcut
          obtain ⟨more, rfl, hlater⟩ := hcut.first hfront
          obtain ⟨before, after, rfl, hspelled⟩ := ih (hrest ▸ hlater.cons)
          exact ⟨c :: before, after, rfl,
            by rw [List.append_assoc, hspelled, nameSpelling_cons_solid hsolid]⟩

/-- A word ends behind the first character of a name if it does not go on there. -/
theorem cutAfter_lowerChar_iff {c : Char} {rest : List Char} (hc : isNameSeparator c = false) :
    CutAfter (nameWords (c :: rest)) (lowerChar c) ↔ wordGoesOn (endsSmall c) rest = false := by
  cases hgoes : wordGoesOn (endsSmall c) rest with
  | false =>
      rw [nameWords_cons_end hc hgoes]
      exact iff_of_true cutAfter_first rfl
  | true =>
      obtain ⟨word, words, hrest, hwords⟩ := nameWords_cons_goesOn hc hgoes
      refine iff_of_false (fun hcut => ?_) (by simp)
      rw [hwords] at hcut
      obtain ⟨more, hmore, -⟩ := hcut.first (lowerChar_ne_nil c)
      rw [List.append_assoc, List.self_eq_append_right] at hmore
      -- the rest of the name would begin with an empty word
      apply nil_notMem_nameWords rest
      rw [hrest, (List.append_eq_nil_iff.mp hmore).1]
      exact List.mem_cons_self

theorem wordGoesOn_gap_iff {c d : Char} {gap after : List Char}
    (hgap : ∀ s ∈ gap, isNameSeparator s = true) (hd : isNameSeparator d = false) :
    wordGoesOn (endsSmall c) (gap ++ d :: after) = false ↔
      gap ≠ [] ∨ (isLowercase c = true ∨ c.isDigit = true) ∧ isUppercase d = true := by
  cases gap with
  | nil =>
      rw [List.nil_append, wordGoesOn, endsSmall, hd]
      simp only [Bool.not_false, Bool.true_and, Bool.not_eq_false', Bool.and_eq_true,
        Bool.or_eq_true, ne_eq, not_true_eq_false, false_or]
  | cons s gap => simp [wordGoesOn, hgap s List.mem_cons_self]

/-- Where one character of a name comes next after another, separators between them aside,
a cut is between them if there are separators or if a capital follows a small letter or a
digit. -/
theorem cutAfter_nameWords_iff (before : List Char) {c d : Char} {gap : List Char}
    (after : List Char) (hc : isNameSeparator c = false)
    (hgap : ∀ s ∈ gap, isNameSeparator s = true) (hd : isNameSeparator d = false) :
    CutAfter (nameWords (before ++ c :: (gap ++ d :: after))) (nameSpelling (before ++ [c])) ↔
      gap ≠ [] ∨ (isLowercase c = true ∨ c.isDigit = true) ∧ isUppercase d = true := by
  induction before with
  | nil =>
      rw [List.nil_append, List.nil_append, nameSpelling_cons_solid hc, nameSpelling_nil,
        List.append_nil, cutAfter_lowerChar_iff hc, wordGoesOn_gap_iff hgap hd]
  | cons x before ih =>
      have hspelled : nameSpelling (before ++ [c]) ≠ [] := nameSpelling_concat_ne_nil hc
      rw [List.cons_append, List.cons_append, ← ih]
      obtain ⟨hsep, hwords⟩ | ⟨hsolid, -, hwords⟩ | ⟨hsolid, -, word, words, hrest, hwords⟩ :=
        nameWords_cons_cases x (before ++ c :: (gap ++ d :: after))
      · rw [hwords, nameSpelling_cons_separator hsep]
      · rw [hwords, nameSpelling_cons_solid hsolid, cutAfter_cons_iff (lowerChar_ne_nil x)]
      · rw [hwords, nameSpelling_cons_solid hsolid, cutAfter_lead_iff hspelled, hrest]

/-- A name is cut into the words `words`.  No word is empty, the words spell the name, they
end between characters of the name only, and between two neighbours that are no separators,
with only separators in `gap` between them, a word ends exactly if there are separators or
a capital follows a small letter or a digit. -/
structure CutsInto (name : List Char) (words : List (List Char)) : Prop where
  full : [] ∉ words
  spelled : words.flatten = nameSpelling name
  between : ∀ front, CutAfter words front →
    ∃ before after, name = before ++ after ∧ front = nameSpelling before
  cut : ∀ before c gap d after, name = before ++ c :: (gap ++ d :: after) →
    isNameSeparator c = false → (∀ s ∈ gap, isNameSeparator s = true) →
    isNameSeparator d = false →
      (CutAfter words (nameSpelling (before ++ [c])) ↔
        gap ≠ [] ∨ (isLowercase c = true ∨ c.isDigit = true) ∧ isUppercase d = true)

theorem nameWords_cutsInto (name : List Char) : CutsInto name (nameWords name) where
  full := nil_notMem_nameWords name
  spelled := nameWords_flatten name
  between _ := cutAfter_nameWords
  cut before _ _ _ after hname hc hgap hd := hname ▸ cutAfter_nameWords_iff before after hc hgap hd

/-- A text is made of separators or has a first character that is none. -/
theorem separators_or_solid (text : List Char) :
    (∀ c ∈ text, isNameSeparator c = true) ∨
      ∃ gap d after, text = gap ++ d :: after ∧ (∀ s ∈ gap, isNameSeparator s = true) ∧
        isNameSeparator d = false := by
  cases hfound : text.find? (fun c => !isNameSeparator c) with
  | none => exact .inl (by simpa using hfound)
  | some d =>
      obtain ⟨hd, gap, after, htext, hgap⟩ := List.find?_eq_some_iff_append.mp hfound
      exact .inr ⟨gap, d, after, htext, by simpa using hgap, by simpa using hd⟩

namespace CutsInto

variable {name front : List Char} {words others : List (List Char)}

/-- Two ways to cut a name make the same cuts: a cut is at the beginning, at the end or
between two characters that are no separators. -/
theorem cutAfter_of_cutAfter (hwords : CutsInto name words) (hothers : CutsInto name others)
    (hcut : CutAfter words front) : CutAfter others front := by
  obtain ⟨before, after, rfl, rfl⟩ := hwords.between front hcut
  obtain hseps | ⟨gap, d, behind, rfl, hgap, hd⟩ := separators_or_solid after
  · have hall : nameSpelling before = others.flatten := by
      rw [hothers.spelled, nameSpelling_append, nameSpelling_separators hseps,
        List.append_nil]
    exact hall ▸ cutAfter_flatten others
  · obtain hseps | ⟨tail, c, head, hbefore, htail, hc⟩ := separators_or_solid before.reverse
    · have hnone : nameSpelling before = [] :=
        nameSpelling_separators fun s hs => hseps s (List.mem_reverse.mpr hs)
      exact hnone ▸ cutAfter_nil others
    · obtain rfl : before = head.reverse ++ [c] ++ tail.reverse := by
        rw [← List.reverse_reverse before, hbefore]
        simp
      have hreverse : ∀ s ∈ tail.reverse, isNameSeparator s = true :=
        fun s hs => htail s (List.mem_reverse.mp hs)
      have hname : head.reverse ++ [c] ++ tail.reverse ++ (gap ++ d :: behind) =
          head.reverse ++ c :: ((tail.reverse ++ gap) ++ d :: behind) := by simp
      have hseps : ∀ s ∈ tail.reverse ++ gap, isNameSeparator s = true :=
        fun s hs => (List.mem_append.mp hs).elim (hreverse s) (hgap s)
      rw [nameSpelling_append, nameSpelling_separators hreverse, List.append_nil] at hcut ⊢
      rw [hothers.cut _ _ _ _ _ hname hc hseps hd]
      exact (hwords.cut _ _ _ _ _ hname hc hseps hd).mp hcut

end CutsInto

/-- Cutting a name into words loses nothing: no word is empty, together the words spell the
lower case of all characters but the separators, and between two characters with at most
separators between them a word ends exactly where a separator stands or a capital follows a
small letter or a digit.  No other words have these properties. -/
theorem nameWords_exact (name : List Char) (words : List (List Char)) :
    CutsInto name words ↔ words = nameWords name := by
  have hown := nameWords_cutsInto name
  refine ⟨fun hwords => ?_, fun heq => heq ▸ hown⟩
  refine eq_of_cutAfter_iff hwords.full hown.full fun front => ?_
  exact ⟨hwords.cutAfter_of_cutAfter hown, hown.cutAfter_of_cutAfter hwords⟩

end ApiLang
