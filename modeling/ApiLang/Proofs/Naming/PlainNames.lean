/-
Plain names, over the letters, digits, marks and blanks of ASCII.  Their words are small
letters and digits, and such words are found again in a text that keeps them apart by
separators, or by capitals behind small letters and digits.
-/
import ApiLang.Proofs.Naming.Words
import Mathlib.Data.List.Chain

namespace ApiLang

section Characters

/-- Letters, digits, underscores, hyphens and blanks of ASCII. -/
def isPlainChar (c : Char) : Bool :=
  c.isAlphanum || c == '_' || c == '-' || (c.toNat < 128 && isBlank c)

/-- Small letters and digits, of which the words of plain names are made. -/
def isSmallChar (c : Char) : Bool :=
  c.isLower || c.isDigit

variable {c : Char}

theorem isAlphanum_iff : c.isAlphanum = true ↔ c.isUpper = true ∨ isSmallChar c = true := by
  rw [isSmallChar, ← Bool.or_eq_true, ← Bool.or_assoc]
  rfl

theorem toNat_lt_of_isAlphanum (hc : c.isAlphanum = true) : c.toNat < 128 := by
  have hz : c.val ≤ 'z'.val := by
    rcases isAlphanum_iff.mp hc with hupper | hsmall
    · exact UInt32.le_trans (of_decide_eq_true hupper).2 (by decide)
    · rcases Bool.or_eq_true_iff.mp hsmall with hlower | hdigit
      · exact of_decide_eq_true (Bool.and_eq_true_iff.mp hlower).2
      · exact UInt32.le_trans (of_decide_eq_true (Bool.and_eq_true_iff.mp hdigit).2) (by decide)
  exact (UInt32.le_iff_toNat_le.mp hz).trans_lt (by decide)

/-- What holds of all characters of ASCII is seen by looking at their codes. -/
@[elab_as_elim]
theorem ascii_induction {motive : Char → Prop} (codes : ∀ code < 128, motive (Char.ofNat code))
    (hc : c.toNat < 128) : motive c := by
  have hcode := codes c.toNat hc
  rwa [Char.ofNat_toNat] at hcode

/-- Lower case in ASCII, where a character becomes one character. -/
theorem ascii_lower (hc : c.toNat < 128) :
    lowerChar c = [c.toLower] ∧ c.toLower.toNat < 128 ∧ c.toLower.toLower = c.toLower :=
  ascii_induction (by decide +kernel) hc

/-- The case of letters and digits, and of their small forms. -/
theorem alphanum_case (hc : c.isAlphanum = true) :
    isNameSeparator c = false ∧ isSmallChar c.toLower = true ∧
      (c.toLower = c ↔ isUppercase c = false) ∧
      (isUppercase c = true → upperChar c.toLower = [c]) := by
  have hascii := toNat_lt_of_isAlphanum hc
  revert hc
  exact ascii_induction (by decide +kernel) hascii

theorem lowerChar_alphanum (hc : c.isAlphanum = true) : lowerChar c = [c.toLower] :=
  (ascii_lower (toNat_lt_of_isAlphanum hc)).1

theorem isNameSeparator_alphanum (hc : c.isAlphanum = true) : isNameSeparator c = false :=
  (alphanum_case hc).1

theorem isSmallChar_toLower (hc : c.isAlphanum = true) : isSmallChar c.toLower = true :=
  (alphanum_case hc).2.1

theorem toLower_eq_iff (hc : c.isAlphanum = true) : c.toLower = c ↔ isUppercase c = false :=
  (alphanum_case hc).2.2.1

theorem upperChar_toLower (hc : c.isAlphanum = true) (hupper : isUppercase c = true) :
    upperChar c.toLower = [c] :=
  (alphanum_case hc).2.2.2 hupper

theorem isAlphanum_of_isSmallChar (hc : isSmallChar c = true) : c.isAlphanum = true :=
  isAlphanum_iff.mpr (.inr hc)

/-- The case of small letters and digits, and of their capitals.  A digit is its own
capital. -/
theorem smallChar_case (hc : isSmallChar c = true) :
    (lowerChar c = [c] ∧ endsSmall c = true ∧ isUppercase c = false) ∧
      upperChar c = [c.toUpper] ∧ c.toUpper.isAlphanum = true ∧ c.toUpper.toLower = c ∧
      isUppercase c.toUpper = c.isAlpha ∧ endsSmall c.toUpper = !c.isAlpha := by
  have hascii := toNat_lt_of_isAlphanum (isAlphanum_of_isSmallChar hc)
  revert hc
  exact ascii_induction (by decide +kernel) hascii

theorem lowerChar_small (hc : isSmallChar c = true) : lowerChar c = [c] :=
  (smallChar_case hc).1.1

theorem endsSmall_small (hc : isSmallChar c = true) : endsSmall c = true :=
  (smallChar_case hc).1.2.1

theorem isUppercase_small (hc : isSmallChar c = true) : isUppercase c = false :=
  (smallChar_case hc).1.2.2

theorem upperChar_small (hc : isSmallChar c = true) : upperChar c = [c.toUpper] :=
  (smallChar_case hc).2.1

theorem isAlphanum_toUpper (hc : isSmallChar c = true) : c.toUpper.isAlphanum = true :=
  (smallChar_case hc).2.2.1

theorem toLower_toUpper (hc : isSmallChar c = true) : c.toUpper.toLower = c :=
  (smallChar_case hc).2.2.2.1

theorem isUppercase_toUpper (hc : isSmallChar c = true) : isUppercase c.toUpper = c.isAlpha :=
  (smallChar_case hc).2.2.2.2.1

theorem endsSmall_toUpper (hc : isSmallChar c = true) : endsSmall c.toUpper = !c.isAlpha :=
  (smallChar_case hc).2.2.2.2.2

theorem isPlainChar_cases (hc : isPlainChar c = true) :
    c.isAlphanum = true ∨ isNameSeparator c = true := by
  simp only [isPlainChar, Bool.or_eq_true, Bool.and_eq_true] at hc
  simp only [isNameSeparator, Bool.or_eq_true]
  tauto

theorem isPlainChar_alphanum (hc : c.isAlphanum = true) : isPlainChar c = true := by
  simp [isPlainChar, hc]

theorem toNat_lt_of_isPlainChar (hc : isPlainChar c = true) : c.toNat < 128 := by
  simp only [isPlainChar, Bool.or_eq_true, Bool.and_eq_true, beq_iff_eq, decide_eq_true_eq] at hc
  obtain ((halphanum | rfl) | rfl) | ⟨hascii, -⟩ := hc
  · exact toNat_lt_of_isAlphanum halphanum
  · decide
  · decide
  · exact hascii

end Characters

section Reading

/-- A text that is one word as it is written. -/
structure OneWord (piece : List Char) : Prop where
  full : piece ≠ []
  solid : ∀ c ∈ piece, isNameSeparator c = false
  flows : piece.IsChain fun c d => (endsSmall c && isUppercase d) = false

variable {piece rest : List Char} {pieces : List (List Char)}

/-- A piece that is one word is read as a word where it does not go on. -/
theorem OneWord.nameWords_append (hpiece : OneWord piece)
    (hend : ∀ c ∈ piece.getLast?, wordGoesOn (endsSmall c) rest = false) :
    nameWords (piece ++ rest) = piece.flatMap lowerChar :: nameWords rest := by
  obtain ⟨hfull, hsolid, hflows⟩ := hpiece
  induction piece with
  | nil => exact absurd rfl hfull
  | cons c piece ih =>
      obtain ⟨hc, hothers⟩ := List.forall_mem_cons.mp hsolid
      cases piece with
      | nil =>
          rw [List.singleton_append, nameWords_cons_end hc (hend c rfl), List.flatMap_singleton]
      | cons d piece =>
          obtain ⟨hjoint, hlater⟩ := List.isChain_cons_cons.mp hflows
          have hgoes : wordGoesOn (endsSmall c) (d :: (piece ++ rest)) = true := by
            rw [wordGoesOn, hothers d List.mem_cons_self, hjoint]
            rfl
          have hnext := ih (fun last hlast => hend last (by rwa [List.getLast?_cons_cons]))
            (List.cons_ne_nil d piece) hothers hlater
          obtain ⟨word, words, hwords, hfirst⟩ := nameWords_cons_goesOn hc hgoes
          rw [List.cons_append, hwords] at hnext
          obtain ⟨rfl, rfl⟩ := List.cons.inj hnext
          exact hfirst

/-- Words are read again where a separator stands between them. -/
theorem nameWords_intercalate {mark : Char} (hmark : isNameSeparator mark = true)
    (hpieces : ∀ piece ∈ pieces, OneWord piece) :
    nameWords ([mark].intercalate pieces) = pieces.map fun piece => piece.flatMap lowerChar := by
  induction pieces with
  | nil => rfl
  | cons piece pieces ih =>
      obtain ⟨hpiece, hothers⟩ := List.forall_mem_cons.mp hpieces
      cases pieces with
      | nil =>
          have hread : nameWords (piece ++ []) = piece.flatMap lowerChar :: nameWords [] :=
            hpiece.nameWords_append fun _ _ => rfl
          rw [List.append_nil] at hread
          rw [List.intercalate_singleton, hread]
          rfl
      | cons next pieces =>
          rw [List.intercalate_cons_cons, List.append_assoc, List.singleton_append,
            hpiece.nameWords_append (by simp [wordGoesOn, hmark]),
            nameWords_cons_separator hmark, ih hothers]
          rfl

/-- Words are read again where each but the first begins with a capital and each but the
last ends with a small letter or a digit. -/
theorem nameWords_flatten_pieces (hpieces : ∀ piece ∈ pieces, OneWord piece)
    (hjoints : pieces.IsChain fun piece next =>
      ∀ c ∈ piece.getLast?, ∀ d ∈ next.head?, endsSmall c = true ∧ isUppercase d = true) :
    nameWords pieces.flatten = pieces.map fun piece => piece.flatMap lowerChar := by
  induction pieces with
  | nil => rfl
  | cons piece pieces ih =>
      obtain ⟨hpiece, hothers⟩ := List.forall_mem_cons.mp hpieces
      obtain ⟨hjoint, hlater⟩ := List.isChain_cons.mp hjoints
      rw [List.flatten_cons, hpiece.nameWords_append ?_, ih hothers hlater, List.map_cons]
      intro c hc
      cases pieces with
      | nil => rfl
      | cons next pieces =>
          obtain ⟨d, more, rfl⟩ := List.exists_cons_of_ne_nil (hothers next List.mem_cons_self).full
          have hcut := hjoint _ rfl c hc d rfl
          simp [wordGoesOn, hcut]

end Reading

section SmallWords

/-- The words of plain names: small letters and digits, and at least one. -/
structure SmallWord (word : List Char) : Prop where
  full : word ≠ []
  small : ∀ c ∈ word, isSmallChar c = true

variable {word : List Char} {words : List (List Char)}

theorem nameWords_small {name : List Char} (hplain : ∀ c ∈ name, isPlainChar c = true) :
    ∀ word ∈ nameWords name, SmallWord word := by
  intro word hword
  refine ⟨fun hempty => nil_notMem_nameWords name (hempty ▸ hword), fun c hc => ?_⟩
  have hspelled : c ∈ nameSpelling name := by
    rw [← nameWords_flatten]
    exact List.mem_flatten.mpr ⟨word, hword, hc⟩
  obtain ⟨x, hx, hlower⟩ := List.mem_flatMap.mp hspelled
  obtain ⟨hname, hsolid⟩ := List.mem_filter.mp hx
  have hx : x.isAlphanum = true := by
    refine (isPlainChar_cases (hplain x hname)).resolve_right fun hsep => ?_
    simp [hsep] at hsolid
  rw [lowerChar_alphanum hx, List.mem_singleton] at hlower
  exact hlower ▸ isSmallChar_toLower hx

theorem SmallWord.flatMap_lowerChar (hword : SmallWord word) : word.flatMap lowerChar = word := by
  calc word.flatMap lowerChar
      = word.flatMap fun c => [c] :=
        List.flatMap_congr fun c hc => lowerChar_small (hword.small c hc)
    _ = word := by simp

theorem SmallWord.exists_cons (hword : SmallWord word) :
    ∃ c rest, word = c :: rest ∧ isSmallChar c = true ∧ ∀ d ∈ rest, isSmallChar d = true := by
  obtain ⟨c, rest, rfl⟩ := List.exists_cons_of_ne_nil hword.full
  exact ⟨c, rest, rfl, List.forall_mem_cons.mp hword.small⟩

theorem capitalize_small {c : Char} (hc : isSmallChar c = true) (rest : List Char) :
    capitalize (c :: rest) = c.toUpper :: rest := by
  rw [capitalize, upperChar_small hc, List.singleton_append]

/-- Small letters and digits behind a first letter or digit, which may be a capital. -/
def CapitalWord (piece : List Char) : Prop :=
  ∃ c rest, piece = c :: rest ∧ c.isAlphanum = true ∧ ∀ d ∈ rest, isSmallChar d = true

theorem SmallWord.capitalWord (hword : SmallWord word) : CapitalWord word := by
  obtain ⟨c, rest, rfl, hc, hrest⟩ := hword.exists_cons
  exact ⟨c, rest, rfl, isAlphanum_of_isSmallChar hc, hrest⟩

theorem SmallWord.capitalWord_capitalize (hword : SmallWord word) :
    CapitalWord (capitalize word) := by
  obtain ⟨c, rest, rfl, hc, hrest⟩ := hword.exists_cons
  exact ⟨c.toUpper, rest, capitalize_small hc rest, isAlphanum_toUpper hc, hrest⟩

theorem CapitalWord.alphanum (hpiece : CapitalWord word) : ∀ c ∈ word, c.isAlphanum = true := by
  obtain ⟨c, rest, rfl, hc, hrest⟩ := hpiece
  exact List.forall_mem_cons.mpr ⟨hc, fun d hd => isAlphanum_of_isSmallChar (hrest d hd)⟩

/-- A relation that holds in front of all small letters and digits holds along the word. -/
theorem CapitalWord.isChain {r : Char → Char → Prop} (hpiece : CapitalWord word)
    (hr : ∀ c d, isSmallChar d = true → r c d) : word.IsChain r := by
  obtain ⟨c, rest, rfl, -, hrest⟩ := hpiece
  induction rest generalizing c with
  | nil => exact List.isChain_singleton c
  | cons d rest ih =>
      obtain ⟨hd, hothers⟩ := List.forall_mem_cons.mp hrest
      exact List.isChain_cons_cons.mpr ⟨hr c d hd, ih d hothers⟩

theorem CapitalWord.oneWord (hpiece : CapitalWord word) : OneWord word where
  full := by
    obtain ⟨c, rest, rfl, -⟩ := hpiece
    exact List.cons_ne_nil c rest
  solid c hc := isNameSeparator_alphanum (hpiece.alphanum c hc)
  flows := hpiece.isChain fun c d hd => by simp [isUppercase_small hd]

theorem SmallWord.lower_capitalize (hword : SmallWord word) :
    (capitalize word).flatMap lowerChar = word := by
  obtain ⟨c, rest, rfl, hc, -⟩ := hword.exists_cons
  have hlower := hword.flatMap_lowerChar
  rw [List.flatMap_cons, lowerChar_small hc] at hlower
  rw [capitalize_small hc, List.flatMap_cons, lowerChar_alphanum (isAlphanum_toUpper hc),
    toLower_toUpper hc, hlower]

theorem map_lower_small (hwords : ∀ word ∈ words, SmallWord word) :
    (words.map fun word => word.flatMap lowerChar) = words := by
  calc (words.map fun word => word.flatMap lowerChar)
      = words.map id := List.map_congr_left fun word hword => (hwords word hword).flatMap_lowerChar
    _ = words := List.map_id words

/-- Small words are the same when they are read again between separators. -/
theorem nameWords_separated {mark : Char} (hmark : isNameSeparator mark = true)
    (hwords : ∀ word ∈ words, SmallWord word) : nameWords ([mark].intercalate words) = words := by
  rw [nameWords_intercalate hmark fun word hword => (hwords word hword).capitalWord.oneWord,
    map_lower_small hwords]

end SmallWords

end ApiLang
