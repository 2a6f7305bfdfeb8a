/-
Naming styles one after another.  A plain name has the same words after it was written with
underscores or hyphens, so these styles are stable and may replace each other.  Inner
capitals keep the words only where they can be told again: a capital begins a word behind a
small letter or a digit, and so not behind a letter that is a word alone.
-/
import ApiLang.Proofs.Naming.PlainNames

namespace ApiLang

section Capitals

/-- Every capital but the first character follows a small letter or a digit. -/
def CapitalsFollow (text : List Char) : Prop :=
  text.IsChain fun c d => isUppercase d = true → endsSmall c = true

/-- Inner capitals that are read again stay what they are where they follow a small letter
or a digit, and become small elsewhere. -/
theorem nameWords_cons_capitals (c : Char) (rest : List Char)
    (htext : ∀ d ∈ c :: rest, d.isAlphanum = true) :
    ∃ word words, nameWords (c :: rest) = (c.toLower :: word) :: words ∧
      (word ++ words.flatMap capitalize = rest ↔ CapitalsFollow (c :: rest)) := by
  induction rest generalizing c with
  | nil =>
      have hc := htext c List.mem_cons_self
      refine ⟨[], [], ?_, iff_of_true rfl (List.isChain_singleton c)⟩
      rw [nameWords_cons_end (isNameSeparator_alphanum hc) rfl, lowerChar_alphanum hc,
        nameWords_nil]
  | cons d rest ih =>
      obtain ⟨hc, hothers⟩ := List.forall_mem_cons.mp htext
      have hd := hothers d List.mem_cons_self
      obtain ⟨word, words, hnext, hfixed⟩ := ih d hothers
      have hsolid := isNameSeparator_alphanum hc
      cases hcut : endsSmall c && isUppercase d with
      | true =>
          obtain ⟨hsmall, hupper⟩ := Bool.and_eq_true_iff.mp hcut
          have hend : wordGoesOn (endsSmall c) (d :: rest) = false := by simp [wordGoesOn, hcut]
          refine ⟨[], (d.toLower :: word) :: words, ?_, ?_⟩
          · rw [nameWords_cons_end hsolid hend, lowerChar_alphanum hc, hnext]
          · -- the capital at the cut is put back
            rw [List.nil_append, List.flatMap_cons, capitalize, upperChar_toLower hd hupper,
              CapitalsFollow, List.isChain_cons_cons, ← CapitalsFollow, ← hfixed]
            simp [hsmall]
      | false =>
          have hgoes : wordGoesOn (endsSmall c) (d :: rest) = true := by
            simp [wordGoesOn, isNameSeparator_alphanum hd, hcut]
          obtain ⟨first, later, hfirst, hwords⟩ := nameWords_cons_goesOn hsolid hgoes
          obtain ⟨rfl, rfl⟩ := List.cons.inj (hnext.symm.trans hfirst)
          refine ⟨d.toLower :: word, words, ?_, ?_⟩
          · rw [hwords, lowerChar_alphanum hc, List.singleton_append]
          · have hkept : d.toLower = d ↔ (isUppercase d = true → endsSmall c = true) := by
              rw [toLower_eq_iff hd]
              grind
            rw [List.cons_append, List.cons.injEq, CapitalsFollow, List.isChain_cons_cons,
              ← CapitalsFollow, hfixed, hkept]

/-- A text of letters and digits that begins small is its own form with inner capitals if
every capital follows a small letter or a digit. -/
theorem camelWords_nameWords_iff {text : List Char} (htext : ∀ c ∈ text, c.isAlphanum = true)
    (hfirst : ∀ c ∈ text.head?, isSmallChar c = true) :
    camelWords (nameWords text) = text ↔ CapitalsFollow text := by
  cases text with
  | nil => exact iff_of_true rfl List.isChain_nil
  | cons c rest =>
      obtain ⟨word, words, hwords, hfixed⟩ := nameWords_cons_capitals c rest htext
      have hlower : c.toLower = c :=
        (toLower_eq_iff (htext c List.mem_cons_self)).mpr (isUppercase_small (hfirst c rfl))
      rw [hwords, camelWords, List.cons_append, hlower, List.cons.injEq, ← hfixed]
      simp

end Capitals

section Camel

variable {word : List Char} {words : List (List Char)}

/-- The pieces of a text with inner capitals. -/
def camelPieces : List (List Char) → List (List Char)
  | [] => []
  | first :: others => first :: others.map capitalize

theorem tail_camelPieces (words : List (List Char)) :
    (camelPieces words).tail = words.tail.map capitalize := by
  cases words <;> rfl

theorem camelWords_eq_flatten (words : List (List Char)) :
    camelWords words = (camelPieces words).flatten := by
  cases words with
  | nil => rfl
  | cons first others => rw [camelWords, camelPieces, List.flatten_cons, List.flatMap_def]

theorem camelPieces_capitalWord (hwords : ∀ word ∈ words, SmallWord word) :
    ∀ piece ∈ camelPieces words, CapitalWord piece := by
  cases words with
  | nil => simp [camelPieces]
  | cons first others =>
      obtain ⟨hfirst, hothers⟩ := List.forall_mem_cons.mp hwords
      refine List.forall_mem_cons.mpr ⟨hfirst.capitalWord, ?_⟩
      exact List.forall_mem_map.mpr fun word hword => (hothers word hword).capitalWord_capitalize

theorem nil_notMem_camelPieces (hwords : ∀ word ∈ words, SmallWord word) :
    [] ∉ camelPieces words :=
  fun hempty => (camelPieces_capitalWord hwords [] hempty).oneWord.full rfl

theorem map_lower_camelPieces (hwords : ∀ word ∈ words, SmallWord word) :
    ((camelPieces words).map fun piece => piece.flatMap lowerChar) = words := by
  cases words with
  | nil => rfl
  | cons first others =>
      obtain ⟨hfirst, hothers⟩ := List.forall_mem_cons.mp hwords
      rw [camelPieces, List.map_cons, hfirst.flatMap_lowerChar, List.map_map]
      refine congrArg (first :: ·) ?_
      exact (List.map_congr_left fun word hword => (hothers word hword).lower_capitalize).trans
        (List.map_id others)

theorem camelWords_alphanum (hwords : ∀ word ∈ words, SmallWord word) :
    ∀ c ∈ camelWords words, c.isAlphanum = true := by
  intro c hc
  rw [camelWords_eq_flatten] at hc
  obtain ⟨piece, hpiece, hc⟩ := List.mem_flatten.mp hc
  exact (camelPieces_capitalWord hwords piece hpiece).alphanum c hc

theorem head?_camelWords_small (hwords : ∀ word ∈ words, SmallWord word) :
    ∀ c ∈ (camelWords words).head?, isSmallChar c = true := by
  cases words with
  | nil => simp [camelWords]
  | cons first others =>
      obtain ⟨c, rest, rfl, hc, -⟩ := (hwords first List.mem_cons_self).exists_cons
      simpa [camelWords] using hc

/-- A word of one letter. -/
def isLoneLetter (word : List Char) : Bool :=
  word.length == 1 && word.all Char.isAlpha

def beginsWithLetter (word : List Char) : Bool :=
  word.head?.any Char.isAlpha

def beginsWithDigit (word : List Char) : Bool :=
  word.head?.any Char.isDigit

/-- No word behind the first one is a letter alone in front of a word that begins with a
letter. -/
def LettersApart (words : List (List Char)) : Prop :=
  words.tail.IsChain fun word next => ¬(isLoneLetter word = true ∧ beginsWithLetter next = true)

instance (words : List (List Char)) : Decidable (LettersApart words) :=
  inferInstanceAs (Decidable (words.tail.IsChain _))

/-- A capital that begins the next word follows a small letter or a digit, unless the word
in front is a letter alone. -/
theorem capitalsFollow_joint {next : List Char} (hword : SmallWord word) (hnext : SmallWord next) :
    (∀ c ∈ (capitalize word).getLast?, ∀ d ∈ (capitalize next).head?,
        isUppercase d = true → endsSmall c = true) ↔
      ¬(isLoneLetter word = true ∧ beginsWithLetter next = true) := by
  obtain ⟨c, rest, rfl, hc, hrest⟩ := hword.exists_cons
  obtain ⟨d, more, rfl, hd, -⟩ := hnext.exists_cons
  rw [capitalize_small hc, capitalize_small hd]
  cases rest with
  | nil =>
      simp [isLoneLetter, beginsWithLetter, isUppercase_toUpper hd, endsSmall_toUpper hc]
  | cons e rest =>
      refine iff_of_true (fun last hlast _ _ _ => ?_) (by simp [isLoneLetter])
      rw [List.getLast?_cons_cons] at hlast
      exact endsSmall_small (hrest last (List.mem_of_getLast? hlast))

/-- Inner capitals follow small letters and digits if the words keep their letters apart. -/
theorem capitalsFollow_camelWords_iff (hwords : ∀ word ∈ words, SmallWord word) :
    CapitalsFollow (camelWords words) ↔ LettersApart words := by
  have hwithin : ∀ piece ∈ camelPieces words, piece.IsChain fun c d =>
      isUppercase d = true → endsSmall c = true := by
    intro piece hpiece
    refine (camelPieces_capitalWord hwords piece hpiece).isChain fun c d hd hupper => ?_
    simp [isUppercase_small hd] at hupper
  rw [camelWords_eq_flatten, CapitalsFollow, List.isChain_flatten (nil_notMem_camelPieces hwords),
    and_iff_right hwithin]
  cases words with
  | nil => exact iff_of_true List.isChain_nil List.isChain_nil
  | cons first others =>
      obtain ⟨hfirst, hothers⟩ := List.forall_mem_cons.mp hwords
      have hbehind : ∀ next ∈ (others.map capitalize).head?, ∀ c ∈ first.getLast?,
          ∀ d ∈ next.head?, isUppercase d = true → endsSmall c = true :=
        fun _ _ c hc _ _ _ => endsSmall_small (hfirst.small c (List.mem_of_getLast? hc))
      rw [camelPieces, List.isChain_cons, and_iff_right hbehind, List.isChain_map]
      exact List.IsChain.iff_of_mem_imp fun word next hword hnext =>
        capitalsFollow_joint (hothers word hword) (hothers next hnext)

theorem SmallWord.head?_capitalize (hword : SmallWord word)
    (hletter : beginsWithDigit word = false) :
    ∀ d ∈ (capitalize word).head?, isUppercase d = true := by
  obtain ⟨c, rest, rfl, hc, -⟩ := hword.exists_cons
  have hdigit : c.isDigit = false := by simpa [beginsWithDigit] using hletter
  have halpha : c.isAlpha = true :=
    (Bool.or_eq_true_iff.mp (isAlphanum_of_isSmallChar hc)).resolve_right (by simp [hdigit])
  rw [capitalize_small hc]
  simpa [isUppercase_toUpper hc] using halpha

/-- Words that keep their letters apart and begin with letters, the first one aside, are
read again where they are written together with inner capitals. -/
theorem nameWords_camelWords (hwords : ∀ word ∈ words, SmallWord word)
    (hletters : ∀ word ∈ words.tail, beginsWithDigit word = false) (hapart : LettersApart words) :
    nameWords (camelWords words) = words := by
  have hfollow := (capitalsFollow_camelWords_iff hwords).mpr hapart
  rw [camelWords_eq_flatten] at hfollow ⊢
  obtain ⟨-, hjoints⟩ := (List.isChain_flatten (nil_notMem_camelPieces hwords)).mp hfollow
  have hpieces : ∀ piece ∈ camelPieces words, OneWord piece :=
    fun piece hpiece => (camelPieces_capitalWord hwords piece hpiece).oneWord
  rw [nameWords_flatten_pieces hpieces, map_lower_camelPieces hwords]
  refine hjoints.imp_of_mem_tail_imp fun piece next _ hnext hjoint c hc d hd => ?_
  have hupper : isUppercase d = true := by
    rw [tail_camelPieces] at hnext
    obtain ⟨word, hword, rfl⟩ := List.mem_map.mp hnext
    exact (hwords word (List.mem_of_mem_tail hword)).head?_capitalize (hletters word hword) d hd
  exact ⟨hjoint c hc d hd hupper, hupper⟩

/-- Inner capitals stay as they are if the words keep their letters apart. -/
theorem camelWords_stable_iff (hwords : ∀ word ∈ words, SmallWord word) :
    camelWords (nameWords (camelWords words)) = camelWords words ↔ LettersApart words := by
  rw [camelWords_nameWords_iff (camelWords_alphanum hwords) (head?_camelWords_small hwords),
    capitalsFollow_camelWords_iff hwords]

/-- Separators may replace inner capitals if the words keep their letters apart. -/
theorem intercalate_camelWords_iff {mark : Char} (hmark : isNameSeparator mark = true)
    (hwords : ∀ word ∈ words, SmallWord word)
    (hletters : ∀ word ∈ words.tail, beginsWithDigit word = false) :
    [mark].intercalate (nameWords (camelWords words)) = [mark].intercalate words ↔
      LettersApart words := by
  constructor
  · intro hsame
    have hplain : ∀ c ∈ camelWords words, isPlainChar c = true :=
      fun c hc => isPlainChar_alphanum (camelWords_alphanum hwords c hc)
    have hread : nameWords (camelWords words) = words := by
      rw [← nameWords_separated hmark (nameWords_small hplain), hsame,
        nameWords_separated hmark hwords]
    rw [← camelWords_stable_iff hwords, hread]
  · intro hapart
    rw [nameWords_camelWords hwords hletters hapart]

end Camel

/-- Lower case has no word ends to look for in ASCII. -/
theorem lowerTextAfter_ascii {text : List Char} (before : List Char)
    (hascii : ∀ c ∈ text, c.toNat < 128) : lowerTextAfter before text = text.map Char.toLower := by
  induction text generalizing before with
  | nil => rfl
  | cons c text ih =>
      obtain ⟨hc, hothers⟩ := List.forall_mem_cons.mp hascii
      have hsigma : c ≠ 'Σ' := by
        rintro rfl
        exact absurd hc (by decide)
      rw [lowerTextAfter, if_neg hsigma, (ascii_lower hc).1, ih (c :: before) hothers]
      rfl

theorem lowerText_lowerText {name : String} (hascii : ∀ c ∈ name.toList, c.toNat < 128) :
    lowerText (lowerText name) = lowerText name := by
  have hagain : ∀ c ∈ name.toList.map Char.toLower, c.toNat < 128 :=
    List.forall_mem_map.mpr fun c hc => (ascii_lower (hascii c hc)).2.1
  rw [lowerText, lowerText, String.toList_ofList, lowerTextAfter_ascii [] hascii,
    lowerTextAfter_ascii [] hagain, List.map_map]
  refine congrArg String.ofList (List.map_congr_left fun c hc => ?_)
  exact (ascii_lower (hascii c hc)).2.2

namespace NamingStyle

/-- A name of letters, digits and separators of ASCII. -/
def PlainName (name : String) : Prop :=
  ∀ c ∈ name.toList, isPlainChar c = true

instance (name : String) : Decidable (PlainName name) :=
  List.decidableBAll _ name.toList

variable {name : String}

/-- Styles other than lower case look at the words of a name only. -/
theorem format_congr {style : NamingStyle} (hstyle : style ≠ lower) {other : String}
    (hsame : nameWords name.toList = nameWords other.toList) :
    style.format name = style.format other := by
  cases style with
  | lower => exact absurd rfl hstyle
  | camel | snake | kebab => simp only [format, hsame]

theorem nameWords_format {style : NamingStyle} (hstyle : style = snake ∨ style = kebab)
    (hplain : PlainName name) : nameWords (style.format name).toList = nameWords name.toList := by
  rcases hstyle with rfl | rfl
  all_goals
    rw [format, String.toList_ofList]
    exact nameWords_separated (by decide) (nameWords_small hplain)

theorem camel_camel_iff (hplain : PlainName name) :
    camel.format (camel.format name) = camel.format name ↔
      LettersApart (nameWords name.toList) := by
  simp only [format, String.toList_ofList, String.ofList_inj]
  exact camelWords_stable_iff (nameWords_small hplain)

theorem format_camel_iff {style : NamingStyle} (hstyle : style = snake ∨ style = kebab)
    (hplain : PlainName name)
    (hletters : ∀ word ∈ (nameWords name.toList).tail, beginsWithDigit word = false) :
    style.format (camel.format name) = style.format name ↔
      LettersApart (nameWords name.toList) := by
  rcases hstyle with rfl | rfl
  all_goals
    simp only [format, String.toList_ofList, String.ofList_inj]
    exact intercalate_camelWords_iff (by decide) (nameWords_small hplain) hletters

/-- Styles of plain names one after another.  Underscores, hyphens and lower case are
stable, and underscores and hyphens may replace each other.  Inner capitals are stable, and
underscores and hyphens may replace them if no later word begins with a digit, exactly if no
later word is a letter alone in front of another letter. -/
theorem format_stable (name : String) (hplain : PlainName name) :
    (snake.format (snake.format name) = snake.format name ∧
      kebab.format (kebab.format name) = kebab.format name ∧
      lower.format (lower.format name) = lower.format name) ∧
    (snake.format (kebab.format name) = snake.format name ∧
      kebab.format (snake.format name) = kebab.format name) ∧
    (camel.format (camel.format name) = camel.format name ↔
      LettersApart (nameWords name.toList)) ∧
    ((∀ word ∈ (nameWords name.toList).tail, beginsWithDigit word = false) →
      (snake.format (camel.format name) = snake.format name ↔
        LettersApart (nameWords name.toList)) ∧
      (kebab.format (camel.format name) = kebab.format name ↔
        LettersApart (nameWords name.toList))) := by
  have hsnake := nameWords_format (.inl rfl) hplain
  have hkebab := nameWords_format (.inr rfl) hplain
  refine ⟨⟨?_, ?_, ?_⟩, ⟨?_, ?_⟩, camel_camel_iff hplain, fun hletters => ⟨?_, ?_⟩⟩
  · exact format_congr (by decide) hsnake
  · exact format_congr (by decide) hkebab
  · exact lowerText_lowerText fun c hc => toNat_lt_of_isPlainChar (hplain c hc)
  · exact format_congr (by decide) hkebab
  · exact format_congr (by decide) hsnake
  · exact format_camel_iff (.inl rfl) hplain hletters
  · exact format_camel_iff (.inr rfl) hplain hletters

/-- A run of capitals, a digit in front of a capital, separators in front and in a row, and
letters that are words alone at both ends. -/
theorem format_stable_mixedName :
    let name := "-aHTTP2Server\t_get  userID_x"
    PlainName name ∧
      (∀ word ∈ (nameWords name.toList).tail, beginsWithDigit word = false) ∧
      camel.format name = "aHttp2ServerGetUserIdX" ∧
      camel.format (camel.format name) = camel.format name ∧
      snake.format (camel.format name) = snake.format name ∧
      kebab.format (camel.format name) = kebab.format name := by
  intro name
  have hplain : PlainName name := by decide +kernel
  have hletters : ∀ word ∈ (nameWords name.toList).tail, beginsWithDigit word = false := by
    decide +kernel
  have hapart : LettersApart (nameWords name.toList) := by decide +kernel
  obtain ⟨-, -, hcamel, hothers⟩ := format_stable name hplain
  obtain ⟨hsnake, hkebab⟩ := hothers hletters
  exact ⟨hplain, hletters, by decide +kernel, hcamel.mpr hapart, hsnake.mpr hapart,
    hkebab.mpr hapart⟩

/-- Two letters that are words alone become one word where they are read as capitals. -/
theorem camel_merges_loneLetters :
    PlainName "a_b_c" ∧
      (∀ word ∈ (nameWords "a_b_c".toList).tail, beginsWithDigit word = false) ∧
      camel.format (camel.format "a_b_c") ≠ camel.format "a_b_c" ∧
      snake.format (camel.format "a_b_c") ≠ snake.format "a_b_c" ∧
      kebab.format (camel.format "a_b_c") ≠ kebab.format "a_b_c" := by
  decide +kernel

end NamingStyle

end ApiLang
