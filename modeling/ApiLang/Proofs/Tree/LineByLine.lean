/-
Structs line by line.  Whatever the other lines of a struct hold, a line of its body makes
the member and the complaints that it makes as the only one.
-/
import ApiLang.Proofs.Tree.PlainLine

namespace ApiLang

section Struct

/-- Lines in front of the brace that closes a struct. -/
def bodyText (lines : List (List Char)) : List Char :=
  lines.flatMap (· ++ ['\n']) ++ ['\x7d', '\n']

/-- The lines, each with the byte at which it starts if the first starts at `offset`. -/
def linesAt (offset : Nat) : List (List Char) → List (Nat × List Char)
  | [] => []
  | line :: others => (offset, line) :: linesAt (offset + (byteWidth line + 1)) others

theorem linesAt_add (offset distance : Nat) (lines : List (List Char)) :
    linesAt (offset + distance) lines =
      (linesAt offset lines).map fun placed => (placed.1 + distance, placed.2) := by
  induction lines generalizing offset with
  | nil => rfl
  | cons line others ih =>
      have hnext : offset + distance + (byteWidth line + 1) =
          offset + (byteWidth line + 1) + distance := by omega
      rw [linesAt, linesAt, hnext, ih]
      rfl

theorem mem_of_mem_linesAt {offset : Nat} {lines : List (List Char)} {placed : Nat × List Char}
    (hplaced : placed ∈ linesAt offset lines) : placed.2 ∈ lines := by
  induction lines generalizing offset with
  | nil => cases hplaced
  | cons line others ih =>
      rcases List.mem_cons.mp hplaced with rfl | hplaced
      · exact List.mem_cons_self
      · exact List.mem_cons_of_mem line (ih hplaced)

theorem tokenize_closing :
    tokenize ['\x7d', '\n'] = [⟨.punct .rightBrace, ⟨0, 1⟩⟩, ⟨.newline, ⟨1, 2⟩⟩] := by
  decide +kernel

/-- The body of a struct: every line makes what it makes by itself, and the brace behind
them closes it. -/
theorem bodyEntries_bodyText {lines : List (List Char)} (hlines : ∀ line ∈ lines, PlainLine line)
    (before : List Char) :
    let target := before ++ bodyText lines
    ∃ closer left,
      bodyEntries target (structRules target)
          ((tokenize (bodyText lines)).map (PlacedToken.shift (byteWidth before))) =
        ((linesAt (byteWidth before) lines).flatMap fun placed =>
          (lineMembers placed.2).map (Member.shift placed.1), some closer, left) ∧
      dropTrivia left = [] := by
  induction lines generalizing before with
  | nil =>
      intro target
      have htokens : (tokenize (bodyText [])).map (PlacedToken.shift (byteWidth before)) =
          [⟨.punct .rightBrace, Span.shift (byteWidth before) ⟨0, 1⟩⟩,
            ⟨.newline, Span.shift (byteWidth before) ⟨1, 2⟩⟩] := by
        rw [bodyText, List.flatMap_nil, List.nil_append, tokenize_closing]
        rfl
      rw [htokens, bodyEntries_eq_of_cons target (structRules target) rfl]
      exact ⟨_, _, rfl, rfl⟩
  | cons line others ih =>
      intro target
      obtain ⟨hline, hothers⟩ := List.forall_mem_cons.mp hlines
      -- For the lines behind, this line is one more piece of the text in front.
      obtain ⟨closer, left, hbody, hleft⟩ := ih hothers (before ++ (line ++ ['\n']))
      have htarget : before ++ (line ++ ['\n']) ++ bodyText others = target := by
        simp [target, bodyText]
      have htext : bodyText (line :: others) = line ++ '\n' :: bodyText others := by
        simp [bodyText]
      have hoffset : byteWidth (before ++ (line ++ ['\n'])) =
          byteWidth before + (byteWidth line + 1) := by
        simp [byteWidth_append]
        rfl
      refine ⟨closer, left, ?_, hleft⟩
      have hfirst := bodyEntries_line hline before (bodyText others)
      rw [← htext] at hfirst
      rw [htarget, hoffset] at hbody
      rw [hfirst, tokensBehind, Nat.add_comm (byteWidth line + 1), hbody]
      rfl

/-- The text is read as one identifier. -/
def IsIdentifier (name : List Char) : Prop :=
  lexemes name = [⟨.identifier (String.ofList name), name⟩]

instance (name : List Char) : Decidable (IsIdentifier name) :=
  inferInstanceAs (Decidable (_ = _))

/-- The line that opens a struct. -/
def openingLine (name : List Char) : List Char :=
  "type ".toList ++ (name ++ [' ', '\x7b'])

/-- A struct with these lines. -/
def structSource (name : List Char) (lines : List (List Char)) : List Char :=
  openingLine name ++ '\n' :: bodyText lines

variable {name : List Char}

theorem lexemes_openingLine (hname : IsIdentifier name) :
    lexemes (openingLine name) =
      [⟨.keyword .typeWord, "type".toList⟩, space, ⟨.identifier (String.ofList name), name⟩, space,
        markLexeme .leftBrace] := by
  have hword : Clean [⟨.keyword .typeWord, "type".toList⟩] :=
    ⟨by decide +kernel, by simp [Token.isInvalid]⟩
  have hsecond : Clean [⟨.identifier (String.ofList name), name⟩] :=
    ⟨by rw [textOf_cons, textOf_nil, List.append_nil]; exact hname, by simp [Token.isInvalid]⟩
  have hrow := (Tidy.single hword rfl).spaced
    ((Tidy.single hsecond rfl).spaced (Tidy.mark .leftBrace))
  exact hrow.clean.read

theorem tokenize_openingLine (hname : IsIdentifier name) :
    ∃ keyword gap label blank opener, tokenize (openingLine name) =
      [⟨.keyword .typeWord, keyword⟩, ⟨.whitespace, gap⟩, ⟨.identifier (String.ofList name), label⟩,
        ⟨.whitespace, blank⟩, ⟨.punct .leftBrace, opener⟩] := by
  rw [tokenize, lexemes_openingLine hname]
  exact ⟨_, _, _, _, _, rfl⟩

/-- A struct behind the word `type`, and nothing behind it. -/
theorem declarations_struct {source : List Char} {tokens left : List PlacedToken}
    {entries : List Member} {closer : Option Span} (text : String)
    (keyword gap label blank opener : Span)
    (hbody : bodyEntries source (structRules source) tokens = (entries, closer, left))
    (hleft : dropTrivia left = []) :
    declarations source
        (⟨.keyword .typeWord, keyword⟩ :: ⟨.whitespace, gap⟩ :: ⟨.identifier text, label⟩ ::
          ⟨.whitespace, blank⟩ :: ⟨.punct .leftBrace, opener⟩ :: tokens) =
      [.types keyword (.single ⟨⟨text, label⟩, opener, entries, closer⟩)] := by
  have hread : declaration source
      (⟨.keyword .typeWord, keyword⟩ :: ⟨.whitespace, gap⟩ :: ⟨.identifier text, label⟩ ::
        ⟨.whitespace, blank⟩ :: ⟨.punct .leftBrace, opener⟩ :: tokens) =
      .ok (.types keyword (.single ⟨⟨text, label⟩, opener,
          (bodyEntries source (structRules source) tokens).1,
          (bodyEntries source (structRules source) tokens).2.1⟩),
        (bodyEntries source (structRules source) tokens).2.2) := rfl
  rw [declarations_eq_of_cons _ rfl, hread, hbody]
  exact congrArg _ (declarations_of_nil _ hleft)

/-- The struct, if the source holds it and nothing else. -/
def soleStruct? (source : List Char) : Option StructDef :=
  match (treeOf source).declarations with
  | [.types _ (.single struct)] => some struct
  | _ => none

/-- The members of the struct that is all the source holds. -/
def soleMembers (source : List Char) : List Member :=
  ((soleStruct? source).map fun struct => struct.body.entries).getD []

/-- A struct is all that is read, and each line of it makes what it makes by itself. -/
theorem soleStruct?_structSource (hname : IsIdentifier name) {lines : List (List Char)}
    (hlines : ∀ line ∈ lines, PlainLine line) :
    ∃ struct, soleStruct? (structSource name lines) = some struct ∧
      struct.name.val = String.ofList name ∧ struct.body.closer.isSome = true ∧
      struct.body.entries =
        (linesAt (byteWidth (openingLine name ++ ['\n'])) lines).flatMap fun placed =>
          (lineMembers placed.2).map (Member.shift placed.1) := by
  obtain ⟨keyword, gap, label, blank, opener, hopening⟩ := tokenize_openingLine hname
  have hclosed : ∀ placed ∈ tokenize (openingLine name), placed.token.isOpenComment = false := by
    rw [hopening]
    simp [Token.isOpenComment]
  have hbreak : openingLine name ++ ['\n'] ++ bodyText lines = structSource name lines := by
    simp [structSource]
  have hwidth : byteWidth (openingLine name ++ ['\n']) = byteWidth (openingLine name) + 1 :=
    byteWidth_append _ _
  obtain ⟨closer, left, hbody, hleft⟩ := bodyEntries_bodyText hlines (openingLine name ++ ['\n'])
  rw [hbreak] at hbody
  have hskip : ∀ tokens, dropTrivia (breakBehind (openingLine name) :: tokens) =
      dropTrivia tokens := fun _ => rfl
  have htokens : tokenize (structSource name lines) = _ := tokenize_append_break hclosed _
  simp only [hopening, ← hwidth, List.cons_append, List.nil_append] at htokens
  have hsole := declarations_struct (String.ofList name) keyword gap label blank opener
    ((bodyEntries_congr _ _ (hskip _)).trans hbody) hleft
  rw [soleStruct?, treeOf, htokens, parseTokens, hsole]
  exact ⟨_, rfl, rfl, rfl, rfl⟩

/-- The complaints about a file that holds one closed struct are those about its lines. -/
theorem diagnostics_of_soleStruct? {source : List Char} {struct : StructDef}
    (hsole : soleStruct? source = some struct) (hcloser : struct.body.closer.isSome = true) :
    (treeOf source).diagnostics =
      (soleMembers source).flatMap (Member.diagnostics (treeOf source).span.stop) := by
  obtain ⟨closer, hcloser⟩ := Option.isSome_iff_exists.mp hcloser
  have hdeclarations : ∃ keyword, (treeOf source).declarations =
      [.types keyword (.single struct)] := by
    rw [soleStruct?] at hsole
    split at hsole
    · rename_i keyword _ heq
      cases hsole
      exact ⟨keyword, heq⟩
    · cases hsole
  obtain ⟨keyword, hdeclarations⟩ := hdeclarations
  rw [SourceFile.diagnostics, hdeclarations, soleMembers, hsole]
  simp [Declaration.diagnostics, TypeBody.diagnostics, StructDef.diagnostics, Block.diagnostics,
    hcloser]

/-- The members of a struct of one line. -/
theorem soleMembers_line (hname : IsIdentifier name) {line : List Char} (hline : PlainLine line) :
    soleMembers (structSource name [line]) =
      (lineMembers line).map (Member.shift (byteWidth (openingLine name ++ ['\n']))) := by
  obtain ⟨struct, hsole, _, _, hentries⟩ :=
    soleStruct?_structSource hname (List.forall_mem_singleton.mpr hline)
  rw [soleMembers, hsole]
  exact hentries.trans (List.append_nil _)

theorem anchored_of_mem_soleMembers (hname : IsIdentifier name) {line : List Char}
    (hline : PlainLine line) {found : Member}
    (hfound : found ∈ soleMembers (structSource name [line])) : found.Anchored := by
  rw [soleMembers_line hname hline] at hfound
  obtain ⟨made, hmade, rfl⟩ := List.mem_map.mp hfound
  exact (anchored_of_mem_lineMembers hline hmade).shift _

/-- The members of a struct are those of its lines, each read as the only one. -/
theorem soleMembers_lines (hname : IsIdentifier name) {lines : List (List Char)}
    (hlines : ∀ line ∈ lines, PlainLine line) :
    soleMembers (structSource name lines) =
      (linesAt 0 lines).flatMap fun placed =>
        (soleMembers (structSource name [placed.2])).map (Member.shift placed.1) := by
  obtain ⟨struct, hsole, _, _, hentries⟩ := soleStruct?_structSource hname hlines
  have hstart := linesAt_add 0 (byteWidth (openingLine name ++ ['\n'])) lines
  rw [Nat.zero_add] at hstart
  calc soleMembers (structSource name lines)
      = struct.body.entries := by rw [soleMembers, hsole]; rfl
    _ = (linesAt 0 lines).flatMap fun placed => (lineMembers placed.2).map
          (Member.shift (placed.1 + byteWidth (openingLine name ++ ['\n']))) := by
        rw [hentries, hstart, List.flatMap_map]
    _ = _ := by
        refine List.flatMap_congr fun placed hplaced => ?_
        have hline := hlines placed.2 (mem_of_mem_linesAt hplaced)
        rw [soleMembers_line hname hline, List.map_map, Nat.add_comm]
        simp only [Function.comp_def, Member.shift_shift]

/-- The lines of a struct are read in isolation.  The struct is all that is read and it is
closed; a line makes one member if it holds more than trivia and else none; and the members
and the complaints are, line after line, those of the struct that has this line only, moved
by the lines in front. -/
theorem struct_lineByLine (hname : IsIdentifier name) {lines : List (List Char)}
    (hlines : ∀ line ∈ lines, PlainLine line) :
    (∃ struct, soleStruct? (structSource name lines) = some struct ∧
      struct.name.val = String.ofList name ∧ struct.body.closer.isSome = true) ∧
    (∀ line ∈ lines,
      (soleMembers (structSource name [line])).length = (hasContent line).toNat) ∧
    soleMembers (structSource name lines) =
      ((linesAt 0 lines).flatMap fun placed =>
        (soleMembers (structSource name [placed.2])).map (Member.shift placed.1)) ∧
    (treeOf (structSource name lines)).diagnostics =
      (linesAt 0 lines).flatMap fun placed =>
        (treeOf (structSource name [placed.2])).diagnostics.map (Diagnostic.shift placed.1) := by
  obtain ⟨struct, hsole, htitle, hcloser, _⟩ := soleStruct?_structSource hname hlines
  refine ⟨⟨struct, hsole, htitle, hcloser⟩, ?_, soleMembers_lines hname hlines, ?_⟩
  · intro line hmem
    rw [soleMembers_line hname (hlines line hmem), List.length_map,
      length_lineMembers (hlines line hmem)]
  · rw [diagnostics_of_soleStruct? hsole hcloser, soleMembers_lines hname hlines,
      List.flatMap_assoc]
    refine List.flatMap_congr fun placed hplaced => ?_
    have hline := hlines placed.2 (mem_of_mem_linesAt hplaced)
    obtain ⟨alone, halone, _, hclosed, _⟩ :=
      soleStruct?_structSource hname (List.forall_mem_singleton.mpr hline)
    rw [diagnostics_of_soleStruct? halone hclosed, List.flatMap_map, List.map_flatMap]
    exact List.flatMap_congr fun found hfound =>
      (anchored_of_mem_soleMembers hname hline hfound).diagnostics_shift _ _ _

/-- Fields, a blank line, an embedded type and lines that fit no rule, with open brackets,
an open string and a brace too many. -/
theorem struct_lineByLine_user :
    let name := "User".toList
    let lines := ["  id int64 `json:\"id\"` // key".toList, "".toList,
      "  /* b */ *model.Base".toList, "name [3".toList, "tags map[string".toList,
      "é \"open".toList, "x interface\x7b".toList, "5 ] )".toList, "last []*Item".toList]
    IsIdentifier name ∧ (∀ line ∈ lines, PlainLine line) ∧
      lines.map hasContent = [true, false, true, true, true, true, true, true, true] ∧
      (∃ struct, soleStruct? (structSource name lines) = some struct ∧
        struct.name.val = String.ofList name ∧ struct.body.closer.isSome = true) ∧
      (∀ line ∈ lines,
        (soleMembers (structSource name [line])).length = (hasContent line).toNat) ∧
      soleMembers (structSource name lines) =
        ((linesAt 0 lines).flatMap fun placed =>
          (soleMembers (structSource name [placed.2])).map (Member.shift placed.1)) ∧
      (treeOf (structSource name lines)).diagnostics =
        (linesAt 0 lines).flatMap fun placed =>
          (treeOf (structSource name [placed.2])).diagnostics.map
            (Diagnostic.shift placed.1) := by
  intro name lines
  have hname : IsIdentifier name := by decide +kernel
  have hlines : ∀ line ∈ lines, PlainLine line := by decide +kernel
  exact ⟨hname, hlines, by decide +kernel, struct_lineByLine hname hlines⟩

end Struct

end ApiLang
