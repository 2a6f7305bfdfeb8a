/-
Reading bodies and structs again.
-/
import ApiLang.Proofs.Tree.RereadingValues
import ApiLang.Proofs.Tree.Whole

namespace ApiLang

variable {α : Type} {source : List Char}

section Bodies

variable (rules : LineRules α) {Item : Nat → List Lexeme → α → Prop} {skip : Skipped → α}
  {entryWhole : α → Prop}

/-- Entries of which none was skipped stand on lines of their own. -/
theorem SpellsEntries.lines
    (hitem : ∀ {start run entry}, Item start run entry → Clean run → entryWhole entry →
      ∃ line, rules.Line line entry)
    (hskip : ∀ input, ¬ entryWhole (skip input)) {start : Nat} {run : List Lexeme}
    {entries : List α} (hentries : SpellsEntries Item skip start run entries)
    (hclean : Clean run) (hwhole : ∀ entry ∈ entries, entryWhole entry) :
    ∃ lines, rules.Lines lines entries := by
  induction hentries with
  | nil _ => exact ⟨[], .nil⟩
  | item _ hfirst _ ih =>
      obtain ⟨hfirstWhole, hothers⟩ := List.forall_mem_cons.mp hwhole
      obtain ⟨line, hline⟩ := hitem hfirst hclean.right.left hfirstWhole
      obtain ⟨lines, hlines⟩ := ih hclean.right.right hothers
      exact ⟨line :: lines, .cons hline hlines⟩
  | @skipped _ _ _ _ input _ _ _ _ _ =>
      exact absurd (hwhole _ List.mem_cons_self) (hskip input)

theorem SpellsBlock.lines
    (hitem : ∀ {start run entry}, Item start run entry → Clean run → entryWhole entry →
      ∃ line, rules.Line line entry)
    (hskip : ∀ input, ¬ entryWhole (skip input)) {opening closing : Punct} {start : Nat}
    {run : List Lexeme} {block : Block α}
    (hblock : SpellsBlock Item skip opening closing start run block) (hclean : Clean run)
    (hwhole : block.Whole entryWhole) : ∃ lines, rules.Lines lines block.entries := by
  cases hblock with
  | closed _ hentries _ => exact hentries.lines rules hitem hskip hclean.tail.left hwhole.1
  | unclosed _ _ => cases hwhole.2

end Bodies

theorem Block.unplaced_of_whole {entryWhole : α → Prop} {block : Block α}
    (hwhole : block.Whole entryWhole) (unplacedEntry : α → α) :
    block.unplaced unplacedEntry = ⟨nowhere, block.entries.map unplacedEntry, some nowhere⟩ := by
  obtain ⟨close, hclose⟩ := Option.isSome_iff_exists.mp hwhole.2
  simp [Block.unplaced, hclose]

/-- Lines of struct bodies. -/
def memberLines : LineRules Member where
  read := member
  unplaced := Member.unplaced
  print := Member.print
  opens source tokens :=
    atPunct (structRules source).closer tokens.head? = false ∧
      (structRules source).stops tokens = false

theorem endsName_of_atBreak {rest : List Lexeme} (hrest : AtBreak rest) : EndsName rest := by
  obtain ⟨others, rfl⟩ := hrest
  rintro lexeme ⟨⟩
  rfl

theorem endsType_of_atBreak {rest : List Lexeme} (hrest : AtBreak rest) : EndsType rest := by
  obtain ⟨others, rfl⟩ := hrest
  rintro lexeme ⟨⟩
  exact .inl rfl

theorem SpellsName.opensMember {place : Nat} {run : List Lexeme} {name : Spanned String}
    (hname : SpellsName place run name) (source : List Char) (start : Nat) (rest : List Lexeme) :
    memberLines.opens source (placeLexemes start (run ++ rest)) := by
  obtain @⟨first, tail, hfirst, _⟩ := hname
  obtain ⟨text, htoken⟩ := exists_text_of_isIdentifier hfirst
  simp [memberLines, structRules, atPunct, htoken, opensDeclaration, isDeclarationKeyword,
    Token.isPunct]

theorem takes_pointerMember {place : Nat} {run : List Lexeme} {name : Spanned String}
    (hname : SpellsName place run name) (span : Span) :
    (member source).Takes source (markLexeme .star :: run) AtBreak fun found =>
      found.unplaced = (Member.embedded ⟨true, name, span⟩).unplaced := by
  refine (Reader.takes_eatPunct_some rfl).next fun star hstar => ?_
  refine (takes_qualifiedName hname).look (fun found hfound => ?_) fun _ => endsName_of_atBreak
  cases star with
  | none => cases hstar
  | some star =>
      refine Reader.takes_endOfLine.pure fun _ _ => ?_
      simp [Member.unplaced, Spanned.unplaced, hfound]

theorem SpellsName.not_star {place : Nat} {run : List Lexeme} {name : Spanned String}
    (hname : SpellsName place run name) (rest : List Lexeme) :
    Next (fun token => !token.isPunct .star) (run ++ rest) := by
  obtain @⟨first, tail, hfirst, _⟩ := hname
  rintro lexeme ⟨⟩
  obtain ⟨text, htoken⟩ := exists_text_of_isIdentifier hfirst
  simp [htoken, Token.isPunct]

theorem takes_embeddedMember {place : Nat} {run : List Lexeme} {name : Spanned String}
    (hname : SpellsName place run name) (span : Span) :
    (member source).Takes source run AtBreak fun found =>
      found.unplaced = (Member.embedded ⟨false, name, span⟩).unplaced := by
  refine Reader.takes_eatPunct_none.before (fun star hstar => ?_) fun rest _ => hname.not_star rest
  obtain rfl := hstar
  refine (takes_qualifiedName hname).look (fun found hfound => ?_) fun _ => endsName_of_atBreak
  rintro start _ _ ⟨rest, rfl⟩
  refine ⟨.embedded ⟨false, found, found.span⟩, rfl, ?_⟩
  simp [Member.unplaced, Spanned.unplaced, hfound]

theorem takes_fieldOf {typeRow : List Lexeme} {type : TypeExpr} (htype : TypeRow typeRow type)
    (name : Spanned String) :
    (fieldOf source name).Takes source typeRow AtBreak fun found =>
      found.unplaced = .field ⟨name.unplaced, type.unplaced, none, nowhere⟩ := by
  refine (htype.takes source).look (fun found hfound => ?_) fun _ => endsType_of_atBreak
  rintro start _ _ ⟨rest, rfl⟩
  exact ⟨.field ⟨name, found, none, _⟩, rfl, by simp [Member.unplaced, hfound]⟩

theorem takes_fieldOf_tagged {typeRow : List Lexeme} {type : TypeExpr}
    (htype : TypeRow typeRow type) {tag : Lexeme} {text : String}
    (htag : tag.token = .rawString text) (name : Spanned String) :
    (fieldOf source name).Takes source (typeRow ++ [space, tag]) AtBreak fun found =>
      found.unplaced = .field ⟨name.unplaced, type.unplaced, some ⟨text, nowhere⟩, nowhere⟩ := by
  have hfieldTag : fieldTag.Takes source [tag] Anything fun found =>
      found.map Spanned.unplaced = some ⟨text, nowhere⟩ :=
    Reader.takes_optional_some fun span => ⟨⟨text, span⟩, by simp [htag], rfl⟩
  refine (htype.takes source).bind (fun found hfound => ?_) fun rest _ => ?_
  · refine Reader.takes_skipInline_space.bind (fun _ _ => ?_) fun rest _ => ?_
    · refine hfieldTag.next fun foundTag hfoundTag => Reader.takes_endOfLine.pure fun _ _ => ?_
      simp [Member.unplaced, hfound, hfoundTag]
    · rintro lexeme ⟨⟩
      simp [htag, Token.isInlineTrivia]
  · rintro lexeme ⟨⟩
    exact .inl rfl

/-- A line with a name and what makes it a field. -/
theorem takes_fieldMember {place : Nat} {run : List Lexeme} {name : Spanned String}
    (hname : SpellsName place run name) (hplain : '.' ∉ name.val.toList) {row : List Lexeme}
    (hrow : ∀ rest, InLine (row ++ rest) ∧ Next (fun token => !token.isInlineTrivia) (row ++ rest))
    {type : TypeExpr} {tag : Option (Spanned String)}
    (hfield : ∀ found, (fieldOf source found).Takes source row AtBreak fun line =>
      line.unplaced = .field ⟨found.unplaced, type.unplaced, tag.map Spanned.unplaced, nowhere⟩)
    (span : Span) :
    (member source).Takes source (run ++ space :: row) AtBreak fun found =>
      found.unplaced = (Member.field ⟨name, type, tag, span⟩).unplaced := by
  refine Reader.takes_eatPunct_none.before (fun star hstar => ?_) fun rest _ => by
    rw [List.append_assoc]
    exact hname.not_star _
  obtain rfl := hstar
  refine (takes_qualifiedName hname).bind (fun found hfound => ?_) fun rest _ => by
    rintro lexeme ⟨⟩
    rfl
  refine Reader.takes_skipInline_space.bind (fun _ _ => ?_) fun rest _ => (hrow rest).2
  refine Reader.takes_peek_inLine.before (fun next hnext => ?_) fun rest _ => (hrow rest).1
  rw [if_neg (by simp [hnext]), if_neg (by simpa [hfound] using hplain)]
  refine (hfield found).imp (fun _ => id) fun line hline => ?_
  rw [hline]
  simp [Member.unplaced, Spanned.unplaced, hfound]

theorem TypeRow.inLine {row : List Lexeme} {type : TypeExpr} (hrow : TypeRow row type)
    (rest : List Lexeme) :
    InLine (row ++ rest) ∧ Next (fun token => !token.isInlineTrivia) (row ++ rest) := by
  have htrivia := hrow.tidy.solid.head_append rest
  obtain ⟨first, others, rfl⟩ := List.exists_cons_of_ne_nil hrow.tidy.solid.ne_nil
  refine ⟨⟨first, others ++ rest, rfl, hrow.plain first rfl⟩, ?_⟩
  rintro lexeme ⟨⟩
  simp [not_isInlineTrivia_of_solid (htrivia first rfl)]

theorem SpellsMember.line {start : Nat} {run : List Lexeme} {entry : Member}
    (hentry : SpellsMember start run entry) (hclean : Clean run) :
    ∃ line, memberLines.Line line entry := by
  cases hentry with
  | @pointer star run trail name hstar hname _ =>
      refine ⟨markLexeme .star :: run, ?_, ?_, ?_, fun source => takes_pointerMember hname _⟩
      · simp [memberLines, Member.print, hname.textOf_eq, Punct.char]
      · exact (hname.tidy hclean.tail.left).opened .star (by decide)
      · intro source start rest _ _
        exact ⟨rfl, rfl⟩
  | @embedded run trail name hname _ =>
      refine ⟨run, ?_, hname.tidy hclean.left, ?_, fun source => takes_embeddedMember hname _⟩
      · simp [memberLines, Member.print, hname.textOf_eq]
      · exact fun source start rest _ _ => hname.opensMember source start rest
  | @field run gap typeRun trail name type hname hplain _ htype _ =>
      obtain ⟨row, hrow⟩ := htype.row hclean.right.right.left
      refine ⟨run ++ space :: row, ?_, (hname.tidy hclean.left).spaced hrow.tidy, ?_, fun source =>
        takes_fieldMember hname hplain hrow.inLine (takes_fieldOf hrow) _⟩
      · simp [memberLines, Member.print, hname.textOf_eq, hrow.text]
      · intro source start rest _ _
        rw [List.append_assoc]
        exact hname.opensMember source start _
  | @tagged run gap typeRun space trail tag text name type hname hplain _ htype _ htag _ =>
      obtain ⟨row, hrow⟩ := htype.row hclean.right.right.left
      have htagClean : Clean [tag] := hclean.of_mem (by simp)
      have htagText : tag.text = '`' :: text.toList ++ ['`'] :=
        htagClean.text_eq List.mem_cons_self (by rw [htag]; rfl)
      have htagTidy : Tidy [tag] := .single htagClean (by simp [htag, Token.isTrivia])
      refine ⟨run ++ ApiLang.space :: (row ++ [ApiLang.space, tag]), ?_,
        (hname.tidy hclean.left).spaced (hrow.tidy.spaced htagTidy), ?_, fun source =>
        takes_fieldMember hname hplain ?_ (takes_fieldOf_tagged hrow htag) _⟩
      · simp [memberLines, Member.print, hname.textOf_eq, hrow.text, htagText]
      · intro source start rest _ _
        rw [List.append_assoc]
        exact hname.opensMember source start _
      · intro rest
        rw [List.append_assoc]
        exact hrow.inLine _

/-- Structs in groups of types. -/
def typeEntryLines : LineRules TypeEntry where
  read source := do
    let found ← structDef source
    pure (.struct found)
  unplaced := TypeEntry.unplaced
  print := TypeEntry.print
  opens source tokens :=
    atPunct (typeGroupRules source).closer tokens.head? = false ∧
      (typeGroupRules source).stops tokens = false

theorem takes_structWord :
    structWord.Takes source [] (fun rest => ∃ others, rest = markLexeme .leftBrace :: others)
      fun _ => True := by
  refine Reader.takes_optional_none.before (fun found hfound => ?_) ?_
  · obtain rfl := hfound
    exact Reader.takes_pure trivial
  · rintro _ ⟨others, rfl⟩ lexeme ⟨⟩ span
    rfl

theorem takes_structDef {name : Lexeme} {text : String} (hname : name.token = .identifier text)
    {lines : List (List Lexeme)} {entries : List Member}
    (hlines : memberLines.Lines lines entries) :
    (structDef source).Takes source
      (name :: space :: groupRow .leftBrace .rightBrace lines) Anything fun found =>
        found.unplaced =
          ⟨⟨text, nowhere⟩, ⟨nowhere, entries.map Member.unplaced, some nowhere⟩⟩ := by
  refine (Reader.takes_identifier hname).next fun found hfound => ?_
  refine Reader.takes_skipInline_space.bind (fun _ _ => ?_) fun rest _ => by
    rintro lexeme ⟨⟩
    rfl
  refine takes_structWord.before (fun _ _ => ?_) fun rest _ => ⟨_, rfl⟩
  refine (Reader.takes_punct rfl).next fun opener _ => ?_
  refine (takes_body (structRules source) rfl (fun _ => id) hlines opener).pure
    fun block hblock => ?_
  simp only [StructDef.unplaced, Spanned.unplaced, hfound]
  exact congrArg _ hblock

theorem SpellsStruct.line {start : Nat} {run : List Lexeme} {struct : StructDef}
    (hstruct : SpellsStruct start run struct) (hclean : Clean run) (hwhole : struct.Whole) :
    ∃ line, typeEntryLines.Line line (.struct struct) := by
  obtain @⟨name, text, gap, run, body, hname, _, hbody⟩ := hstruct
  have hbodyClean : Clean run := hclean.tail.right
  obtain ⟨lines, hlines⟩ := hbody.lines memberLines
    (fun hline hclean _ => hline.line hclean) (fun _ => id) hbodyClean hwhole
  have hnameClean : Clean [name] := hclean.of_mem List.mem_cons_self
  have hnameText : name.text = text.toList :=
    hnameClean.text_eq List.mem_cons_self (by rw [hname]; rfl)
  refine ⟨name :: space :: groupRow .leftBrace .rightBrace lines, ?_, ?_, ?_, ?_⟩
  · simp [typeEntryLines, TypeEntry.print, StructDef.print, printBody, hnameText,
      hlines.textOf_groupRow, memberLines, Punct.char]
  · exact (Tidy.single hnameClean (by simp [hname, Token.isTrivia])).spaced
      (hlines.tidy_groupRow _ _)
  · intro source start rest _ _
    simp [typeEntryLines, typeGroupRules, atPunct, hname, opensDeclaration, isDeclarationKeyword,
      Token.isPunct]
  · intro source
    refine ((takes_structDef hname hlines).imp (fun _ _ => trivial) fun _ => id).pure
      fun found hfound => ?_
    refine congrArg TypeEntry.struct (hfound.trans ?_)
    rw [StructDef.unplaced, Block.unplaced_of_whole hwhole]
    rfl

theorem SpellsTypeEntry.line {start : Nat} {run : List Lexeme} {entry : TypeEntry}
    (hentry : SpellsTypeEntry start run entry) (hclean : Clean run) (hwhole : entry.Whole) :
    ∃ line, typeEntryLines.Line line entry := by
  obtain ⟨hstruct⟩ := hentry
  exact hstruct.line hclean hwhole

end ApiLang
