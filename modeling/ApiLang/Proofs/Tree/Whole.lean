/-
Whole trees.  A tree is whole if nothing was skipped on the way to it and every
body in it was closed by its own mark.  The parser is silent about a source
without invalid tokens exactly if its tree is whole.
-/
import ApiLang.Proofs.Token.Tiling
import ApiLang.Proofs.Tree.ReadingFiles
import ApiLang.Tree.Diagnostics

namespace ApiLang

variable {α : Type}

/-- A body is whole if its entries are and its closing mark was found. -/
def Block.Whole (entryWhole : α → Prop) (block : Block α) : Prop :=
  (∀ entry ∈ block.entries, entryWhole entry) ∧ block.closer.isSome = true

def Member.Whole : Member → Prop
  | .field _ | .embedded _ => True
  | .skipped _ => False

def StructDef.Whole (struct : StructDef) : Prop :=
  struct.body.Whole Member.Whole

def TypeEntry.Whole : TypeEntry → Prop
  | .struct definition => definition.Whole
  | .skipped _ => False

def TypeBody.Whole : TypeBody → Prop
  | .single struct => struct.Whole
  | .group block => block.Whole TypeEntry.Whole

def ServiceEntry.Whole : ServiceEntry → Prop
  | .route _ => True
  | .skipped _ => False

def Declaration.Whole : Declaration → Prop
  | .version .. | .info .. | .imports .. => True
  | .types _ body => body.Whole
  | .service block => block.body.Whole ServiceEntry.Whole
  | .skipped _ => False

/-- Nothing was skipped, and every body was closed. -/
def SourceFile.Whole (file : SourceFile) : Prop :=
  ∀ found ∈ file.declarations, found.Whole

/-- A row without invalid lexemes. -/
def AllValid (run : List Lexeme) : Prop :=
  ∀ lexeme ∈ run, lexeme.token.isInvalid = false

/-- In valid input, what is skipped is complained about. -/
theorem SpellsSkipped.diagnostics_ne_nil {start : Nat} {run : List Lexeme} {input : Skipped}
    (hinput : SpellsSkipped start run input) (hvalid : AllValid run) (sourceEnd : Nat) :
    input.diagnostics sourceEnd ≠ [] := by
  obtain ⟨_, _, _, _, hfound⟩ := hinput
  unfold Skipped.diagnostics Expected.diagnostics
  split
  · rename_i placed hplaced
    by_cases hinvalid : placed.token.isInvalid = true
    · obtain ⟨earlier, lexeme, later, rfl, htoken, _⟩ :=
        mem_placeLexemes (hfound placed hplaced hinvalid)
      rw [htoken, hvalid lexeme (by simp)] at hinvalid
      cases hinvalid
    · simp [hinvalid]
  · simp

section Bodies

variable {Item : Nat → List Lexeme → α → Prop} {skip : Skipped → α}
  {ofEntry : α → List Diagnostic} {entryWhole : α → Prop} {sourceEnd : Nat}

theorem SpellsEntries.diagnostics_eq_nil_iff {start : Nat} {run : List Lexeme} {entries : List α}
    (hentries : SpellsEntries Item skip start run entries) (hvalid : AllValid run)
    (hitem : ∀ start piece entry, AllValid piece → Item start piece entry →
      (ofEntry entry = [] ↔ entryWhole entry))
    (hskip : ∀ input, ofEntry (skip input) = input.diagnostics sourceEnd)
    (hwhole : ∀ input, ¬ entryWhole (skip input)) :
    entries.flatMap ofEntry = [] ↔ ∀ entry ∈ entries, entryWhole entry := by
  have hiff := hentries.forall_mem (fun entry => ofEntry entry = [] ↔ entryWhole entry)
    (fun start piece entry hpiece hentry =>
      hitem start piece entry (fun lexeme hlexeme => hvalid lexeme (hpiece hlexeme)) hentry)
    (fun start piece input hpiece hinput => by
      have hvalidPiece : AllValid piece := fun lexeme hlexeme => hvalid lexeme (hpiece hlexeme)
      rw [hskip, iff_false_right (hwhole input)]
      exact hinput.diagnostics_ne_nil hvalidPiece sourceEnd)
  rw [List.flatMap_eq_nil_iff]
  exact forall₂_congr hiff

theorem SpellsBlock.diagnostics_eq_nil_iff {opening closing : Punct} {start : Nat}
    {run : List Lexeme} {block : Block α}
    (hblock : SpellsBlock Item skip opening closing start run block) (hvalid : AllValid run)
    (hitem : ∀ start piece entry, AllValid piece → Item start piece entry →
      (ofEntry entry = [] ↔ entryWhole entry))
    (hskip : ∀ input, ofEntry (skip input) = input.diagnostics sourceEnd)
    (hwhole : ∀ input, ¬ entryWhole (skip input)) :
    block.diagnostics ofEntry opening closing = [] ↔ block.Whole entryWhole := by
  cases hblock with
  | @closed opener close run _ _ hentries _ =>
      have hrun : AllValid run := fun lexeme hlexeme => hvalid lexeme (by simp [hlexeme])
      have hiff := hentries.diagnostics_eq_nil_iff hrun hitem hskip hwhole
      simp [Block.diagnostics, Block.Whole, hiff]
  | unclosed _ _ => simp [Block.diagnostics, Block.Whole]

end Bodies

theorem SpellsMember.diagnostics_eq_nil_iff {start : Nat} {run : List Lexeme} {line : Member}
    (hline : SpellsMember start run line) (sourceEnd : Nat) :
    line.diagnostics sourceEnd = [] ↔ line.Whole := by
  cases hline with
  | pointer | embedded | field | tagged => simp [Member.diagnostics, Member.Whole]

theorem SpellsStruct.diagnostics_eq_nil_iff {start : Nat} {run : List Lexeme} {struct : StructDef}
    (hstruct : SpellsStruct start run struct) (hvalid : AllValid run) (sourceEnd : Nat) :
    struct.diagnostics sourceEnd = [] ↔ struct.Whole := by
  obtain @⟨name, text, gap, run, body, _, _, hbody⟩ := hstruct
  have hrun : AllValid run := fun lexeme hlexeme => hvalid lexeme (by simp [hlexeme])
  exact hbody.diagnostics_eq_nil_iff hrun
    (fun _ _ _ _ hline => hline.diagnostics_eq_nil_iff sourceEnd) (fun _ => rfl) fun _ => id

theorem SpellsDeclaration.diagnostics_eq_nil_iff {start : Nat} {run : List Lexeme}
    {found : Declaration} (hfound : SpellsDeclaration start run found) (hvalid : AllValid run)
    (sourceEnd : Nat) : found.diagnostics sourceEnd = [] ↔ found.Whole := by
  cases hfound with
  | version | info | importOne | imports => simp [Declaration.diagnostics, Declaration.Whole]
  | @struct word gap run struct _ _ hstruct =>
      have hrun : AllValid run := fun lexeme hlexeme => hvalid lexeme (by simp [hlexeme])
      exact hstruct.diagnostics_eq_nil_iff hrun sourceEnd
  | @types word gap run block _ _ hblock =>
      have hrun : AllValid run := fun lexeme hlexeme => hvalid lexeme (by simp [hlexeme])
      refine hblock.diagnostics_eq_nil_iff hrun ?_ (fun _ => rfl) fun _ => id
      rintro _ piece _ hpiece ⟨hstruct⟩
      exact hstruct.diagnostics_eq_nil_iff hpiece sourceEnd
  | service hservice =>
      obtain @⟨_, _, _, _, run, _, _, _, _, _, _, _, _, _, _, _, hbody⟩ := hservice
      have hrun : AllValid run := fun lexeme hlexeme => hvalid lexeme (by simp [hlexeme])
      refine hbody.diagnostics_eq_nil_iff hrun ?_ (fun _ => rfl) fun _ => id
      rintro _ _ _ _ ⟨_⟩
      simp [ServiceEntry.diagnostics, ServiceEntry.Whole]

/-- The parser is silent about valid input exactly if the tree is whole. -/
theorem SpellsFile.diagnostics_eq_nil_iff {run : List Lexeme} {file : SourceFile}
    (hfile : SpellsFile run file) (hvalid : AllValid run) :
    file.diagnostics = [] ↔ file.Whole :=
  SpellsEntries.diagnostics_eq_nil_iff hfile hvalid
    (fun _ _ _ hpiece hfound => hfound.diagnostics_eq_nil_iff hpiece _) (fun _ => rfl) fun _ => id

/-- The lexer is silent exactly if there is no invalid token. -/
theorem tokenDiagnostics_eq_nil_iff (tokens : List PlacedToken) :
    tokenDiagnostics tokens = [] ↔ ∀ placed ∈ tokens, placed.token.isInvalid = false := by
  rw [tokenDiagnostics, List.filterMap_eq_nil_iff]
  refine forall₂_congr fun placed _ => ?_
  cases placed.token <;> simp [Token.isInvalid]

theorem allValid_iff (start : Nat) (run : List Lexeme) :
    AllValid run ↔ ∀ placed ∈ placeLexemes start run, placed.token.isInvalid = false := by
  induction run generalizing start with
  | nil => simp [AllValid]
  | cons lexeme others ih =>
      rw [placeLexemes_cons, List.forall_mem_cons, ← ih, AllValid, AllValid, List.forall_mem_cons]

/-- The tree of a source. -/
def treeOf (source : List Char) : SourceFile :=
  parseTokens source (tokenize source)

/-- Neither the lexer nor the parser complains about the source. -/
def Accepted (source : List Char) : Prop :=
  tokenDiagnostics (tokenize source) = [] ∧ (treeOf source).diagnostics = []

instance (source : List Char) : Decidable (Accepted source) :=
  decidable_of_iff ((tokenDiagnostics (tokenize source)).isEmpty ∧
    (treeOf source).diagnostics.isEmpty) (by simp [Accepted])

/-- A source is accepted exactly if it has no invalid token and its tree is
whole. -/
theorem accepted_iff (source : List Char) :
    Accepted source ↔ AllValid (lexemes source) ∧ (treeOf source).Whole := by
  rw [Accepted, tokenDiagnostics_eq_nil_iff, tokenize, ← allValid_iff]
  refine and_congr_right fun hvalid => ?_
  exact (parseTokens_spells source).diagnostics_eq_nil_iff hvalid

end ApiLang
