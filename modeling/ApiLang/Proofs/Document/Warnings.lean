/-
Where the values of annotations stand, and the warnings about them.  A value lies
within the row that spells its declaration, and more of the row follows it; so a
warning starts before its declaration ends.
-/
import ApiLang.Proofs.Document.Shift
import ApiLang.Proofs.Tree.Whole

namespace ApiLang

variable {α : Type}

theorem SpellsItem.between {start : Nat} {run : List Lexeme} {item : Spanned ValueItem}
    (hitem : SpellsItem start run item) : item.span.Between start (start + widthOf run) := by
  cases hitem with
  | @quoted lexeme _ _ => simpa using spanAt_between start [lexeme] []
  | @bare core trail _ _ _ _ => exact spanAt_between start core trail

theorem Span.Between.mono {lo hi lo' hi' : Nat} {span : Span} (hspan : span.Between lo hi)
    (hlo : lo' ≤ lo) (hhi : hi ≤ hi') : span.Between lo' hi' :=
  ⟨hlo.trans hspan.1, hspan.2.1, hspan.2.2.trans hhi⟩

theorem SpellsItems.between {start : Nat} {run : List Lexeme} {items : List (Spanned ValueItem)}
    (hitems : SpellsItems start run items) :
    ∀ item ∈ items, item.span.Between start (start + widthOf run) := by
  induction hitems with
  | nil _ => simp
  | @last start gap run trail item _ hitem _ =>
      rw [List.forall_mem_singleton]
      refine hitem.between.mono (by omega) ?_
      simp only [widthOf_append]
      omega
  | @more start gap run trail others comma item items _ hitem _ _ _ ih =>
      refine List.forall_mem_cons.mpr ⟨hitem.between.mono (by omega) ?_, fun other hother => ?_⟩
      · simp only [widthOf_append]
        omega
      · refine (ih other hother).mono (by omega) ?_
        simp only [widthOf_append, widthOf_cons, widthOf_nil]
        omega

/-- A value starts within its row. -/
theorem SpellsValue.start_le {start : Nat} {run : List Lexeme} {value : ValueList}
    (hvalue : SpellsValue start run value) : value.span.start ≤ start + widthOf run := by
  obtain ⟨hitems⟩ := hvalue
  rename_i items
  cases items with
  | nil => exact le_refl _
  | cons first others =>
      obtain ⟨_, hproper, hstop⟩ := hitems.between first List.mem_cons_self
      have hlast := List.getLast?_eq_some_getLast (List.cons_ne_nil first others)
      simp only [itemsSpan, List.head?_cons, hlast, Span.union]
      omega

/-- An annotation in a row has a piece of the row. -/
theorem SpellsAnnotations.exists_piece {start : Nat} {run : List Lexeme} {notes : List Annotation}
    (hnotes : SpellsAnnotations start run notes) :
    ∀ note ∈ notes, ∃ place piece, SpellsAnnotation place piece note ∧ piece ⊆ run ∧
      place + widthOf piece ≤ start + widthOf run := by
  induction hnotes with
  | nil => simp
  | @cons start run gap rest first others hfirst _ _ ih =>
      refine List.forall_mem_cons.mpr ⟨⟨start, run, hfirst, by simp, ?_⟩, fun note hnote => ?_⟩
      · simp only [widthOf_append]
        omega
      · obtain ⟨place, piece, hpiece, hsubset, hbound⟩ := ih note hnote
        refine ⟨place, piece, hpiece, fun lexeme hlexeme => ?_, ?_⟩
        · simp [hsubset hlexeme]
        · simp only [widthOf_append] at hbound ⊢
          omega

theorem SpellsListed.ne_nil {Item : Nat → List Lexeme → α → Prop} {start : Nat} {run : List Lexeme}
    {items : List α} (hlisted : SpellsListed Item start run items) : run ≠ [] := by
  induction hlisted with
  | close => simp
  | item _ _ _ ih => simp [ih]

/-- An item of a list in parentheses has a piece of the row, in front of the
closing mark. -/
theorem SpellsListed.exists_piece {Item : Nat → List Lexeme → α → Prop} {start : Nat}
    {run : List Lexeme} {items : List α} (hlisted : SpellsListed Item start run items)
    (hrun : Lexed run) :
    ∀ item ∈ items, ∃ place piece, Item place piece item ∧ piece ⊆ run ∧
      place + widthOf piece < start + widthOf run := by
  induction hlisted with
  | close => simp
  | @item start gap run rest first others _ hfirst hothers ih =>
      have hrest : Lexed rest := hrun.mono (by simp)
      have hpos := hrest.widthOf_pos hothers.ne_nil
      refine List.forall_mem_cons.mpr ⟨⟨_, run, hfirst, by simp, ?_⟩, fun item hitem => ?_⟩
      · simp only [widthOf_append]
        omega
      · obtain ⟨place, piece, hpiece, hsubset, hbound⟩ := ih hrest item hitem
        refine ⟨place, piece, hpiece, fun lexeme hlexeme => ?_, ?_⟩
        · simp [hsubset hlexeme]
        · simp only [widthOf_append] at hbound ⊢
          omega

/-- An entry that was not skipped has a piece of the row. -/
theorem SpellsEntries.exists_piece {Item : Nat → List Lexeme → α → Prop} {skip : Skipped → α}
    {start : Nat} {run : List Lexeme} {entries : List α}
    (hentries : SpellsEntries Item skip start run entries) :
    ∀ entry ∈ entries, (∃ input, entry = skip input) ∨
      ∃ place piece, Item place piece entry ∧ piece ⊆ run ∧
        place + widthOf piece ≤ start + widthOf run := by
  induction hentries with
  | nil => simp
  | @item start gap run rest first others _ hfirst _ ih =>
      refine List.forall_mem_cons.mpr
        ⟨.inr ⟨_, run, hfirst, by simp, ?_⟩, fun entry hentry => ?_⟩
      · simp only [widthOf_append]
        omega
      · refine (ih entry hentry).imp_right ?_
        rintro ⟨place, piece, hpiece, hsubset, hbound⟩
        refine ⟨place, piece, hpiece, fun lexeme hlexeme => ?_, ?_⟩
        · simp [hsubset hlexeme]
        · simp only [widthOf_append] at hbound ⊢
          omega
  | @skipped start gap run rest input others _ _ _ ih =>
      refine List.forall_mem_cons.mpr ⟨.inl ⟨input, rfl⟩, fun entry hentry => ?_⟩
      refine (ih entry hentry).imp_right ?_
      rintro ⟨place, piece, hpiece, hsubset, hbound⟩
      refine ⟨place, piece, hpiece, fun lexeme hlexeme => ?_, ?_⟩
      · simp [hsubset hlexeme]
      · simp only [widthOf_append] at hbound ⊢
        omega

theorem SpellsBlock.exists_piece {Item : Nat → List Lexeme → α → Prop} {skip : Skipped → α}
    {opening closing : Punct} {start : Nat} {run : List Lexeme} {block : Block α}
    (hblock : SpellsBlock Item skip opening closing start run block) :
    ∀ entry ∈ block.entries, (∃ input, entry = skip input) ∨
      ∃ place piece, Item place piece entry ∧ piece ⊆ run ∧
        place + widthOf piece ≤ start + widthOf run := by
  intro entry hentry
  cases hblock with
  | @closed opener close run entries _ hentries _ =>
      refine (hentries.exists_piece entry hentry).imp_right ?_
      rintro ⟨place, piece, hpiece, hsubset, hbound⟩
      refine ⟨place, piece, hpiece, fun lexeme hlexeme => ?_, ?_⟩
      · simp [hsubset hlexeme]
      · simp only [widthOf_cons, widthOf_append, widthOf_nil] at hbound ⊢
        omega
  | @unclosed opener run entries _ hentries =>
      refine (hentries.exists_piece entry hentry).imp_right ?_
      rintro ⟨place, piece, hpiece, hsubset, hbound⟩
      refine ⟨place, piece, hpiece, List.subset_cons_of_subset opener hsubset, ?_⟩
      simp only [widthOf_cons, widthOf_nil] at hbound ⊢
      omega

/-- The items of inline values stand behind the name of their annotation. -/
theorem SpellsAnnotations.itemsPlaced {start : Nat} {run : List Lexeme} {notes : List Annotation}
    (hnotes : SpellsAnnotations start run notes) (hrun : Lexed run) : ItemsPlaced notes := by
  intro note hnote value hbody item hitem
  obtain ⟨place, piece, hpiece, hsubset, _⟩ := hnotes.exists_piece note hnote
  cases hpiece with
  | empty | block => cases hbody
  | @inline sign name text run value _ _ _ hvalue =>
      cases hbody
      obtain ⟨hitems⟩ := hvalue
      obtain ⟨hstart, hproper, _⟩ := hitems.between item hitem
      have hhead : Lexed [sign, name] := (hrun.mono hsubset).mono (by simp)
      have hpos := hhead.widthOf_pos (List.cons_ne_nil sign [name])
      omega

theorem SpellsRoute.itemsPlaced {start : Nat} {run : List Lexeme} {route : Route}
    (hroute : SpellsRoute start run route) (hrun : Lexed run) : ItemsPlaced route.annotations := by
  obtain ⟨hnotes, _⟩ := hroute
  exact hnotes.itemsPlaced (hrun.mono (by simp))

theorem SpellsService.itemsPlaced {start : Nat} {run : List Lexeme} {service : Service}
    (hservice : SpellsService start run service) (hrun : Lexed run) {route : Route}
    (hroute : .route route ∈ service.body.entries) : ItemsPlaced route.annotations := by
  obtain @⟨_, _, _, _, run, _, _, _, _, _, _, _, _, _, _, _, hbody⟩ := hservice
  have hbodyRun : Lexed run := fun lexeme hlexeme => hrun lexeme (by simp [hlexeme])
  rcases hbody.exists_piece _ hroute with ⟨input, hskipped⟩ | ⟨place, piece, ⟨hpiece⟩, hsubset, _⟩
  · cases hskipped
  · exact hpiece.itemsPlaced (hbodyRun.mono hsubset)

/-- The items in front of the routes of a file have their places. -/
theorem itemsPlaced_of_mem {source : List Char} {service : Service} {route : Route}
    (hfound : .service service ∈ (treeOf source).declarations)
    (hroute : .route route ∈ service.body.entries) : ItemsPlaced route.annotations := by
  have hlexed : Lexed (lexemes source) := fun _ => standsBefore_of_mem_lexemes
  have hfile : SpellsEntries SpellsDeclaration Declaration.skipped 0 (lexemes source)
      (treeOf source).declarations := parseTokens_spells source
  rcases hfile.exists_piece _ hfound with ⟨input, hskipped⟩ | ⟨place, piece, hpiece, hsubset, _⟩
  · cases hskipped
  · cases hpiece with
    | service hservice => exact hservice.itemsPlaced (hlexed.mono hsubset) hroute

/-- A warning is about some value. -/
theorem Declaration.mem_warnings {found : Declaration} {warning : Diagnostic}
    (hwarning : warning ∈ found.warnings) : ∃ key value, warning ∈ valueWarning key value := by
  have hentries : ∀ entries, warning ∈ entryWarnings entries →
      ∃ key value, warning ∈ valueWarning key value := by
    intro entries hmem
    obtain ⟨entry, _, hmem⟩ := List.mem_flatMap.mp hmem
    exact ⟨_, _, hmem⟩
  have hnotes : ∀ notes : List Annotation, warning ∈ notes.flatMap annotationWarnings →
      ∃ key value, warning ∈ valueWarning key value := by
    intro notes hmem
    obtain ⟨note, _, hmem⟩ := List.mem_flatMap.mp hmem
    unfold annotationWarnings at hmem
    split at hmem
    · cases hmem
    · exact ⟨_, _, hmem⟩
    · exact hentries _ hmem
  cases found with
  | version | imports | types | skipped => cases hwarning
  | info entries span => exact hentries entries hwarning
  | service service =>
      rcases List.mem_append.mp hwarning with hwarning | hwarning
      · exact hnotes service.annotations hwarning
      · obtain ⟨entry, _, hwarning⟩ := List.mem_flatMap.mp hwarning
        cases entry with
        | route route => exact hnotes route.annotations hwarning
        | skipped => cases hwarning

theorem mem_valueWarning {key : String} {value : ValueList} {warning : Diagnostic}
    (hwarning : warning ∈ valueWarning key value) : warning.span = value.span := by
  rw [valueWarning] at hwarning
  split at hwarning
  · rw [List.mem_singleton.mp hwarning]
    rfl
  · cases hwarning

theorem SpellsKeyValue.warning_start_le {start : Nat} {run : List Lexeme} {entry : KeyValue}
    (hentry : SpellsKeyValue start run entry) {warning : Diagnostic}
    (hwarning : warning ∈ valueWarning entry.key.val entry.value) :
    warning.span.start ≤ start + widthOf run := by
  rw [mem_valueWarning hwarning]
  obtain ⟨_, _, _, _, hvalue⟩ := hentry
  have hstart := hvalue.start_le
  simp only [widthOf_cons, widthOf_append, widthOf_nil] at hstart ⊢
  omega

theorem SpellsListed.warning_start_lt {start : Nat} {run : List Lexeme} {entries : List KeyValue}
    (hentries : SpellsListed SpellsKeyValue start run entries) (hrun : Lexed run)
    {warning : Diagnostic} (hwarning : warning ∈ entryWarnings entries) :
    warning.span.start < start + widthOf run := by
  obtain ⟨entry, hentry, hwarning⟩ := List.mem_flatMap.mp hwarning
  obtain ⟨place, piece, hpiece, _, hbound⟩ := hentries.exists_piece hrun entry hentry
  exact Nat.lt_of_le_of_lt (hpiece.warning_start_le hwarning) hbound

theorem SpellsAnnotation.warning_start_le {start : Nat} {run : List Lexeme} {note : Annotation}
    (hnote : SpellsAnnotation start run note) (hrun : Lexed run) {warning : Diagnostic}
    (hwarning : warning ∈ annotationWarnings note) :
    warning.span.start ≤ start + widthOf run := by
  cases hnote with
  | empty => cases hwarning
  | inline _ _ _ hvalue =>
      rw [mem_valueWarning hwarning]
      have hstart := hvalue.start_le
      simp only [widthOf_cons, widthOf_nil] at hstart ⊢
      omega
  | @block sign name opener text gap run entries _ _ _ _ hentries =>
      have hentriesRun : Lexed run := fun lexeme hlexeme => hrun lexeme (by simp [hlexeme])
      have hstart := hentries.warning_start_lt hentriesRun hwarning
      simp only [widthOf_cons, widthOf_append, widthOf_nil] at hstart ⊢
      omega

theorem SpellsAnnotations.warning_start_le {start : Nat} {run : List Lexeme}
    {notes : List Annotation} (hnotes : SpellsAnnotations start run notes) (hrun : Lexed run)
    {warning : Diagnostic} (hwarning : warning ∈ notes.flatMap annotationWarnings) :
    warning.span.start ≤ start + widthOf run := by
  obtain ⟨note, hnote, hwarning⟩ := List.mem_flatMap.mp hwarning
  obtain ⟨place, piece, hpiece, hsubset, hbound⟩ := hnotes.exists_piece note hnote
  exact (hpiece.warning_start_le (hrun.mono hsubset) hwarning).trans hbound

theorem SpellsServiceEntry.warning_start_lt {start : Nat} {run : List Lexeme}
    {entry : ServiceEntry} (hentry : SpellsServiceEntry start run entry) (hrun : Lexed run)
    {warning : Diagnostic} (hwarning : warning ∈ entry.warnings) :
    warning.span.start < start + widthOf run := by
  obtain ⟨hroute⟩ := hentry
  obtain @⟨notesRun, gap, pathTail, signature, trail, method, slash, _, _, _, _, hnotes, _⟩ :=
    hroute
  have hmethod : Lexed [method] := hrun.mono (by simp)
  have hpos := hmethod.widthOf_pos (List.cons_ne_nil method [])
  have hstart := hnotes.warning_start_le (hrun.mono (by simp)) hwarning
  simp only [widthOf_cons, widthOf_append, widthOf_nil] at hpos hstart ⊢
  omega

/-- A warning starts before the end of the declaration it is about. -/
theorem SpellsDeclaration.warning_start_lt {start : Nat} {run : List Lexeme} {found : Declaration}
    (hfound : SpellsDeclaration start run found) (hrun : Lexed run) {warning : Diagnostic}
    (hwarning : warning ∈ found.warnings) : warning.span.start < start + widthOf run := by
  cases hfound with
  | version | importOne | imports | struct | types => cases hwarning
  | @info word opener gap run entries _ _ _ hentries =>
      have hentriesRun : Lexed run := fun lexeme hlexeme => hrun lexeme (by simp [hlexeme])
      have hstart := hentries.warning_start_lt hentriesRun hwarning
      simp only [widthOf_cons, widthOf_append, widthOf_nil] at hstart ⊢
      omega
  | service hservice =>
      obtain @⟨notesRun, gap, nameTail, space, run, word, first, _, _, hnotes, _, _, _, _, _, _,
        hbody⟩ := hservice
      rcases List.mem_append.mp hwarning with hwarning | hwarning
      · have hword : Lexed [word] := hrun.mono (by simp)
        have hpos := hword.widthOf_pos (List.cons_ne_nil word [])
        have hstart := hnotes.warning_start_le (hrun.mono (by simp)) hwarning
        simp only [widthOf_cons, widthOf_append, widthOf_nil] at hpos hstart ⊢
        omega
      · obtain ⟨entry, hentry, hwarning⟩ := List.mem_flatMap.mp hwarning
        have hbodyRun : Lexed run := fun lexeme hlexeme => hrun lexeme (by simp [hlexeme])
        rcases hbody.exists_piece entry hentry with
          ⟨input, rfl⟩ | ⟨place, piece, hpiece, hsubset, hbound⟩
        · cases hwarning
        · have hstart := hpiece.warning_start_lt (hbodyRun.mono hsubset) hwarning
          simp only [widthOf_cons, widthOf_append] at hbound ⊢
          omega

/-- A warning starts before the end of the source. -/
theorem warning_start_lt {source : List Char} {found : Declaration}
    (hfound : found ∈ (treeOf source).declarations) {warning : Diagnostic}
    (hwarning : warning ∈ found.warnings) : warning.span.start < byteWidth source := by
  have hlexed : Lexed (lexemes source) := fun _ => standsBefore_of_mem_lexemes
  have hfile : SpellsEntries SpellsDeclaration Declaration.skipped 0 (lexemes source)
      (treeOf source).declarations := parseTokens_spells source
  rcases hfile.exists_piece found hfound with
    ⟨input, rfl⟩ | ⟨place, piece, hpiece, hsubset, hbound⟩
  · cases hwarning
  · have hstart := hpiece.warning_start_lt (hlexed.mono hsubset) hwarning
    have hwidth : widthOf (lexemes source) = byteWidth source := by rw [widthOf, textOf_lexemes]
    omega

end ApiLang
