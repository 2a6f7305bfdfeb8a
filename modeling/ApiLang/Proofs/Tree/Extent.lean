/-
How far the pieces of a tree reach.  Pieces spelled by a row of lexemes have
their spans within that row, and pieces in a row have them in order.
-/
import ApiLang.Proofs.Tree.Located

namespace ApiLang

/-- Spans in a row between two offsets: each lies between them, and each ends
where a later one starts, or before. -/
structure SpansIn (lo hi : Nat) (spans : List Span) : Prop where
  within : ∀ span ∈ spans, lo ≤ span.start ∧ span.stop ≤ hi
  ordered : spans.Pairwise fun left right => left.stop ≤ right.start

namespace SpansIn

theorem nil (lo hi : Nat) : SpansIn lo hi [] :=
  ⟨by simp, .nil⟩

theorem one {lo hi : Nat} {span : Span} (hstart : lo ≤ span.start) (hstop : span.stop ≤ hi) :
    SpansIn lo hi [span] :=
  ⟨by simpa using ⟨hstart, hstop⟩, List.pairwise_singleton _ _⟩

theorem mono {lo hi lo' hi' : Nat} {spans : List Span} (hspans : SpansIn lo hi spans)
    (hlo : lo' ≤ lo) (hhi : hi ≤ hi') : SpansIn lo' hi' spans := by
  refine ⟨?_, hspans.ordered⟩
  intro span hspan
  obtain ⟨hstart, hstop⟩ := hspans.within span hspan
  exact ⟨hlo.trans hstart, hstop.trans hhi⟩

theorem append {lo middle hi : Nat} {left right : List Span} (hleft : SpansIn lo middle left)
    (hright : SpansIn middle hi right) (hlo : lo ≤ middle) (hhi : middle ≤ hi) :
    SpansIn lo hi (left ++ right) := by
  constructor
  · intro span hspan
    rcases List.mem_append.mp hspan with hspan | hspan
    · exact (hleft.mono (le_refl lo) hhi).within span hspan
    · exact (hright.mono hlo (le_refl hi)).within span hspan
  · apply List.pairwise_append.mpr
    refine ⟨hleft.ordered, hright.ordered, ?_⟩
    intro first hfirst second hsecond
    exact (hleft.within first hfirst).2.trans (hright.within second hsecond).1

theorem cons {lo middle hi : Nat} {span : Span} {spans : List Span} (hstart : lo ≤ span.start)
    (hstop : span.stop ≤ middle) (hspans : SpansIn middle hi spans) (hlo : lo ≤ middle)
    (hhi : middle ≤ hi) : SpansIn lo hi (span :: spans) :=
  append (one hstart hstop) hspans hlo hhi

end SpansIn

/-- Of pieces one behind the other, at most one contains a given stretch. -/
theorem countP_contains_le_one {α : Type} {spanOf : α → Span} {pieces : List α} {span : Span}
    (hordered : pieces.Pairwise fun left right => (spanOf left).stop ≤ (spanOf right).start)
    (hspan : span.start < span.stop) :
    pieces.countP (fun piece => (spanOf piece).contains span) ≤ 1 := by
  have hfiltered := hordered.filter fun piece => (spanOf piece).contains span
  have hcontain : ∀ piece ∈ pieces.filter (fun piece => (spanOf piece).contains span),
      (spanOf piece).contains span = true := fun piece hpiece => (List.mem_filter.mp hpiece).2
  rw [List.countP_eq_length_filter]
  generalize pieces.filter _ = kept at hfiltered hcontain
  rcases kept with _ | ⟨first, _ | ⟨second, others⟩⟩
  · simp
  · simp
  · have hbefore := (List.pairwise_cons.mp hfiltered).1 second (by simp)
    have hfirst := hcontain first (by simp)
    have hsecond := hcontain second (by simp)
    simp only [Span.contains, Bool.and_eq_true, decide_eq_true_eq] at hfirst hsecond
    omega

theorem Lexed.widthOf_pos {run : List Lexeme} (hrun : Lexed run) (hne : run ≠ []) :
    0 < widthOf run := by
  obtain ⟨lexeme, others, rfl⟩ := List.exists_cons_of_ne_nil hne
  obtain ⟨_, hstands⟩ := hrun lexeme List.mem_cons_self
  rw [widthOf_cons]
  exact Nat.add_pos_left (byteWidth_pos hstands.text_ne_nil) _

theorem SpellsItem.bounds {start : Nat} {run : List Lexeme} {item : Spanned ValueItem}
    (hitem : SpellsItem start run item) :
    start ≤ item.span.start ∧ item.span.stop ≤ start + widthOf run := by
  cases hitem with
  | quoted _ => exact ⟨le_refl _, le_refl _⟩
  | bare _ _ _ _ =>
      simp only [spanAt, widthOf_append]
      omega

theorem SpellsItems.spansIn {start : Nat} {run : List Lexeme} {items : List (Spanned ValueItem)}
    (hitems : SpellsItems start run items) :
    SpansIn start (start + widthOf run) (items.map Spanned.span) := by
  induction hitems with
  | nil _ => exact .nil _ _
  | @last start gap run trail item _ hitem _ =>
      obtain ⟨hstart, hstop⟩ := hitem.bounds
      simp only [widthOf_append]
      exact .one (by omega) (by omega)
  | @more start gap run trail others comma item items _ hitem _ _ _ ih =>
      obtain ⟨hstart, hstop⟩ := hitem.bounds
      simp only [widthOf_append, widthOf_cons, widthOf_nil, List.map_cons] at ih ⊢
      exact .cons (by omega) (by omega) (ih.mono (le_refl _) (by omega)) (by omega) (by omega)

/-- The span of a value that has items lies where the items lie. -/
theorem itemsSpan_bounds {lo hi : Nat} {items : List (Spanned ValueItem)}
    (hitems : SpansIn lo hi (items.map Spanned.span)) (hne : items ≠ []) (stop : Nat) :
    lo ≤ (itemsSpan stop items).start ∧ (itemsSpan stop items).stop ≤ hi := by
  have hfirst := hitems.within _ (List.mem_map_of_mem (List.head_mem hne))
  have hlast := hitems.within _ (List.mem_map_of_mem (List.getLast_mem hne))
  simp only [itemsSpan, List.head?_eq_some_head hne, List.getLast?_eq_some_getLast hne, Span.union]
  omega

/-- Annotations start where their row starts and end within it. -/
theorem SpellsAnnotation.bounds {start : Nat} {run : List Lexeme} {note : Annotation}
    (hnote : SpellsAnnotation start run note) :
    note.span.start = start ∧ note.span.stop ≤ start + widthOf run := by
  cases hnote with
  | empty _ _ | block _ _ _ _ _ => exact ⟨rfl, le_refl _⟩
  | @inline sign name text run value _ _ _ hvalue =>
      obtain ⟨hitems⟩ := hvalue
      rename_i items
      cases items with
      | nil =>
          simp only [List.isEmpty_nil, ↓reduceIte, spanAt, Span.union, widthOf_cons, widthOf_nil]
          omega
      | cons item others =>
          have hbounds := itemsSpan_bounds hitems.spansIn (List.cons_ne_nil item others)
            (start + widthOf [sign, name] + widthOf run)
          simp only [List.isEmpty_cons, Bool.false_eq_true, ↓reduceIte, spanAt, Span.union,
            widthOf_cons, widthOf_nil] at hbounds ⊢
          omega

/-- The span of a declaration reaches from its first annotation, or from its
keyword, to its last piece. -/
theorem spanFrom_eq {start stop : Nat} {notesRun : List Lexeme} {notes : List Annotation}
    {word : Lexeme} {last : Span} (hnotes : SpellsAnnotations start notesRun notes)
    (hstart : start + widthOf notesRun ≤ last.start) (hstop : last.stop = stop)
    (hword : start + widthOf (notesRun ++ [word]) ≤ stop) :
    spanFrom notes (spanAt (start + widthOf notesRun) [word]) last = ⟨start, stop⟩ := by
  cases hnotes with
  | nil =>
      simp only [spanFrom, spanAt, Span.union, Span.mk.injEq, widthOf_append, widthOf_nil]
        at hstart hword ⊢
      omega
  | cons hnote _ _ =>
      obtain ⟨hfirst, hbound⟩ := hnote.bounds
      simp only [spanFrom, Span.union, Span.mk.injEq, widthOf_append] at hstart hword ⊢
      omega

/-- The items of the values of annotations lie within the row of annotations. -/
theorem SpellsAnnotations.item_bounds {start : Nat} {run : List Lexeme} {notes : List Annotation}
    (hnotes : SpellsAnnotations start run notes) {note : Annotation} {value : ValueList}
    {item : Spanned ValueItem} (hnote : note ∈ notes) (hbody : note.body = .inline value)
    (hitem : item ∈ value.items) :
    start ≤ item.span.start ∧ item.span.stop ≤ start + widthOf run := by
  induction hnotes with
  | nil => cases hnote
  | @cons start run gap rest first others hfirst hgap hothers ih =>
      rcases List.mem_cons.mp hnote with rfl | hnote
      · cases hfirst with
        | empty _ _ | block _ _ _ _ _ => cases hbody
        | inline _ _ _ hvalue =>
            cases hbody
            obtain ⟨hitems⟩ := hvalue
            have hbounds := hitems.spansIn.within _ (List.mem_map_of_mem hitem)
            simp only [widthOf_append, widthOf_cons, widthOf_nil] at hbounds ⊢
            omega
      · have hbounds := ih hnote
        simp only [widthOf_append] at hbounds ⊢
        omega

/-- A span between two offsets, with its start before its end. -/
def Span.Between (lo hi : Nat) (span : Span) : Prop :=
  lo ≤ span.start ∧ span.start ≤ span.stop ∧ span.stop ≤ hi

theorem spanAt_between (start : Nat) (run left : List Lexeme) :
    (spanAt start run).Between start (start + widthOf (run ++ left)) := by
  simp only [Span.Between, spanAt, widthOf_append]
  omega

theorem SpellsSkipped.between {start : Nat} {run : List Lexeme} {input : Skipped}
    (hinput : SpellsSkipped start run input) : input.span.Between start (start + widthOf run) := by
  obtain ⟨_, _, _, hspan, _⟩ := hinput
  rw [hspan]
  exact spanAt_between start _ _

/-- Entries in a row have their spans in order. -/
theorem SpellsEntries.spansIn {α : Type} {Item : Nat → List Lexeme → α → Prop} {skip : Skipped → α}
    {start : Nat} {run : List Lexeme} {entries : List α}
    (hentries : SpellsEntries Item skip start run entries) (spansOf : α → List Span)
    (hitem : ∀ start run entry, Item start run entry →
      SpansIn start (start + widthOf run) (spansOf entry))
    (hskip : ∀ input, spansOf (skip input) = [input.span]) :
    SpansIn start (start + widthOf run) (entries.flatMap spansOf) := by
  induction hentries with
  | nil _ => exact .nil _ _
  | @item start gap run rest entry entries _ hentry _ ih =>
      have hspans := hitem _ _ _ hentry
      rw [List.flatMap_cons]
      simp only [widthOf_append] at hspans ih ⊢
      exact (hspans.mono (by omega) (by omega)).append (ih.mono (le_refl _) (by omega)) (by omega)
        (by omega)
  | @skipped start gap run rest input entries _ hinput _ ih =>
      obtain ⟨hstart, _, hstop⟩ := hinput.between
      rw [List.flatMap_cons, hskip]
      simp only [widthOf_append] at hstart hstop ih ⊢
      exact .cons (by omega) (by omega) (ih.mono (le_refl _) (by omega)) (by omega) (by omega)

/-- The same of entries with one span each. -/
theorem SpellsEntries.map_spansIn {α : Type} {Item : Nat → List Lexeme → α → Prop}
    {skip : Skipped → α} {start : Nat} {run : List Lexeme} {entries : List α}
    (hentries : SpellsEntries Item skip start run entries) {spanOf : α → Span}
    (hitem : ∀ start run entry, Item start run entry →
      (spanOf entry).Between start (start + widthOf run))
    (hskip : ∀ input, spanOf (skip input) = input.span) :
    SpansIn start (start + widthOf run) (entries.map spanOf) := by
  have hspans := hentries.spansIn (fun entry => [spanOf entry])
    (fun start run entry hentry =>
      .one (hitem start run entry hentry).1 (hitem start run entry hentry).2.2)
    (fun input => by rw [hskip])
  rwa [← List.map_eq_flatMap] at hspans

/-- What holds of what spells an entry and of skipped input holds of all
entries. -/
theorem SpellsEntries.forall_mem {α : Type} {Item : Nat → List Lexeme → α → Prop}
    {skip : Skipped → α} {start : Nat} {run : List Lexeme} {entries : List α}
    (hentries : SpellsEntries Item skip start run entries) (P : α → Prop)
    (hitem : ∀ start piece entry, piece ⊆ run → Item start piece entry → P entry)
    (hskip : ∀ start piece input, piece ⊆ run → SpellsSkipped start piece input →
      P (skip input)) :
    ∀ entry ∈ entries, P entry := by
  induction hentries with
  | nil _ => simp
  | @item start gap run rest _ _ _ hentry _ ih =>
      have hrun : run ⊆ gap ++ (run ++ rest) := by simp
      have hrest : rest ⊆ gap ++ (run ++ rest) := by simp
      refine List.forall_mem_cons.mpr ⟨hitem _ _ _ hrun hentry, ih ?_ ?_⟩
      · intro start piece entry hpiece
        exact hitem start piece entry (List.Subset.trans hpiece hrest)
      · intro start piece input hpiece
        exact hskip start piece input (List.Subset.trans hpiece hrest)
  | @skipped start gap run rest _ _ _ hinput _ ih =>
      have hrun : run ⊆ gap ++ (run ++ rest) := by simp
      have hrest : rest ⊆ gap ++ (run ++ rest) := by simp
      refine List.forall_mem_cons.mpr ⟨hskip _ _ _ hrun hinput, ih ?_ ?_⟩
      · intro start piece entry hpiece
        exact hitem start piece entry (List.Subset.trans hpiece hrest)
      · intro start piece input hpiece
        exact hskip start piece input (List.Subset.trans hpiece hrest)

theorem SpellsBlock.forall_mem {α : Type} {Item : Nat → List Lexeme → α → Prop}
    {skip : Skipped → α} {opening closing : Punct} {start : Nat} {run : List Lexeme}
    {block : Block α} (hblock : SpellsBlock Item skip opening closing start run block)
    (P : α → Prop) (hitem : ∀ start piece entry, piece ⊆ run → Item start piece entry → P entry)
    (hskip : ∀ start piece input, piece ⊆ run → SpellsSkipped start piece input →
      P (skip input)) :
    ∀ entry ∈ block.entries, P entry := by
  cases hblock with
  | @closed opener close run _ _ hentries _ =>
      have hrun : run ⊆ opener :: (run ++ [close]) := by simp
      exact hentries.forall_mem P
        (fun start piece entry hpiece => hitem _ _ _ (List.Subset.trans hpiece hrun))
        fun start piece input hpiece => hskip _ _ _ (List.Subset.trans hpiece hrun)
  | @unclosed opener run _ _ hentries =>
      have hrun : run ⊆ opener :: run := by simp
      exact hentries.forall_mem P
        (fun start piece entry hpiece => hitem _ _ _ (List.Subset.trans hpiece hrun))
        fun start piece input hpiece => hskip _ _ _ (List.Subset.trans hpiece hrun)

/-- Spans in order that end with a proper one end where it ends. -/
theorem SpansIn.upToLast {lo hi : Nat} {spans : List Span} {last : Span}
    (hspans : SpansIn lo hi (spans ++ [last])) (hlast : last.start ≤ last.stop) :
    SpansIn lo last.stop (spans ++ [last]) := by
  refine ⟨?_, hspans.ordered⟩
  intro span hspan
  refine ⟨(hspans.within span hspan).1, ?_⟩
  rcases List.mem_append.mp hspan with hspan | hspan
  · have hbefore := (List.pairwise_append.mp hspans.ordered).2.2 span hspan last (by simp)
    exact hbefore.trans hlast
  · rw [List.mem_singleton.mp hspan]

/-- The entries of a body lie in order between its opening mark and its last
piece. -/
theorem SpellsBlock.spansIn {α : Type} {Item : Nat → List Lexeme → α → Prop}
    {skip : Skipped → α} {opening closing : Punct} {start : Nat} {run : List Lexeme}
    {block : Block α} (hblock : SpellsBlock Item skip opening closing start run block)
    (spanOf : α → Span)
    (hitem : ∀ start run entry, Item start run entry →
      (spanOf entry).Between start (start + widthOf run))
    (hskip : ∀ input, spanOf (skip input) = input.span) :
    (block.last spanOf).Between start (start + widthOf run) ∧
      SpansIn start (block.last spanOf).stop (block.entries.map spanOf) := by
  cases hblock with
  | @closed opener close run entries _ hentries _ =>
      have hspans := hentries.map_spansIn hitem hskip
      simp only [Block.last, Span.Between, spanAt, widthOf_cons, widthOf_append, widthOf_nil]
        at hspans ⊢
      exact ⟨by omega, hspans.mono (by omega) (by omega)⟩
  | @unclosed opener run entries _ hentries =>
      have hspans := hentries.map_spansIn hitem hskip
      have hproper := hentries.forall_mem (fun entry => (spanOf entry).start ≤ (spanOf entry).stop)
        (fun start run entry _ hentry => (hitem start run entry hentry).2.1)
        (fun start run input _ hinput => by rw [hskip]; exact hinput.between.2.1)
      rcases List.eq_nil_or_concat' entries with rfl | ⟨init, last, rfl⟩
      · simp only [Block.last, Span.Between, spanAt, widthOf_cons, widthOf_nil,
          List.getLast?_nil, List.map_nil]
        exact ⟨by omega, .nil _ _⟩
      · have hlast : Block.last spanOf ⟨spanAt start [opener], init ++ [last], none⟩ =
            spanOf last := by
          simp [Block.last]
        have hlastProper := hproper last (by simp)
        have hlastIn := hspans.within (spanOf last) (by simp)
        rw [List.map_append, List.map_singleton] at hspans ⊢
        rw [hlast]
        simp only [Span.Between, widthOf_cons, widthOf_nil] at hlastIn ⊢
        exact ⟨by omega, (hspans.upToLast hlastProper).mono (by omega) (le_refl _)⟩

theorem SpellsMember.between {start : Nat} {run : List Lexeme} {line : Member}
    (hline : SpellsMember start run line) : line.span.Between start (start + widthOf run) := by
  cases hline with
  | pointer _ _ _ | embedded _ _ | field _ _ _ _ _ | tagged _ _ _ _ _ _ _ =>
      simp only [Member.span, Span.Between, spanAt, widthOf_append, widthOf_cons, widthOf_nil]
      omega

/-- A struct lies within its row, and its lines lie in order within the struct. -/
theorem SpellsStruct.spansIn {start : Nat} {run : List Lexeme} {struct : StructDef}
    (hstruct : SpellsStruct start run struct) :
    struct.span.Between start (start + widthOf run) ∧
      SpansIn struct.span.start struct.span.stop (struct.body.entries.map Member.span) := by
  obtain ⟨_, _, hbody⟩ := hstruct
  obtain ⟨hlast, hentries⟩ := hbody.spansIn Member.span
    (fun start run line hline => hline.between) (fun input => rfl)
  simp only [StructDef.span, Span.union, Span.Between, spanAt, widthOf_cons, widthOf_append,
    widthOf_nil] at hlast hentries ⊢
  exact ⟨by omega, hentries.mono (by omega) (by omega)⟩

theorem SpellsServiceEntry.between {start : Nat} {run : List Lexeme} {entry : ServiceEntry}
    (hentry : SpellsServiceEntry start run entry) :
    entry.span.Between start (start + widthOf run) := by
  obtain ⟨hroute⟩ := hentry
  obtain ⟨_, _, _, _, _, _, _, _, _⟩ := hroute
  simp only [ServiceEntry.span, Span.Between, spanAt, widthOf_append, widthOf_cons]
  omega

/-- A service lies within its row, and its routes lie in order within the
service. -/
theorem SpellsService.spansIn {start : Nat} {run : List Lexeme} {service : Service}
    (hservice : SpellsService start run service) :
    service.span.Between start (start + widthOf run) ∧
      SpansIn service.span.start service.span.stop
        (service.body.entries.map ServiceEntry.span) := by
  obtain ⟨hnotes, _, _, _, _, _, _, hbody⟩ := hservice
  obtain ⟨hlast, hentries⟩ := hbody.spansIn ServiceEntry.span
    (fun start run entry hentry => hentry.between) (fun input => rfl)
  simp only [Span.Between, widthOf_cons, widthOf_append] at hlast hentries
  simp only [Service.span]
  rw [spanFrom_eq hnotes (by omega) rfl
    (by simp only [widthOf_append, widthOf_cons, widthOf_nil]; omega)]
  simp only [Span.Between, widthOf_cons, widthOf_append]
  exact ⟨by omega, hentries.mono (by omega) (le_refl _)⟩

/-- The spans of the items a declaration makes: one for each path of an import and
for each entry of a group of types. -/
def Declaration.itemSpans : Declaration → List Span
  | .imports paths _ => paths.map Spanned.span
  | .types _ body => body.entries.map TypeEntry.span
  | found => [found.span]

theorem SpellsListed.spansIn {start : Nat} {run : List Lexeme} {paths : List (Spanned String)}
    (hpaths : SpellsListed SpellsImportPath start run paths) :
    SpansIn start (start + widthOf run) (paths.map Spanned.span) := by
  induction hpaths with
  | close _ _ => exact .nil _ _
  | @item start gap run rest path paths _ hpath _ ih =>
      obtain ⟨_⟩ := hpath
      simp only [List.map_cons, widthOf_append, widthOf_cons, widthOf_nil] at ih ⊢
      refine .cons (by simp [spanAt]) ?_ (ih.mono (le_refl _) (by omega)) (by omega) (by omega)
      simp only [spanAt, widthOf_cons, widthOf_nil]
      omega

theorem SpellsTypeEntry.between {start : Nat} {run : List Lexeme} {entry : TypeEntry}
    (hentry : SpellsTypeEntry start run entry) :
    entry.span.Between start (start + widthOf run) := by
  obtain ⟨hstruct⟩ := hentry
  exact hstruct.spansIn.1

/-- The items of a declaration lie in order within its row. -/
theorem SpellsDeclaration.spansIn {start : Nat} {run : List Lexeme} {found : Declaration}
    (hfound : SpellsDeclaration start run found) :
    SpansIn start (start + widthOf run) found.itemSpans := by
  cases hfound with
  | version _ _ _ _ _ | info _ _ _ _ => exact .one (le_refl _) (le_refl _)
  | importOne _ _ _ =>
      apply SpansIn.one
      all_goals
        simp only [spanAt, widthOf_cons, widthOf_append, widthOf_nil]
        omega
  | imports _ _ _ hpaths =>
      have hspans := hpaths.spansIn
      simp only [Declaration.itemSpans, widthOf_cons, widthOf_append, widthOf_nil] at hspans ⊢
      exact hspans.mono (by omega) (by omega)
  | struct _ _ hstruct =>
      obtain ⟨⟨hstart, _, hstop⟩, _⟩ := hstruct.spansIn
      have hspans := SpansIn.one hstart hstop
      simp only [widthOf_cons, widthOf_append] at hstart hstop hspans ⊢
      exact hspans.mono (by omega) (by omega)
  | types _ _ hblock =>
      obtain ⟨hlast, hentries⟩ := hblock.spansIn TypeEntry.span
        (fun start run entry hentry => hentry.between) (fun input => rfl)
      simp only [Declaration.itemSpans, TypeBody.entries, Span.Between, widthOf_cons,
        widthOf_append] at hlast hentries ⊢
      exact hentries.mono (by omega) (by omega)
  | service hservice =>
      obtain ⟨⟨hstart, _, hstop⟩, _⟩ := hservice.spansIn
      exact .one hstart hstop

/-- The items of a file lie in order within the source. -/
theorem SpellsFile.spansIn {run : List Lexeme} {file : SourceFile} (hfile : SpellsFile run file) :
    SpansIn 0 (widthOf run) (file.declarations.flatMap Declaration.itemSpans) := by
  have hspans := SpellsEntries.spansIn hfile Declaration.itemSpans
    (fun start run found hfound => hfound.spansIn) (fun input => rfl)
  rwa [Nat.zero_add] at hspans

end ApiLang
