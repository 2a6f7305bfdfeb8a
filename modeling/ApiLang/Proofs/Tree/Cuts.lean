/-
Spans that cut a source.  Tokens begin and end between characters, and so does every
span that is put together from the spans of tokens; the text under such a span is
always found.  A row of lexemes that occurs in the source is the text under its span.
-/
import ApiLang.Proofs.Tree.Coverage

namespace ApiLang

variable {α : Type} {text source : List Char}

theorem dropBytes_eq_some {offset : Nat} {rest : List Char}
    (hdrop : dropBytes text offset = some rest) :
    ∃ before, text = before ++ rest ∧ byteWidth before = offset := by
  fun_induction dropBytes text offset with
  | case1 text => exact ⟨[], Option.some.inj hdrop, rfl⟩
  | case2 => cases hdrop
  | case3 c cs offset hfits ih =>
      obtain ⟨before, rfl, hwidth⟩ := ih hdrop
      refine ⟨c :: before, rfl, ?_⟩
      rw [byteWidth_cons]
      omega
  | case4 => cases hdrop

theorem takeBytes_eq_some {offset : Nat} {piece : List Char}
    (htake : takeBytes text offset = some piece) :
    ∃ after, text = piece ++ after ∧ byteWidth piece = offset := by
  fun_induction takeBytes text offset generalizing piece with
  | case1 text =>
      cases htake
      exact ⟨text, rfl, rfl⟩
  | case2 => cases htake
  | case3 c cs offset hfits ih =>
      obtain ⟨others, hothers, rfl⟩ := Option.map_eq_some_iff.mp htake
      obtain ⟨after, rfl, hwidth⟩ := ih hothers
      refine ⟨after, rfl, ?_⟩
      rw [byteWidth_cons]
      omega
  | case4 => cases htake

/-- The slice under a span stands between what is before and what is behind it. -/
theorem slice?_eq_some_iff {span : Span} {piece : List Char} :
    slice? text span = some piece ↔ ∃ before after, text = before ++ (piece ++ after) ∧
      byteWidth before = span.start ∧ byteWidth before + byteWidth piece = span.stop := by
  constructor
  · intro hslice
    rw [slice?] at hslice
    split at hslice
    · rename_i horder
      obtain ⟨rest, hdrop, htake⟩ := Option.bind_eq_some_iff.mp hslice
      obtain ⟨before, rfl, hbefore⟩ := dropBytes_eq_some hdrop
      obtain ⟨after, rfl, hpiece⟩ := takeBytes_eq_some htake
      exact ⟨before, after, rfl, hbefore, by omega⟩
    · cases hslice
  · rintro ⟨before, after, rfl, hstart, hstop⟩
    obtain ⟨start, stop⟩ := span
    cases hstart
    cases hstop
    exact slice?_append before piece after

theorem IsBoundary.le_byteWidth {offset : Nat} (hoffset : IsBoundary text offset) :
    offset ≤ byteWidth text := by
  obtain ⟨before, after, rfl, rfl⟩ := hoffset
  simp

/-- A span within the text that begins and ends between characters, in this order. -/
structure Span.Cuts (text : List Char) (span : Span) : Prop where
  start_le_stop : span.start ≤ span.stop
  stop_le_width : span.stop ≤ byteWidth text
  start_boundary : IsBoundary text span.start
  stop_boundary : IsBoundary text span.stop

namespace Span

theorem Cuts.of_boundaries {span : Span} (hstart : IsBoundary text span.start)
    (hstop : IsBoundary text span.stop) (horder : span.start ≤ span.stop) : span.Cuts text :=
  ⟨horder, hstop.le_byteWidth, hstart, hstop⟩

theorem cuts_empty {offset : Nat} (hoffset : IsBoundary text offset) :
    (Span.empty offset).Cuts text :=
  .of_boundaries hoffset hoffset (le_refl offset)

theorem Cuts.union {left right : Span} (hleft : left.Cuts text) (hright : right.Cuts text) :
    (left.union right).Cuts text := by
  rw [Span.union]
  apply Cuts.of_boundaries
  · rcases min_choice left.start right.start with hmin | hmin
    · simpa only [hmin] using hleft.start_boundary
    · simpa only [hmin] using hright.start_boundary
  · rcases max_choice left.stop right.stop with hmax | hmax
    · simpa only [hmax] using hleft.stop_boundary
    · simpa only [hmax] using hright.stop_boundary
  · have horder := hleft.start_le_stop
    dsimp only
    omega

/-- A span cuts the text exactly if there is a slice under it. -/
theorem cuts_iff {span : Span} : span.Cuts text ↔ ∃ piece, slice? text span = some piece := by
  constructor
  · rintro ⟨horder, _, ⟨before, rest, rfl, hstart⟩, ⟨front, after, hsplit, hstop⟩⟩
    -- The later boundary lies behind the earlier one, or both are the same.
    rcases List.append_eq_append_iff.mp hsplit with ⟨piece, rfl, rfl⟩ | ⟨piece, rfl, rfl⟩
    · refine ⟨piece, slice?_eq_some_iff.mpr ⟨before, after, rfl, hstart, ?_⟩⟩
      rw [← hstop, byteWidth_append]
    · have hnone : piece = [] := by
        by_contra hne
        have hpos := byteWidth_pos hne
        rw [byteWidth_append] at hstart
        omega
      subst hnone
      simp only [List.append_nil] at hstart ⊢
      exact ⟨[], slice?_eq_some_iff.mpr ⟨front, rest, rfl, hstart, by simp [hstop]⟩⟩
  · rintro ⟨piece, hslice⟩
    obtain ⟨before, after, rfl, hstart, hstop⟩ := slice?_eq_some_iff.mp hslice
    refine .of_boundaries ⟨before, _, rfl, hstart⟩ ⟨before ++ piece, after, by simp, ?_⟩ (by omega)
    rw [byteWidth_append, hstop]

/-- Where a span cuts the text, its text is the slice itself and no substitute. -/
theorem Cuts.slice?_eq {span : Span} (hcuts : span.Cuts text) :
    slice? text span = some (sliceText text span).toList := by
  obtain ⟨piece, hslice⟩ := cuts_iff.mp hcuts
  rw [sliceText, hslice, Option.getD_some, String.toList_ofList]

end Span

theorem cuts_of_mem_tokenize {placed : PlacedToken} (hplaced : placed ∈ tokenize source) :
    placed.span.Cuts source := by
  obtain ⟨_, _, text, hslice, _⟩ := tokenize_token hplaced
  exact Span.cuts_iff.mpr ⟨text, hslice⟩

section Readers

variable {tokens : List PlacedToken}

theorem extendName_cuts {span : Span} (htokens : tokens ⊆ tokenize source)
    (hspan : span.Cuts source) : (extendName span tokens).1.Cuts source := by
  fun_induction extendName span tokens with
  | case1 span dot next rest _ ih =>
      obtain ⟨_, hrest⟩ := List.cons_subset.mp htokens
      obtain ⟨hnext, hrest⟩ := List.cons_subset.mp hrest
      exact ih hrest (hspan.union (cuts_of_mem_tokenize hnext))
  | case2 => exact hspan
  | case3 => exact hspan

theorem extendRun_cuts {continues : Token → Bool} {span : Span}
    (htokens : tokens ⊆ tokenize source) (hspan : span.Cuts source) :
    (extendRun continues span tokens).1.Cuts source := by
  induction tokens generalizing span with
  | nil => exact hspan
  | cons placed rest ih =>
      obtain ⟨hplaced, hrest⟩ := List.cons_subset.mp htokens
      rw [extendRun]
      split
      · exact ih hrest (hspan.union (cuts_of_mem_tokenize hplaced))
      · exact hspan

theorem coveredSpan_cuts {offset : Nat} (htokens : tokens ⊆ tokenize source)
    (hoffset : IsBoundary source offset) : (coveredSpan offset tokens).Cuts source := by
  have hsolid : ∀ placed ∈ tokens.filter fun placed => !placed.token.isTrivia,
      placed.span.Cuts source :=
    fun placed hplaced => cuts_of_mem_tokenize (htokens (List.mem_of_mem_filter hplaced))
  rw [coveredSpan]
  split
  · rename_i first last hfirst hlast
    exact (hsolid first (List.mem_of_head? hfirst)).union
      (hsolid last (List.mem_of_getLast? hlast))
  · exact Span.cuts_empty hoffset

theorem startOffset_isBoundary (htokens : tokens ⊆ tokenize source) :
    IsBoundary source (startOffset source tokens) := by
  cases tokens with
  | nil => exact ⟨source, [], by simp, rfl⟩
  | cons placed rest =>
      exact (cuts_of_mem_tokenize (htokens List.mem_cons_self)).start_boundary

/-- What is taken from the input is its first token. -/
theorem Reader.expect_eq_ok {expected : Expected} {accept : PlacedToken → Option α} {a : α}
    {rest : List PlacedToken} (hread : Reader.expect expected accept tokens = .ok (a, rest)) :
    ∃ placed, tokens = placed :: rest ∧ accept placed = some a := by
  cases tokens with
  | nil => cases hread
  | cons placed others =>
      rw [Reader.expect] at hread
      split at hread
      · rename_i found haccept
        cases hread
        exact ⟨placed, rfl, haccept⟩
      · cases hread

/-- A run of touching tokens behind a first one has its text in the source. -/
theorem restOfRun_slice {continues : Token → Bool} {first : PlacedToken} {name : Spanned String}
    {left : List PlacedToken} (htokens : first :: tokens ⊆ tokenize source)
    (hread : restOfRun source continues first.span tokens = .ok (name, left)) :
    slice? source name.span = some name.val.toList := by
  obtain ⟨hfirst, hrest⟩ := List.cons_subset.mp htokens
  cases hread
  exact (extendRun_cuts hrest (cuts_of_mem_tokenize hfirst)).slice?_eq

theorem qualifiedName_slice {name : Spanned String} {left : List PlacedToken}
    (htokens : tokens ⊆ tokenize source) (hread : qualifiedName source tokens = .ok (name, left)) :
    slice? source name.span = some name.val.toList := by
  obtain ⟨first, rest, hfirst, hname⟩ := Reader.bind_eq_ok hread
  obtain ⟨placed, rfl, haccept⟩ := Reader.expect_eq_ok hfirst
  have hspan : first.span = placed.span := by
    split at haccept <;> cases haccept
    rfl
  obtain ⟨hplaced, hrest⟩ := List.cons_subset.mp htokens
  cases hname
  rw [hspan]
  exact (extendName_cuts hrest (cuts_of_mem_tokenize hplaced)).slice?_eq

theorem serviceName_slice {name : Spanned String} {left : List PlacedToken}
    (htokens : tokens ⊆ tokenize source) (hread : serviceName source tokens = .ok (name, left)) :
    slice? source name.span = some name.val.toList := by
  obtain ⟨first, rest, hfirst, hname⟩ := Reader.bind_eq_ok hread
  obtain ⟨placed, rfl, haccept⟩ := Reader.expect_eq_ok hfirst
  obtain ⟨word, _, rfl⟩ := Option.map_eq_some_iff.mp haccept
  exact restOfRun_slice htokens hname

theorem routePath_slice {name : Spanned String} {left : List PlacedToken}
    (htokens : tokens ⊆ tokenize source) (hread : routePath source tokens = .ok (name, left)) :
    slice? source name.span = some name.val.toList := by
  obtain ⟨slash, rest, hslash, hname⟩ := Reader.bind_eq_ok hread
  obtain ⟨placed, rfl, haccept⟩ := Reader.expect_eq_ok hslash
  split at haccept
  · cases haccept
    exact restOfRun_slice htokens hname
  · cases haccept

theorem valueItem_slice {bare : String} {span : Span} {left : List PlacedToken}
    (htokens : tokens ⊆ tokenize source)
    (hread : valueItem source tokens = some (⟨.bare bare, span⟩, left)) :
    slice? source span = some bare.toList := by
  cases tokens with
  | nil => cases hread
  | cons placed rest =>
      obtain ⟨hplaced, hrest⟩ := List.cons_subset.mp htokens
      rw [valueItem] at hread
      split at hread
      · cases hread
      · split at hread
        · cases hread
        · cases hread
          refine (coveredSpan_cuts (List.cons_subset.mpr ⟨hplaced, ?_⟩)
            (cuts_of_mem_tokenize hplaced).start_boundary).slice?_eq
          exact List.Subset.trans (List.takeWhile_subset _) hrest

theorem skipped_slice (htokens : tokens ⊆ tokenize source) (left : List PlacedToken)
    (mismatch : Mismatch) :
    slice? source (Skipped.between source tokens left mismatch).span =
      some (Skipped.between source tokens left mismatch).text.toList := by
  refine (coveredSpan_cuts ?_ (startOffset_isBoundary htokens)).slice?_eq
  exact List.Subset.trans (List.take_subset _ _) htokens

end Readers

/-- The source has the lexemes of the row from byte `start` on. -/
structure Occurs (source : List Char) (start : Nat) (run : List Lexeme) : Prop where
  lexed : Lexed run
  located : ∃ left, Located source start (run ++ left)

theorem occurs_lexemes (source : List Char) : Occurs source 0 (lexemes source) :=
  ⟨fun _ => standsBefore_of_mem_lexemes, [], by simpa using located_lexemes source⟩

namespace Occurs

variable {start : Nat} {run : List Lexeme}

theorem piece {middle : List Lexeme} (hrun : Occurs source start run) (before after : List Lexeme)
    (hsplit : run = before ++ (middle ++ after)) :
    Occurs source (start + widthOf before) middle := by
  subst hsplit
  obtain ⟨left, hleft⟩ := hrun.located
  refine ⟨hrun.lexed.piece, after ++ left, ?_⟩
  rw [List.append_assoc, List.append_assoc] at hleft
  exact hleft.right

/-- The beginning of a row stands where the row stands. -/
theorem front {middle : List Lexeme} (hrun : Occurs source start run) (after : List Lexeme)
    (hsplit : run = middle ++ after) : Occurs source start middle := by
  have hpiece := hrun.piece [] after hsplit
  rwa [widthOf_nil, Nat.add_zero] at hpiece

theorem slice?_eq (hrun : Occurs source start run) :
    slice? source (spanAt start run) = some (textOf run) := by
  obtain ⟨left, before, rfl, rfl⟩ := hrun.located
  rw [textOf_append, spanAt, widthOf]
  exact slice?_append before (textOf run) (textOf left)

theorem cuts (hrun : Occurs source start run) : (spanAt start run).Cuts source :=
  Span.cuts_iff.mpr ⟨_, hrun.slice?_eq⟩

theorem cuts_reaching {span : Span} (hrun : Occurs source start run)
    (hreaches : Reaches start run span) : span.Cuts source := by
  obtain ⟨core, trail, hsplit, _, _, rfl⟩ := hreaches
  exact (hrun.front trail hsplit).cuts

theorem textOf_ne_nil (hrun : Occurs source start run) (hne : run ≠ []) : textOf run ≠ [] := by
  obtain ⟨lexeme, others, rfl⟩ := List.exists_cons_of_ne_nil hne
  obtain ⟨_, hstands⟩ := hrun.lexed lexeme List.mem_cons_self
  simp [hstands.text_ne_nil]

end Occurs

theorem StandsBefore.text_eq {lexeme : Lexeme} {rest written : List Char}
    (hstands : StandsBefore lexeme rest) (hwritten : lexeme.token.written? = some written) :
    lexeme.text = written := by
  rcases hstands.writtenAs with hsame | ⟨hblank, _⟩
  · exact Option.some.inj (hsame.symm.trans hwritten)
  · rw [hblank] at hwritten
    cases hwritten

/-- A token that is written from its payload is written so in the source. -/
theorem Occurs.slice?_written {start : Nat} {lexeme : Lexeme} {written : List Char}
    (hrun : Occurs source start [lexeme]) (hwritten : lexeme.token.written? = some written) :
    slice? source (spanAt start [lexeme]) = some written := by
  obtain ⟨_, hstands⟩ := hrun.lexed lexeme List.mem_cons_self
  rw [hrun.slice?_eq, textOf_cons, textOf_nil, List.append_nil, hstands.text_eq hwritten]

section Pieces

variable {Item : Nat → List Lexeme → α → Prop} {skip : Skipped → α} {start : Nat}
  {run : List Lexeme}

/-- What holds of entries that occur in the source holds of all entries of a row that
occurs there. -/
theorem SpellsEntries.forall_occurs {entries : List α}
    (hentries : SpellsEntries Item skip start run entries) (hrun : Occurs source start run)
    (P : α → Prop)
    (hentry : ∀ start piece entry, Occurs source start piece →
      EntryAt Item skip start piece entry → P entry) : ∀ entry ∈ entries, P entry := by
  induction hentries using SpellsEntries.entryInduction with
  | nil => simp
  | @cons start gap run rest entry entries _ hfirst _ ih =>
      refine List.forall_mem_cons.mpr ⟨?_, ih ?_⟩
      · exact hentry _ run entry (hrun.piece gap rest rfl) hfirst
      · exact hrun.piece (gap ++ run) [] (by simp)

theorem SpellsBlock.forall_occurs {opening closing : Punct} {block : Block α}
    (hblock : SpellsBlock Item skip opening closing start run block)
    (hrun : Occurs source start run) (P : α → Prop)
    (hentry : ∀ start piece entry, Occurs source start piece →
      EntryAt Item skip start piece entry → P entry) : ∀ entry ∈ block.entries, P entry := by
  cases hblock with
  | @closed opener close run _ _ hentries _ =>
      exact hentries.forall_occurs (hrun.piece [opener] [close] rfl) P hentry
  | @unclosed opener run _ _ hentries =>
      exact hentries.forall_occurs (hrun.piece [opener] [] (by simp)) P hentry

theorem SpellsListed.forall_occurs {items : List α} (hlisted : SpellsListed Item start run items)
    (hrun : Occurs source start run) (P : α → Prop)
    (hitem : ∀ start piece item, Occurs source start piece → Item start piece item → P item) :
    ∀ item ∈ items, P item := by
  induction hlisted with
  | close => simp
  | @item start gap run rest first others _ hfirst _ ih =>
      refine List.forall_mem_cons.mpr ⟨?_, ih ?_⟩
      · exact hitem _ run first (hrun.piece gap rest rfl) hfirst
      · exact hrun.piece (gap ++ run) [] (by simp)

theorem SpellsItems.forall_occurs {items : List (Spanned ValueItem)}
    (hitems : SpellsItems start run items) (hrun : Occurs source start run)
    (P : Spanned ValueItem → Prop)
    (hitem : ∀ start piece item, Occurs source start piece → SpellsItem start piece item →
      P item) : ∀ item ∈ items, P item := by
  induction hitems with
  | nil => simp
  | @last start gap run trail item _ hlast _ =>
      exact List.forall_mem_singleton.mpr (hitem _ run item (hrun.piece gap trail rfl) hlast)
  | @more start gap run trail others comma item items _ hfirst _ _ _ ih =>
      refine List.forall_mem_cons.mpr ⟨?_, ih ?_⟩
      · exact hitem _ run item (hrun.piece gap (trail ++ comma :: others) rfl) hfirst
      · exact hrun.piece (gap ++ (run ++ (trail ++ [comma]))) [] (by simp)

theorem SpellsAnnotations.forall_occurs {notes : List Annotation}
    (hnotes : SpellsAnnotations start run notes) (hrun : Occurs source start run)
    (P : Annotation → Prop)
    (hnote : ∀ start piece note, Occurs source start piece → SpellsAnnotation start piece note →
      P note) : ∀ note ∈ notes, P note := by
  induction hnotes with
  | nil => simp
  | @cons start run gap rest note notes hfirst _ _ ih =>
      refine List.forall_mem_cons.mpr ⟨?_, ih ?_⟩
      · exact hnote _ run note (hrun.front (gap ++ rest) rfl) hfirst
      · exact hrun.piece (run ++ gap) [] (by simp)

end Pieces

end ApiLang
