/-
Tokens tile the source.  Every byte belongs to exactly one token, a token is
spelled by the bytes it covers, and those bytes alone are read as that token
again.
-/
import ApiLang.Proofs.Token.Lexemes

namespace ApiLang

/-- Tokens that cover the bytes from `start` up to `stop` without gap or overlap,
none of them empty. -/
def Tiles (start stop : Nat) : List PlacedToken → Prop
  | [] => start = stop
  | placed :: rest =>
      placed.span.start = start ∧ start < placed.span.stop ∧ Tiles placed.span.stop stop rest

/-- How a token is written: from its payload, or as any blanks of one line for
white space. -/
def Token.WrittenAs (token : Token) (text : List Char) : Prop :=
  token.written? = some text ∨
    token = .whitespace ∧ text ≠ [] ∧ ∀ c ∈ text, isBlank c = true ∧ c ≠ '\n'

theorem Token.written?_ofWord (word : String) :
    (Token.ofWord word).written? = some word.toList := by
  unfold Token.ofWord
  split
  · rename_i reserved hfound
    have htext : reserved.text = word := by simpa using List.find?_some hfound
    rw [Token.written?, htext]
  · rfl

theorem StandsBefore.writtenAs {lexeme : Lexeme} {rest : List Char}
    (hstands : StandsBefore lexeme rest) : lexeme.token.WrittenAs lexeme.text := by
  cases hstands with
  | @whitespace first others _ hfirst hothers _ =>
      refine .inr ⟨rfl, List.cons_ne_nil first others, ?_⟩
      intro c hc
      have hblank : isInlineBlank c = true := by
        rcases List.mem_cons.mp hc with rfl | hc
        · exact hfirst
        · exact hothers c hc
      simpa [isInlineBlank] using hblank
  | word => exact .inl ((Token.written?_ofWord _).trans (by rw [String.toList_ofList]))
  | newline | lineComment | blockComment | openComment | string | openString | rawString
  | openRawString | number | punct | stray => exact .inl (by simp [Token.written?])

theorem placeLexemes_tiles (start : Nat) (run : List Lexeme)
    (hrun : ∀ lexeme ∈ run, lexeme.text ≠ []) :
    Tiles start (start + byteWidth (textOf run)) (placeLexemes start run) := by
  induction run generalizing start with
  | nil => simp [placeLexemes, Tiles]
  | cons lexeme others ih =>
      have hwidth := byteWidth_pos (hrun lexeme List.mem_cons_self)
      have htail := ih (start + byteWidth lexeme.text)
        fun other hother => hrun other (List.mem_cons_of_mem lexeme hother)
      refine ⟨rfl, Nat.lt_add_of_pos_right hwidth, ?_⟩
      simpa [Nat.add_assoc] using htail

/-- A placed token stands for a lexeme with all text before and behind it. -/
theorem mem_placeLexemes {start : Nat} {run : List Lexeme} {placed : PlacedToken}
    (hplaced : placed ∈ placeLexemes start run) :
    ∃ earlier lexeme later, run = earlier ++ lexeme :: later ∧ placed.token = lexeme.token ∧
      placed.span = ⟨start + byteWidth (textOf earlier),
        start + byteWidth (textOf earlier) + byteWidth lexeme.text⟩ := by
  induction run generalizing start with
  | nil => simp [placeLexemes] at hplaced
  | cons first others ih =>
      rw [placeLexemes, List.mem_cons] at hplaced
      rcases hplaced with rfl | hplaced
      · exact ⟨[], first, others, rfl, rfl, by simp⟩
      · obtain ⟨earlier, lexeme, later, rfl, htoken, hspan⟩ := ih hplaced
        refine ⟨first :: earlier, lexeme, later, rfl, htoken, ?_⟩
        rw [hspan]
        simp [Nat.add_assoc]

theorem slice?_placeLexemes (before : List Char) (run : List Lexeme) :
    (placeLexemes (byteWidth before) run).map
      (fun placed => (slice? (before ++ textOf run) placed.span).getD []) =
      run.map Lexeme.text := by
  induction run generalizing before with
  | nil => rfl
  | cons lexeme others ih =>
      have htail := ih (before ++ lexeme.text)
      rw [List.append_assoc, byteWidth_append] at htail
      simp only [placeLexemes, textOf_cons, List.map_cons, List.cons.injEq]
      exact ⟨by rw [slice?_append]; rfl, htail⟩

/-- Facts about one token of a source: where it is cut, how it is written, and
that its own text is read as it again. -/
theorem tokenize_token {source : List Char} {placed : PlacedToken}
    (hplaced : placed ∈ tokenize source) :
    IsBoundary source placed.span.start ∧ IsBoundary source placed.span.stop ∧
      ∃ text, slice? source placed.span = some text ∧ placed.token.WrittenAs text ∧
        tokenize text = [⟨placed.token, ⟨0, byteWidth text⟩⟩] := by
  obtain ⟨earlier, lexeme, later, hsplit, htoken, hspan⟩ := mem_placeLexemes hplaced
  rw [Nat.zero_add] at hspan
  have hsource : source = textOf earlier ++ (lexeme.text ++ textOf later) := by
    rw [← textOf_lexemes source, hsplit, textOf_append, textOf_cons]
  have hmem : lexeme ∈ lexemes source := by
    rw [hsplit]
    simp
  obtain ⟨rest, hstands⟩ := standsBefore_of_mem_lexemes hmem
  rw [htoken, hspan]
  refine ⟨⟨_, _, hsource, rfl⟩, ⟨textOf earlier ++ lexeme.text, textOf later, ?_, ?_⟩,
    lexeme.text, ?_, hstands.writtenAs, ?_⟩
  · rw [hsource, List.append_assoc]
  · rw [byteWidth_append]
  · rw [hsource, slice?_append]
  · have hread := lexemes_of_standsBefore hstands.alone
    rw [List.append_nil] at hread
    simp [tokenize, hread, lexemes, placeLexemes]

theorem tokenize_tiles (source : List Char) :
    Tiles 0 (byteWidth source) (tokenize source) := by
  have hrun : ∀ lexeme ∈ lexemes source, lexeme.text ≠ [] := by
    intro lexeme hmem
    obtain ⟨rest, hstands⟩ := standsBefore_of_mem_lexemes hmem
    exact hstands.text_ne_nil
  simpa [tokenize] using placeLexemes_tiles 0 (lexemes source) hrun

/-- Reading tokens is lossless and faithful.  The tokens tile the source, every
token is cut at characters and written as its bytes say, its bytes alone are read
as that one token, and the bytes of all tokens in a row are the source. -/
theorem tokenize_lossless (source : List Char) :
    Tiles 0 (byteWidth source) (tokenize source) ∧
      (∀ placed ∈ tokenize source,
        IsBoundary source placed.span.start ∧ IsBoundary source placed.span.stop ∧
          ∃ text, slice? source placed.span = some text ∧ placed.token.WrittenAs text ∧
            tokenize text = [⟨placed.token, ⟨0, byteWidth text⟩⟩]) ∧
      (tokenize source).flatMap (fun placed => (slice? source placed.span).getD []) = source := by
  refine ⟨tokenize_tiles source, fun placed hplaced => tokenize_token hplaced, ?_⟩
  have hslices := slice?_placeLexemes [] (lexemes source)
  rw [textOf_lexemes, List.nil_append] at hslices
  rw [List.flatMap_def, tokenize]
  exact (congrArg List.flatten hslices).trans (textOf_lexemes source)

end ApiLang
