/-
Lines and columns.  The position of an offset counts the line breaks before it and the
characters since the last of them, so that positions increase with the offsets between
characters.  An offset inside a character has no position of its own; none is ever
shown, because names and documents start between characters.
-/
import ApiLang.Proofs.Document.Listing
import ApiLang.Proofs.Document.Locating

namespace ApiLang

/-- The text ends with `line`, which is all of it or what stands behind its last line
break. -/
structure EndsInLine (text line : List Char) : Prop where
  unbroken : '\n' ∉ line
  last : line = text ∨ ∃ earlier, text = earlier ++ '\n' :: line

/-- The order in which a reader meets positions: by lines, and by columns in a line. -/
def Position.Before (left right : Position) : Prop :=
  left.line < right.line ∨ left.line = right.line ∧ left.column < right.column

theorem Position.Before.ne {left right : Position} (hbefore : left.Before right) :
    left ≠ right := by
  rintro rfl
  rcases hbefore with hline | ⟨_, hcolumn⟩
  · exact Nat.lt_irrefl _ hline
  · exact Nat.lt_irrefl _ hcolumn

section Texts

variable {text : List Char}

theorem exists_endsInLine (text : List Char) : ∃ line, EndsInLine text line := by
  induction text using List.reverseRecOn with
  | nil => exact ⟨[], List.not_mem_nil, .inl rfl⟩
  | append_singleton text c ih =>
      obtain ⟨line, hunbroken, hlast⟩ := ih
      by_cases hbreak : c = '\n'
      · subst hbreak
        exact ⟨[], List.not_mem_nil, .inr ⟨text, rfl⟩⟩
      · refine ⟨line ++ [c], ?_, ?_⟩
        · simpa [hunbroken] using Ne.symm hbreak
        · rcases hlast with rfl | ⟨earlier, rfl⟩
          · exact .inl rfl
          · exact .inr ⟨earlier, List.append_assoc earlier ('\n' :: line) [c]⟩

theorem unbroken_reverse {line : List Char} (hunbroken : '\n' ∉ line) :
    ∀ c ∈ line.reverse, (c != '\n') = true := by
  intro c hc
  exact bne_iff_ne.mpr fun hsame => hunbroken (hsame ▸ List.mem_reverse.mp hc)

/-- The column behind a text is that behind its last line. -/
theorem EndsInLine.positionAfter_eq {line : List Char} (hline : EndsInLine text line) :
    positionAfter text = ⟨text.count '\n' + 1, line.length + 1⟩ := by
  have hkept := unbroken_reverse hline.unbroken
  have hlast : text.reverse.takeWhile (· != '\n') = line.reverse := by
    rcases hline.last with rfl | ⟨earlier, rfl⟩
    · exact List.takeWhile_eq_self_iff.mpr hkept
    · rw [List.reverse_append, List.reverse_cons, List.append_assoc,
        List.takeWhile_append_of_pos hkept]
      simp
  rw [positionAfter, hlast, List.length_reverse]

/-- Every text moves the position forward. -/
theorem positionAfter_before (before : List Char) {middle : List Char} (hne : middle ≠ []) :
    (positionAfter before).Before (positionAfter (before ++ middle)) := by
  unfold positionAfter Position.Before
  -- A line break adds a line, and a text without one makes the last line longer.
  by_cases hbreak : '\n' ∈ middle
  · left
    have hcount := List.count_pos_iff.mpr hbreak
    simp only [List.count_append]
    omega
  · right
    have hlast : (before ++ middle).reverse.takeWhile (· != '\n') =
        middle.reverse ++ before.reverse.takeWhile (· != '\n') := by
      rw [List.reverse_append, List.takeWhile_append_of_pos (unbroken_reverse hbreak)]
    have hlength := List.length_pos_iff.mpr hne
    refine ⟨?_, ?_⟩
    · simp only [List.count_append, List.count_eq_zero.mpr hbreak, Nat.add_zero]
    · simp only [hlast, List.length_append, List.length_reverse]
      omega

theorem positionAt_append (before after : List Char) :
    positionAt (before ++ after) (byteWidth before) = positionAfter before := by
  have hfits : min (byteWidth before) (byteWidth (before ++ after)) = byteWidth before := by
    simp
  rw [positionAt, hfits, takeBytes_append, Option.getD_some]

theorem positionAt_of_le {offset : Nat} (hoffset : byteWidth text ≤ offset) :
    positionAt text offset = positionAt text (byteWidth text) := by
  rw [positionAt, positionAt, Nat.min_eq_right hoffset, Nat.min_self]

/-- Offsets inside a character all have the position of the beginning. -/
theorem positionAt_of_not_isBoundary {offset : Nat} (hoffset : offset ≤ byteWidth text)
    (hinside : ¬ IsBoundary text offset) : positionAt text offset = ⟨1, 1⟩ := by
  have hnone : takeBytes text offset = none := by
    rw [Option.eq_none_iff_forall_ne_some]
    intro before hbefore
    obtain ⟨after, htext, hwidth⟩ := takeBytes_eq_some hbefore
    exact hinside ⟨before, after, htext, hwidth⟩
  rw [positionAt, Nat.min_eq_left hoffset, hnone]
  rfl

/-- Positions increase with the offsets between characters. -/
theorem positionAt_before {left right : Nat} (hleft : IsBoundary text left)
    (hright : IsBoundary text right) (hlt : left < right) :
    (positionAt text left).Before (positionAt text right) := by
  obtain ⟨before, after, rfl, rfl⟩ := hleft
  obtain ⟨front, rest, hsplit, rfl⟩ := hright
  rw [positionAt_append, hsplit, positionAt_append]
  -- The text before the later offset starts with the text before the earlier one.
  rcases List.append_eq_append_iff.mp hsplit with ⟨middle, rfl, -⟩ | ⟨middle, rfl, -⟩
  · refine positionAfter_before before fun hnone => ?_
    simp [hnone] at hlt
  · rw [byteWidth_append] at hlt
    omega

theorem positionAt_injective {left right : Nat} (hleft : IsBoundary text left)
    (hright : IsBoundary text right) (hsame : positionAt text left = positionAt text right) :
    left = right := by
  rcases Nat.lt_trichotomy left right with hlt | heq | hlt
  · exact absurd hsame (positionAt_before hleft hright hlt).ne
  · exact heq
  · exact absurd hsame.symm (positionAt_before hright hleft hlt).ne

end Texts

/-- The documents that a location found from `document` can name: the document itself,
and those that it can import. -/
def Document.Sees (document : Document) (loader : Loader) (target : Document) : Prop :=
  target = document ∨
    ∃ written, freshAnswer (importDocument loader document written) = .ok target

/-- The position is that of an offset between two characters of the document. -/
structure Document.PlacesAt (document : Document) (offset : Nat) (position : Position) : Prop where
  boundary : IsBoundary document.source.toList offset
  position_eq : position = document.position offset

section Documents

variable {source path : String}

theorem parse_symbol_placesAt {style : NamingStyle} {kind : Option SymbolKind} {symbol : Symbol}
    (hsymbol : symbol ∈ symbols style (Document.parse source path) kind) :
    (Document.parse source path).PlacesAt symbol.span.start symbol.position := by
  obtain ⟨node, hnode, hfound⟩ := exists_node_of_mem_symbols hsymbol
  obtain ⟨_, hspan, hposition, _⟩ := Node.symbol?_eq_some hfound
  refine ⟨?_, hposition⟩
  rw [hspan]
  exact (parse_standsIn source path node hnode).cuts_nameSpan.start_boundary

theorem Location.Shows.placesAt {location : Location} {target : Document} {word : String}
    (hshows : location.Shows target word) :
    target.PlacesAt location.span.start location.position :=
  ⟨(Span.cuts_iff.mpr ⟨_, hshows.text⟩).start_boundary, hshows.position⟩

theorem Document.LooksUp.sees {document target : Document} {loader : Loader} {name word : String}
    (hlooks : document.LooksUp loader name target word) : document.Sees loader target := by
  cases hlooks with
  | plain _ => exact .inl rfl
  | qualified _ _ himport => exact .inr ⟨_, himport⟩

/-- The beginning of a document is an offset between characters. -/
theorem Document.placesAt_beginning (document : Document) :
    document.PlacesAt 0 (document.position 0) :=
  ⟨⟨[], _, rfl, rfl⟩, rfl⟩

theorem parse_location_placesAt {loader : Loader} {offset : Nat} {location : Location}
    (hlocation : location ∈ locate? loader (Document.parse source path) offset) :
    ∃ target, (Document.parse source path).Sees loader target ∧ location.path = target.path ∧
      target.PlacesAt location.span.start location.position := by
  rw [locate?_eq] at hlocation
  obtain ⟨id, hfound, hlocation⟩ := Option.bind_eq_some_iff.mp hlocation
  obtain ⟨target, htarget, rfl⟩ := Option.map_eq_some_iff.mp hlocation
  obtain ⟨node, hget, hreference⟩ := Document.referenceAt?_eq_some hfound
  have hnode : ((Document.parse source path).get? id).map Node.kind = some node.kind := by
    rw [hget]
    rfl
  cases hkind : node.kind with
  | typeRef name role =>
      rw [hkind] at hnode
      obtain ⟨found, _, hlooks, hshows⟩ :=
        parse_location_use hnode (Resolution.target?_eq_some htarget)
      exact ⟨found, hlooks.sees, hshows.path, hshows.placesAt⟩
  | importPath written =>
      rw [hkind] at hnode
      rw [resolve_import hnode] at htarget
      split at htarget
      · cases htarget
      · cases himport : freshAnswer (importDocument loader _ written.val) with
        | ok imported =>
            rw [himport] at htarget
            cases htarget
            exact ⟨imported, .inr ⟨_, himport⟩, rfl, imported.placesAt_beginning⟩
        | error fault =>
            rw [himport] at htarget
            cases htarget
  | version | info | struct | field | embedded | service | route | handler | skipped =>
      simp [hkind, NodeKind.isReference] at hreference

end Documents

/-- The positions of a document with this source are exact: each tells its offset, and
those of symbols and of the locations found from it are positions between characters. -/
structure Document.PlacesExactly (document : Document) (source : List Char) : Prop where
  counted : ∀ before after, source = before ++ after →
    ∃ line, EndsInLine before line ∧
      document.position (byteWidth before) = ⟨before.count '\n' + 1, line.length + 1⟩
  increasing : ∀ left right, IsBoundary source left → IsBoundary source right → left < right →
    (document.position left).Before (document.position right)
  injective : ∀ left right, IsBoundary source left → IsBoundary source right →
    document.position left = document.position right → left = right
  beyond : ∀ offset, byteWidth source ≤ offset →
    document.position offset = document.position (byteWidth source)
  inside : ∀ offset ≤ byteWidth source, ¬ IsBoundary source offset →
    document.position offset = ⟨1, 1⟩
  symbols : ∀ style kind, ∀ symbol ∈ symbols style document kind,
    document.PlacesAt symbol.span.start symbol.position
  locations : ∀ loader offset, ∀ location ∈ locate? loader document offset,
    ∃ target, document.Sees loader target ∧ location.path = target.path ∧
      target.PlacesAt location.span.start location.position

/-- The positions of every parsed document are exact. -/
theorem parse_placesExactly (source path : String) :
    (Document.parse source path).PlacesExactly source.toList := by
  constructor
  · intro before after hsplit
    obtain ⟨line, hline⟩ := exists_endsInLine before
    have hposition : (Document.parse source path).position (byteWidth before) =
        positionAt source.toList (byteWidth before) := rfl
    refine ⟨line, hline, ?_⟩
    rw [hposition, hsplit, positionAt_append, hline.positionAfter_eq]
  · exact fun _ _ => positionAt_before
  · exact fun _ _ => positionAt_injective
  · exact fun _ => positionAt_of_le
  · exact fun _ => positionAt_of_not_isBoundary
  · exact fun _ _ _ => parse_symbol_placesAt
  · exact fun _ _ _ => parse_location_placesAt

end ApiLang
