/-
Lists of items: entries up to a closing parenthesis, and the entries of a body
with recovery.  A line of a body that fits no rule is skipped and kept, and a
body whose closing mark is missing ends where the next declaration starts.
-/
import ApiLang.Tree.Reader

namespace ApiLang

variable {α : Type}

def dropTrivia (tokens : List PlacedToken) : List PlacedToken :=
  tokens.dropWhile fun placed => placed.token.isTrivia

theorem dropTrivia_suffix (tokens : List PlacedToken) : dropTrivia tokens <:+ tokens :=
  List.dropWhile_suffix _

/-- Items up to the closing parenthesis, with trivia around them. -/
def untilRightParen (item : ItemReader α) (tokens : List PlacedToken) :
    Except Mismatch ((List α × Span) × List PlacedToken) :=
  match (dropTrivia tokens).head?.filter fun placed => placed.token.isPunct .rightParen with
  | some close => .ok (([], close.span), (dropTrivia tokens).tail)
  | none =>
    match _read : item.read (dropTrivia tokens) with
    | .error mismatch => .error mismatch
    | .ok (first, rest) =>
      match untilRightParen item rest with
      | .error mismatch => .error mismatch
      | .ok ((others, close), left) => .ok ((first :: others, close), left)
termination_by tokens.length
decreasing_by
  have shorter := item.advances _ _ _ _read
  have within := (dropTrivia_suffix tokens).length_le
  omega

theorem untilRightParen_keeps (item : ItemReader α) :
    Reader.Keeps (untilRightParen item) := by
  intro tokens
  fun_induction untilRightParen item tokens with
  | case1 tokens close _ =>
    constructor
    · rintro _ _ ⟨⟩
      exact (List.tail_suffix _).trans (dropTrivia_suffix tokens)
    · rintro _ ⟨⟩
  | case2 tokens _ mismatch read =>
    constructor
    · rintro _ _ ⟨⟩
    · rintro _ ⟨⟩
      exact ((item.keeps _).2 _ read).trans (dropTrivia_suffix tokens)
  | case3 tokens _ first rest read mismatch inner ih =>
    have suffix := ((item.keeps _).1 _ _ read).trans (dropTrivia_suffix tokens)
    constructor
    · rintro _ _ ⟨⟩
    · rintro _ ⟨⟩
      exact (ih.2 _ inner).trans suffix
  | case4 tokens _ first rest read others close left inner ih =>
    have suffix := ((item.keeps _).1 _ _ read).trans (dropTrivia_suffix tokens)
    constructor
    · rintro _ _ ⟨⟩
      exact (ih.1 _ _ inner).trans suffix
    · rintro _ ⟨⟩

/-- Drops tokens through the next line break, stopping before `closer`. -/
def dropLine (closer : Punct) : List PlacedToken → List PlacedToken
  | [] => []
  | placed :: rest =>
    if placed.token.isPunct closer then placed :: rest
    else if placed.token = .newline then rest
    else dropLine closer rest

theorem dropLine_suffix (closer : Punct) (tokens : List PlacedToken) :
    dropLine closer tokens <:+ tokens := by
  induction tokens with
  | nil => exact List.suffix_refl _
  | cons placed rest ih =>
    unfold dropLine
    split
    · exact List.suffix_refl _
    · split
      · exact List.suffix_cons _ _
      · exact ih.trans (List.suffix_cons _ _)

/-- Drops tokens up to the next one that may open a declaration. -/
def dropToDeclaration (tokens : List PlacedToken) : List PlacedToken :=
  tokens.dropWhile fun placed => !opensDeclaration placed.token

/-- Where recovery starts after a step that began at `start` failed at `stuck`:
at the offending token, or behind it if it was the first one, so that recovery
never stands still. -/
def resumeAfter (start stuck : List PlacedToken) : List PlacedToken :=
  if stuck.length = start.length then stuck.tail else stuck

theorem resumeAfter_suffix (start stuck : List PlacedToken) (within : stuck <:+ start) :
    resumeAfter start stuck <:+ start := by
  unfold resumeAfter
  split
  · exact (List.tail_suffix _).trans within
  · exact within

theorem resumeAfter_length_lt (start stuck : List PlacedToken) (nonempty : start ≠ [])
    (within : stuck <:+ start) : (resumeAfter start stuck).length < start.length := by
  have positive := List.length_pos_iff.mpr nonempty
  have bound := within.length_le
  unfold resumeAfter
  split
  · simp only [List.length_tail]
    omega
  · omega

/-- The input from `start` up to `left`, skipped because of a mismatch. -/
def Skipped.between (source : List Char) (start left : List PlacedToken) (mismatch : Mismatch) :
    Skipped :=
  let tokens := start.take (start.length - left.length)
  let span := coveredSpan (startOffset source start) tokens
  { text := sliceText source span
    span
    expected := mismatch.expected
    found := mismatch.rest.head? }

/-- How the entries of a body are read: the mark that closes it, where it ends
without that mark, one entry, and what becomes of a skipped line. -/
structure BodyRules (α : Type) where
  closer : Punct
  stops : List PlacedToken → Bool
  entry : ItemReader α
  skipped : Skipped → α

/-- The entries of a body, the closing mark if there is one, and the input behind
the body. -/
def bodyEntries (source : List Char) (rules : BodyRules α) (tokens : List PlacedToken) :
    List α × Option Span × List PlacedToken :=
  match _trivia : dropTrivia tokens with
  | [] => ([], none, [])
  | placed :: rest =>
    if placed.token.isPunct rules.closer then ([], some placed.span, rest)
    else if rules.stops (placed :: rest) then ([], none, placed :: rest)
    else
      match _read : rules.entry.read (placed :: rest) with
      | .ok (entry, left) =>
        let (entries, close, behind) := bodyEntries source rules left
        (entry :: entries, close, behind)
      | .error mismatch =>
        let left := dropLine rules.closer (resumeAfter (placed :: rest) mismatch.rest)
        let (entries, close, behind) := bodyEntries source rules left
        (rules.skipped (.between source (placed :: rest) left mismatch) :: entries, close, behind)
termination_by tokens.length
decreasing_by
  · have shorter := rules.entry.advances _ _ _ _read
    have within := (dropTrivia_suffix tokens).length_le
    rw [_trivia] at within
    omega
  · have shorter := resumeAfter_length_lt (placed :: rest) mismatch.rest (by simp)
      ((rules.entry.keeps _).2 _ _read)
    have dropped :=
      (dropLine_suffix rules.closer (resumeAfter (placed :: rest) mismatch.rest)).length_le
    have within := (dropTrivia_suffix tokens).length_le
    rw [_trivia] at within
    omega

theorem bodyEntries_suffix (source : List Char) (rules : BodyRules α)
    (tokens : List PlacedToken) : (bodyEntries source rules tokens).2.2 <:+ tokens := by
  fun_induction bodyEntries source rules tokens with
  | case1 tokens trivia => exact List.nil_suffix
  | case2 tokens placed rest trivia _ =>
    exact (List.suffix_cons placed rest).trans (trivia ▸ dropTrivia_suffix tokens)
  | case3 tokens placed rest trivia _ _ => exact trivia ▸ dropTrivia_suffix tokens
  | case4 tokens placed rest trivia _ _ entry left read entries close behind inner ih =>
    simp only [inner] at ih
    exact (ih.trans ((rules.entry.keeps _).1 _ _ read)).trans
      (trivia ▸ dropTrivia_suffix tokens)
  | case5 tokens placed rest trivia _ _ mismatch read left entries close behind inner ih =>
    simp only [inner] at ih
    have resumed := resumeAfter_suffix _ _ ((rules.entry.keeps _).2 _ read)
    exact ((ih.trans (dropLine_suffix _ _)).trans resumed).trans
      (trivia ▸ dropTrivia_suffix tokens)

/-- A body behind its opening mark.  Reading one never fails. -/
def body (source : List Char) (rules : BodyRules α) (opener : Span) : Reader (Block α) :=
  fun tokens =>
    let (entries, closer, left) := bodyEntries source rules tokens
    .ok ({ opener, entries, closer }, left)

theorem body_keeps (source : List Char) (rules : BodyRules α) (opener : Span) :
    (body source rules opener).Keeps := by
  intro tokens
  constructor
  · rintro _ _ ⟨⟩
    exact bodyEntries_suffix source rules tokens
  · rintro _ ⟨⟩

end ApiLang
