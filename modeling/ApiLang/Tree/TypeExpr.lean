/-
Reading type names and types.  Types are written without blanks inside, and a
qualified name is a run of tokens that touch.
-/
import ApiLang.Tree.Reader

namespace ApiLang

/-- Whether the token stands directly behind the span. -/
def PlacedToken.follows (placed : PlacedToken) (span : Span) : Bool :=
  placed.span.start == span.stop

def isIdentifier : Token → Bool
  | .identifier _ => true
  | _ => false

/-- Extends a name by `.name` as long as dot and name follow without a gap. -/
def extendName (span : Span) : List PlacedToken → Span × List PlacedToken
  | dot :: next :: rest =>
    if dot.token.isPunct .dot && dot.follows span && isIdentifier next.token &&
        next.follows dot.span then
      extendName (span.union next.span) rest
    else (span, dot :: next :: rest)
  | rest => (span, rest)

theorem extendName_suffix (span : Span) (tokens : List PlacedToken) :
    (extendName span tokens).2 <:+ tokens := by
  fun_induction extendName span tokens with
  | case1 span dot next rest _ ih =>
    exact ih.trans ((List.suffix_cons next rest).trans (List.suffix_cons dot _))
  | case2 => exact List.suffix_refl _
  | case3 => exact List.suffix_refl _

/-- The whole of a qualified name whose first part was read. -/
def restOfName (source : List Char) (first : Span) : Reader (Spanned String) := fun tokens =>
  let (span, left) := extendName first tokens
  .ok (⟨sliceText source span, span⟩, left)

theorem restOfName_keeps (source : List Char) (first : Span) :
    (restOfName source first).Keeps := by
  intro tokens
  constructor
  · rintro _ _ ⟨⟩
    exact extendName_suffix first tokens
  · rintro _ ⟨⟩

/-- `Name` or `pkg.Name`. -/
def qualifiedName (source : List Char) : Reader (Spanned String) := do
  let first ← Reader.identifier .typeName
  restOfName source first.span

theorem qualifiedName_keeps (source : List Char) : (qualifiedName source).Keeps :=
  Reader.bind_keeps (Reader.expect_keeps _ _) fun _ => restOfName_keeps source _

theorem qualifiedName_advances (source : List Char) : (qualifiedName source).Advances :=
  Reader.bind_advances_of_first (Reader.expect_advances _ _) fun _ => restOfName_keeps source _

/-- What stands in the brackets of a slice or array type, and the closing
bracket. -/
def bracketedSize : Reader (Option (Spanned String)) := do
  let size ← Reader.optional fun placed =>
    match placed.token with
    | .number digits => some ⟨digits, placed.span⟩
    | _ => none
  let _ ← Reader.punct .rightBracket .rightBracket
  pure size

theorem bracketedSize_keeps : bracketedSize.Keeps :=
  Reader.bind_keeps (Reader.optional_keeps _) fun _ =>
    Reader.bind_keeps (Reader.expect_keeps _ _) fun _ => Reader.pure_keeps _

/-- The empty braces behind the word `interface`; the span is that of the closing
one. -/
def emptyBraces : Reader Span := do
  let _ ← Reader.punct .leftBrace .leftBrace
  Reader.skipInline
  Reader.punct .rightBrace .rightBrace

theorem emptyBraces_keeps : emptyBraces.Keeps :=
  Reader.bind_keeps (Reader.expect_keeps _ _) fun _ =>
    Reader.bind_keeps Reader.skipInline_keeps fun _ => Reader.expect_keeps _ _

/-- What is left of the input once a token is taken. -/
abbrev ProperRest (tokens : List PlacedToken) : Type :=
  { rest : List PlacedToken // rest.length < tokens.length }

/-- Behind the key of a map and its bracket less is left than before them. -/
theorem behindKey_length_le {rest afterKey behind : List PlacedToken} {close : Span}
    (shorter : afterKey.length < rest.tail.length)
    (read : Reader.punct .rightBracket .rightBracket afterKey = .ok (close, behind)) :
    behind.length ≤ rest.length := by
  have := Reader.expect_advances _ _ _ _ _ read
  have := (List.tail_suffix rest).length_le
  omega

/-- One type.  The words `map` and `interface` are names like any other unless
their bracket or brace follows at once. -/
def readType (source : List Char) (tokens : List PlacedToken) :
    Except Mismatch (TypeExpr × ProperRest tokens) :=
  match tokens with
  | [] => .error ⟨.typeExpr, []⟩
  | placed :: rest =>
    match placed.token with
    | .punct .star =>
      match readType source rest with
      | .error mismatch => .error mismatch
      | .ok (inner, ⟨left, shorter⟩) =>
        .ok (.pointer inner (placed.span.union inner.span), ⟨left, Nat.lt_succ_of_lt shorter⟩)
    | .punct .leftBracket =>
      match _size : bracketedSize rest with
      | .error mismatch => .error mismatch
      | .ok (size, behind) =>
        have within := ((bracketedSize_keeps rest).1 _ _ _size).length_le
        match readType source behind with
        | .error mismatch => .error mismatch
        | .ok (element, ⟨left, shorter⟩) =>
          .ok (.slice size element (placed.span.union element.span),
            ⟨left, Nat.lt_succ_of_lt (Nat.lt_of_lt_of_le shorter within)⟩)
    | .identifier name =>
      if name = "map" ∧ atPunct .leftBracket rest.head? then
        match readType source rest.tail with
        | .error mismatch => .error mismatch
        | .ok (key, ⟨afterKey, keyShorter⟩) =>
          match _close : Reader.punct .rightBracket .rightBracket afterKey with
          | .error mismatch => .error mismatch
          | .ok (_, behind) =>
            have within := behindKey_length_le keyShorter _close
            match readType source behind with
            | .error mismatch => .error mismatch
            | .ok (value, ⟨left, shorter⟩) =>
              .ok (.map key value (placed.span.union value.span),
                ⟨left, Nat.lt_succ_of_lt (Nat.lt_of_lt_of_le shorter within)⟩)
      else if name = "interface" ∧ atPunct .leftBrace rest.head? then
        match _braces : emptyBraces rest with
        | .error mismatch => .error mismatch
        | .ok (close, left) =>
          .ok (.interface (placed.span.union close),
            ⟨left, Nat.lt_succ_of_le ((emptyBraces_keeps rest).1 _ _ _braces).length_le⟩)
      else
        match _name : qualifiedName source (placed :: rest) with
        | .error mismatch => .error mismatch
        | .ok (name, left) => .ok (.named name, ⟨left, qualifiedName_advances source _ _ _ _name⟩)
    | _ => .error ⟨.typeExpr, placed :: rest⟩
termination_by tokens.length
decreasing_by
  · simp
  · simp only [List.length_cons]
    omega
  · simp only [List.length_cons, List.length_tail]
    omega
  · simp only [List.length_cons]
    omega

/-- One type, as a step. -/
def typeExpr (source : List Char) : Reader TypeExpr := fun tokens =>
  match readType source tokens with
  | .error mismatch => .error mismatch
  | .ok (type, left) => .ok (type, left.val)

theorem typeExpr_advances (source : List Char) : (typeExpr source).Advances := by
  intro tokens type rest
  unfold typeExpr
  split
  · rintro ⟨⟩
  · rename_i left _
    rintro ⟨⟩
    exact left.property

/-- The outcome leaves a rest of the input, whether it is a type or not. -/
def LeavesRest (tokens : List PlacedToken) :
    Except Mismatch (TypeExpr × ProperRest tokens) → Prop
  | .ok (_, left) => left.val <:+ tokens
  | .error mismatch => mismatch.rest <:+ tokens

theorem readType_leavesRest (source : List Char) (tokens : List PlacedToken) :
    LeavesRest tokens (readType source tokens) := by
  fun_induction readType source tokens with
  | case1 => exact List.suffix_refl _
  | case2 placed rest _ mismatch read ih =>
    rw [read] at ih
    exact List.IsSuffix.trans ih (List.suffix_cons placed rest)
  | case3 placed rest _ inner left shorter read ih =>
    rw [read] at ih
    exact List.IsSuffix.trans ih (List.suffix_cons placed rest)
  | case4 placed rest _ mismatch size =>
    exact ((bracketedSize_keeps rest).2 _ size).trans (List.suffix_cons placed rest)
  | case5 placed rest _ size behind sized _ mismatch read ih =>
    rw [read] at ih
    exact List.IsSuffix.trans ih
      (((bracketedSize_keeps rest).1 _ _ sized).trans (List.suffix_cons placed rest))
  | case6 placed rest _ size behind sized _ element left shorter read ih =>
    rw [read] at ih
    exact List.IsSuffix.trans ih
      (((bracketedSize_keeps rest).1 _ _ sized).trans (List.suffix_cons placed rest))
  | case7 placed rest name _ _ mismatch read ih =>
    rw [read] at ih
    exact List.IsSuffix.trans ih ((List.tail_suffix rest).trans (List.suffix_cons placed rest))
  | case8 placed rest name _ _ key afterKey _ read mismatch close ih =>
    rw [read] at ih
    exact ((Reader.expect_keeps _ _ afterKey).2 _ close).trans (List.IsSuffix.trans ih
      ((List.tail_suffix rest).trans (List.suffix_cons placed rest)))
  | case9 placed rest name _ _ key afterKey _ readKey _ behind close _ mismatch read ihKey ih =>
    rw [readKey] at ihKey
    rw [read] at ih
    exact List.IsSuffix.trans ih (((Reader.expect_keeps _ _ afterKey).1 _ _ close).trans
      (List.IsSuffix.trans ihKey ((List.tail_suffix rest).trans (List.suffix_cons placed rest))))
  | case10 placed rest name _ _ key afterKey _ readKey _ behind close _ value left _ read
      ihKey ih =>
    rw [readKey] at ihKey
    rw [read] at ih
    exact List.IsSuffix.trans ih (((Reader.expect_keeps _ _ afterKey).1 _ _ close).trans
      (List.IsSuffix.trans ihKey ((List.tail_suffix rest).trans (List.suffix_cons placed rest))))
  | case11 placed rest name _ _ _ mismatch braces =>
    exact ((emptyBraces_keeps rest).2 _ braces).trans (List.suffix_cons placed rest)
  | case12 placed rest name _ _ _ close left braces =>
    exact ((emptyBraces_keeps rest).1 _ _ braces).trans (List.suffix_cons placed rest)
  | case13 placed rest name _ _ _ mismatch read => exact (qualifiedName_keeps source _).2 _ read
  | case14 placed rest name _ _ _ found left read => exact (qualifiedName_keeps source _).1 _ _ read
  | case15 => exact List.suffix_refl _

theorem typeExpr_keeps (source : List Char) : (typeExpr source).Keeps := by
  intro tokens
  have leaves := readType_leavesRest source tokens
  unfold typeExpr
  split
  · rename_i read
    rw [read] at leaves
    constructor
    · rintro _ _ ⟨⟩
    · rintro _ ⟨⟩
      exact leaves
  · rename_i read
    rw [read] at leaves
    constructor
    · rintro _ _ ⟨⟩
      exact leaves
    · rintro _ ⟨⟩

end ApiLang
