/-
Reading annotations and the entries of key and value that they share with the
`info` block.
-/
import ApiLang.Tree.Block

namespace ApiLang

/-- Tokens that end a value: the end of the line, a comment to the end of the
line, a comma, and a closing parenthesis. -/
def endsValue (token : Token) : Bool :=
  endsLine token ||
    match token with
    | .lineComment _ => true
    | .punct mark => mark == .comma || mark == .rightParen
    | _ => false

def dropInline (tokens : List PlacedToken) : List PlacedToken :=
  tokens.dropWhile fun placed => placed.token.isInlineTrivia

theorem dropInline_suffix (tokens : List PlacedToken) : dropInline tokens <:+ tokens :=
  List.dropWhile_suffix _

/-- One item of a value: a string literal, or all tokens up to the end of the
value taken as written. -/
def valueItem (source : List Char) :
    List PlacedToken → Option (Spanned ValueItem × List PlacedToken)
  | [] => none
  | placed :: rest =>
    match placed.token with
    | .string text => some (⟨.quoted text, placed.span⟩, rest)
    | token =>
      if endsValue token then none
      else
        let inValue := fun (next : PlacedToken) => !endsValue next.token
        let run := placed :: rest.takeWhile inValue
        let span := coveredSpan placed.span.start run
        some (⟨.bare (sliceText source span), span⟩, rest.dropWhile inValue)

theorem valueItem_suffix {source : List Char} {placed : PlacedToken}
    {rest left : List PlacedToken} {item : Spanned ValueItem}
    (read : valueItem source (placed :: rest) = some (item, left)) : left <:+ rest := by
  simp only [valueItem] at read
  split at read
  · simp only [Option.some.injEq, Prod.mk.injEq] at read
    exact read.2 ▸ List.suffix_refl _
  · split at read
    · cases read
    · simp only [Option.some.injEq, Prod.mk.injEq] at read
      exact read.2 ▸ List.dropWhile_suffix _

/-- Items separated by commas, and the input behind them. -/
def valueItems (source : List Char) (tokens : List PlacedToken) :
    List (Spanned ValueItem) × List PlacedToken :=
  match _inline : dropInline tokens with
  | [] => ([], [])
  | placed :: rest =>
    match _read : valueItem source (placed :: rest) with
    | none => ([], placed :: rest)
    | some (item, left) =>
      match _next : dropInline left with
      | [] => ([item], [])
      | comma :: behind =>
        if comma.token.isPunct .comma then
          let (items, remaining) := valueItems source behind
          (item :: items, remaining)
        else ([item], comma :: behind)
termination_by tokens.length
decreasing_by
  have within := (dropInline_suffix tokens).length_le
  have shorter := (valueItem_suffix _read).length_le
  have next := (dropInline_suffix left).length_le
  rw [_inline] at within
  rw [_next] at next
  simp only [List.length_cons] at within next
  omega

theorem valueItems_suffix (source : List Char) (tokens : List PlacedToken) :
    (valueItems source tokens).2 <:+ tokens := by
  fun_induction valueItems source tokens with
  | case1 tokens _ => exact List.nil_suffix
  | case2 tokens placed rest inline _ => exact inline ▸ dropInline_suffix tokens
  | case3 tokens placed rest inline item left read next => exact List.nil_suffix
  | case4 tokens placed rest inline item left read comma behind next isComma items remaining
      inner ih =>
    simp only [inner] at ih
    have first : placed :: rest <:+ tokens := inline ▸ dropInline_suffix tokens
    have second : comma :: behind <:+ left := next ▸ dropInline_suffix left
    exact ih.trans ((List.suffix_cons comma behind).trans (second.trans
      ((valueItem_suffix read).trans ((List.suffix_cons placed rest).trans first))))
  | case5 tokens placed rest inline item left read comma behind next _ =>
    have first : placed :: rest <:+ tokens := inline ▸ dropInline_suffix tokens
    have second : comma :: behind <:+ left := next ▸ dropInline_suffix left
    exact second.trans ((valueItem_suffix read).trans ((List.suffix_cons placed rest).trans first))

/-- The value on the rest of the line. -/
def valueList (source : List Char) : Reader ValueList := fun tokens =>
  let (items, left) := valueItems source tokens
  let span := match items.head?, items.getLast? with
    | some first, some last => first.span.union last.span
    | _, _ => Span.empty (startOffset source left)
  .ok (⟨items, span⟩, left)

theorem valueList_keeps (source : List Char) : (valueList source).Keeps := by
  intro tokens
  constructor
  · rintro _ _ ⟨⟩
    exact valueItems_suffix source tokens
  · rintro _ ⟨⟩

/-- `key: value` -/
def keyValue (source : List Char) : Reader KeyValue := do
  let key ← Reader.word .key
  Reader.skipInline
  let colon ← Reader.punct .colon .colon
  let value ← valueList source
  let last := if value.items.isEmpty then colon else value.span
  pure ⟨key, value, key.span.union last⟩

theorem keyValue_advances (source : List Char) : (keyValue source).Advances :=
  Reader.bind_advances_of_first (Reader.expect_advances _ _) fun _ =>
    Reader.bind_keeps Reader.skipInline_keeps fun _ =>
      Reader.bind_keeps (Reader.expect_keeps _ _) fun _ =>
        Reader.bind_keeps (valueList_keeps source) fun _ => Reader.pure_keeps _

theorem keyValue_keeps (source : List Char) : (keyValue source).Keeps :=
  Reader.bind_keeps (Reader.expect_keeps _ _) fun _ =>
    Reader.bind_keeps Reader.skipInline_keeps fun _ =>
      Reader.bind_keeps (Reader.expect_keeps _ _) fun _ =>
        Reader.bind_keeps (valueList_keeps source) fun _ => Reader.pure_keeps _

/-- An entry of a parenthesised list.  A reserved word that opens a declaration
is no key there: the parenthesis was left open. -/
def listedKeyValue (source : List Char) : Reader KeyValue := do
  let next ← Reader.peek
  if next.all fun placed => isDeclarationKeyword placed.token then Reader.fail .rightParen
  else keyValue source

def keyValueItem (source : List Char) : ItemReader KeyValue where
  read := listedKeyValue source
  keeps := by
    refine Reader.bind_keeps Reader.peek_keeps fun _ => ?_
    split
    · exact Reader.fail_keeps _
    · exact keyValue_keeps source
  advances := by
    refine Reader.bind_advances_of_next Reader.peek_keeps fun _ => ?_
    split
    · exact Reader.fail_advances _
    · exact keyValue_advances source

/-- Entries up to and including the closing parenthesis, whose span is
returned. -/
def keyValues (source : List Char) : Reader (List KeyValue × Span) :=
  untilRightParen (keyValueItem source)

theorem keyValues_keeps (source : List Char) : (keyValues source).Keeps :=
  untilRightParen_keeps _

/-- Looks at the next token of the line that is not trivia. -/
def Reader.peekPastInline : Reader (Option PlacedToken) := fun tokens =>
  .ok ((dropInline tokens).head?, tokens)

theorem Reader.peekPastInline_keeps : Reader.peekPastInline.Keeps := by
  intro tokens
  constructor
  · rintro _ _ ⟨⟩
    exact List.suffix_refl _
  · rintro _ ⟨⟩

/-- What follows the name of an annotation, and the last span that belongs to
it, if it has one. -/
def annotationBody (source : List Char) : Reader (AnnotationBody × Option Span) := do
  let next ← Reader.peekPastInline
  if atPunct .leftParen next then do
    Reader.skipInline
    let _ ← Reader.punct .leftParen .leftParen
    let (entries, close) ← keyValues source
    pure (.block entries, some close)
  else if atLineEnd next then pure (.empty, none)
  else do
    let value ← valueList source
    pure (.inline value, if value.items.isEmpty then none else some value.span)

theorem annotationBody_keeps (source : List Char) : (annotationBody source).Keeps := by
  refine Reader.bind_keeps Reader.peekPastInline_keeps fun next => ?_
  split
  · exact Reader.bind_keeps Reader.skipInline_keeps fun _ =>
      Reader.bind_keeps (Reader.expect_keeps _ _) fun _ =>
        Reader.bind_keeps (keyValues_keeps source) fun _ => Reader.pure_keeps _
  · split
    · exact Reader.pure_keeps _
    · exact Reader.bind_keeps (valueList_keeps source) fun _ => Reader.pure_keeps _

/-- `@name`, `@name value` or `@name ( key: value ... )` -/
def annotationStep (source : List Char) : Reader Annotation := do
  let sign ← Reader.punct .atSign .atSign
  let name ← Reader.word .annotationName
  let (body, last) ← annotationBody source
  pure ⟨name, body, sign.union (last.getD name.span)⟩

theorem annotationStep_keeps (source : List Char) : (annotationStep source).Keeps :=
  Reader.bind_keeps (Reader.expect_keeps _ _) fun _ =>
    Reader.bind_keeps (Reader.expect_keeps _ _) fun _ =>
      Reader.bind_keeps (annotationBody_keeps source) fun _ => Reader.pure_keeps _

theorem annotationStep_advances (source : List Char) : (annotationStep source).Advances :=
  Reader.bind_advances_of_first (Reader.expect_advances _ _) fun _ =>
    Reader.bind_keeps (Reader.expect_keeps _ _) fun _ =>
      Reader.bind_keeps (annotationBody_keeps source) fun _ => Reader.pure_keeps _

/-- Annotations in a row, each with the trivia behind it. -/
def annotations (source : List Char) (tokens : List PlacedToken) :
    Except Mismatch (List Annotation × List PlacedToken) :=
  if atPunct .atSign tokens.head? then
    match _read : annotationStep source tokens with
    | .error mismatch => .error mismatch
    | .ok (first, rest) =>
      match annotations source (dropTrivia rest) with
      | .error mismatch => .error mismatch
      | .ok (others, left) => .ok (first :: others, left)
  else .ok ([], tokens)
termination_by tokens.length
decreasing_by
  have shorter := annotationStep_advances source _ _ _ _read
  have within := (dropTrivia_suffix rest).length_le
  omega

theorem annotations_keeps (source : List Char) : Reader.Keeps (annotations source) := by
  intro tokens
  fun_induction annotations source tokens with
  | case1 tokens _ mismatch read =>
    constructor
    · rintro _ _ ⟨⟩
    · rintro _ ⟨⟩
      exact (annotationStep_keeps source tokens).2 _ read
  | case2 tokens _ first rest read mismatch inner ih =>
    have suffix := (dropTrivia_suffix rest).trans ((annotationStep_keeps source tokens).1 _ _ read)
    constructor
    · rintro _ _ ⟨⟩
    · rintro _ ⟨⟩
      exact (ih.2 _ inner).trans suffix
  | case3 tokens _ first rest read others left inner ih =>
    have suffix := (dropTrivia_suffix rest).trans ((annotationStep_keeps source tokens).1 _ _ read)
    constructor
    · rintro _ _ ⟨⟩
      exact (ih.1 _ _ inner).trans suffix
    · rintro _ ⟨⟩
  | case4 tokens _ =>
    constructor
    · rintro _ _ ⟨⟩
      exact List.suffix_refl _
    · rintro _ ⟨⟩

end ApiLang
