/-
Reading struct definitions.  A struct body is read line by line: a field with
its type and tag, or an embedded type.
-/
import ApiLang.Tree.Block
import ApiLang.Tree.TypeExpr

namespace ApiLang

/-- The tag of a field, a raw string. -/
def fieldTag : Reader (Option (Spanned String)) :=
  Reader.optional fun placed =>
    match placed.token with
    | .rawString text => some ⟨text, placed.span⟩
    | _ => none

/-- A line that starts with a star: only a type name may follow. -/
def embeddedPointer (star : Span) (name : Spanned String) : Reader Member := do
  Reader.endOfLine
  pure (.embedded ⟨true, name, star.union name.span⟩)

/-- The type and the tag of a field whose name was read. -/
def fieldOf (source : List Char) (name : Spanned String) : Reader Member := do
  let type ← typeExpr source
  Reader.skipInline
  let tag ← fieldTag
  Reader.endOfLine
  let last := match tag with
    | some tag => tag.span
    | none => type.span
  pure (.field ⟨name, type, tag, name.span.union last⟩)

/-- A line that starts with a name: an embedded type if nothing follows, and a
field otherwise.  The name of a field has no dot. -/
def fieldOrEmbedded (source : List Char) (name : Spanned String) : Reader Member := do
  Reader.skipInline
  let next ← Reader.peek
  if atLineEnd next then pure (.embedded ⟨false, name, name.span⟩)
  else if name.val.toList.contains '.' then Reader.fail .endOfLine
  else fieldOf source name

/-- One line of a struct body. -/
def member (source : List Char) : Reader Member := do
  let star ← Reader.eatPunct .star
  let name ← qualifiedName source
  match star with
  | some star => embeddedPointer star name
  | none => fieldOrEmbedded source name

theorem embeddedPointer_keeps (star : Span) (name : Spanned String) :
    (embeddedPointer star name).Keeps :=
  Reader.bind_keeps Reader.endOfLine_keeps fun _ => Reader.pure_keeps _

theorem fieldOf_keeps (source : List Char) (name : Spanned String) :
    (fieldOf source name).Keeps :=
  Reader.bind_keeps (typeExpr_keeps source) fun _ =>
    Reader.bind_keeps Reader.skipInline_keeps fun _ =>
      Reader.bind_keeps (Reader.optional_keeps _) fun _ =>
        Reader.bind_keeps Reader.endOfLine_keeps fun _ => Reader.pure_keeps _

theorem fieldOrEmbedded_keeps (source : List Char) (name : Spanned String) :
    (fieldOrEmbedded source name).Keeps := by
  refine Reader.bind_keeps Reader.skipInline_keeps fun _ =>
    Reader.bind_keeps Reader.peek_keeps fun _ => ?_
  split
  · exact Reader.pure_keeps _
  · split
    · exact Reader.fail_keeps _
    · exact fieldOf_keeps source name

theorem memberLine_keeps (source : List Char) (star : Option Span) (name : Spanned String) :
    Reader.Keeps (match star with
      | some star => embeddedPointer star name
      | none => fieldOrEmbedded source name) := by
  cases star with
  | some star => exact embeddedPointer_keeps star name
  | none => exact fieldOrEmbedded_keeps source name

/-- Struct bodies end at their brace; without it, where a declaration may
start. -/
def structRules (source : List Char) : BodyRules Member where
  closer := .rightBrace
  stops tokens := tokens.head?.any fun placed => opensDeclaration placed.token
  entry :=
    { read := member source
      keeps := Reader.bind_keeps (Reader.optional_keeps _) fun _ =>
        Reader.bind_keeps (qualifiedName_keeps source) fun _ => memberLine_keeps source _ _
      advances := Reader.bind_advances_of_next (Reader.optional_keeps _) fun _ =>
        Reader.bind_advances_of_first (qualifiedName_advances source) fun _ =>
          memberLine_keeps source _ _ }
  skipped := .skipped

/-- The word `struct` between the name of a struct and its body may be left
out. -/
def structWord : Reader Unit := do
  let found ← Reader.optional fun placed =>
    if placed.token = .identifier "struct" then some () else none
  match found with
  | some _ => Reader.skipInline
  | none => pure ()

theorem structWord_keeps : structWord.Keeps := by
  refine Reader.bind_keeps (Reader.optional_keeps _) fun found => ?_
  cases found with
  | some _ => exact Reader.skipInline_keeps
  | none => exact Reader.pure_keeps _

/-- `Name { ... }` or `Name struct { ... }` -/
def structDef (source : List Char) : Reader StructDef := do
  let name ← Reader.identifier .structName
  Reader.skipInline
  structWord
  let opener ← Reader.punct .leftBrace .leftBrace
  let body ← body source (structRules source) opener
  pure ⟨name, body⟩

theorem structDef_rest_keeps (source : List Char) (name : Spanned String) :
    Reader.Keeps (do
      Reader.skipInline
      structWord
      let opener ← Reader.punct .leftBrace .leftBrace
      let body ← body source (structRules source) opener
      pure (⟨name, body⟩ : StructDef)) :=
  Reader.bind_keeps Reader.skipInline_keeps fun _ =>
    Reader.bind_keeps structWord_keeps fun _ =>
      Reader.bind_keeps (Reader.expect_keeps _ _) fun _ =>
        Reader.bind_keeps (body_keeps source _ _) fun _ => Reader.pure_keeps _

theorem structDef_keeps (source : List Char) : (structDef source).Keeps :=
  Reader.bind_keeps (Reader.expect_keeps _ _) fun name => structDef_rest_keeps source name

theorem structDef_advances (source : List Char) : (structDef source).Advances :=
  Reader.bind_advances_of_first (Reader.expect_advances _ _) fun name =>
    structDef_rest_keeps source name

end ApiLang
