/-
Reading whole files.  Reading is total: a declaration that fits no rule is
skipped up to the next token that may open one, and kept in the tree.
-/
import ApiLang.Tree.Service
import ApiLang.Tree.Struct

namespace ApiLang

/-- `= "v1"` behind the word `syntax`. -/
def versionDecl (start : Span) : Reader Declaration := do
  Reader.skipTrivia
  let _ ← Reader.punct .equals .equals
  Reader.skipTrivia
  let version ← Reader.stringLiteral .versionString
  pure (.version version (start.union version.span))

/-- `( key: value ... )` behind the word `info`. -/
def infoDecl (source : List Char) (start : Span) : Reader Declaration := do
  Reader.skipTrivia
  let _ ← Reader.punct .leftParen .leftParen
  let (entries, close) ← keyValues source
  pure (.info entries (start.union close))

def importPath : ItemReader (Spanned String) where
  read := Reader.stringLiteral .importPathOrParen
  keeps := Reader.expect_keeps _ _
  advances := Reader.expect_advances _ _

/-- One path, or several in parentheses, behind the word `import`. -/
def importDecl (start : Span) : Reader Declaration := do
  Reader.skipTrivia
  let opener ← Reader.eatPunct .leftParen
  match opener with
  | none => do
    let path ← Reader.stringLiteral .importPath
    pure (.imports [path] (start.union path.span))
  | some _ => do
    let (paths, close) ← untilRightParen importPath
    pure (.imports paths (start.union close))

/-- Groups of types end at their parenthesis; without it, where a declaration may
start. -/
def typeGroupRules (source : List Char) : BodyRules TypeEntry where
  closer := .rightParen
  stops tokens := tokens.head?.any fun placed => opensDeclaration placed.token
  entry :=
    { read := do
        let found ← structDef source
        pure (.struct found)
      keeps := Reader.bind_keeps (structDef_keeps source) fun _ => Reader.pure_keeps _
      advances := Reader.bind_advances_of_first (structDef_advances source) fun _ =>
        Reader.pure_keeps _ }
  skipped := .skipped

/-- One struct, or a group of them in parentheses, behind the word `type`. -/
def typeDecl (source : List Char) (start : Span) : Reader Declaration := do
  Reader.skipTrivia
  let opener ← Reader.eatPunct .leftParen
  match opener with
  | none => do
    let struct ← structDef source
    pure (.types start (.single struct))
  | some opener => do
    let block ← body source (typeGroupRules source) opener
    pure (.types start (.group block))

theorem versionDecl_keeps (start : Span) : (versionDecl start).Keeps :=
  Reader.bind_keeps Reader.skipTrivia_keeps fun _ =>
    Reader.bind_keeps (Reader.expect_keeps _ _) fun _ =>
      Reader.bind_keeps Reader.skipTrivia_keeps fun _ =>
        Reader.bind_keeps (Reader.expect_keeps _ _) fun _ => Reader.pure_keeps _

theorem infoDecl_keeps (source : List Char) (start : Span) : (infoDecl source start).Keeps :=
  Reader.bind_keeps Reader.skipTrivia_keeps fun _ =>
    Reader.bind_keeps (Reader.expect_keeps _ _) fun _ =>
      Reader.bind_keeps (keyValues_keeps source) fun _ => Reader.pure_keeps _

theorem importDecl_keeps (start : Span) : (importDecl start).Keeps := by
  refine Reader.bind_keeps Reader.skipTrivia_keeps fun _ =>
    Reader.bind_keeps (Reader.optional_keeps _) fun opener => ?_
  cases opener with
  | none =>
    exact Reader.bind_keeps (Reader.expect_keeps _ _) fun _ => Reader.pure_keeps _
  | some _ =>
    exact Reader.bind_keeps (untilRightParen_keeps importPath) fun _ => Reader.pure_keeps _

theorem typeDecl_keeps (source : List Char) (start : Span) : (typeDecl source start).Keeps := by
  refine Reader.bind_keeps Reader.skipTrivia_keeps fun _ =>
    Reader.bind_keeps (Reader.optional_keeps _) fun opener => ?_
  cases opener with
  | none => exact Reader.bind_keeps (structDef_keeps source) fun _ => Reader.pure_keeps _
  | some _ => exact Reader.bind_keeps (body_keeps source _ _) fun _ => Reader.pure_keeps _

/-- A declaration behind its keyword, for the words that stand without
annotations. -/
def restOfDeclaration (source : List Char) (word : Keyword) (start : Span) :
    Reader Declaration :=
  match word with
  | .syntaxWord => versionDecl start
  | .infoWord => infoDecl source start
  | .importWord => importDecl start
  | .typeWord => typeDecl source start
  | .serviceWord | .returnsWord => Reader.fail .declaration

theorem restOfDeclaration_keeps (source : List Char) (word : Keyword) (start : Span) :
    (restOfDeclaration source word start).Keeps := by
  cases word with
  | syntaxWord => exact versionDecl_keeps start
  | infoWord => exact infoDecl_keeps source start
  | importWord => exact importDecl_keeps start
  | typeWord => exact typeDecl_keeps source start
  | serviceWord => exact Reader.fail_keeps _
  | returnsWord => exact Reader.fail_keeps _

/-- A reserved word that opens a declaration without annotations. -/
def plainKeyword (placed : PlacedToken) : Option (Keyword × Span) :=
  match placed.token with
  | .keyword word =>
    if word = .serviceWord ∨ word = .returnsWord then none else some (word, placed.span)
  | _ => none

/-- Whether a service comes next, by its annotations or by its keyword. -/
def atService (next : Option PlacedToken) : Bool :=
  next.any fun placed =>
    placed.token.isKeyword .serviceWord || placed.token.isPunct .atSign

/-- One declaration. -/
def declaration (source : List Char) : Reader Declaration := do
  let next ← Reader.peek
  if atService next then do
    let found ← service source
    pure (.service found)
  else do
    let (word, start) ← Reader.expect .declaration plainKeyword
    restOfDeclaration source word start

theorem declaration_keeps (source : List Char) : (declaration source).Keeps := by
  refine Reader.bind_keeps Reader.peek_keeps fun _ => ?_
  split
  · exact Reader.bind_keeps (service_keeps source) fun _ => Reader.pure_keeps _
  · exact Reader.bind_keeps (Reader.expect_keeps _ _) fun _ =>
      restOfDeclaration_keeps source _ _

theorem declaration_advances (source : List Char) : (declaration source).Advances := by
  refine Reader.bind_advances_of_next Reader.peek_keeps fun _ => ?_
  split
  · exact Reader.bind_advances_of_first (service_advances source) fun _ => Reader.pure_keeps _
  · exact Reader.bind_advances_of_first (Reader.expect_advances _ _) fun _ =>
      restOfDeclaration_keeps source _ _

/-- All declarations of the input. -/
def declarations (source : List Char) (tokens : List PlacedToken) : List Declaration :=
  match _trivia : dropTrivia tokens with
  | [] => []
  | placed :: rest =>
    match _read : declaration source (placed :: rest) with
    | .ok (found, left) => found :: declarations source left
    | .error mismatch =>
      let left := dropToDeclaration (resumeAfter (placed :: rest) mismatch.rest)
      .skipped (.between source (placed :: rest) left mismatch) :: declarations source left
termination_by tokens.length
decreasing_by
  · have shorter := declaration_advances source _ _ _ _read
    have within := (dropTrivia_suffix tokens).length_le
    rw [_trivia] at within
    omega
  · have shorter := resumeAfter_length_lt (placed :: rest) mismatch.rest (by simp)
      ((declaration_keeps source _).2 _ _read)
    have dropped : (dropToDeclaration (resumeAfter (placed :: rest) mismatch.rest)).length ≤
        (resumeAfter (placed :: rest) mismatch.rest).length :=
      (List.dropWhile_suffix _).length_le
    have within := (dropTrivia_suffix tokens).length_le
    rw [_trivia] at within
    omega

/-- The tree of a source text whose tokens are given. -/
def parseTokens (source : List Char) (tokens : List PlacedToken) : SourceFile :=
  { declarations := declarations source tokens
    span := ⟨0, byteWidth source⟩ }

end ApiLang
