/-
The complaints of the parser, read off the tree.  Each skipped piece accounts
for one diagnostic, unless reading stopped at an invalid token, about which the
lexer has spoken already; each body without its closing mark accounts for one
more, behind those of its entries.
-/
import ApiLang.Diagnostic
import ApiLang.Tree

namespace ApiLang

/-- The complaint about what was found in place of what the grammar expected.  About
an invalid token the lexer has spoken already. -/
def Expected.diagnostics (sourceEnd : Nat) (expected : Expected) (found : Option PlacedToken) :
    List Diagnostic :=
  match found with
  | some placed =>
    if placed.token.isInvalid then []
    else
      [.located .error .unexpectedToken
        ("expected " ++ expected.label ++ ", found " ++ placed.token.describe)
        placed.span ("expected " ++ expected.label)]
  | none =>
    [.located .error .incompleteInput
      ("expected " ++ expected.label ++ ", found end of input")
      (Span.empty sourceEnd) "input ends here"]

/-- The complaint about skipped input, if it has one. -/
def Skipped.diagnostics (sourceEnd : Nat) (input : Skipped) : List Diagnostic :=
  input.expected.diagnostics sourceEnd input.found

/-- The complaint about a mark that is never closed. -/
def unclosedDiagnostic (opener : Span) (opening closing : Punct) : Diagnostic :=
  let mark := "`" ++ opening.char.toString ++ "`"
  (Diagnostic.located .error .incompleteInput ("unclosed " ++ mark) opener
    ("this " ++ mark ++ " is never closed")).withHelp
    ("add `" ++ closing.char.toString ++ "`")

/-- The complaints about a body: those of its entries, then that of the body
itself. -/
def Block.diagnostics {α : Type} (ofEntry : α → List Diagnostic) (opening closing : Punct)
    (block : Block α) : List Diagnostic :=
  block.entries.flatMap ofEntry ++
    match block.closer with
    | some _ => []
    | none => [unclosedDiagnostic block.opener opening closing]

def Member.diagnostics (sourceEnd : Nat) : Member → List Diagnostic
  | .skipped input => input.diagnostics sourceEnd
  | .field _ | .embedded _ => []

def StructDef.diagnostics (sourceEnd : Nat) (struct : StructDef) : List Diagnostic :=
  struct.body.diagnostics (Member.diagnostics sourceEnd) .leftBrace .rightBrace

def TypeEntry.diagnostics (sourceEnd : Nat) : TypeEntry → List Diagnostic
  | .struct definition => definition.diagnostics sourceEnd
  | .skipped input => input.diagnostics sourceEnd

def TypeBody.diagnostics (sourceEnd : Nat) : TypeBody → List Diagnostic
  | .single struct => struct.diagnostics sourceEnd
  | .group block => block.diagnostics (TypeEntry.diagnostics sourceEnd) .leftParen .rightParen

def ServiceEntry.diagnostics (sourceEnd : Nat) : ServiceEntry → List Diagnostic
  | .route _ => []
  | .skipped input => input.diagnostics sourceEnd

def Declaration.diagnostics (sourceEnd : Nat) : Declaration → List Diagnostic
  | .version .. | .info .. | .imports .. => []
  | .types _ body => body.diagnostics sourceEnd
  | .service block =>
    block.body.diagnostics (ServiceEntry.diagnostics sourceEnd) .leftBrace .rightBrace
  | .skipped input => input.diagnostics sourceEnd

/-- All complaints about a file, in the order in which reading met them. -/
def SourceFile.diagnostics (file : SourceFile) : List Diagnostic :=
  file.declarations.flatMap (Declaration.diagnostics file.span.stop)

end ApiLang
