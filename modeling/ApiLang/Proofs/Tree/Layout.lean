/-
The canonical layout of a tree, and trees without places.  Each entry, line,
annotation and route stands on a line of its own, paths of imports and structs
stand in groups, types are written without blanks, and everything else is
written as it was read.
-/
import ApiLang.Tree

namespace ApiLang

def quote (text : String) : List Char :=
  '"' :: text.toList ++ ['"']

def ValueItem.print : ValueItem → List Char
  | .quoted text => quote text
  | .bare text => text.toList

/-- Items behind what they are the value of: a blank before the first, a comma and
a blank before the others. -/
def printItems : List (Spanned ValueItem) → List Char
  | [] => []
  | first :: others =>
    ' ' :: first.val.print ++ others.flatMap fun item => ',' :: ' ' :: item.val.print

/-- Each piece on a line of its own. -/
def printLines {α : Type} (print : α → List Char) (pieces : List α) : List Char :=
  pieces.flatMap fun piece => print piece ++ ['\n']

def KeyValue.print (entry : KeyValue) : List Char :=
  entry.key.val.toList ++ ':' :: printItems entry.value.items

/-- Lines in parentheses. -/
def printGroup {α : Type} (print : α → List Char) (pieces : List α) : List Char :=
  '(' :: '\n' :: printLines print pieces ++ [')']

def AnnotationBody.print : AnnotationBody → List Char
  | .empty => []
  | .inline value => printItems value.items
  | .block entries => ' ' :: printGroup KeyValue.print entries

def Annotation.print (note : Annotation) : List Char :=
  '@' :: note.name.val.toList ++ note.body.print

def TypeExpr.print : TypeExpr → List Char
  | .named name => name.val.toList
  | .pointer inner _ => '*' :: inner.print
  | .slice size element _ =>
    '[' :: (size.elim [] fun size => size.val.toList) ++ ']' :: element.print
  | .map key value _ => ['m', 'a', 'p', '['] ++ key.print ++ ']' :: value.print
  | .interface _ => ['i', 'n', 't', 'e', 'r', 'f', 'a', 'c', 'e', '\x7b', '\x7d']

def Member.print : Member → List Char
  | .field line =>
    line.name.val.toList ++ ' ' :: line.type.print ++
      line.tag.elim [] fun tag => ' ' :: '`' :: tag.val.toList ++ ['`']
  | .embedded line => (if line.pointer then ['*'] else []) ++ line.name.val.toList
  | .skipped input => input.text.toList

/-- Lines in braces. -/
def printBody {α : Type} (print : α → List Char) (pieces : List α) : List Char :=
  '\x7b' :: '\n' :: printLines print pieces ++ ['\x7d']

def StructDef.print (struct : StructDef) : List Char :=
  struct.name.val.toList ++ ' ' :: printBody Member.print struct.body.entries

def TypeEntry.print : TypeEntry → List Char
  | .struct definition => definition.print
  | .skipped input => input.text.toList

def printParenthesized (type : TypeExpr) : List Char :=
  '(' :: type.print ++ [')']

def Keyword.print (word : Keyword) : List Char :=
  word.text.toList

def Route.print (route : Route) : List Char :=
  printLines Annotation.print route.annotations ++ route.method.val.toList ++
    ' ' :: route.path.val.toList ++
    (route.request.elim [] fun type => ' ' :: printParenthesized type) ++
    (route.response.elim [] fun type =>
      ' ' :: Keyword.returnsWord.print ++ ' ' :: printParenthesized type)

def ServiceEntry.print : ServiceEntry → List Char
  | .route line => line.print
  | .skipped input => input.text.toList

def Service.print (service : Service) : List Char :=
  printLines Annotation.print service.annotations ++ Keyword.serviceWord.print ++
    ' ' :: service.name.val.toList ++ ' ' :: printBody ServiceEntry.print service.body.entries

def Declaration.print : Declaration → List Char
  | .version text _ => Keyword.syntaxWord.print ++ [' ', '=', ' '] ++ quote text.val
  | .info entries _ => Keyword.infoWord.print ++ ' ' :: printGroup KeyValue.print entries
  | .imports paths _ =>
    Keyword.importWord.print ++ ' ' :: printGroup (fun path => quote path.val) paths
  | .types _ body => Keyword.typeWord.print ++ ' ' :: printGroup TypeEntry.print body.entries
  | .service block => block.print
  | .skipped input => input.text.toList

/-- A file in the canonical layout. -/
def SourceFile.print (file : SourceFile) : List Char :=
  printLines Declaration.print file.declarations

/-- The place that stands for all places. -/
def nowhere : Span :=
  Span.empty 0

def Spanned.unplaced {α : Type} (spanned : Spanned α) : Spanned α :=
  ⟨spanned.val, nowhere⟩

def Skipped.unplaced (input : Skipped) : Skipped :=
  { input with
    span := nowhere
    found := input.found.map fun placed => ⟨placed.token, nowhere⟩ }

def Block.unplaced {α : Type} (unplacedEntry : α → α) (block : Block α) : Block α :=
  ⟨nowhere, block.entries.map unplacedEntry, block.closer.map fun _ => nowhere⟩

def ValueList.unplaced (value : ValueList) : ValueList :=
  ⟨value.items.map Spanned.unplaced, nowhere⟩

def KeyValue.unplaced (entry : KeyValue) : KeyValue :=
  ⟨entry.key.unplaced, entry.value.unplaced, nowhere⟩

def AnnotationBody.unplaced : AnnotationBody → AnnotationBody
  | .empty => .empty
  | .inline value => .inline value.unplaced
  | .block entries => .block (entries.map KeyValue.unplaced)

def Annotation.unplaced (note : Annotation) : Annotation :=
  ⟨note.name.unplaced, note.body.unplaced, nowhere⟩

def TypeExpr.unplaced : TypeExpr → TypeExpr
  | .named name => .named name.unplaced
  | .pointer inner _ => .pointer inner.unplaced nowhere
  | .slice size element _ => .slice (size.map Spanned.unplaced) element.unplaced nowhere
  | .map key value _ => .map key.unplaced value.unplaced nowhere
  | .interface _ => .interface nowhere

def Member.unplaced : Member → Member
  | .field line =>
    .field ⟨line.name.unplaced, line.type.unplaced, line.tag.map Spanned.unplaced, nowhere⟩
  | .embedded line => .embedded ⟨line.pointer, line.name.unplaced, nowhere⟩
  | .skipped input => .skipped input.unplaced

def StructDef.unplaced (struct : StructDef) : StructDef :=
  ⟨struct.name.unplaced, struct.body.unplaced Member.unplaced⟩

def TypeEntry.unplaced : TypeEntry → TypeEntry
  | .struct definition => .struct definition.unplaced
  | .skipped input => .skipped input.unplaced

/-- One struct behind the word `type` is the same as a group of one. -/
def TypeBody.unplaced : TypeBody → TypeBody
  | .single struct => .group ⟨nowhere, [.struct struct.unplaced], some nowhere⟩
  | .group block => .group (block.unplaced TypeEntry.unplaced)

def Route.unplaced (route : Route) : Route :=
  { annotations := route.annotations.map Annotation.unplaced
    method := route.method.unplaced
    path := route.path.unplaced
    request := route.request.map TypeExpr.unplaced
    response := route.response.map TypeExpr.unplaced
    span := nowhere }

def ServiceEntry.unplaced : ServiceEntry → ServiceEntry
  | .route line => .route line.unplaced
  | .skipped input => .skipped input.unplaced

def Service.unplaced (service : Service) : Service :=
  { annotations := service.annotations.map Annotation.unplaced
    keyword := nowhere
    name := service.name.unplaced
    body := service.body.unplaced ServiceEntry.unplaced }

def Declaration.unplaced : Declaration → Declaration
  | .version text _ => .version text.unplaced nowhere
  | .info entries _ => .info (entries.map KeyValue.unplaced) nowhere
  | .imports paths _ => .imports (paths.map Spanned.unplaced) nowhere
  | .types _ body => .types nowhere body.unplaced
  | .service block => .service block.unplaced
  | .skipped input => .skipped input.unplaced

/-- A file without the places of its pieces. -/
def SourceFile.unplaced (file : SourceFile) : SourceFile :=
  ⟨file.declarations.map Declaration.unplaced, nowhere⟩

end ApiLang
