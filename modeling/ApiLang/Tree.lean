/-
The syntax tree.  It follows the grammar and keeps every span.  Input that fits
no rule is kept where it was skipped, together with what the grammar expected
there, and a body remembers whether its closing mark was found, so that all
complaints of the parser can be read off the tree.
-/
import ApiLang.Token

namespace ApiLang

/-- What the grammar asked for at some point. -/
inductive Expected where
  | declaration
  | equals
  | versionString
  | leftParen
  | rightParen
  | leftBrace
  | rightBrace
  | rightBracket
  | importPath
  | importPathOrParen
  | structName
  | typeName
  | typeExpr
  | endOfLine
  | serviceKeyword
  | serviceName
  | method
  | routePath
  | atSign
  | annotationName
  | key
  | colon
deriving DecidableEq

/-- How a message names what was expected. -/
def Expected.label : Expected → String
  | .declaration => "declaration"
  | .equals => "`=`"
  | .versionString => "version string"
  | .leftParen => "`(`"
  | .rightParen => "`)`"
  | .leftBrace => "`\x7b`"
  | .rightBrace => "`\x7d`"
  | .rightBracket => "`]`"
  | .importPath => "import path"
  | .importPathOrParen => "import path or `)`"
  | .structName => "struct name"
  | .typeName => "type name"
  | .typeExpr => "type"
  | .endOfLine => "end of line"
  | .serviceKeyword => "`service`"
  | .serviceName => "service name"
  | .method => "HTTP method"
  | .routePath => "route path"
  | .atSign => "`@`"
  | .annotationName => "annotation name"
  | .key => "key"
  | .colon => "`:`"

/-- Source text skipped because it fits no rule: what was expected, and the token
found in its place, if the input did not end there. -/
structure Skipped where
  text : String
  span : Span
  expected : Expected
  found : Option PlacedToken
deriving DecidableEq

/-- The entries between an opening mark and its closing mark, which may be
missing. -/
structure Block (α : Type) where
  opener : Span
  entries : List α
  closer : Option Span
deriving DecidableEq

/-- The last piece that belongs to the block: the closing mark, or without one
the last entry, or the opening mark of an empty block. -/
def Block.last {α : Type} (spanOf : α → Span) (block : Block α) : Span :=
  match block.closer with
  | some closer => closer
  | none =>
    match block.entries.getLast? with
    | some entry => spanOf entry
    | none => block.opener

/-- One item of an annotation value, as written: a string literal, or a run of
other tokens. -/
inductive ValueItem where
  | quoted (text : String)
  | bare (text : String)
deriving DecidableEq

def ValueItem.text : ValueItem → String
  | .quoted text | .bare text => text

/-- Items separated by commas.  Without items the span is empty and stands where
the first would have been. -/
structure ValueList where
  items : List (Spanned ValueItem)
  span : Span
deriving DecidableEq

/-- `key: value` -/
structure KeyValue where
  key : Spanned String
  value : ValueList
  span : Span
deriving DecidableEq

/-- What follows the name of an annotation: nothing, a value on the same line, or
entries in parentheses. -/
inductive AnnotationBody where
  | empty
  | inline (value : ValueList)
  | block (entries : List KeyValue)
deriving DecidableEq

structure Annotation where
  name : Spanned String
  body : AnnotationBody
  span : Span
deriving DecidableEq

/-- A type as written in a field or a route. -/
inductive TypeExpr where
  | named (name : Spanned String)
  | pointer (inner : TypeExpr) (span : Span)
  | slice (size : Option (Spanned String)) (element : TypeExpr) (span : Span)
  | map (key value : TypeExpr) (span : Span)
  | interface (span : Span)
deriving DecidableEq

def TypeExpr.span : TypeExpr → Span
  | .named name => name.span
  | .pointer _ span | .slice _ _ span | .map _ _ span | .interface span => span

structure Field where
  name : Spanned String
  type : TypeExpr
  tag : Option (Spanned String)
  span : Span
deriving DecidableEq

/-- A type name standing alone in a struct, possibly behind a star. -/
structure Embedded where
  pointer : Bool
  name : Spanned String
  span : Span
deriving DecidableEq

/-- One line of a struct body. -/
inductive Member where
  | field (field : Field)
  | embedded (embedded : Embedded)
  | skipped (skipped : Skipped)
deriving DecidableEq

def Member.span : Member → Span
  | .field line => line.span
  | .embedded line => line.span
  | .skipped input => input.span

structure StructDef where
  name : Spanned String
  body : Block Member
deriving DecidableEq

def StructDef.span (struct : StructDef) : Span :=
  struct.name.span.union (struct.body.last Member.span)

inductive TypeEntry where
  | struct (struct : StructDef)
  | skipped (skipped : Skipped)
deriving DecidableEq

def TypeEntry.span : TypeEntry → Span
  | .struct definition => definition.span
  | .skipped input => input.span

/-- What follows the word `type`: one struct, or a group in parentheses. -/
inductive TypeBody where
  | single (struct : StructDef)
  | group (entries : Block TypeEntry)
deriving DecidableEq

namespace TypeBody

def entries : TypeBody → List TypeEntry
  | .single struct => [.struct struct]
  | .group block => block.entries

def last : TypeBody → Span
  | .single struct => struct.span
  | .group block => block.last TypeEntry.span

end TypeBody

structure Route where
  annotations : List Annotation
  method : Spanned String
  path : Spanned String
  request : Option TypeExpr
  response : Option TypeExpr
  span : Span
deriving DecidableEq

inductive ServiceEntry where
  | route (route : Route)
  | skipped (skipped : Skipped)
deriving DecidableEq

def ServiceEntry.span : ServiceEntry → Span
  | .route line => line.span
  | .skipped input => input.span

structure Service where
  annotations : List Annotation
  keyword : Span
  name : Spanned String
  body : Block ServiceEntry
deriving DecidableEq

/-- A declaration starts at its first annotation, or at its keyword without
one. -/
def spanFrom (annotations : List Annotation) (keyword last : Span) : Span :=
  match annotations with
  | first :: _ => first.span.union last
  | [] => keyword.union last

def Service.span (service : Service) : Span :=
  spanFrom service.annotations service.keyword (service.body.last ServiceEntry.span)

/-- A declaration at the top of a file. -/
inductive Declaration where
  | version (version : Spanned String) (span : Span)
  | info (entries : List KeyValue) (span : Span)
  | imports (paths : List (Spanned String)) (span : Span)
  | types (keyword : Span) (body : TypeBody)
  | service (service : Service)
  | skipped (skipped : Skipped)
deriving DecidableEq

def Declaration.span : Declaration → Span
  | .version _ span | .info _ span | .imports _ span => span
  | .types keyword body => keyword.union body.last
  | .service block => block.span
  | .skipped input => input.span

/-- A whole file.  The span covers the text from its first to its last byte. -/
structure SourceFile where
  declarations : List Declaration
  span : Span
deriving DecidableEq

end ApiLang
