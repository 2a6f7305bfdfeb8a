/-
Symbols: the declarations of a document as a listing for readers.
-/
import ApiLang.Document
import ApiLang.Naming

namespace ApiLang

inductive SymbolKind where
  | importPath
  | struct
  | service
  | route
  | handler
deriving DecidableEq

namespace SymbolKind

def all : List SymbolKind :=
  [.importPath, .struct, .service, .route, .handler]

def text : SymbolKind → String
  | .importPath => "import"
  | .struct => "struct"
  | .service => "service"
  | .route => "route"
  | .handler => "handler"

def ofText? (text : String) : Option SymbolKind :=
  all.find? fun kind => kind.text == text

/-- The nodes of a document that are listed under the kind. -/
def nodes (document : Document) : SymbolKind → List NodeId
  | .importPath => document.declarationsOf .importPath
  | .struct => document.declarationsOf .struct
  | .service => document.services
  | .route => document.declarationsOf .route
  | .handler => document.declarationsOf .handler

end SymbolKind

/-- A declaration in a listing.  A handler also has the name of the file that is
generated for it. -/
structure Symbol where
  name : String
  kind : SymbolKind
  span : Span
  position : Position
  fileStem : Option String
deriving DecidableEq

/-- The name and the span under which a node is listed.  A route is listed by
method and path. -/
def Node.listing? (node : Node) : Option (Spanned String) :=
  match node.kind with
  | .route facts => some ⟨facts.key, facts.headSpan⟩
  | kind => kind.name?

/-- The name of a handler without its ending `Handler`. -/
def handlerStem (name : String) : String :=
  let ending := "Handler".toList
  if ending.isSuffixOf name.toList then
    String.ofList (name.toList.take (name.toList.length - ending.length))
  else name

/-- The symbol for one node, listed under `kind`. -/
def symbolOf? (style : NamingStyle) (document : Document) (kind : SymbolKind) (id : NodeId) :
    Option Symbol := do
  let node ← document.get? id
  let name ← node.listing?
  return {
    name := name.val
    kind
    span := name.span
    position := document.position name.span.start
    fileStem := if kind = .handler then some (style.format (handlerStem name.val)) else none }

/-- The symbols of one kind, in source order. -/
def symbolsOfKind (style : NamingStyle) (document : Document) (kind : SymbolKind) :
    List Symbol :=
  (kind.nodes document).filterMap (symbolOf? style document kind)

/-- The symbols of a document by the start of their spans, all kinds unless one
is asked for. -/
def symbols (style : NamingStyle) (document : Document) (kind : Option SymbolKind) :
    List Symbol :=
  let kinds := match kind with
    | some kind => [kind]
    | none => SymbolKind.all
  (kinds.flatMap (symbolsOfKind style document)).mergeSort fun left right =>
    left.span.start ≤ right.span.start

end ApiLang
