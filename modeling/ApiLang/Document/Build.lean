/-
From the tree to the document.  The tree is read once from front to back.  Each
node takes the next place and is told to its parent, and if it declares a name it
is put into the index.  What a node says about the types behind it is filled in
when these have their places.
-/
import ApiLang.Document
import ApiLang.Token.Lexer
import ApiLang.Tree.Diagnostics
import ApiLang.Tree.File

namespace ApiLang

/-- Types that need no declaration. -/
def builtinTypes : List String :=
  ["bool", "int", "int8", "int16", "int32", "int64", "uint", "uint8", "uint16", "uint32",
    "uint64", "uintptr", "float32", "float64", "complex64", "complex128", "string", "byte",
    "rune", "any"]

def isBuiltinType (name : String) : Bool :=
  builtinTypes.contains name

/-- The name a `handler` annotation gives to a route: the first item of the first
such annotation that has an item, if it is not empty.  The span is that of the
bare name, within the quotes if it is quoted. -/
def handlerName? (annotations : List Annotation) : Option (Spanned String) :=
  let item? := annotations.findSome? fun note =>
    if note.name.val == "handler" then
      match note.body with
      | .inline value => value.items.head?
      | _ => none
    else none
  item?.bind fun item =>
    if item.val.text.isEmpty then none
    else
      let span := match item.val with
        | .quoted _ => ⟨item.span.start + 1, item.span.stop - 1⟩
        | .bare _ => item.span
      some ⟨item.val.text, span⟩

/-- The documentation of a route: the value of its first `doc` annotation, or the
summary in its entries. -/
def routeDoc? (annotations : List AnnotationFacts) : Option String :=
  match annotations.find? fun facts => facts.name.val == "doc" with
  | none => none
  | some facts =>
    match facts.value with
    | some value => some value.val.render
    | none => (facts.get? "summary").map Value.render

/-- A document in the making: its nodes so far, those without a parent among them,
the names they declare and the warnings about their annotations. -/
structure Draft where
  nodes : Array Node := #[]
  items : List NodeId := []
  index : NameIndex := {}
  warnings : List Diagnostic := []

/-- Computations that add to a draft. -/
abbrev Drafting : Type → Type :=
  StateM Draft

def Node.addChild (id : NodeId) (node : Node) : Node :=
  { node with children := node.children ++ [id] }

def Node.revise (change : NodeKind → NodeKind) (node : Node) : Node :=
  { node with kind := change node.kind }

/-- A field or an embedded type with its shape filled in. -/
def NodeKind.withShape (shape : TypeShape) : NodeKind → NodeKind
  | .field name _ tag => .field name shape tag
  | .embedded pointer _ => .embedded pointer shape
  | kind => kind

/-- A route with its handler and the shapes of its types filled in. -/
def NodeKind.withParts (handler : Option NodeId) (request response : Option TypeShape) :
    NodeKind → NodeKind
  | .route facts => .route { facts with handler, request, response }
  | kind => kind

namespace Drafting

/-- A new node at the end.  It becomes the last child of its parent, or the last
item if it has none. -/
def push (span : Span) (parent : Option NodeId) (kind : NodeKind) : Drafting NodeId :=
  fun draft =>
    let id := draft.nodes.size
    let nodes := draft.nodes.push { span, parent, children := [], kind }
    match parent with
    | some parent => (id, { draft with nodes := nodes.modify parent (Node.addChild id) })
    | none => (id, { draft with nodes, items := draft.items ++ [id] })

/-- Lists a declaration in the index.  One without a name is left out. -/
def register (kind : DeclKind) (name : String) (id : NodeId) : Drafting Unit :=
  modify fun draft =>
    if name.isEmpty then draft else { draft with index := draft.index.insert kind name id }

/-- Changes what an earlier node says. -/
def revise (id : NodeId) (change : NodeKind → NodeKind) : Drafting Unit :=
  modify fun draft => { draft with nodes := draft.nodes.modify id (Node.revise change) }

def warn (warnings : List Diagnostic) : Drafting Unit :=
  modify fun draft => { draft with warnings := draft.warnings ++ warnings }

def addSkipped (parent : Option NodeId) (input : Skipped) : Drafting Unit := do
  let _ ← push input.span parent (.skipped input.text)

/-- A type by its name.  Only the use of a declared type is a node. -/
def addUse (parent : NodeId) (role : ReferenceRole) (name : Spanned String) :
    Drafting TypeShape := do
  if isBuiltinType name.val then return .builtin name.val
  return .reference (← push name.span (some parent) (.typeRef name role))

/-- The uses in a type, from left to right. -/
def addType (parent : NodeId) (role : ReferenceRole) : TypeExpr → Drafting TypeShape
  | .named name => addUse parent role name
  | .pointer inner _ => return .pointer (← addType parent role inner)
  | .slice size element _ =>
    return .slice (size.map Spanned.val) (← addType parent role element)
  | .map key value _ => return .map (← addType parent role key) (← addType parent role value)
  | .interface _ => return .interface

def addMember (struct : NodeId) : Member → Drafting Unit
  | .field field => do
    let id ← push field.span (some struct) (.field field.name .interface field.tag)
    let shape ← addType id .field field.type
    revise id (.withShape shape)
  | .embedded embedded => do
    let id ← push embedded.span (some struct) (.embedded embedded.pointer .interface)
    let shape ← addUse id .embedded embedded.name
    revise id (.withShape shape)
  | .skipped input => addSkipped (some struct) input

def addStruct (struct : StructDef) : Drafting Unit := do
  let id ← push struct.span none (.struct struct.name)
  register .struct struct.name.val id
  struct.body.entries.forM (addMember id)

def addAnnotation (note : Annotation) : Drafting AnnotationFacts := do
  warn (annotationWarnings note)
  return .ofTree note

def addHandler (route : NodeId) (name : Spanned String) : Drafting NodeId := do
  let id ← push name.span (some route) (.handler name)
  register .handler name.val id
  return id

/-- The handler and the types of a route, as its children. -/
def addRouteParts (id : NodeId) (route : Route) :
    Drafting (Option NodeId × Option TypeShape × Option TypeShape) := do
  let handler ← (handlerName? route.annotations).mapM (addHandler id)
  let request ← route.request.mapM (addType id .request)
  let response ← route.response.mapM (addType id .response)
  return (handler, request, response)

/-- A route is listed when all its parts are filled in. -/
def addRoute (service : NodeId) (route : Route) : Drafting Unit := do
  let annotations ← route.annotations.mapM addAnnotation
  let facts : RouteFacts :=
    { method := route.method
      path := route.path
      handler := none
      request := none
      response := none
      doc := routeDoc? annotations
      annotations }
  let id ← push route.span (some service) (.route facts)
  let (handler, request, response) ← addRouteParts id route
  revise id (.withParts handler request response)
  register .route facts.key id

def addServiceEntry (service : NodeId) : ServiceEntry → Drafting Unit
  | .route route => addRoute service route
  | .skipped input => addSkipped (some service) input

def addService (service : Service) : Drafting Unit := do
  let annotations ← service.annotations.mapM addAnnotation
  let id ← push service.span none
    (.service service.name annotations (.ofAnnotations annotations))
  service.body.entries.forM (addServiceEntry id)

def addImport (path : Spanned String) : Drafting Unit := do
  let id ← push path.span none (.importPath path)
  register .importPath path.val id

def addTypeEntry : TypeEntry → Drafting Unit
  | .struct struct => addStruct struct
  | .skipped input => addSkipped none input

/-- Groups are flattened: a node for each path of an import, and for each entry of
a group of types. -/
def addDeclaration : Declaration → Drafting Unit
  | .version text span => do
    let _ ← push span none (.version text)
  | .info entries span => do
    warn (entryWarnings entries)
    let _ ← push span none (.info (canonicalEntries entries))
  | .imports paths _ => paths.forM addImport
  | .types _ body => body.entries.forM addTypeEntry
  | .service service => addService service
  | .skipped input => addSkipped none input

end Drafting

/-- The document of a tree.  `earlier` are the complaints about words and
grammar. -/
def Document.ofTree (path source : String) (earlier : List Diagnostic) (file : SourceFile) :
    Document :=
  let draft := (file.declarations.forM Drafting.addDeclaration |>.run {}).2
  { path, source
    nodes := draft.nodes
    items := draft.items
    index := draft.index
    diagnostics := Diagnostic.sortByPlace (earlier ++ draft.warnings) }

/-- The document of a source text.  Every text has one: what cannot be understood
is kept as skipped input and complained about. -/
def Document.parse (source path : String) : Document :=
  let text := source.toList
  let tokens := tokenize text
  let file := parseTokens text tokens
  .ofTree path source (tokenDiagnostics tokens ++ file.diagnostics) file

end ApiLang
