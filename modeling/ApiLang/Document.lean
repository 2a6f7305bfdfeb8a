/-
The document model.  A document holds the nodes of one file in a single list,
in source order, each with its parent and its children, so that a node is known
by its place in the list.
-/
import ApiLang.NameIndex
import ApiLang.Text.Offset
import ApiLang.Value

namespace ApiLang

/-- Where a type name is used. -/
inductive ReferenceRole where
  | field
  | embedded
  | request
  | response
deriving DecidableEq

def ReferenceRole.text : ReferenceRole → String
  | .field => "field"
  | .embedded => "embedded"
  | .request => "request"
  | .response => "response"

/-- The shape of a type.  Names of declared types are nodes of their own. -/
inductive TypeShape where
  | builtin (name : String)
  | reference (node : NodeId)
  | pointer (inner : TypeShape)
  | slice (size : Option String) (element : TypeShape)
  | map (key value : TypeShape)
  | interface
deriving DecidableEq

/-- The referenced nodes, in source order. -/
def TypeShape.references : TypeShape → List NodeId
  | .builtin _ | .interface => []
  | .reference node => [node]
  | .pointer inner => inner.references
  | .slice _ element => element.references
  | .map key value => key.references ++ value.references

/-- The package and the name of `pkg.Name`, split at the first dot. -/
def splitQualified? (name : String) : Option (String × String) :=
  let before := name.toList.takeWhile (· != '.')
  match name.toList.dropWhile (· != '.') with
  | _ :: behind => some (String.ofList before, String.ofList behind)
  | [] => none

theorem bne_dot_of_notMem {text : List Char} (hplain : '.' ∉ text) :
    ∀ c ∈ text, (c != '.') = true := by
  intro c hc
  rw [bne_iff_ne]
  rintro rfl
  exact hplain hc

theorem splitQualified?_eq_none {name : String} (hplain : '.' ∉ name.toList) :
    splitQualified? name = none := by
  have hdrop : name.toList.dropWhile (· != '.') = [] := by
    rw [← List.append_nil name.toList, List.dropWhile_append_of_pos (bne_dot_of_notMem hplain),
      List.dropWhile_nil]
  simp [splitQualified?, hdrop]

/-- A qualified name is split at its first dot. -/
theorem splitQualified?_append {qualifier : String} (hfirst : '.' ∉ qualifier.toList)
    (struct : String) :
    splitQualified? (qualifier ++ "." ++ struct) = some (qualifier, struct) := by
  have hqualifier := bne_dot_of_notMem hfirst
  have htext : (qualifier ++ "." ++ struct).toList = qualifier.toList ++ '.' :: struct.toList := by
    simp
  rw [splitQualified?, htext, List.takeWhile_append_of_pos hqualifier,
    List.dropWhile_append_of_pos hqualifier]
  simp

/-- A name has one first dot. -/
theorem qualified_inj {qualifier other struct found : String}
    (hsame : qualifier ++ "." ++ struct = other ++ "." ++ found)
    (hfirst : '.' ∉ qualifier.toList) (hother : '.' ∉ other.toList) :
    qualifier = other ∧ struct = found := by
  have hsplit := splitQualified?_append hfirst struct
  rw [hsame, splitQualified?_append hother, Option.some.injEq, Prod.mk.injEq] at hsplit
  exact ⟨hsplit.1.symm, hsplit.2.symm⟩

theorem exists_qualified {name : String} (hdot : '.' ∈ name.toList) :
    ∃ qualifier struct : String, name = qualifier ++ "." ++ struct ∧ '.' ∉ qualifier.toList := by
  obtain ⟨before, behind, hsplit, hfirst⟩ := List.eq_append_cons_of_mem hdot
  refine ⟨String.ofList before, String.ofList behind, ?_, by simpa using hfirst⟩
  apply String.toList_injective
  simp [hsplit]

/-- A name is split as its first dot says. -/
theorem splitQualified?_eq_some_iff {name qualifier struct : String} :
    splitQualified? name = some (qualifier, struct) ↔
      name = qualifier ++ "." ++ struct ∧ '.' ∉ qualifier.toList := by
  constructor
  · intro hsplit
    by_cases hdot : '.' ∈ name.toList
    · obtain ⟨before, behind, rfl, hfirst⟩ := exists_qualified hdot
      rw [splitQualified?_append hfirst] at hsplit
      cases hsplit
      exact ⟨rfl, hfirst⟩
    · rw [splitQualified?_eq_none hdot] at hsplit
      cases hsplit
  · rintro ⟨rfl, hfirst⟩
    exact splitQualified?_append hfirst struct

structure RouteFacts where
  method : Spanned String
  path : Spanned String
  handler : Option NodeId
  request : Option TypeShape
  response : Option TypeShape
  doc : Option String
  annotations : List AnnotationFacts
deriving DecidableEq

/-- The name under which the route is indexed. -/
def RouteFacts.key (route : RouteFacts) : String :=
  routeKey route.method.val route.path.val

/-- The span that stands for a route in listings and complaints. -/
def RouteFacts.headSpan (route : RouteFacts) : Span :=
  route.method.span.union route.path.span

inductive NodeKind where
  | version (version : Spanned String)
  | info (properties : Properties)
  | importPath (path : Spanned String)
  | struct (name : Spanned String)
  | field (name : Spanned String) (type : TypeShape) (tag : Option (Spanned String))
  | embedded (pointer : Bool) (type : TypeShape)
  | service (name : Spanned String) (annotations : List AnnotationFacts)
      (options : ServerOptions)
  | route (route : RouteFacts)
  | handler (name : Spanned String)
  | typeRef (name : Spanned String) (role : ReferenceRole)
  | skipped (text : String)
deriving DecidableEq

namespace NodeKind

def label : NodeKind → String
  | .version .. => "syntax"
  | .info .. => "info"
  | .importPath .. => "import"
  | .struct .. => "struct"
  | .field .. => "field"
  | .embedded .. => "embedded field"
  | .service .. => "service"
  | .route .. => "route"
  | .handler .. => "handler"
  | .typeRef .. => "type reference"
  | .skipped .. => "error"

/-- The name a node declares or refers to. -/
def name? : NodeKind → Option (Spanned String)
  | .importPath name | .struct name | .field name .. | .service name .. | .handler name
  | .typeRef name _ => some name
  | .route facts => some facts.path
  | .version _ | .info _ | .embedded .. | .skipped _ => none

/-- The kind of declaration that a node is. -/
def declKind? : NodeKind → Option DeclKind
  | .struct _ => some .struct
  | .handler _ => some .handler
  | .route _ => some .route
  | .importPath _ => some .importPath
  | _ => none

def isService : NodeKind → Bool
  | .service .. => true
  | _ => false

/-- Nodes that point somewhere: uses of a type, and imports. -/
def isReference : NodeKind → Bool
  | .typeRef .. | .importPath _ => true
  | _ => false

end NodeKind

/-- How a place is shown. -/
def renderNodeId (id : NodeId) : String :=
  s!"#{id}"

structure Node where
  span : Span
  parent : Option NodeId
  children : List NodeId
  kind : NodeKind
deriving DecidableEq

/-- The span of the name a node declares: method and path for a route, and the
whole node for one without a name. -/
def Node.nameSpan (node : Node) : Span :=
  match node.kind with
  | .route facts => facts.headSpan
  | kind =>
    match kind.name? with
    | some name => name.span
    | none => node.span

/-- A file after analysis. -/
structure Document where
  path : String
  source : String
  nodes : Array Node
  items : List NodeId
  index : NameIndex
  diagnostics : List Diagnostic

namespace Document

def size (document : Document) : Nat :=
  document.nodes.size

def get? (document : Document) (id : NodeId) : Option Node :=
  document.nodes[id]?

/-- The nodes with their places. -/
def numbered (document : Document) : List (NodeId × Node) :=
  document.nodes.toList.zipIdx.map fun (node, id) => (id, node)

/-- The places of the nodes whose kind satisfies `test`, in source order. -/
def nodesWhere (document : Document) (test : NodeKind → Bool) : List NodeId :=
  (document.numbered.filter fun (_, node) => test node.kind).map Prod.fst

def declarationsOf (document : Document) (kind : DeclKind) : List NodeId :=
  document.nodesWhere fun node => node.declKind? == some kind

def services (document : Document) : List NodeId :=
  document.nodesWhere NodeKind.isService

/-- The reference that a cursor at `offset` touches, the first one if there are
two. -/
def referenceAt? (document : Document) (offset : Nat) : Option NodeId :=
  (document.numbered.find? fun (_, node) =>
    node.kind.isReference && node.span.touches offset).map Prod.fst

/-- The fields among the children of a node, without embedded types and skipped
lines. -/
def fields (document : Document) (node : Node) : List (NodeId × Spanned String) :=
  node.children.filterMap fun child =>
    match (document.get? child).map Node.kind with
    | some (.field name ..) => some (child, name)
    | _ => none

/-- The source text under a span, empty if the span is no slice of the source. -/
def text (document : Document) (span : Span) : String :=
  sliceText document.source.toList span

/-- The line and column of a byte offset. -/
def position (document : Document) (offset : Nat) : Position :=
  positionAt document.source.toList offset

end Document

end ApiLang
