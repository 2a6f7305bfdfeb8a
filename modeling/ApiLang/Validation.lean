/-
Validation of a document.  Each rule looks at the document on its own and
reports every occurrence it finds.  The document's own diagnostics are part of
the result, so that one list holds all there is to say about a file.
-/
import ApiLang.Resolution

namespace ApiLang

/-- The place at which a complaint about a declaration points. -/
def Document.nameSpanOf (document : Document) (id : NodeId) : Span :=
  match document.get? id with
  | some node => node.nameSpan
  | none => Span.empty 0

/-- The complaint about one of several declarations of a name. -/
def duplicateDeclaration (document : Document) (kind : DeclKind) (code : DiagnosticCode)
    (name : String) (nodes : List NodeId) (node : NodeId) : Diagnostic :=
  let others := nodes.filter (· != node)
  ((Diagnostic.located .error code s!"duplicate {kind.text} `{name}`"
    (document.nameSpanOf node) s!"{kind.text} declared here").alsoAt
    (others.map document.nameSpanOf) "also declared here").withHelp
    s!"rename or remove one of the {nodes.length} declarations"

/-- Names of one kind must not be declared twice.  Every declaration of such a
name is reported. -/
def duplicateDeclarations (document : Document) (kind : DeclKind) (code : DiagnosticCode) :
    List Diagnostic :=
  (document.index.duplicates kind).flatMap fun (name, nodes) =>
    nodes.map (duplicateDeclaration document kind code name nodes)

/-- The complaint about one of several fields of a name. -/
def duplicateField (name : String) (spans : List Span) (span : Span) : Diagnostic :=
  (Diagnostic.located .error .duplicateField s!"duplicate field `{name}`" span
    "field declared here").alsoAt (spans.filter (· != span)) "also declared here"

/-- The named fields of a struct, gathered by name. -/
def Document.fieldsByName (document : Document) (struct : Node) :
    OrderedMap String (List Span) :=
  let named := (document.fields struct).filter fun (_, name) => !name.val.isEmpty
  .group (named.map fun (_, name) => (name.val, name.span))

def duplicateFieldsOf (document : Document) (struct : Node) : List Diagnostic :=
  ((document.fieldsByName struct).entries.filter fun (_, spans) => 1 < spans.length).flatMap
    fun (name, spans) => spans.map (duplicateField name spans)

/-- Field names must differ within a struct. -/
def duplicateFields (document : Document) : List Diagnostic :=
  ((document.declarationsOf .struct).filterMap document.get?).flatMap
    (duplicateFieldsOf document)

/-- How a type name without a declaration can be mended. -/
def unknownTypeHelp (name : String) : String :=
  match splitQualified? name with
  | some (qualifier, _) => s!"import a `{qualifier}.api` file that declares the type"
  | none => "declare the type with `type` or fix the name"

/-- Only candidates in this file have a place in it. -/
def candidateSpans (document : Document) (targets : List Target) : List Span :=
  targets.filterMap fun
    | .localNode node => some (document.nameSpanOf node)
    | _ => none

/-- What there is to say about the use of a type, by what it points at. -/
def referenceComplaint (document : Document) (name : String) (span : Span) :
    Resolution → List Diagnostic
  | .resolved _ => []
  | .unresolved =>
    [(Diagnostic.located .error .unresolvedReference s!"unknown type `{name}`" span
      "not declared").withHelp (unknownTypeHelp name)]
  | .ambiguous targets =>
    [(Diagnostic.located .error .ambiguousReference
      s!"ambiguous type `{name}`: {targets.length} declarations" span
      "refers to more than one declaration").alsoAt
      (candidateSpans document targets) "candidate"]

/-- Every use of a type must point at one declaration. -/
def checkReference (loader : Loader) (document : Document) (id : NodeId) (node : Node) :
    Importing (List Diagnostic) :=
  match node.kind with
  | .typeRef name _ =>
    return referenceComplaint document name.val node.span (← resolve loader document id)
  | _ => return []

/-- Every import that names a path must be readable. -/
def checkImport (loader : Loader) (document : Document) (node : Node) :
    Importing (List Diagnostic) := do
  match node.kind with
  | .importPath written =>
    if written.val.isEmpty then return []
    match ← importDocument loader document written.val with
    | .ok _ => return []
    | .error fault =>
      return [Diagnostic.located .error .unresolvedImport
        s!"cannot resolve import `{written.val}`" written.span fault.message]
  | _ => return []

/-- The faults that can be seen in the document alone. -/
def localComplaints (document : Document) : List Diagnostic :=
  document.diagnostics ++ duplicateDeclarations document .struct .duplicateStruct ++
    duplicateDeclarations document .handler .duplicateHandler ++
    duplicateDeclarations document .route .duplicateRoute ++ duplicateFields document

/-- The faults that depend on imports, uses of types before imports. -/
def importComplaints (loader : Loader) (document : Document) :
    Importing (List Diagnostic) := do
  let uses ← document.numbered.mapM fun (id, node) => checkReference loader document id node
  let imports ← document.numbered.mapM fun (_, node) => checkImport loader document node
  return uses.flatten ++ imports.flatten

/-- All there is to say about a document, in the order of the source, together
with what was imported for it. -/
def validateImporting (loader : Loader) (document : Document) :
    Importing (List Diagnostic) := do
  let imported ← importComplaints loader document
  return Diagnostic.sortByPlace (localComplaints document ++ imported)

/-- All there is to say about a document, in the order of the source. -/
def validate (loader : Loader) (document : Document) : List Diagnostic :=
  (validateImporting loader document |>.run {}).1

end ApiLang
