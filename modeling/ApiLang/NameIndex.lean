/-
The name index: which nodes declare a name.  Declarations of one name are
gathered, never overwritten, so that a name with more than one is a duplicate.
-/
import ApiLang.OrderedMap

namespace ApiLang

/-- The place of a node in its document. -/
abbrev NodeId : Type :=
  Nat

/-- Kinds of declarations that can be looked up by name.  A route is known by its
method and path, an import by its path as written. -/
inductive DeclKind where
  | struct
  | handler
  | route
  | importPath
deriving DecidableEq

namespace DeclKind

def all : List DeclKind :=
  [.struct, .handler, .route, .importPath]

def text : DeclKind → String
  | .struct => "struct"
  | .handler => "handler"
  | .route => "route"
  | .importPath => "import"

def ofText? (text : String) : Option DeclKind :=
  all.find? fun kind => kind.text == text

end DeclKind

/-- The name of a route: its method in lower case and its path. -/
def routeKey (method path : String) : String :=
  method.toLower ++ " " ++ path

/-- Declaring nodes by kind and name, names in the order of their first
declaration and nodes in the order in which they came. -/
structure NameIndex where
  structs : OrderedMap String (List NodeId) := .empty
  handlers : OrderedMap String (List NodeId) := .empty
  routes : OrderedMap String (List NodeId) := .empty
  imports : OrderedMap String (List NodeId) := .empty

namespace NameIndex

def ofKind (index : NameIndex) : DeclKind → OrderedMap String (List NodeId)
  | .struct => index.structs
  | .handler => index.handlers
  | .route => index.routes
  | .importPath => index.imports

/-- Adds a node to those that declare `name`. -/
def insert (index : NameIndex) (kind : DeclKind) (name : String) (node : NodeId) : NameIndex :=
  match kind with
  | .struct => { index with structs := index.structs.append name node }
  | .handler => { index with handlers := index.handlers.append name node }
  | .route => { index with routes := index.routes.append name node }
  | .importPath => { index with imports := index.imports.append name node }

/-- All nodes that declare `name` as `kind`. -/
def lookup (index : NameIndex) (kind : DeclKind) (name : String) : List NodeId :=
  ((index.ofKind kind).find? name).getD []

/-- The names of one kind with their nodes. -/
def entries (index : NameIndex) (kind : DeclKind) : List (String × List NodeId) :=
  (index.ofKind kind).entries

/-- The names of one kind that are declared more than once. -/
def duplicates (index : NameIndex) (kind : DeclKind) : List (String × List NodeId) :=
  (index.entries kind).filter fun (_, nodes) => 1 < nodes.length

/-- The number of distinct names, counted per kind. -/
def size (index : NameIndex) : Nat :=
  index.structs.size + index.handlers.size + index.routes.size + index.imports.size

@[ext] theorem ext_ofKind {left right : NameIndex}
    (hkinds : ∀ kind, left.ofKind kind = right.ofKind kind) : left = right := by
  have hstructs := hkinds .struct
  have hhandlers := hkinds .handler
  have hroutes := hkinds .route
  have himports := hkinds .importPath
  cases left
  cases right
  simp_all [ofKind]

/-- A node joins the map of its kind. -/
@[simp] theorem ofKind_insert_self (index : NameIndex) (kind : DeclKind) (name : String)
    (node : NodeId) :
    (index.insert kind name node).ofKind kind = (index.ofKind kind).append name node := by
  cases kind <;> rfl

/-- The maps of the other kinds stay as they are. -/
theorem ofKind_insert_of_ne (index : NameIndex) {kind other : DeclKind} (differ : other ≠ kind)
    (name : String) (node : NodeId) :
    (index.insert kind name node).ofKind other = index.ofKind other := by
  cases kind <;> cases other <;> first | rfl | exact absurd rfl differ

end NameIndex

end ApiLang
