/-
What the references of a document point at.  Imported files are read through a
loader and remembered under the normal form of their path, failures included, so
that one document is read once however often it is asked for.
-/
import ApiLang.Document.Build
import ApiLang.Loader

namespace ApiLang

/-- Why an import has no document. -/
inductive ImportFault where
  | notApi (path : Path)
  | unreadable (path : Path) (fault : ReadFault)
deriving DecidableEq

def ImportFault.message : ImportFault → String
  | .notApi path => s!"`{path.render}` is not an `.api` file"
  | .unreadable path fault => s!"cannot read `{path.render}`: {fault.text}"

/-- The imports answered so far, and the paths for which the loader was asked, in
order. -/
structure ImportCache where
  known : OrderedMap Path (Except ImportFault Document) := .empty
  loads : List Path := []

/-- Computations that import documents. -/
abbrev Importing : Type → Type :=
  StateM ImportCache

/-- The normal form of an import path, which starts at the directory of the
importing file. -/
def Document.importTarget (document : Document) (written : String) : Path :=
  let directory := (Path.ofText document.path).parent?.getD .empty
  (directory.join (Path.ofText written)).normalize

/-- Only `.api` files are read. -/
def isApiPath (path : Path) : Bool :=
  path.extension? == some "api"

/-- Asks the loader for a source, and notes that it was asked. -/
def askLoader (loader : Loader) (path : Path) : Importing (Except ReadFault String) :=
  fun cache => (loader path, { cache with loads := cache.loads ++ [path] })

/-- The document at a path in normal form, read anew. -/
def readDocument (loader : Loader) (path : Path) : Importing (Except ImportFault Document) := do
  if !isApiPath path then return .error (.notApi path)
  match ← askLoader loader path with
  | .ok source => return .ok (Document.parse source path.render)
  | .error fault => return .error (.unreadable path fault)

/-- The document at a path in normal form, read only if it is not known yet. -/
def recallDocument (loader : Loader) (path : Path) :
    Importing (Except ImportFault Document) := do
  if let some answer := (← get).known.find? path then return answer
  let answer ← readDocument loader path
  modify fun cache => { cache with known := cache.known.set path answer }
  return answer

/-- The document that an import path names, as written in `document`. -/
def importDocument (loader : Loader) (document : Document) (written : String) :
    Importing (Except ImportFault Document) :=
  recallDocument loader (document.importTarget written)

/-- What a reference points at: a node of its own document, a node of an imported
one, or an imported document as a whole. -/
inductive Target where
  | localNode (node : NodeId)
  | externalNode (document : Document) (node : NodeId)
  | wholeDocument (document : Document)

namespace Target

def node? : Target → Option NodeId
  | .localNode node | .externalNode _ node => some node
  | .wholeDocument _ => none

/-- The document in which the target stands, for a reference in `home`. -/
def documentFrom (home : Document) : Target → Document
  | .localNode _ => home
  | .externalNode document _ | .wholeDocument document => document

end Target

inductive Resolution where
  | resolved (target : Target)
  | unresolved
  | ambiguous (targets : List Target)

namespace Resolution

/-- A reference is resolved by a single candidate.  Of several none is
preferred. -/
def ofTargets : List Target → Resolution
  | [] => .unresolved
  | [target] => .resolved target
  | targets => .ambiguous targets

def targets : Resolution → List Target
  | .resolved target => [target]
  | .unresolved => []
  | .ambiguous candidates => candidates

def target? : Resolution → Option Target
  | .resolved target => some target
  | _ => none

def isResolved (resolution : Resolution) : Bool :=
  resolution.target?.isSome

end Resolution

/-- The nodes of `document` that declare `name` as `kind`. -/
def localTargets (document : Document) (kind : DeclKind) (name : String) : List Target :=
  (document.index.lookup kind name).map .localNode

/-- The structs called `name` in an imported document, none if the import
fails. -/
def externalStructs (name : String) : Except ImportFault Document → List Target
  | .ok document => (document.index.lookup .struct name).map (.externalNode document)
  | .error _ => []

/-- The import paths whose file is called `qualifier`, each once. -/
def Document.importsNamed (document : Document) (qualifier : String) : List String :=
  ((document.index.entries .importPath).map Prod.fst).filter fun written =>
    (Path.ofText written).fileStem? == some qualifier

/-- The declarations a type name can mean.  A plain name is looked up in its own
document only, and `pkg.Name` only in the imports called `pkg`. -/
def typeTargets (loader : Loader) (document : Document) (name : String) :
    Importing (List Target) := do
  match splitQualified? name with
  | none => return localTargets document .struct name
  | some (qualifier, struct) =>
    let imported ← (document.importsNamed qualifier).mapM (importDocument loader document)
    return imported.flatMap (externalStructs struct)

/-- The document that an import names, if it names one and can be read. -/
def importTargets (loader : Loader) (document : Document) (written : String) :
    Importing (List Target) := do
  if written.isEmpty then return []
  match ← importDocument loader document written with
  | .ok imported => return [.wholeDocument imported]
  | .error _ => return []

/-- Everything a node can point at.  Uses of types point at structs, handlers at
the handlers of their name and imports at documents. -/
def candidates (loader : Loader) (document : Document) (id : NodeId) :
    Importing (List Target) :=
  match (document.get? id).map Node.kind with
  | some (.typeRef name _) => typeTargets loader document name.val
  | some (.handler name) => return localTargets document .handler name.val
  | some (.importPath written) => importTargets loader document written.val
  | _ => return []

/-- What the node at place `id` points at. -/
def resolve (loader : Loader) (document : Document) (id : NodeId) : Importing Resolution :=
  return .ofTargets (← candidates loader document id)

end ApiLang
