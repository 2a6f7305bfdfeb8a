/-
TOML tables.  A document is a list of statements, and each of them adds to the
tree of tables or contradicts it.  A table remembers how it came about, because
that decides how it may grow.
-/

namespace ApiLang

/-- How a table came about: as a step of some header, as a step of a dotted key,
under its own header, or written out between braces. -/
inductive TomlOrigin where
  | headerStep
  | dottedStep
  | header
  | braces
deriving DecidableEq

/-- Values by what can be told about them.  Numbers and dates are kept as
written. -/
inductive TomlValue where
  | string (text : String)
  | boolean (value : Bool)
  | number (text : String)
  | date (text : String)
  | array (items : List TomlValue)
  | table (origin : TomlOrigin) (entries : List (String × TomlValue))
  | tables (elements : List (List (String × TomlValue)))

/-- The entries of one table, in the order of the source. -/
abbrev TomlEntries : Type :=
  List (String × TomlValue)

namespace TomlEntries

def find? (entries : TomlEntries) (key : String) : Option TomlValue :=
  (List.find? (fun entry => entry.1 == key) entries).map Prod.snd

/-- Replaces the value of a key in place. -/
def replace (entries : TomlEntries) (key : String) (value : TomlValue) : TomlEntries :=
  entries.map fun entry => if entry.1 == key then (key, value) else entry

/-- Adds a key that must be new. -/
def addNew (entries : TomlEntries) (key : String) (value : TomlValue) : Option TomlEntries :=
  match find? entries key with
  | some _ => none
  | none => some (entries ++ [(key, value)])

/-- Changes the last element of an array of tables. -/
def changeLast (change : TomlEntries → Option TomlEntries) (elements : List TomlEntries) :
    Option (List TomlEntries) :=
  match elements.getLast? with
  | none => none
  | some last => (change last).map fun changed => elements.dropLast ++ [changed]

/-- Assigns a value under a dotted key.  The tables on the way must not have a
header or braces of their own, and from then on they belong to dotted keys.  An
array of tables is entered at its last element, which takes no value itself;
`mayTake` tells whether this table does. -/
def assign (key : String) (value : TomlValue) :
    (path : List String) → (mayTake : Bool) → TomlEntries → Option TomlEntries
  | [], mayTake, entries => if mayTake then addNew entries key value else none
  | step :: path, _, entries =>
    match find? entries step with
    | none =>
      (assign key value path true []).map fun inner =>
        entries ++ [(step, .table .dottedStep inner)]
    | some (.table .dottedStep inner) | some (.table .headerStep inner) =>
      (assign key value path true inner).map fun inner =>
        replace entries step (.table .dottedStep inner)
    | some (.tables elements) =>
      (changeLast (assign key value path false) elements).map fun elements =>
        replace entries step (.tables elements)
    | some _ => none

/-- Changes the table at the end of a header's steps.  Tables on the way are made
as needed, and an array of tables is entered at its last element. -/
def changeAt (change : TomlEntries → Option TomlEntries) :
    (path : List String) → TomlEntries → Option TomlEntries
  | [], entries => change entries
  | step :: path, entries =>
    match find? entries step with
    | none =>
      (changeAt change path []).map fun inner =>
        entries ++ [(step, .table .headerStep inner)]
    | some (.table .braces _) => none
    | some (.table origin inner) =>
      (changeAt change path inner).map fun inner =>
        replace entries step (.table origin inner)
    | some (.tables elements) =>
      (changeLast (changeAt change path) elements).map fun elements =>
        replace entries step (.tables elements)
    | some _ => none

/-- Opens a table under its own header, which it can have only once. -/
def openTable (key : String) (entries : TomlEntries) : Option TomlEntries :=
  match find? entries key with
  | none => some (entries ++ [(key, .table .header [])])
  | some (.table .headerStep inner) => some (replace entries key (.table .header inner))
  | some _ => none

/-- Opens a new element of an array of tables. -/
def openElement (key : String) (entries : TomlEntries) : Option TomlEntries :=
  match find? entries key with
  | none => some (entries ++ [(key, .tables [[]])])
  | some (.tables elements) => some (replace entries key (.tables (elements ++ [[]])))
  | some _ => none

end TomlEntries

/-- A key with the steps that lead to it. -/
structure TomlKey where
  path : List String
  name : String
deriving DecidableEq

def TomlKey.steps (key : TomlKey) : List String :=
  key.path ++ [key.name]

inductive TomlStatement where
  | assign (key : TomlKey) (value : TomlValue)
  | header (key : TomlKey)
  | elementHeader (key : TomlKey)

/-- The tables so far, and the steps to the one that takes assignments. -/
structure TomlTree where
  entries : TomlEntries := []
  current : List String := []

/-- The tree after one more statement, or nothing if the statement contradicts
it. -/
def TomlTree.add (tree : TomlTree) : TomlStatement → Option TomlTree
  | .assign key value => do
    let change := TomlEntries.assign key.name value key.path true
    return { tree with entries := ← TomlEntries.changeAt change tree.current tree.entries }
  | .header key => do
    let change := TomlEntries.openTable key.name
    return {
      entries := ← TomlEntries.changeAt change key.path tree.entries
      current := key.steps }
  | .elementHeader key => do
    let change := TomlEntries.openElement key.name
    return {
      entries := ← TomlEntries.changeAt change key.path tree.entries
      current := key.steps }

/-- The root table of a document. -/
def tomlTable (statements : List TomlStatement) : Option TomlEntries :=
  (statements.foldlM TomlTree.add {}).map TomlTree.entries

end ApiLang
