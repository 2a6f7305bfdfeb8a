/-
Values of annotations in canonical form.  One item is a text and several are a
list, whether quoted or bare, and the keys that stand for a choice between yes
and no take a truth value.
-/
import ApiLang.Diagnostic
import ApiLang.OrderedMap
import ApiLang.Tree

namespace ApiLang

inductive Value where
  | bool (value : Bool)
  | text (text : String)
  | list (items : List String)
deriving DecidableEq

namespace Value

def asText? : Value → Option String
  | .text content => some content
  | _ => none

def asBool? : Value → Option Bool
  | .bool truth => some truth
  | _ => none

/-- The value as a list: a text is its only item unless it is empty, and a truth
value has none. -/
def items : Value → List String
  | .text content => if content.isEmpty then [] else [content]
  | .list texts => texts
  | .bool _ => []

def render : Value → String
  | .bool true => "true"
  | .bool false => "false"
  | .text content => content
  | .list texts => ", ".intercalate texts

end Value

/-- Keys whose value must be `true` or `false`. -/
def booleanKeys : List String :=
  ["compact_handler", "signature"]

/-- No item is the empty text, one item its text, several their list. -/
def Value.ofItems : List String → Value
  | [] => .text ""
  | [item] => .text item
  | items => .list items

/-- The truth value a value spells, if it spells one. -/
def Value.truth? : Value → Option Bool
  | .text "true" => some true
  | .text "false" => some false
  | _ => none

/-- The canonical form of what was written under a key. -/
def canonicalValue (key : String) (value : ValueList) : Value :=
  let plain := Value.ofItems (value.items.map fun item => item.val.text)
  if booleanKeys.contains key then
    match plain.truth? with
    | some truth => .bool truth
    | none => plain
  else plain

/-- A key for a truth value that has none keeps its text and is warned about. -/
def valueWarning (key : String) (value : ValueList) : List Diagnostic :=
  let found := canonicalValue key value
  if booleanKeys.contains key && found.asBool?.isNone then
    [(Diagnostic.located .warning .invalidAnnotationValue
      ("`" ++ key ++ "` expects `true` or `false`, found `" ++ found.render ++ "`")
      value.span "not a boolean").withHelp "write `true` or `false`"]
  else []

/-- Canonical values by key.  A repeated key keeps its first place and its last
value. -/
abbrev Properties : Type :=
  OrderedMap String (Spanned Value)

def canonicalEntries (entries : List KeyValue) : Properties :=
  .ofList (entries.map fun entry =>
    (entry.key.val, ⟨canonicalValue entry.key.val entry.value, entry.value.span⟩))

def entryWarnings (entries : List KeyValue) : List Diagnostic :=
  entries.flatMap fun entry => valueWarning entry.key.val entry.value

/-- An annotation with its values in canonical form: the value of the inline
form, and the entries of the block form. -/
structure AnnotationFacts where
  name : Spanned String
  value : Option (Spanned Value)
  properties : Properties
  span : Span
deriving DecidableEq

/-- The canonical form of an annotation. -/
def AnnotationFacts.ofTree (note : Annotation) : AnnotationFacts :=
  let facts (value : Option (Spanned Value)) (properties : Properties) : AnnotationFacts :=
    { name := note.name, value, properties, span := note.span }
  match note.body with
  | .empty => facts none .empty
  | .inline value => facts (some ⟨canonicalValue note.name.val value, value.span⟩) .empty
  | .block entries => facts none (canonicalEntries entries)

def AnnotationFacts.get? (facts : AnnotationFacts) (key : String) : Option Value :=
  (facts.properties.find? key).map Spanned.val

/-- The warnings about one annotation.  An inline value is judged by the name of
the annotation. -/
def annotationWarnings (note : Annotation) : List Diagnostic :=
  match note.body with
  | .empty => []
  | .inline value => valueWarning note.name.val value
  | .block entries => entryWarnings entries

/-- The options of a service. -/
structure ServerOptions where
  properties : OrderedMap String Value
deriving DecidableEq

namespace ServerOptions

/-- Options are merged from all `server` annotations, as one list of entries. -/
def ofAnnotations (annotations : List AnnotationFacts) : ServerOptions :=
  let server := annotations.filter fun facts => facts.name.val == "server"
  ⟨.ofList (server.flatMap fun facts =>
    facts.properties.entries.map fun entry => (entry.1, entry.2.val))⟩

def get? (options : ServerOptions) (key : String) : Option Value :=
  options.properties.find? key

def text? (options : ServerOptions) (key : String) : Option String :=
  (options.get? key).bind Value.asText?

def group? (options : ServerOptions) : Option String :=
  options.text? "group"

def pathPrefix? (options : ServerOptions) : Option String :=
  options.text? "prefix"

def jwt? (options : ServerOptions) : Option String :=
  options.text? "jwt"

def middleware (options : ServerOptions) : List String :=
  match options.get? "middleware" with
  | some value => value.items
  | none => []

def compactHandler? (options : ServerOptions) : Option Bool :=
  (options.get? "compact_handler").bind Value.asBool?

end ServerOptions

end ApiLang
