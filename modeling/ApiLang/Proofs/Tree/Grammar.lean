/-
The grammar as a relation.  Each production says which rows of lexemes, placed
from some byte on, spell a piece of the tree, with every text and span of that
piece.  No production looks at the rest of the source, and the order in which
alternatives are tried plays no part.
-/
import ApiLang.Proofs.Token.Placing
import ApiLang.Tree.File

namespace ApiLang

variable {α : Type}

/-- The name that lexemes spell, as written. -/
def nameAt (start : Nat) (run : List Lexeme) : Spanned String :=
  ⟨String.ofList (textOf run), spanAt start run⟩

/-- A row of white space, line breaks and comments. -/
def AllTrivia (run : List Lexeme) : Prop :=
  ∀ lexeme ∈ run, lexeme.token.isTrivia = true

/-- A row of trivia that stays on its line. -/
def AllInline (run : List Lexeme) : Prop :=
  ∀ lexeme ∈ run, lexeme.token.isInlineTrivia = true

theorem AllInline.append {left right : List Lexeme} (hleft : AllInline left)
    (hright : AllInline right) : AllInline (left ++ right) := by
  intro lexeme hlexeme
  rcases List.mem_append.mp hlexeme with hlexeme | hlexeme
  · exact hleft lexeme hlexeme
  · exact hright lexeme hlexeme

/-- A row that starts and ends with more than trivia. -/
def Solid (run : List Lexeme) : Prop :=
  (∃ first ∈ run.head?, first.token.isTrivia = false) ∧
    ∃ last ∈ run.getLast?, last.token.isTrivia = false

theorem Solid.ne_nil {run : List Lexeme} (hsolid : Solid run) : run ≠ [] := by
  rintro rfl
  obtain ⟨⟨first, hfirst, _⟩, _⟩ := hsolid
  cases hfirst

/-- `.name` any number of times. -/
inductive NameTail : List Lexeme → Prop
  | nil : NameTail []
  | cons {dot part : Lexeme} {tail : List Lexeme} (hdot : dot.token = .punct .dot)
      (hpart : isIdentifier part.token = true) (htail : NameTail tail) :
      NameTail (dot :: part :: tail)

/-- `Name` or `pkg.Name`. -/
inductive SpellsName (start : Nat) : List Lexeme → Spanned String → Prop
  | intro {first : Lexeme} {tail : List Lexeme} (hfirst : isIdentifier first.token = true)
      (htail : NameTail tail) : SpellsName start (first :: tail) (nameAt start (first :: tail))

inductive SpellsType : Nat → List Lexeme → TypeExpr → Prop
  | named {start : Nat} {run : List Lexeme} {name : Spanned String}
      (hname : SpellsName start run name) : SpellsType start run (.named name)
  | pointer {start : Nat} {star : Lexeme} {run : List Lexeme} {inner : TypeExpr}
      (hstar : star.token = .punct .star)
      (hinner : SpellsType (start + widthOf [star]) run inner) :
      SpellsType start (star :: run) (.pointer inner (spanAt start (star :: run)))
  | slice {start : Nat} {opener close : Lexeme} {run : List Lexeme} {element : TypeExpr}
      (hopener : opener.token = .punct .leftBracket) (hclose : close.token = .punct .rightBracket)
      (helement : SpellsType (start + widthOf [opener, close]) run element) :
      SpellsType start (opener :: close :: run)
        (.slice none element (spanAt start (opener :: close :: run)))
  | array {start : Nat} {opener number close : Lexeme} {digits : String} {run : List Lexeme}
      {element : TypeExpr} (hopener : opener.token = .punct .leftBracket)
      (hnumber : number.token = .number digits) (hclose : close.token = .punct .rightBracket)
      (helement : SpellsType (start + widthOf [opener, number, close]) run element) :
      SpellsType start (opener :: number :: close :: run)
        (.slice (some ⟨digits, spanAt (start + widthOf [opener]) [number]⟩) element
          (spanAt start (opener :: number :: close :: run)))
  | map {start : Nat} {word opener close : Lexeme} {keyRun run : List Lexeme}
      {key value : TypeExpr} (hword : word.token = .identifier "map")
      (hopener : opener.token = .punct .leftBracket)
      (hkey : SpellsType (start + widthOf [word, opener]) keyRun key)
      (hclose : close.token = .punct .rightBracket)
      (hvalue : SpellsType (start + widthOf (word :: opener :: (keyRun ++ [close]))) run value) :
      SpellsType start (word :: opener :: (keyRun ++ close :: run))
        (.map key value (spanAt start (word :: opener :: (keyRun ++ close :: run))))
  | interface {start : Nat} {word opener close : Lexeme} {gap : List Lexeme}
      (hword : word.token = .identifier "interface") (hopener : opener.token = .punct .leftBrace)
      (hgap : AllInline gap) (hclose : close.token = .punct .rightBrace) :
      SpellsType start (word :: opener :: (gap ++ [close]))
        (.interface (spanAt start (word :: opener :: (gap ++ [close]))))

/-- One item of a value.  A bare item is written without the trivia behind it. -/
inductive SpellsItem (start : Nat) : List Lexeme → Spanned ValueItem → Prop
  | quoted {lexeme : Lexeme} {text : String} (htoken : lexeme.token = .string text) :
      SpellsItem start [lexeme] ⟨.quoted text, spanAt start [lexeme]⟩
  | bare {core trail : List Lexeme} (hsolid : Solid core)
      (hfirst : ∀ first ∈ core.head?, ∀ text, first.token ≠ .string text)
      (hcore : ∀ lexeme ∈ core, endsValue lexeme.token = false) (htrail : AllTrivia trail) :
      SpellsItem start (core ++ trail) ⟨.bare (String.ofList (textOf core)), spanAt start core⟩

/-- Items separated by commas; a comma may also stand behind the last. -/
inductive SpellsItems : Nat → List Lexeme → List (Spanned ValueItem) → Prop
  | nil {start : Nat} {gap : List Lexeme} (hgap : AllInline gap) : SpellsItems start gap []
  | last {start : Nat} {gap run trail : List Lexeme} {item : Spanned ValueItem}
      (hgap : AllInline gap) (hitem : SpellsItem (start + widthOf gap) run item)
      (htrail : AllInline trail) : SpellsItems start (gap ++ (run ++ trail)) [item]
  | more {start : Nat} {gap run trail others : List Lexeme} {comma : Lexeme}
      {item : Spanned ValueItem} {items : List (Spanned ValueItem)} (hgap : AllInline gap)
      (hitem : SpellsItem (start + widthOf gap) run item) (htrail : AllInline trail)
      (hcomma : comma.token = .punct .comma)
      (hitems : SpellsItems (start + widthOf (gap ++ (run ++ (trail ++ [comma])))) others items) :
      SpellsItems start (gap ++ (run ++ (trail ++ comma :: others))) (item :: items)

/-- The span of a value: that of its items, or the empty one at `stop`. -/
def itemsSpan (stop : Nat) (items : List (Spanned ValueItem)) : Span :=
  match items.head?, items.getLast? with
  | some first, some last => first.span.union last.span
  | _, _ => Span.empty stop

inductive SpellsValue (start : Nat) : List Lexeme → ValueList → Prop
  | intro {run : List Lexeme} {items : List (Spanned ValueItem)}
      (hitems : SpellsItems start run items) :
      SpellsValue start run ⟨items, itemsSpan (start + widthOf run) items⟩

/-- `key: value`, where the key is no word that opens a declaration. -/
inductive SpellsKeyValue (start : Nat) : List Lexeme → KeyValue → Prop
  | intro {key colon : Lexeme} {text : String} {gap run : List Lexeme} {value : ValueList}
      (hkey : key.token.word? = some text) (hplain : isDeclarationKeyword key.token = false)
      (hgap : AllInline gap) (hcolon : colon.token = .punct .colon)
      (hvalue : SpellsValue (start + widthOf (key :: (gap ++ [colon]))) run value) :
      SpellsKeyValue start (key :: (gap ++ colon :: run))
        ⟨⟨text, spanAt start [key]⟩, value, (spanAt start [key]).union
          (if value.items.isEmpty then spanAt (start + widthOf (key :: gap)) [colon]
            else value.span)⟩

/-- Items with trivia around them, up to and including a closing parenthesis. -/
inductive SpellsListed (Item : Nat → List Lexeme → α → Prop) :
    Nat → List Lexeme → List α → Prop
  | close {start : Nat} {gap : List Lexeme} {close : Lexeme} (hgap : AllTrivia gap)
      (hclose : close.token = .punct .rightParen) : SpellsListed Item start (gap ++ [close]) []
  | item {start : Nat} {gap run rest : List Lexeme} {item : α} {items : List α}
      (hgap : AllTrivia gap) (hitem : Item (start + widthOf gap) run item)
      (hitems : SpellsListed Item (start + widthOf (gap ++ run)) rest items) :
      SpellsListed Item start (gap ++ (run ++ rest)) (item :: items)

/-- `@name`, `@name value` or `@name ( key: value ... )`.  A value does not start
with a parenthesis. -/
inductive SpellsAnnotation (start : Nat) : List Lexeme → Annotation → Prop
  | empty {sign name : Lexeme} {text : String} (hsign : sign.token = .punct .atSign)
      (hname : name.token.word? = some text) :
      SpellsAnnotation start [sign, name]
        ⟨⟨text, spanAt (start + widthOf [sign]) [name]⟩, .empty, spanAt start [sign, name]⟩
  | inline {sign name : Lexeme} {text : String} {run : List Lexeme} {value : ValueList}
      (hsign : sign.token = .punct .atSign) (hname : name.token.word? = some text)
      (hplain : ∀ gap first others, run = gap ++ first :: others → AllInline gap →
        first.token ≠ .punct .leftParen)
      (hvalue : SpellsValue (start + widthOf [sign, name]) run value) :
      SpellsAnnotation start (sign :: name :: run)
        ⟨⟨text, spanAt (start + widthOf [sign]) [name]⟩, .inline value,
          (spanAt start [sign]).union
            (if value.items.isEmpty then spanAt (start + widthOf [sign]) [name]
              else value.span)⟩
  | block {sign name opener : Lexeme} {text : String} {gap run : List Lexeme}
      {entries : List KeyValue} (hsign : sign.token = .punct .atSign)
      (hname : name.token.word? = some text) (hgap : AllInline gap)
      (hopener : opener.token = .punct .leftParen)
      (hentries : SpellsListed SpellsKeyValue
        (start + widthOf (sign :: name :: (gap ++ [opener]))) run entries) :
      SpellsAnnotation start (sign :: name :: (gap ++ opener :: run))
        ⟨⟨text, spanAt (start + widthOf [sign]) [name]⟩, .block entries,
          spanAt start (sign :: name :: (gap ++ opener :: run))⟩

/-- Annotations in a row, each with the trivia behind it. -/
inductive SpellsAnnotations : Nat → List Lexeme → List Annotation → Prop
  | nil {start : Nat} : SpellsAnnotations start [] []
  | cons {start : Nat} {run gap rest : List Lexeme} {note : Annotation}
      {notes : List Annotation} (hnote : SpellsAnnotation start run note) (hgap : AllTrivia gap)
      (hnotes : SpellsAnnotations (start + widthOf (run ++ gap)) rest notes) :
      SpellsAnnotations start (run ++ (gap ++ rest)) (note :: notes)

/-- A line of a struct body. -/
inductive SpellsMember (start : Nat) : List Lexeme → Member → Prop
  | pointer {star : Lexeme} {run trail : List Lexeme} {name : Spanned String}
      (hstar : star.token = .punct .star) (hname : SpellsName (start + widthOf [star]) run name)
      (htrail : AllInline trail) :
      SpellsMember start (star :: (run ++ trail))
        (.embedded ⟨true, name, spanAt start (star :: run)⟩)
  | embedded {run trail : List Lexeme} {name : Spanned String} (hname : SpellsName start run name)
      (htrail : AllInline trail) :
      SpellsMember start (run ++ trail) (.embedded ⟨false, name, spanAt start run⟩)
  | field {run gap typeRun trail : List Lexeme} {name : Spanned String} {type : TypeExpr}
      (hname : SpellsName start run name) (hplain : '.' ∉ name.val.toList) (hgap : AllInline gap)
      (htype : SpellsType (start + widthOf (run ++ gap)) typeRun type) (htrail : AllInline trail) :
      SpellsMember start (run ++ (gap ++ (typeRun ++ trail)))
        (.field ⟨name, type, none, spanAt start (run ++ (gap ++ typeRun))⟩)
  | tagged {run gap typeRun space trail : List Lexeme} {tag : Lexeme} {text : String}
      {name : Spanned String} {type : TypeExpr} (hname : SpellsName start run name)
      (hplain : '.' ∉ name.val.toList) (hgap : AllInline gap)
      (htype : SpellsType (start + widthOf (run ++ gap)) typeRun type) (hspace : AllInline space)
      (htag : tag.token = .rawString text) (htrail : AllInline trail) :
      SpellsMember start (run ++ (gap ++ (typeRun ++ (space ++ tag :: trail))))
        (.field ⟨name, type,
          some ⟨text, spanAt (start + widthOf (run ++ (gap ++ (typeRun ++ space)))) [tag]⟩,
          spanAt start (run ++ (gap ++ (typeRun ++ (space ++ [tag]))))⟩)

/-- Skipped input.  An invalid token at which reading got stuck lies within it. -/
inductive SpellsSkipped (start : Nat) : List Lexeme → Skipped → Prop
  | intro {core trail : List Lexeme} {input : Skipped} (hsolid : Solid core)
      (htrail : AllTrivia trail) (htext : input.text = String.ofList (textOf core))
      (hspan : input.span = spanAt start core)
      (hfound : ∀ placed ∈ input.found, placed.token.isInvalid = true →
        placed ∈ placeLexemes start core) :
      SpellsSkipped start (core ++ trail) input

/-- The entries of a body, or of a file, with trivia around them.  What spells no
entry is skipped. -/
inductive SpellsEntries (Item : Nat → List Lexeme → α → Prop) (skip : Skipped → α) :
    Nat → List Lexeme → List α → Prop
  | nil {start : Nat} {gap : List Lexeme} (hgap : AllTrivia gap) :
      SpellsEntries Item skip start gap []
  | item {start : Nat} {gap run rest : List Lexeme} {item : α} {items : List α}
      (hgap : AllTrivia gap) (hitem : Item (start + widthOf gap) run item)
      (hitems : SpellsEntries Item skip (start + widthOf (gap ++ run)) rest items) :
      SpellsEntries Item skip start (gap ++ (run ++ rest)) (item :: items)
  | skipped {start : Nat} {gap run rest : List Lexeme} {input : Skipped} {items : List α}
      (hgap : AllTrivia gap) (hinput : SpellsSkipped (start + widthOf gap) run input)
      (hitems : SpellsEntries Item skip (start + widthOf (gap ++ run)) rest items) :
      SpellsEntries Item skip start (gap ++ (run ++ rest)) (skip input :: items)

/-- Entries between an opening and a closing mark.  The closing mark may be
missing. -/
inductive SpellsBlock (Item : Nat → List Lexeme → α → Prop) (skip : Skipped → α)
    (opening closing : Punct) (start : Nat) : List Lexeme → Block α → Prop
  | closed {opener close : Lexeme} {run : List Lexeme} {entries : List α}
      (hopener : opener.token = .punct opening)
      (hentries : SpellsEntries Item skip (start + widthOf [opener]) run entries)
      (hclose : close.token = .punct closing) :
      SpellsBlock Item skip opening closing start (opener :: (run ++ [close]))
        ⟨spanAt start [opener], entries, some (spanAt (start + widthOf (opener :: run)) [close])⟩
  | unclosed {opener : Lexeme} {run : List Lexeme} {entries : List α}
      (hopener : opener.token = .punct opening)
      (hentries : SpellsEntries Item skip (start + widthOf [opener]) run entries) :
      SpellsBlock Item skip opening closing start (opener :: run)
        ⟨spanAt start [opener], entries, none⟩

/-- `Name { ... }` or `Name struct { ... }` -/
inductive SpellsStruct (start : Nat) : List Lexeme → StructDef → Prop
  | intro {name : Lexeme} {text : String} {gap run : List Lexeme} {body : Block Member}
      (hname : name.token = .identifier text)
      (hgap : ∀ lexeme ∈ gap, lexeme.token.isInlineTrivia = true ∨
        lexeme.token = .identifier "struct")
      (hbody : SpellsBlock SpellsMember Member.skipped .leftBrace .rightBrace
        (start + widthOf (name :: gap)) run body) :
      SpellsStruct start (name :: (gap ++ run)) ⟨⟨text, spanAt start [name]⟩, body⟩

/-- A type in parentheses. -/
inductive SpellsParenthesized (start : Nat) : List Lexeme → TypeExpr → Prop
  | intro {opener close : Lexeme} {gap run trail : List Lexeme} {type : TypeExpr}
      (hopener : opener.token = .punct .leftParen) (hgap : AllInline gap)
      (htype : SpellsType (start + widthOf (opener :: gap)) run type) (htrail : AllInline trail)
      (hclose : close.token = .punct .rightParen) :
      SpellsParenthesized start (opener :: (gap ++ (run ++ (trail ++ [close])))) type

/-- The request and the response of a route, behind its path. -/
inductive SpellsSignature (start : Nat) :
    List Lexeme → Option TypeExpr → Option TypeExpr → Prop
  | none : SpellsSignature start [] none none
  | request {gap run : List Lexeme} {type : TypeExpr} (hgap : AllInline gap)
      (htype : SpellsParenthesized (start + widthOf gap) run type) :
      SpellsSignature start (gap ++ run) (some type) none
  | response {gap space run : List Lexeme} {word : Lexeme} {type : TypeExpr}
      (hgap : AllInline gap) (hword : word.token = .keyword .returnsWord)
      (hspace : AllInline space)
      (htype : SpellsParenthesized (start + widthOf (gap ++ word :: space)) run type) :
      SpellsSignature start (gap ++ word :: (space ++ run)) none (some type)
  | both {gap requestRun middle space run : List Lexeme} {word : Lexeme}
      {request response : TypeExpr} (hgap : AllInline gap)
      (hrequest : SpellsParenthesized (start + widthOf gap) requestRun request)
      (hmiddle : AllInline middle) (hword : word.token = .keyword .returnsWord)
      (hspace : AllInline space)
      (hresponse : SpellsParenthesized
        (start + widthOf (gap ++ (requestRun ++ (middle ++ word :: space)))) run response) :
      SpellsSignature start (gap ++ (requestRun ++ (middle ++ word :: (space ++ run))))
        (some request) (some response)

/-- Whether an annotation has a value without items.  Such a value ends where it
starts, at a comma or a parenthesis. -/
def isHollow (note : Annotation) : Bool :=
  match note.body with
  | .inline value => value.items.isEmpty
  | _ => false

/-- `@annotation* METHOD /path (Request) returns (Response)` -/
inductive SpellsRoute (start : Nat) : List Lexeme → Route → Prop
  | intro {notesRun gap pathTail signature trail : List Lexeme} {method slash : Lexeme}
      {notes : List Annotation} {name : String} {request response : Option TypeExpr}
      (hnotes : SpellsAnnotations start notesRun notes)
      (hfull : ∀ note ∈ notes, isHollow note = false)
      (hmethod : method.token = .identifier name) (hhttp : isHttpMethod name = true)
      (hgap : AllInline gap) (hslash : slash.token = .punct .slash)
      (hpath : ∀ lexeme ∈ pathTail, continuesRoutePath lexeme.token = true)
      (hsignature : SpellsSignature
        (start + widthOf (notesRun ++ method :: (gap ++ slash :: pathTail))) signature
        request response)
      (htrail : AllInline trail) :
      SpellsRoute start
        (notesRun ++ method :: (gap ++ slash :: (pathTail ++ (signature ++ trail))))
        { annotations := notes
          method := ⟨name, spanAt (start + widthOf notesRun) [method]⟩
          path := nameAt (start + widthOf (notesRun ++ method :: gap)) (slash :: pathTail)
          request, response
          span := spanAt start
            (notesRun ++ method :: (gap ++ slash :: (pathTail ++ signature))) }

/-- A line of a service body. -/
inductive SpellsServiceEntry (start : Nat) : List Lexeme → ServiceEntry → Prop
  | route {run : List Lexeme} {route : Route} (hroute : SpellsRoute start run route) :
      SpellsServiceEntry start run (.route route)

/-- `@annotation* service name { routes }` -/
inductive SpellsService (start : Nat) : List Lexeme → Service → Prop
  | intro {notesRun gap nameTail space run : List Lexeme} {word first : Lexeme}
      {notes : List Annotation} {body : Block ServiceEntry}
      (hnotes : SpellsAnnotations start notesRun notes)
      (hfull : ∀ note ∈ notes, isHollow note = false)
      (hword : word.token = .keyword .serviceWord) (hgap : AllInline gap)
      (hfirst : first.token.word?.isSome = true)
      (hname : ∀ lexeme ∈ nameTail, continuesServiceName lexeme.token = true)
      (hspace : AllTrivia space)
      (hbody : SpellsBlock SpellsServiceEntry ServiceEntry.skipped .leftBrace .rightBrace
        (start + widthOf (notesRun ++ word :: (gap ++ first :: (nameTail ++ space)))) run body) :
      SpellsService start
        (notesRun ++ word :: (gap ++ first :: (nameTail ++ (space ++ run))))
        { annotations := notes
          keyword := spanAt (start + widthOf notesRun) [word]
          name := nameAt (start + widthOf (notesRun ++ word :: gap)) (first :: nameTail)
          body }

/-- A path of an import list. -/
inductive SpellsImportPath (start : Nat) : List Lexeme → Spanned String → Prop
  | intro {path : Lexeme} {text : String} (hpath : path.token = .string text) :
      SpellsImportPath start [path] ⟨text, spanAt start [path]⟩

/-- An entry of a group of types. -/
inductive SpellsTypeEntry (start : Nat) : List Lexeme → TypeEntry → Prop
  | struct {run : List Lexeme} {struct : StructDef} (hstruct : SpellsStruct start run struct) :
      SpellsTypeEntry start run (.struct struct)

inductive SpellsDeclaration (start : Nat) : List Lexeme → Declaration → Prop
  | version {word equals version : Lexeme} {gap space : List Lexeme} {text : String}
      (hword : word.token = .keyword .syntaxWord) (hgap : AllTrivia gap)
      (hequals : equals.token = .punct .equals) (hspace : AllTrivia space)
      (hversion : version.token = .string text) :
      SpellsDeclaration start (word :: (gap ++ equals :: (space ++ [version])))
        (.version ⟨text, spanAt (start + widthOf (word :: (gap ++ equals :: space))) [version]⟩
          (spanAt start (word :: (gap ++ equals :: (space ++ [version])))))
  | info {word opener : Lexeme} {gap run : List Lexeme} {entries : List KeyValue}
      (hword : word.token = .keyword .infoWord) (hgap : AllTrivia gap)
      (hopener : opener.token = .punct .leftParen)
      (hentries : SpellsListed SpellsKeyValue (start + widthOf (word :: (gap ++ [opener]))) run
        entries) :
      SpellsDeclaration start (word :: (gap ++ opener :: run))
        (.info entries (spanAt start (word :: (gap ++ opener :: run))))
  | importOne {word path : Lexeme} {gap : List Lexeme} {text : String}
      (hword : word.token = .keyword .importWord) (hgap : AllTrivia gap)
      (hpath : path.token = .string text) :
      SpellsDeclaration start (word :: (gap ++ [path]))
        (.imports [⟨text, spanAt (start + widthOf (word :: gap)) [path]⟩]
          (spanAt start (word :: (gap ++ [path]))))
  | imports {word opener : Lexeme} {gap run : List Lexeme} {paths : List (Spanned String)}
      (hword : word.token = .keyword .importWord) (hgap : AllTrivia gap)
      (hopener : opener.token = .punct .leftParen)
      (hpaths : SpellsListed SpellsImportPath (start + widthOf (word :: (gap ++ [opener]))) run
        paths) :
      SpellsDeclaration start (word :: (gap ++ opener :: run))
        (.imports paths (spanAt start (word :: (gap ++ opener :: run))))
  | struct {word : Lexeme} {gap run : List Lexeme} {struct : StructDef}
      (hword : word.token = .keyword .typeWord) (hgap : AllTrivia gap)
      (hstruct : SpellsStruct (start + widthOf (word :: gap)) run struct) :
      SpellsDeclaration start (word :: (gap ++ run))
        (.types (spanAt start [word]) (.single struct))
  | types {word : Lexeme} {gap run : List Lexeme} {block : Block TypeEntry}
      (hword : word.token = .keyword .typeWord) (hgap : AllTrivia gap)
      (hblock : SpellsBlock SpellsTypeEntry TypeEntry.skipped .leftParen .rightParen
        (start + widthOf (word :: gap)) run block) :
      SpellsDeclaration start (word :: (gap ++ run))
        (.types (spanAt start [word]) (.group block))
  | service {run : List Lexeme} {service : Service} (hservice : SpellsService start run service) :
      SpellsDeclaration start run (.service service)

/-- A whole file: declarations and what was skipped between them. -/
def SpellsFile (run : List Lexeme) (file : SourceFile) : Prop :=
  SpellsEntries SpellsDeclaration Declaration.skipped 0 run file.declarations

end ApiLang
