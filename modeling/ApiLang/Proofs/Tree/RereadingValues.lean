/-
Reading values, entries of key and value, and annotations again.
-/
import ApiLang.Proofs.Tree.RereadingTypes

namespace ApiLang

variable {source : List Char}

/-- The row of an item of a value: a string literal, or tokens as they were
written. -/
inductive ItemRow : List Lexeme → ValueItem → Prop
  | quoted {lexeme : Lexeme} {text : String} (htoken : lexeme.token = .string text)
      (hclean : Clean [lexeme]) : ItemRow [lexeme] (.quoted text)
  | bare {core : List Lexeme} (htidy : Tidy core)
      (hfirst : ∀ first ∈ core.head?, ∀ text, first.token ≠ .string text)
      (hcore : ∀ lexeme ∈ core, endsValue lexeme.token = false) :
      ItemRow core (.bare (String.ofList (textOf core)))

namespace ItemRow

variable {row : List Lexeme} {item : ValueItem}

theorem tidy (hrow : ItemRow row item) : Tidy row := by
  cases hrow with
  | quoted htoken hclean => exact .single hclean (by simp [htoken, Token.isTrivia])
  | bare htidy _ _ => exact htidy

theorem text (hrow : ItemRow row item) : textOf row = item.print := by
  cases hrow with
  | @quoted lexeme text htoken hclean =>
      rw [textOf_cons, hclean.text_eq List.mem_cons_self (by rw [htoken]; rfl)]
      exact List.append_nil _
  | bare => simp [ValueItem.print]

/-- An item does not start with a mark that ends a line. -/
theorem plain (hrow : ItemRow row item) : ∀ first ∈ row.head?, endsLine first.token = false := by
  cases hrow with
  | quoted htoken _ =>
      rintro first ⟨⟩
      simp [htoken, endsLine]
  | bare _ _ hcore =>
      intro first hfirst
      have hvalue := hcore first (List.mem_of_mem_head? hfirst)
      simp only [endsValue, Bool.or_eq_false_iff] at hvalue
      exact hvalue.1

end ItemRow

theorem SpellsItem.row {start : Nat} {run : List Lexeme} {item : Spanned ValueItem}
    (hitem : SpellsItem start run item) (hclean : Clean run) :
    ∃ row trail, run = row ++ trail ∧ ItemRow row item.val := by
  cases hitem with
  | @quoted lexeme text htoken => exact ⟨[lexeme], [], rfl, .quoted htoken hclean⟩
  | @bare core trail hsolid hfirst hcore _ =>
      exact ⟨core, trail, rfl, .bare ⟨hclean.left, hsolid⟩ hfirst hcore⟩

theorem coveredSpan_of_solid {run : List Lexeme} (hsolid : Solid run) (offset start : Nat) :
    coveredSpan offset (placeLexemes start run) = spanAt start run := by
  obtain ⟨⟨first, hfirst, hfirstSolid⟩, last, hlast, hlastSolid⟩ := id hsolid
  obtain ⟨core, trail, rfl, _, htrail, hspan⟩ := coveredSpan_placeLexemes offset start hsolid.ne_nil
    fun other hother => Option.mem_unique hother hfirst ▸ hfirstSolid
  rcases List.eq_nil_or_concat' trail with rfl | ⟨init, other, rfl⟩
  · rw [List.append_nil] at hspan ⊢
    exact hspan
  · have hother : other ∈ (core ++ (init ++ [other])).getLast? := by simp
    have htrivia := htrail other (by simp)
    rw [Option.mem_unique hother hlast, hlastSolid] at htrivia
    cases htrivia

/-- The next lexeme ends a value. -/
def AtValueEnd (rest : List Lexeme) : Prop :=
  ∃ next others, rest = next :: others ∧ endsValue next.token = true

theorem valueItem_row {row : List Lexeme} {item : ValueItem} (hrow : ItemRow row item)
    {rest : List Lexeme} (hrest : AtValueEnd rest) {start : Nat}
    (hsource : Located source start (row ++ rest)) :
    ∃ span, valueItem source (placeLexemes start (row ++ rest)) =
      some (⟨item, span⟩, placeLexemes (start + widthOf row) rest) := by
  cases hrow with
  | @quoted lexeme text htoken _ =>
      refine ⟨spanAt start [lexeme], ?_⟩
      rw [List.singleton_append, placeLexemes_cons]
      simp only [valueItem, htoken]
  | @bare core htidy hfirst hcore =>
      refine ⟨spanAt start row, ?_⟩
      have hspan := coveredSpan_of_solid htidy.solid start start
      have hslice := hsource.sliceText
      obtain ⟨next, more, rfl, hnext⟩ := hrest
      obtain ⟨first, others, rfl⟩ := List.exists_cons_of_ne_nil htidy.solid.ne_nil
      let inValue := fun token => !endsValue token
      have hothers : ∀ lexeme ∈ others, inValue lexeme.token = true := fun lexeme hlexeme => by
        simp [inValue, hcore lexeme (List.mem_cons_of_mem first hlexeme)]
      have hstop : ∀ lexeme ∈ (next :: more).head?, inValue lexeme.token = false := by
        rintro lexeme ⟨⟩
        simp [inValue, hnext]
      have htake := takeWhile_placeLexemes_append hothers hstop (start + widthOf [first])
      have hdrop := dropWhile_placeLexemes_append hothers hstop (start + widthOf [first])
      rw [List.cons_append, placeLexemes_cons]
      simp only [valueItem]
      split
      · rename_i text htoken
        exact absurd htoken (hfirst first rfl text)
      · rw [if_neg (by simp [hcore first List.mem_cons_self])]
        rw [placeLexemes_cons] at hspan
        have hstart : (spanAt start [first]).start = start := rfl
        rw [htake, hdrop, hstart, hspan, hslice, widthOf_cons, widthOf_cons]
        simp [Nat.add_assoc]

/-- Items behind what they are the value of. -/
def itemsRow : List (List Lexeme) → List Lexeme
  | [] => []
  | first :: others =>
    space :: (first ++ others.flatMap fun row => markLexeme .comma :: space :: row)

theorem itemsRow_cons_cons (first second : List Lexeme) (others : List (List Lexeme)) :
    itemsRow (first :: second :: others) =
      space :: (first ++ markLexeme .comma :: itemsRow (second :: others)) := by
  simp [itemsRow]

/-- The rows of the items of a value. -/
def ItemRows : List (List Lexeme) → List (Spanned ValueItem) → Prop :=
  List.Forall₂ fun row item => ItemRow row item.val

namespace ItemRows

variable {rows : List (List Lexeme)} {items : List (Spanned ValueItem)}

theorem text (hrows : ItemRows rows items) : textOf (itemsRow rows) = printItems items := by
  cases hrows with
  | nil => rfl
  | @cons first item others items hfirst hothers =>
      have hmore : textOf (others.flatMap fun row => markLexeme .comma :: space :: row) =
          items.flatMap fun item => ',' :: ' ' :: item.val.print := by
        induction hothers with
        | nil => rfl
        | cons hrow _ ih => simp [ih, hrow.text, Punct.char]
      simp [itemsRow, printItems, hfirst.text, hmore]

theorem tidy (hrows : ItemRows rows items) {left : List Lexeme} (hleft : Tidy left) :
    Tidy (left ++ itemsRow rows) := by
  induction hrows generalizing left with
  | nil =>
      rw [itemsRow, List.append_nil]
      exact hleft
  | cons hfirst hothers ih =>
      have hline := hleft.spaced hfirst.tidy
      cases hothers with
      | nil => simpa [itemsRow] using hline
      | cons _ _ =>
          rw [itemsRow_cons_cons]
          simpa using ih (hline.closed .comma (by decide))

end ItemRows

/-- One item behind a blank, and the token that ends it. -/
theorem valueItems_first {row : List Lexeme} {item : ValueItem} (hrow : ItemRow row item)
    {next : Lexeme} (hends : endsValue next.token = true)
    (hinline : next.token.isInlineTrivia = false) {start : Nat} {more : List Lexeme}
    (hsource : Located source start (space :: (row ++ next :: more))) :
    ∃ span, valueItems source (placeLexemes start (space :: (row ++ next :: more))) =
      if next.token.isPunct .comma then
        (⟨item, span⟩ ::
          (valueItems source (placeLexemes (start + widthOf (space :: (row ++ [next]))) more)).1,
          (valueItems source (placeLexemes (start + widthOf (space :: (row ++ [next]))) more)).2)
      else ([⟨item, span⟩], placeLexemes (start + widthOf (space :: row)) (next :: more)) := by
  obtain ⟨span, hitem⟩ := valueItem_row hrow ⟨next, more, rfl, hends⟩ hsource.tail
  refine ⟨span, ?_⟩
  have hdrop := dropInline_placeLexemes_append allInline_space (fun lexeme hlexeme =>
    not_isInlineTrivia_of_solid (hrow.tidy.solid.head_append (next :: more) lexeme hlexeme)) start
  have hnext : dropInline (placeLexemes (start + widthOf [space] + widthOf row) (next :: more)) =
      placeLexemes (start + widthOf [space] + widthOf row) (next :: more) :=
    List.dropWhile_cons_of_neg (by simp [hinline])
  obtain ⟨first, others, rfl⟩ := List.exists_cons_of_ne_nil hrow.tidy.solid.ne_nil
  rw [List.cons_append, placeLexemes_cons] at hitem
  rw [List.singleton_append, List.cons_append, placeLexemes_cons (start + widthOf [space])]
    at hdrop
  rw [List.cons_append, valueItems_eq, hdrop]
  simp only [hitem, hnext]
  simp only [placeLexemes_cons]
  simp [Nat.add_assoc]

/-- The items of a value up to the end of the line. -/
theorem valueItems_rows {rows : List (List Lexeme)} {items : List (Spanned ValueItem)}
    (hrows : ItemRows rows items) {start : Nat} {rest : List Lexeme}
    (hsource : Located source start (itemsRow rows ++ lineBreak :: rest)) :
    ∃ founds, valueItems source (placeLexemes start (itemsRow rows ++ lineBreak :: rest)) =
        (founds, placeLexemes (start + widthOf (itemsRow rows)) (lineBreak :: rest)) ∧
      founds.map Spanned.unplaced = items.map Spanned.unplaced := by
  induction hrows generalizing start with
  | nil =>
      refine ⟨[], ?_, rfl⟩
      rw [valueItems_eq]
      rfl
  | @cons first item others items hfirst hothers ih =>
      cases hothers with
      | nil =>
          have hrow : itemsRow [first] ++ lineBreak :: rest =
              space :: (first ++ lineBreak :: rest) := by simp [itemsRow]
          rw [hrow] at hsource ⊢
          obtain ⟨span, hread⟩ := valueItems_first hfirst rfl rfl hsource
          rw [if_neg (by decide)] at hread
          refine ⟨[⟨item.val, span⟩], hread.trans ?_, rfl⟩
          simp [itemsRow]
      | @cons second _ others _ hsecond hothers =>
          have hrow : itemsRow (first :: second :: others) ++ lineBreak :: rest =
              space :: (first ++ markLexeme .comma ::
                (itemsRow (second :: others) ++ lineBreak :: rest)) := by
            simp [itemsRow_cons_cons]
          rw [hrow] at hsource ⊢
          obtain ⟨span, hread⟩ := valueItems_first hfirst rfl rfl hsource
          have hbehind : Located source (start + widthOf (space :: (first ++ [markLexeme .comma])))
              (itemsRow (second :: others) ++ lineBreak :: rest) := by
            apply Located.right
            simpa using hsource
          obtain ⟨founds, hfounds, hgoods⟩ := ih hbehind
          rw [hfounds, if_pos (by decide)] at hread
          refine ⟨⟨item.val, span⟩ :: founds, hread.trans ?_, by rw [List.map_cons, hgoods]; rfl⟩
          simp [itemsRow_cons_cons, Nat.add_assoc]

theorem takes_valueList {rows : List (List Lexeme)} {items : List (Spanned ValueItem)}
    (hrows : ItemRows rows items) :
    (valueList source).Takes source (itemsRow rows) AtBreak fun value =>
      value.items.map Spanned.unplaced = items.map Spanned.unplaced := by
  rintro start _ hsource ⟨rest, rfl⟩
  obtain ⟨founds, hfounds, hgoods⟩ := valueItems_rows hrows hsource
  simp only [valueList, hfounds]
  exact ⟨_, rfl, hgoods⟩

/-- The items of a clean row, each without the trivia around it.  The first stands
behind inline trivia in the row. -/
theorem SpellsItems.rows {start : Nat} {run : List Lexeme} {items : List (Spanned ValueItem)}
    (hitems : SpellsItems start run items) (hclean : Clean run) :
    ∃ rows, ItemRows rows items ∧
      ∀ first others, rows = first :: others →
        ∃ gap more, run = gap ++ (first ++ more) ∧ AllInline gap := by
  induction hitems with
  | nil hgap => exact ⟨[], .nil, by simp⟩
  | @last start gap run trail item hgap hitem htrail =>
      obtain ⟨row, left, rfl, hrow⟩ := hitem.row hclean.right.left
      refine ⟨[row], .cons hrow .nil, ?_⟩
      rintro _ _ ⟨⟩
      exact ⟨gap, left ++ trail, by simp, hgap⟩
  | @more start gap run trail others comma item items hgap hitem htrail hcomma _ ih =>
      obtain ⟨row, left, rfl, hrow⟩ := hitem.row hclean.right.left
      obtain ⟨rows, hrows, _⟩ := ih hclean.right.right.right.tail
      refine ⟨row :: rows, .cons hrow hrows, ?_⟩
      rintro _ _ ⟨⟩
      exact ⟨gap, left ++ (trail ++ comma :: others), by simp, hgap⟩

/-- Entries of key and value on lines of their own. -/
def keyValueLines : LineRules KeyValue where
  read := listedKeyValue
  unplaced := KeyValue.unplaced
  print := KeyValue.print
  opens _ tokens := atPunct .rightParen tokens.head? = false

theorem written?_of_word? {token : Token} {text : String} (hword : token.word? = some text) :
    token.written? = some text.toList ∧ token.isTrivia = false := by
  cases token with
  | identifier name =>
      cases hword
      exact ⟨rfl, rfl⟩
  | keyword word =>
      cases hword
      exact ⟨rfl, rfl⟩
  | _ => cases hword

theorem not_isPunct_of_word? {token : Token} {text : String} (hword : token.word? = some text)
    (mark : Punct) : token.isPunct mark = false := by
  cases token <;> simp_all [Token.word?, Token.isPunct]

theorem takes_keyValue {key : Lexeme} {text : String} (hkey : key.token.word? = some text)
    {rows : List (List Lexeme)} {items : List (Spanned ValueItem)} (hrows : ItemRows rows items) :
    (keyValue source).Takes source (key :: markLexeme .colon :: itemsRow rows) AtBreak fun found =>
      found.unplaced = ⟨⟨text, nowhere⟩, ⟨items.map Spanned.unplaced, nowhere⟩, nowhere⟩ := by
  refine (Reader.takes_word hkey).next fun name hname => ?_
  refine Reader.takes_skipInline_nil.bind (fun _ _ => ?_) fun rest _ => ?_
  · refine (Reader.takes_punct rfl).next fun colon _ => ?_
    refine (takes_valueList hrows).pure fun value hvalue => ?_
    simp [KeyValue.unplaced, Spanned.unplaced, ValueList.unplaced, hname, hvalue]
  · rintro lexeme ⟨⟩
    rfl

theorem SpellsKeyValue.line {start : Nat} {run : List Lexeme} {entry : KeyValue}
    (hentry : SpellsKeyValue start run entry) (hclean : Clean run) :
    ∃ line, keyValueLines.Line line entry := by
  obtain @⟨key, colon, text, gap, run, value, hkey, hplain, _, hcolon, hvalue⟩ := hentry
  obtain ⟨hitems⟩ := hvalue
  obtain ⟨rows, hrows, _⟩ := hitems.rows hclean.tail.right.tail
  obtain ⟨hwritten, hsolid⟩ := written?_of_word? hkey
  have hkeyClean : Clean [key] := hclean.of_mem List.mem_cons_self
  refine ⟨key :: markLexeme .colon :: itemsRow rows, ?_, ?_, ?_, ?_⟩
  · have htext := hkeyClean.text_eq List.mem_cons_self hwritten
    simp [keyValueLines, KeyValue.print, htext, hrows.text, Punct.char]
  · exact hrows.tidy ((Tidy.single hkeyClean hsolid).closed .colon (by decide))
  · intro source start rest _ _
    apply any_head?_placeLexemes (·.isPunct .rightParen)
    rintro lexeme ⟨⟩
    exact not_isPunct_of_word? hkey _
  · intro source start rest hsource hrest
    obtain ⟨found, hread, hgood⟩ := takes_keyValue hkey hrows hsource hrest
    refine ⟨found, ?_, hgood⟩
    rw [← hread]
    change (if _ then _ else _ : Reader KeyValue) _ = _
    rw [if_neg (by simpa using hplain)]

/-- Annotations on lines of their own. -/
def noteLines : LineRules Annotation where
  read := annotationStep
  unplaced := Annotation.unplaced
  print := Annotation.print
  opens _ tokens := atPunct .atSign tokens.head? = true

theorem takes_annotationStep {name : Lexeme} {text : String} (hname : name.token.word? = some text)
    {row : List Lexeme} {body : AnnotationBody}
    (hbody : (annotationBody source).Takes source row AtBreak fun found =>
      found.1.unplaced = body.unplaced) :
    (annotationStep source).Takes source (markLexeme .atSign :: name :: row) AtBreak fun found =>
      found.unplaced = ⟨⟨text, nowhere⟩, body.unplaced, nowhere⟩ := by
  refine (Reader.takes_punct rfl).next fun sign _ => ?_
  refine (Reader.takes_word hname).next fun word hword => hbody.pure fun found hfound => ?_
  simp [Spanned.unplaced, Annotation.unplaced, hword, hfound]

theorem annotationBody_eq (source : List Char) (tokens : List PlacedToken) :
    annotationBody source tokens =
      if atPunct .leftParen (dropInline tokens).head? then
        (do Reader.skipInline
            let _ ← Reader.punct .leftParen .leftParen
            let (entries, close) ← keyValues source
            pure (.block entries, some close) : Reader (AnnotationBody × Option Span)) tokens
      else if atLineEnd (dropInline tokens).head? then .ok ((.empty, none), tokens)
      else
        (do let value ← valueList source
            pure (.inline value, if value.items.isEmpty then none else some value.span) :
          Reader (AnnotationBody × Option Span)) tokens := by
  have hpeek : Reader.peekPastInline tokens = .ok ((dropInline tokens).head?, tokens) := rfl
  rw [annotationBody, Reader.bind_ok hpeek]
  split
  · rfl
  · split
    · rfl
    · rfl

theorem takes_annotationBody_empty :
    (annotationBody source).Takes source [] AtBreak fun found => found.1 = .empty := by
  rintro start _ _ ⟨rest, rfl⟩
  exact ⟨(.empty, none), rfl, rfl⟩

theorem takes_annotationBody_block {lines : List (List Lexeme)} {entries : List KeyValue}
    (hlines : keyValueLines.Lines lines entries) :
    (annotationBody source).Takes source
      (space :: groupRow .leftParen .rightParen lines)
      AtBreak fun found => found.1.unplaced = (AnnotationBody.block entries).unplaced := by
  intro start rest hsource _
  have hlisted : (keyValues source).Takes source
      (lineBreak :: linesBefore lines [markLexeme .rightParen]) Anything fun found =>
        found.1.map KeyValue.unplaced = entries.map KeyValue.unplaced :=
    takes_untilRightParen rfl (fun _ => id) hlines allTrivia_lineBreak
  have hblock : (do
      Reader.skipInline
      let _ ← Reader.punct .leftParen .leftParen
      let (entries, close) ← keyValues source
      pure (.block entries, some close) : Reader (AnnotationBody × Option Span)).Takes source
      (space :: groupRow .leftParen .rightParen lines)
      Anything fun found => found.1.unplaced = (AnnotationBody.block entries).unplaced := by
    refine Reader.takes_skipInline_space.bind (fun _ _ => ?_) fun rest _ => ?_
    · refine (Reader.takes_punct rfl).next fun _ _ => hlisted.pure fun found hfound => ?_
      simp [AnnotationBody.unplaced, hfound]
    · rintro lexeme ⟨⟩
      rfl
  obtain ⟨found, hread, hgood⟩ := hblock hsource trivial
  refine ⟨found, ?_, hgood⟩
  rw [annotationBody_eq, if_pos (by rfl), hread]

theorem takes_annotationBody_inline {first : List Lexeme} {rows : List (List Lexeme)}
    {item : Spanned ValueItem} {items : List (Spanned ValueItem)}
    (hrows : ItemRows (first :: rows) (item :: items))
    (hplain : ∀ lexeme ∈ first.head?, lexeme.token ≠ .punct .leftParen) (span : Span) :
    (annotationBody source).Takes source (itemsRow (first :: rows)) AtBreak fun found =>
      found.1.unplaced = (AnnotationBody.inline ⟨item :: items, span⟩).unplaced := by
  intro start rest hsource hrest
  obtain ⟨value, hread, hgood⟩ := takes_valueList hrows hsource hrest
  refine ⟨(.inline value, if value.items.isEmpty then none else some value.span), ?_, by
    simp [AnnotationBody.unplaced, ValueList.unplaced, hgood]⟩
  obtain ⟨hfirst, _⟩ := List.forall₂_cons.mp hrows
  obtain ⟨lexeme, others, rfl⟩ := List.exists_cons_of_ne_nil hfirst.tidy.solid.ne_nil
  have hinline : lexeme.token.isInlineTrivia = false :=
    not_isInlineTrivia_of_solid (hfirst.tidy.solid.head_append [] lexeme (by simp))
  have hhead : (dropInline (placeLexemes start (itemsRow ((lexeme :: others) :: rows) ++
      rest))).head? = some ⟨lexeme.token, spanAt (start + widthOf [space]) [lexeme]⟩ := by
    have hrow : itemsRow ((lexeme :: others) :: rows) ++ rest = [space] ++ lexeme :: (others ++
        ((rows.flatMap fun row => markLexeme .comma :: space :: row) ++ rest)) := by
      simp [itemsRow]
    rw [hrow, dropInline_placeLexemes_append allInline_space (by rintro _ ⟨⟩; exact hinline),
      placeLexemes_cons]
    rfl
  rw [annotationBody_eq, hhead, if_neg, if_neg, Reader.bind_ok hread]
  · rfl
  · simpa [atLineEnd] using hfirst.plain lexeme rfl
  · simpa [atPunct, Token.isPunct] using hplain lexeme rfl

/-- An annotation on a line of its own, by the row of its body. -/
theorem noteLine {name : Lexeme} {text : String} (hname : name.token.word? = some text)
    (hclean : Clean [name]) {row : List Lexeme} {body : AnnotationBody} (nameSpan span : Span)
    (htext : textOf row = body.print)
    (htidy : ∀ {left}, Tidy left → Tidy (left ++ row))
    (hbody : ∀ source, (annotationBody source).Takes source row AtBreak fun found =>
      found.1.unplaced = body.unplaced) :
    noteLines.Line (markLexeme .atSign :: name :: row) ⟨⟨text, nameSpan⟩, body, span⟩ := by
  obtain ⟨hwritten, hsolid⟩ := written?_of_word? hname
  refine ⟨?_, ?_, fun source start rest _ _ => rfl, fun source => takes_annotationStep hname
    (hbody source)⟩
  · have hnameText := hclean.text_eq List.mem_cons_self hwritten
    simp [noteLines, Annotation.print, hnameText, htext, Punct.char]
  · exact htidy ((Tidy.single hclean hsolid).opened .atSign (by decide))

/-- Rows of entries on lines of their own. -/
theorem SpellsListed.lines {α : Type} (rules : LineRules α) {Item : Nat → List Lexeme → α → Prop}
    (hitem : ∀ {start run item}, Item start run item → Clean run → ∃ line, rules.Line line item)
    {start : Nat} {run : List Lexeme} {items : List α} (hitems : SpellsListed Item start run items)
    (hclean : Clean run) : ∃ lines, rules.Lines lines items := by
  induction hitems with
  | close _ _ => exact ⟨[], .nil⟩
  | item _ hfirst _ ih =>
      obtain ⟨line, hline⟩ := hitem hfirst hclean.right.left
      obtain ⟨lines, hlines⟩ := ih hclean.right.right
      exact ⟨line :: lines, .cons hline hlines⟩

/-- An annotation whose value, if it has one, has items stands on a line of its
own. -/
theorem SpellsAnnotation.line {start : Nat} {run : List Lexeme} {note : Annotation}
    (hnote : SpellsAnnotation start run note) (hfull : isHollow note = false)
    (hclean : Clean run) : ∃ line, noteLines.Line line note := by
  cases hnote with
  | @empty sign name text _ hname =>
      refine ⟨[markLexeme .atSign, name], noteLine hname hclean.tail _ _ rfl ?_ fun source =>
        takes_annotationBody_empty.imp (fun _ => id) ?_⟩
      · intro left hleft
        rwa [List.append_nil]
      · rintro found hfound
        rw [hfound]
  | @inline sign name text run value _ hname hplain hvalue =>
      obtain ⟨hitems⟩ := hvalue
      obtain ⟨rows, hrows, hfirst⟩ := hitems.rows hclean.tail.tail
      have hnameClean : Clean [name] := hclean.of_mem (by simp)
      cases id hrows with
      | nil => simp [isHollow] at hfull
      | @cons first item rows items hitem _ =>
          refine ⟨_, noteLine hname hnameClean _ _ hrows.text hrows.tidy fun source =>
            takes_annotationBody_inline hrows ?_ _⟩
          intro lexeme hlexeme
          obtain ⟨others, rfl⟩ := List.head?_eq_some_iff.mp hlexeme
          obtain ⟨gap, more, rfl, hgap⟩ := hfirst _ _ rfl
          exact hplain gap lexeme (others ++ more) rfl hgap
  | @block sign name opener text gap run entries _ hname _ hopener hentries =>
      obtain ⟨lines, hlines⟩ :=
        hentries.lines keyValueLines SpellsKeyValue.line hclean.tail.tail.right.tail
      have hnameClean : Clean [name] := hclean.of_mem (by simp)
      refine ⟨_, noteLine hname hnameClean _ _ ?_ ?_ fun source =>
        takes_annotationBody_block hlines⟩
      · simp [hlines.textOf_groupRow]
        rfl
      · intro left hleft
        exact hleft.spaced (hlines.tidy_groupRow _ _)

end ApiLang
