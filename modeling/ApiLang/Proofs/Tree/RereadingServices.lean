/-
Reading routes and services again.
-/
import ApiLang.Proofs.Tree.RereadingStructs

namespace ApiLang

variable {source : List Char}

/-- A type in parentheses. -/
def parenRow (row : List Lexeme) : List Lexeme :=
  markLexeme .leftParen :: (row ++ [markLexeme .rightParen])

theorem TypeRow.tidy_parenRow {row : List Lexeme} {type : TypeExpr} (hrow : TypeRow row type) :
    Tidy (parenRow row) :=
  (hrow.tidy.closed .rightParen (by decide)).opened .leftParen (by decide)

theorem TypeRow.textOf_parenRow {row : List Lexeme} {type : TypeExpr} (hrow : TypeRow row type) :
    textOf (parenRow row) = printParenthesized type := by
  simp [parenRow, printParenthesized, hrow.text, Punct.char]

theorem takes_parenthesizedType {row : List Lexeme} {type : TypeExpr} (hrow : TypeRow row type) :
    (parenthesizedType source).Takes source (row ++ [markLexeme .rightParen]) Anything
      fun found => found.1.unplaced = type.unplaced := by
  refine Reader.takes_skipInline_nil.before (fun _ _ => ?_) fun rest _ => by
    rw [List.append_assoc]
    exact (hrow.inLine _).2
  refine (hrow.takes source).bind (fun found hfound => ?_) fun rest _ => by
    rintro lexeme ⟨⟩
    exact .inr (.inr rfl)
  refine Reader.takes_skipInline_nil.before (fun _ _ => ?_) fun rest _ => by
    rintro lexeme ⟨⟩
    rfl
  exact (Reader.takes_punct rfl).pure fun _ _ => hfound

/-- A type and the parenthesis behind it were read as the type, or nothing was
read. -/
def ReadAs (type : Option TypeExpr) (found : Option (TypeExpr × Span)) : Prop :=
  (found.map Prod.fst).map TypeExpr.unplaced = type.map TypeExpr.unplaced

theorem takes_routeRequest_none :
    (routeRequest source).Takes source [] (Next fun token => !token.isPunct .leftParen)
      (ReadAs none) := by
  refine Reader.takes_eatPunct_none.before (fun opener hopener => ?_) fun _ => id
  obtain rfl := hopener
  exact Reader.takes_pure rfl

/-- A request and the trivia behind it. -/
theorem takes_routeRequest_some {row : List Lexeme} {type : TypeExpr} (hrow : TypeRow row type)
    {gap : List Lexeme} (hgap : AllInline gap) :
    (routeRequest source).Takes source (parenRow row ++ gap)
      (Next fun token => !token.isInlineTrivia) (ReadAs (some type)) := by
  refine (Reader.takes_eatPunct_some rfl).next fun opener hopener => ?_
  cases opener with
  | none => cases hopener
  | some opener =>
      refine (takes_parenthesizedType hrow).next fun found hfound => ?_
      exact (Reader.takes_skipInline hgap).pure fun _ _ => by simp [ReadAs, hfound]

theorem takes_routeResponse_none :
    (routeResponse source).Takes source [] AtBreak (ReadAs none) := by
  refine Reader.takes_optional_none.before (fun found hfound => ?_) ?_
  · obtain rfl := hfound
    exact Reader.takes_pure rfl
  · rintro _ ⟨rest, rfl⟩ lexeme ⟨⟩ span
    rfl

theorem takes_routeResponse_some {word : Lexeme} (hword : word.token = .keyword .returnsWord)
    {row : List Lexeme} {type : TypeExpr} (hrow : TypeRow row type) :
    (routeResponse source).Takes source (word :: space :: parenRow row) Anything
      (ReadAs (some type)) := by
  have hreturns : (Reader.optional fun placed : PlacedToken =>
      if placed.token.isKeyword .returnsWord then some () else none).Takes source [word] Anything
        fun found => found.isSome = true :=
    Reader.takes_optional_some fun span => ⟨(), by simp [hword, Token.isKeyword], rfl⟩
  refine hreturns.next fun found hfound => ?_
  cases found with
  | none => cases hfound
  | some _ =>
      refine Reader.takes_skipInline_space.bind (fun _ _ => ?_) fun rest _ => by
        rintro lexeme ⟨⟩
        rfl
      refine (Reader.takes_punct rfl).next fun _ _ => ?_
      exact (takes_parenthesizedType hrow).pure fun found hfound => by simp [ReadAs, hfound]

/-- The request and the response of a route behind its path, whatever is made of
them. -/
structure SignatureRow (row : List Lexeme) (request response : Option TypeExpr) : Prop where
  text : textOf row = (request.elim [] fun type => ' ' :: printParenthesized type) ++
    (response.elim [] fun type =>
      ' ' :: Keyword.returnsWord.print ++ ' ' :: printParenthesized type)
  tidy : ∀ {left}, Tidy left → Tidy (left ++ row)
  head : ∀ first ∈ row.head?, first = space
  takes : ∀ source {β : Type} (make : Option (TypeExpr × Span) → Option (TypeExpr × Span) → β),
    (do Reader.skipInline
        let request ← routeRequest source
        let response ← routeResponse source
        Reader.endOfLine
        pure (make request response)).Takes source row AtBreak fun made =>
          ∃ foundRequest foundResponse, made = make foundRequest foundResponse ∧
            ReadAs request foundRequest ∧ ReadAs response foundResponse

/-- A signature by its parts. -/
theorem takes_signature {β : Type}
    (make : Option (TypeExpr × Span) → Option (TypeExpr × Span) → β)
    {gap requestRow responseRow : List Lexeme} {request response : Option TypeExpr}
    {follow : List Lexeme → Prop} (hgap : AllInline gap)
    (hrequest : (routeRequest source).Takes source requestRow follow (ReadAs request))
    (hresponse : (routeResponse source).Takes source responseRow AtBreak (ReadAs response))
    (hfollow : ∀ rest, AtBreak rest → follow (responseRow ++ rest))
    (hhead : ∀ rest, AtBreak rest →
      Next (fun token => !token.isInlineTrivia) (requestRow ++ responseRow ++ rest)) :
    (do Reader.skipInline
        let request ← routeRequest source
        let response ← routeResponse source
        Reader.endOfLine
        pure (make request response)).Takes source (gap ++ (requestRow ++ responseRow)) AtBreak
      fun made => ∃ foundRequest foundResponse, made = make foundRequest foundResponse ∧
        ReadAs request foundRequest ∧ ReadAs response foundResponse := by
  refine (Reader.takes_skipInline hgap).bind (fun _ _ => ?_) hhead
  refine hrequest.bind (fun foundRequest hfoundRequest => ?_) hfollow
  refine hresponse.look (fun foundResponse hfoundResponse => ?_) fun _ => id
  exact Reader.takes_endOfLine.pure fun _ _ =>
    ⟨foundRequest, foundResponse, rfl, hfoundRequest, hfoundResponse⟩

theorem SpellsParenthesized.row {start : Nat} {run : List Lexeme} {type : TypeExpr}
    (htype : SpellsParenthesized start run type) (hclean : Clean run) :
    ∃ row, TypeRow row type := by
  obtain ⟨_, _, htype, _, _⟩ := htype
  exact htype.row hclean.tail.right.left

theorem returns_text {word : Lexeme} (hword : word.token = .keyword .returnsWord)
    (hclean : Clean [word]) : word.text = Keyword.returnsWord.print :=
  hclean.text_eq List.mem_cons_self (by rw [hword]; rfl)

theorem tidy_response {word : Lexeme} (hword : word.token = .keyword .returnsWord)
    (hclean : Clean [word]) {row : List Lexeme} {type : TypeExpr} (hrow : TypeRow row type) :
    Tidy (word :: space :: parenRow row) :=
  (Tidy.single hclean (by simp [hword, Token.isTrivia])).spaced hrow.tidy_parenRow

theorem SpellsSignature.row {start : Nat} {run : List Lexeme} {request response : Option TypeExpr}
    (hsignature : SpellsSignature start run request response) (hclean : Clean run) :
    ∃ row, SignatureRow row request response := by
  cases hsignature with
  | none =>
      refine ⟨[], rfl, by simp, by simp, fun source β make => ?_⟩
      exact takes_signature make allInline_nil takes_routeRequest_none takes_routeResponse_none
        (fun rest => next_of_atBreak rfl) fun rest => next_of_atBreak rfl
  | @request gap run type _ htype =>
      obtain ⟨row, hrow⟩ := htype.row hclean.right
      refine ⟨space :: parenRow row, by simp [hrow.textOf_parenRow],
        fun hleft => hleft.spaced hrow.tidy_parenRow, by rintro first ⟨⟩; rfl,
        fun source β make => ?_⟩
      have hparts : space :: parenRow row = [space] ++ (parenRow row ++ [] ++ []) := by simp
      rw [hparts]
      refine takes_signature make allInline_space (takes_routeRequest_some hrow allInline_nil)
        takes_routeResponse_none (fun rest => next_of_atBreak rfl) ?_
      rintro rest _ lexeme ⟨⟩
      rfl
  | @response gap middle run word type _ hword _ htype =>
      have hwordClean : Clean [word] := hclean.of_mem (by simp)
      obtain ⟨row, hrow⟩ := htype.row hclean.right.tail.right
      refine ⟨space :: word :: space :: parenRow row,
        by simp [hrow.textOf_parenRow, returns_text hword hwordClean],
        fun hleft => hleft.spaced (tidy_response hword hwordClean hrow),
        by rintro first ⟨⟩; rfl, fun source β make => ?_⟩
      refine takes_signature make allInline_space takes_routeRequest_none
        ((takes_routeResponse_some hword hrow).imp (fun _ _ => trivial) fun _ => id) ?_ ?_
      all_goals
        rintro rest _ lexeme ⟨⟩
        simp [hword, Token.isPunct, Token.isInlineTrivia]
  | @both gap requestRun middle blank run word request response _ hrequest _ hword _ hresponse =>
      have hwordClean : Clean [word] := hclean.of_mem (by simp)
      obtain ⟨row, hrow⟩ := hrequest.row hclean.right.left
      obtain ⟨other, hother⟩ := hresponse.row hclean.right.right.right.tail.right
      refine ⟨space :: (parenRow row ++ space :: word :: space :: parenRow other),
        by simp [hrow.textOf_parenRow, hother.textOf_parenRow, returns_text hword hwordClean],
        fun hleft => hleft.spaced (hrow.tidy_parenRow.spaced
          (tidy_response hword hwordClean hother)),
        by rintro first ⟨⟩; rfl, fun source β make => ?_⟩
      have hparts : space :: (parenRow row ++ space :: word :: space :: parenRow other) =
          [space] ++ (parenRow row ++ [space] ++ word :: space :: parenRow other) := by simp
      rw [hparts]
      refine takes_signature make allInline_space (takes_routeRequest_some hrow allInline_space)
        ((takes_routeResponse_some hword hother).imp (fun _ _ => trivial) fun _ => id) ?_ ?_
      all_goals
        rintro rest _ lexeme ⟨⟩
      · simp [hword, Token.isInlineTrivia]
      · rfl

/-- A run of touching tokens, none of them trivia. -/
theorem tidy_run {continues : Token → Bool}
    (hsolid : ∀ token, continues token = true → token.isTrivia = false) {first : Lexeme}
    (hfirst : first.token.isTrivia = false) {tail : List Lexeme}
    (htail : ∀ lexeme ∈ tail, continues lexeme.token = true) (hclean : Clean (first :: tail)) :
    Tidy (first :: tail) := by
  refine ⟨hclean, ⟨first, rfl, hfirst⟩, (first :: tail).getLast (List.cons_ne_nil first tail),
    List.getLast?_eq_some_getLast _, ?_⟩
  rcases List.mem_cons.mp (List.getLast_mem (List.cons_ne_nil first tail)) with hlast | hlast
  · rw [hlast, hfirst]
  · exact hsolid _ (htail _ hlast)

theorem not_isTrivia_of_continuesRoutePath (token : Token)
    (hcontinues : continuesRoutePath token = true) : token.isTrivia = false := by
  cases token <;> simp_all [continuesRoutePath, Token.isTrivia]

theorem not_isTrivia_of_continuesServiceName (token : Token)
    (hcontinues : continuesServiceName token = true) : token.isTrivia = false := by
  cases token <;> simp_all [continuesServiceName, Token.isTrivia]

theorem takes_routePath {slash : Lexeme} (hslash : slash.token = .punct .slash)
    {tail : List Lexeme} (htail : ∀ lexeme ∈ tail, continuesRoutePath lexeme.token = true) :
    (routePath source).Takes source (slash :: tail)
      (Next fun token => !continuesRoutePath token) fun found =>
        found.val = String.ofList (textOf (slash :: tail)) := by
  intro start rest hsource hrest
  have hmark : Reader.punct .slash .routePath (placeLexemes start (slash :: (tail ++ rest))) =
      .ok (spanAt start [slash], placeLexemes (start + widthOf [slash]) (tail ++ rest)) :=
    Reader.expect_eq (by simp [hslash, Token.isPunct]) _
  refine ⟨nameAt start (slash :: tail), ?_, rfl⟩
  rw [List.cons_append, routePath, Reader.bind_ok hmark]
  exact restOfRun_eq htail (fun lexeme hlexeme => by simpa using hrest lexeme hlexeme) hsource

theorem takes_serviceName {first : Lexeme} (hfirst : first.token.word?.isSome = true)
    {tail : List Lexeme} (htail : ∀ lexeme ∈ tail, continuesServiceName lexeme.token = true) :
    (serviceName source).Takes source (first :: tail)
      (Next fun token => !continuesServiceName token) fun found =>
        found.val = String.ofList (textOf (first :: tail)) := by
  intro start rest hsource hrest
  obtain ⟨text, htext⟩ := Option.isSome_iff_exists.mp hfirst
  have hword : Reader.word .serviceName (placeLexemes start (first :: (tail ++ rest))) =
      .ok (⟨text, spanAt start [first]⟩, placeLexemes (start + widthOf [first]) (tail ++ rest)) :=
    Reader.expect_eq (by simp [htext]) _
  refine ⟨nameAt start (first :: tail), ?_, rfl⟩
  rw [List.cons_append, serviceName, Reader.bind_ok hword]
  exact restOfRun_eq htail (fun lexeme hlexeme => by simpa using hrest lexeme hlexeme) hsource

theorem takes_routeMethod {method : Lexeme} {name : String}
    (hmethod : method.token = .identifier name) (hhttp : isHttpMethod name = true) :
    routeMethod.Takes source [method] Anything fun found => found.val = name :=
  Reader.takes_expect fun span => ⟨⟨name, span⟩, by simp [hmethod, hhttp], rfl⟩

/-- Annotations that all have items stand on lines of their own. -/
theorem SpellsAnnotations.lines {start : Nat} {run : List Lexeme} {notes : List Annotation}
    (hnotes : SpellsAnnotations start run notes) (hclean : Clean run)
    (hfull : ∀ note ∈ notes, isHollow note = false) :
    ∃ lines, noteLines.Lines lines notes := by
  induction hnotes with
  | nil => exact ⟨[], .nil⟩
  | cons hnote _ _ ih =>
      obtain ⟨hfirst, hothers⟩ := List.forall_mem_cons.mp hfull
      obtain ⟨line, hline⟩ := hnote.line hfirst hclean.left
      obtain ⟨lines, hlines⟩ := ih hclean.right.right hothers
      exact ⟨line :: lines, .cons hline hlines⟩

theorem SignatureRow.endsPath {row : List Lexeme} {request response : Option TypeExpr}
    (hrow : SignatureRow row request response) {rest : List Lexeme} (hrest : AtBreak rest) :
    Next (fun token => !continuesRoutePath token) (row ++ rest) := by
  cases row with
  | nil => exact next_of_atBreak rfl hrest
  | cons first others =>
      rintro lexeme ⟨⟩
      rw [hrow.head first rfl]
      rfl

/-- A route with its annotations above it. -/
theorem takes_route {lines : List (List Lexeme)} {notes : List Annotation}
    (hlines : noteLines.Lines lines notes) {method slash : Lexeme} {name : String}
    (hmethod : method.token = .identifier name) (hhttp : isHttpMethod name = true)
    (hslash : slash.token = .punct .slash) {tail : List Lexeme}
    (htail : ∀ lexeme ∈ tail, continuesRoutePath lexeme.token = true) {row : List Lexeme}
    {request response : Option TypeExpr} (hrow : SignatureRow row request response) :
    (route source).Takes source (linesBefore lines (method :: space :: (slash :: tail ++ row)))
      AtBreak fun found => found.unplaced =
        { annotations := notes.map Annotation.unplaced
          method := ⟨name, nowhere⟩
          path := ⟨String.ofList (textOf (slash :: tail)), nowhere⟩
          request := request.map TypeExpr.unplaced
          response := response.map TypeExpr.unplaced
          span := nowhere } := by
  have hparts := linesBefore_append lines [] (method :: space :: (slash :: tail ++ row))
  rw [List.nil_append] at hparts
  rw [← hparts]
  refine (takes_annotations rfl (fun _ => id) hlines).bind (fun foundNotes hnotes => ?_) ?_
  · refine (takes_routeMethod hmethod hhttp).next fun foundMethod hfoundMethod => ?_
    refine Reader.takes_skipInline_space.bind (fun _ _ => ?_) ?_
    · refine (takes_routePath hslash htail).bind (fun path hpath => ?_) ?_
      · refine (hrow.takes source _).imp (fun _ => id) ?_
        rintro _ ⟨foundRequest, foundResponse, rfl, hrequest, hresponse⟩
        rw [ReadAs] at hrequest hresponse
        have hnotes : foundNotes.map Annotation.unplaced = notes.map Annotation.unplaced := hnotes
        simp only [Route.unplaced, Spanned.unplaced, hfoundMethod, hpath, hnotes, hrequest,
          hresponse]
      · exact fun rest hrest => hrow.endsPath hrest
    · rintro rest _ lexeme ⟨⟩
      simp [hslash, Token.isInlineTrivia]
  · rintro rest _ lexeme ⟨⟩
    simp [hmethod, Token.isTrivia, Token.isPunct]

/-- Routes in service bodies. -/
def serviceEntryLines : LineRules ServiceEntry where
  read source := do
    let found ← route source
    pure (.route found)
  unplaced := ServiceEntry.unplaced
  print := ServiceEntry.print
  opens source tokens :=
    atPunct (serviceRules source).closer tokens.head? = false ∧
      (serviceRules source).stops tokens = false

theorem LineRules.Line.startsWithSign {line : List Lexeme} {note : Annotation}
    (hline : noteLines.Line line note) :
    ∃ sign others, line = sign :: others ∧ sign.token = .punct .atSign := by
  have hopens := hline.opens (textOf (line ++ [lineBreak])) 0 [lineBreak] ⟨[], rfl, rfl⟩ ⟨[], rfl⟩
  obtain ⟨sign, others, hrow, hsign⟩ := atPunct_head?_placeLexemes hopens
  obtain ⟨first, more, rfl⟩ := List.exists_cons_of_ne_nil hline.tidy.solid.ne_nil
  cases hrow
  exact ⟨sign, more, rfl, hsign⟩

/-- Annotations, or what they stand above, come first. -/
theorem head_notes {lines : List (List Lexeme)} {notes : List Annotation}
    (hlines : noteLines.Lines lines notes) (first : Lexeme) (row : List Lexeme) :
    ∀ lexeme ∈ (linesBefore lines (first :: row)).head?,
      lexeme.token = .punct .atSign ∨ lexeme = first := by
  intro lexeme hlexeme
  cases hlines with
  | nil =>
      cases hlexeme
      exact .inr rfl
  | cons hline _ =>
      obtain ⟨sign, others, rfl, hsign⟩ := hline.startsWithSign
      cases hlexeme
      exact .inl hsign

theorem SpellsRoute.line {start : Nat} {run : List Lexeme} {route : Route}
    (hroute : SpellsRoute start run route) (hclean : Clean run) :
    ∃ line, serviceEntryLines.Line line (.route route) := by
  obtain @⟨notesRun, gap, pathTail, signature, trail, method, slash, notes, name, request, response,
    hnotes, hfull, hmethod, hhttp, _, hslash, hpath, hsignature, _⟩ := hroute
  have hbehind : Clean (slash :: (pathTail ++ (signature ++ trail))) := hclean.right.tail.right
  have hpathClean : Clean (slash :: pathTail) := by
    rw [← List.cons_append] at hbehind
    exact hbehind.left
  obtain ⟨lines, hlines⟩ := hnotes.lines hclean.left hfull
  obtain ⟨row, hrow⟩ := hsignature.row hbehind.tail.right.left
  have hmethodClean : Clean [method] := hclean.of_mem (by simp)
  have hmethodText : method.text = name.toList :=
    hmethodClean.text_eq List.mem_cons_self (by rw [hmethod]; rfl)
  have hpathTidy : Tidy (slash :: pathTail) :=
    tidy_run not_isTrivia_of_continuesRoutePath (by simp [hslash, Token.isTrivia]) hpath hpathClean
  have htidy : Tidy (method :: space :: (slash :: pathTail ++ row)) := by
    have hleft := (Tidy.single hmethodClean (by simp [hmethod, Token.isTrivia])).spaced hpathTidy
    simpa using hrow.tidy hleft
  refine ⟨linesBefore lines (method :: space :: (slash :: pathTail ++ row)), ?_,
    htidy.linesBefore hlines.tidy, ?_, ?_⟩
  · rw [hlines.textOf_linesBefore]
    simp [serviceEntryLines, ServiceEntry.print, Route.print, noteLines, nameAt, hmethodText,
      hrow.text]
  · intro source start rest hsource _
    rw [linesBefore_append, List.cons_append] at hsource ⊢
    have hhead := head_notes hlines method (space :: (slash :: pathTail ++ row) ++ rest)
    constructor
    · refine any_head?_placeLexemes (·.isPunct .rightBrace) start fun lexeme hlexeme => ?_
      rcases hhead lexeme hlexeme with hsign | rfl
      · simp [hsign, Token.isPunct]
      · simp [hmethod, Token.isPunct]
    · refine Bool.or_eq_false_iff.mpr ⟨?_, ?_⟩
      · refine any_head?_placeLexemes isDeclarationKeyword start fun lexeme hlexeme => ?_
        rcases hhead lexeme hlexeme with hsign | rfl
        · simp [hsign, isDeclarationKeyword]
        · simp [hmethod, isDeclarationKeyword]
      · refine announcesService_lines rfl (fun _ => id) hlines ?_ ?_ hsource
        · rintro lexeme ⟨⟩
          simp [hmethod, Token.isTrivia, Token.isPunct]
        · rintro lexeme ⟨⟩
          simp [hmethod, Token.isKeyword]
  · intro source
    refine (takes_route hlines hmethod hhttp hslash hpath hrow).pure fun found hfound => ?_
    exact congrArg ServiceEntry.route hfound

theorem takes_restOfService {first : Lexeme} (hfirst : first.token.word?.isSome = true)
    {tail : List Lexeme} (htail : ∀ lexeme ∈ tail, continuesServiceName lexeme.token = true)
    {lines : List (List Lexeme)} {entries : List ServiceEntry}
    (hlines : serviceEntryLines.Lines lines entries) (notes : List Annotation) (keyword : Span) :
    (restOfService source notes keyword).Takes source
      (space :: (first :: tail ++ space :: groupRow .leftBrace .rightBrace lines)) Anything
      fun found => found.unplaced =
        { annotations := notes.map Annotation.unplaced
          keyword := nowhere
          name := ⟨String.ofList (textOf (first :: tail)), nowhere⟩
          body := ⟨nowhere, entries.map ServiceEntry.unplaced, some nowhere⟩ } := by
  refine Reader.takes_skipInline_space.bind (fun _ _ => ?_) ?_
  · refine (takes_serviceName hfirst htail).bind (fun name hname => ?_) ?_
    · refine Reader.takes_skipTrivia_space.bind (fun _ _ => ?_) ?_
      · refine (Reader.takes_punct rfl).next fun opener _ => ?_
        refine (takes_body (serviceRules source) rfl (fun _ => id) hlines opener).pure
          fun block hblock => ?_
        have hbody : block.unplaced ServiceEntry.unplaced =
            ⟨nowhere, entries.map ServiceEntry.unplaced, some nowhere⟩ := hblock
        simp only [Service.unplaced, Spanned.unplaced, hname, hbody]
      · rintro rest _ lexeme ⟨⟩
        rfl
    · rintro rest _ lexeme ⟨⟩
      rfl
  · rintro rest _ lexeme ⟨⟩
    obtain ⟨text, htext⟩ := Option.isSome_iff_exists.mp hfirst
    simp [not_isInlineTrivia_of_solid (written?_of_word? htext).2]

/-- A service with its annotations above it. -/
theorem takes_service {noteRows : List (List Lexeme)} {notes : List Annotation}
    (hnotes : noteLines.Lines noteRows notes) {word first : Lexeme}
    (hword : word.token = .keyword .serviceWord) (hfirst : first.token.word?.isSome = true)
    {tail : List Lexeme} (htail : ∀ lexeme ∈ tail, continuesServiceName lexeme.token = true)
    {lines : List (List Lexeme)} {entries : List ServiceEntry}
    (hlines : serviceEntryLines.Lines lines entries) :
    (service source).Takes source (linesBefore noteRows
      (word :: space :: (first :: tail ++ space :: groupRow .leftBrace .rightBrace lines))) Anything
      fun found => found.unplaced =
        { annotations := notes.map Annotation.unplaced
          keyword := nowhere
          name := ⟨String.ofList (textOf (first :: tail)), nowhere⟩
          body := ⟨nowhere, entries.map ServiceEntry.unplaced, some nowhere⟩ } := by
  have hparts := linesBefore_append noteRows []
    (word :: space :: (first :: tail ++ space :: groupRow .leftBrace .rightBrace lines))
  rw [List.nil_append] at hparts
  rw [← hparts]
  refine (takes_annotations rfl (fun _ => id) hnotes).bind (fun foundNotes hfoundNotes => ?_) ?_
  · refine (Reader.takes_keyword hword).next fun keyword _ => ?_
    refine (takes_restOfService hfirst htail hlines foundNotes keyword).imp (fun _ => id) ?_
    intro found hfound
    have hfoundNotes : foundNotes.map Annotation.unplaced = notes.map Annotation.unplaced :=
      hfoundNotes
    rw [hfound, hfoundNotes]
  · rintro rest _ lexeme ⟨⟩
    simp [hword, Token.isTrivia, Token.isPunct]

end ApiLang
