/-
Reading makes progress.  The readers are watched at work: every loop is seen with the
inputs at which its iterations start, every type with those for which it calls itself,
and every place in the input whose number is taken, alone or as the end of a range of
tokens.  Main statement: whatever the tokens are, all this happens within them, no
iteration and no call starts with as many tokens as the one before, and in the end no
token is left.
-/
import ApiLang.Proofs.Tree.Loops
import ApiLang.Token.Lexer

namespace ApiLang

variable {α β σ ε : Type}

/-- The loops of the parser. -/
inductive LoopKind where
  | file
  | typeGroup
  | structBody
  | serviceBody
  | importGroup
  | keyValues
  | value
  | qualifiedName
  | announcedService
  | annotations
  | touchingTokens
deriving DecidableEq

/-- What is seen of the parser at work.  A place is given by the input that is left
there. -/
inductive Event where
  /-- A loop, with the inputs at which its iterations start. -/
  | loop (kind : LoopKind) (starts : List (List PlacedToken))
  /-- A type that is read for the sake of another one. -/
  | call (caller callee : List PlacedToken)
  /-- The number of a token is taken. -/
  | index (input : List PlacedToken)
  /-- The tokens from one place up to another are cut out. -/
  | range (start stop : List PlacedToken)

/-- The event happens within the tokens, and what goes on goes on with fewer of them. -/
def Event.Within (tokens : List PlacedToken) : Event → Prop
  | .loop _ starts => (∀ start ∈ starts, start <:+ tokens) ∧ starts.IsChain Fewer
  | .call caller callee => caller <:+ tokens ∧ Fewer caller callee
  | .index input => input <:+ tokens
  | .range start stop => start <:+ tokens ∧ stop <:+ start

theorem Event.Within.mono {tokens whole : List PlacedToken} {event : Event}
    (hwithin : event.Within tokens) (hsuffix : tokens <:+ whole) : event.Within whole := by
  cases event with
  | loop kind starts =>
      exact ⟨fun start hstart => (hwithin.1 start hstart).trans hsuffix, hwithin.2⟩
  | call caller callee => exact ⟨hwithin.1.trans hsuffix, hwithin.2⟩
  | index input => exact List.IsSuffix.trans hwithin hsuffix
  | range start stop => exact ⟨hwithin.1.trans hsuffix, hwithin.2⟩

/-- All these events happen within the tokens. -/
def AllWithin (tokens : List PlacedToken) (events : List Event) : Prop :=
  ∀ event ∈ events, event.Within tokens

namespace AllWithin

variable {tokens whole : List PlacedToken} {events others : List Event} {event : Event}

theorem nil : AllWithin tokens [] :=
  List.forall_mem_nil _

theorem cons (hfirst : event.Within tokens) (hothers : AllWithin tokens others) :
    AllWithin tokens (event :: others) :=
  List.forall_mem_cons.mpr ⟨hfirst, hothers⟩

theorem append (hevents : AllWithin tokens events) (hothers : AllWithin tokens others) :
    AllWithin tokens (events ++ others) :=
  List.forall_mem_append.mpr ⟨hevents, hothers⟩

theorem mono (hevents : AllWithin tokens events) (hsuffix : tokens <:+ whole) :
    AllWithin whole events :=
  fun event hevent => (hevents event hevent).mono hsuffix

end AllWithin

section Loops

variable (kind : LoopKind) (loop : Loop σ β ε) (pass : σ → List Event)

/-- What is seen of a loop: its iterations, and what is seen in each of them. -/
def Loop.events (state : σ) : List Event :=
  .loop kind ((loop.passes state).map loop.input) :: (loop.passes state).flatMap pass

theorem Loop.events_within (hpass : ∀ state, AllWithin (loop.input state) (pass state))
    (state : σ) : AllWithin (loop.input state) (loop.events kind pass state) := by
  refine .cons ⟨?_, loop.passes_fewer state⟩ fun event hevent => ?_
  · exact List.forall_mem_map.mpr (loop.passes_suffix state)
  · obtain ⟨start, hstart, hevent⟩ := List.mem_flatMap.mp hevent
    exact (hpass start event hevent).mono (loop.passes_suffix state start hstart)

end Loops

/-- A watch on a reader: what is seen while it works, all of it within its input. -/
structure Watch (reader : Reader α) where
  keeps : reader.Keeps
  events : List PlacedToken → List Event
  within : ∀ tokens, AllWithin tokens (events tokens)

namespace Watch

/-- A reader without loops. -/
def quiet {reader : Reader α} (keeps : reader.Keeps) : Watch reader where
  keeps := keeps
  events _ := []
  within _ := .nil

/-- Readers in a row are watched one after the other. -/
def bind {first : Reader α} {next : α → Reader β} (watch : Watch first)
    (watchNext : ∀ a, Watch (next a)) : Watch (first >>= next) where
  keeps := Reader.bind_keeps watch.keeps fun a => (watchNext a).keeps
  events tokens := watch.events tokens ++
    match first tokens with
    | .ok (a, rest) => (watchNext a).events rest
    | .error _ => []
  within tokens := by
    refine (watch.within tokens).append ?_
    split
    · rename_i a rest hread
      exact ((watchNext a).within rest).mono ((watch.keeps tokens).1 a rest hread)
    · exact .nil

def choice {yes no : Reader α} (test : Prop) [Decidable test] (watchYes : Watch yes)
    (watchNo : Watch no) : Watch (if test then yes else no) where
  keeps := by
    split
    · exact watchYes.keeps
    · exact watchNo.keeps
  events tokens := if test then watchYes.events tokens else watchNo.events tokens
  within tokens := by
    split
    · exact watchYes.within tokens
    · exact watchNo.within tokens

/-- An entry is read from `start`.  If that fails, the input is skipped up to where
`recover` stops. -/
def recovering {reader : Reader α} (watch : Watch reader)
    (recover : List PlacedToken → List PlacedToken) (start : List PlacedToken) : List Event :=
  .index start :: watch.events start ++
    match reader start with
    | .ok _ => []
    | .error mismatch =>
      let left := recover (resumeAfter start mismatch.rest)
      [.index mismatch.rest, .index left, .range start left]

theorem recovering_within {reader : Reader α} (watch : Watch reader)
    {recover : List PlacedToken → List PlacedToken} (hrecover : ∀ tokens, recover tokens <:+ tokens)
    (start : List PlacedToken) : AllWithin start (watch.recovering recover start) := by
  refine .append (.cons (List.suffix_refl start) (watch.within start)) ?_
  split
  · exact .nil
  · rename_i mismatch hread
    have hstuck := (watch.keeps start).2 mismatch hread
    have hleft := (hrecover _).trans (resumeAfter_suffix start mismatch.rest hstuck)
    exact .cons hstuck (.cons hleft (.cons ⟨List.suffix_refl start, hleft⟩ .nil))

section Lists

variable {item : ItemReader α} (watch : Watch item.read)

/-- What is seen of one item of a list. -/
def listPass (tokens : List PlacedToken) : List Event :=
  match (dropTrivia tokens).head?.filter fun placed => placed.token.isPunct .rightParen with
  | some _ => []
  | none => watch.events (dropTrivia tokens)

def ofList (kind : LoopKind) : Watch (untilRightParen item) where
  keeps := untilRightParen_keeps item
  events := (listLoop item).events kind watch.listPass
  within := by
    refine (listLoop item).events_within kind _ fun tokens => ?_
    unfold listPass
    split
    · exact .nil
    · exact (watch.within _).mono (dropTrivia_suffix tokens)

end Lists

section Bodies

variable (source : List Char) {rules : BodyRules α} (watch : Watch rules.entry.read)
  (lookAhead : List PlacedToken → List Event)

/-- What is seen of one line of a body: the look at what comes next, and then the
entry. -/
def bodyPass (tokens : List PlacedToken) : List Event :=
  match dropTrivia tokens with
  | [] => []
  | placed :: rest =>
    if placed.token.isPunct rules.closer then []
    else
      lookAhead (placed :: rest) ++
        if rules.stops (placed :: rest) then []
        else watch.recovering (dropLine rules.closer) (placed :: rest)

def ofBody (kind : LoopKind) (hlookAhead : ∀ tokens, AllWithin tokens (lookAhead tokens))
    (opener : Span) : Watch (body source rules opener) where
  keeps := body_keeps source rules opener
  events := (bodyLoop source rules).events kind (watch.bodyPass lookAhead)
  within := by
    refine (bodyLoop source rules).events_within kind _ fun tokens => ?_
    unfold bodyPass
    split
    · exact .nil
    · rename_i placed rest htrivia
      have hstart : placed :: rest <:+ tokens := htrivia ▸ dropTrivia_suffix tokens
      split
      · exact .nil
      · refine .append ((hlookAhead _).mono hstart) ?_
        split
        · exact .nil
        · exact (watch.recovering_within (dropLine_suffix _) _).mono hstart

end Bodies

end Watch

section Names

variable (source : List Char)

def watchRestOfName (first : Span) : Watch (restOfName source first) where
  keeps := restOfName_keeps source first
  events tokens := nameLoop.events .qualifiedName (fun _ => []) (first, tokens)
  within tokens := nameLoop.events_within _ _ (fun _ => .nil) (first, tokens)

def watchName : Watch (qualifiedName source) :=
  .bind (.quiet (Reader.expect_keeps _ _)) fun _ => watchRestOfName source _

def watchRestOfRun (continues : Token → Bool) (first : Span) :
    Watch (restOfRun source continues first) where
  keeps := restOfRun_keeps source continues first
  events tokens := (runLoop continues).events .touchingTokens (fun _ => []) (first, tokens)
  within tokens := (runLoop continues).events_within _ _ (fun _ => .nil) (first, tokens)

end Names

section Types

variable (source : List Char)

/-- The type is a name, and not a map or an interface. -/
def readsName : List PlacedToken → Bool
  | [] => false
  | placed :: rest =>
    match placed.token with
    | .identifier name =>
      !(name = "map" && atPunct .leftBracket rest.head?) &&
        !(name = "interface" && atPunct .leftBrace rest.head?)
    | _ => false

/-- What is seen while a type is read: the loop over its name, if it is one, and its
calls with all that is seen in them. -/
def typeEvents (tokens : List PlacedToken) : List Event :=
  (if readsName tokens then (watchName source).events tokens else []) ++
    (typeCalls source tokens).attach.flatMap fun callee =>
      .call tokens callee.val :: typeEvents callee.val
termination_by tokens.length
decreasing_by exact (typeCalls_fewer source tokens callee.val callee.property).2

theorem typeEvents_within (tokens : List PlacedToken) :
    AllWithin tokens (typeEvents source tokens) := by
  fun_induction typeEvents source tokens with
  | case1 tokens ih =>
      refine .append ?_ fun event hevent => ?_
      · split
        · exact (watchName source).within tokens
        · exact .nil
      · obtain ⟨callee, _, hevent⟩ := List.mem_flatMap.mp hevent
        have hfewer := typeCalls_fewer source tokens callee.val callee.property
        rcases List.mem_cons.mp hevent with rfl | hevent
        · exact ⟨List.suffix_refl tokens, hfewer⟩
        · exact (ih callee event hevent).mono hfewer.1

def watchType : Watch (typeExpr source) where
  keeps := typeExpr_keeps source
  events := typeEvents source
  within := typeEvents_within source

end Types

section Values

variable (source : List Char)

/-- What is seen of one item of a value: where a bare item starts and where it stops,
and the tokens between, unless there are none. -/
def itemEvents : List PlacedToken → List Event
  | [] => []
  | placed :: rest =>
    match placed.token with
    | .string _ => []
    | token =>
      if endsValue token then [.index (placed :: rest)]
      else
        let left := rest.dropWhile fun next => !endsValue next.token
        [.index (placed :: rest), .index left, .range (placed :: rest) left]

theorem itemEvents_within (tokens : List PlacedToken) :
    AllWithin tokens (itemEvents tokens) := by
  cases tokens with
  | nil => exact .nil
  | cons placed rest =>
      have hstart := List.suffix_refl (placed :: rest)
      simp only [itemEvents]
      split
      · exact .nil
      · split
        · exact .cons hstart .nil
        · have hleft : (rest.dropWhile fun next => !endsValue next.token) <:+ placed :: rest :=
            (List.dropWhile_suffix _).trans (List.suffix_cons placed rest)
          exact .cons hstart (.cons hleft (.cons ⟨hstart, hleft⟩ .nil))

def watchValue : Watch (valueList source) where
  keeps := valueList_keeps source
  events := (valueLoop source).events .value fun tokens => itemEvents (dropInline tokens)
  within := (valueLoop source).events_within .value _ fun tokens =>
    (itemEvents_within (dropInline tokens)).mono (dropInline_suffix tokens)

def watchKeyValue : Watch (keyValue source) :=
  .bind (.quiet (Reader.expect_keeps _ _)) fun _ =>
    .bind (.quiet Reader.skipInline_keeps) fun _ =>
      .bind (.quiet (Reader.expect_keeps _ _)) fun _ =>
        .bind (watchValue source) fun _ => .quiet (Reader.pure_keeps _)

def watchListedKeyValue : Watch (keyValueItem source).read :=
  .bind (.quiet Reader.peek_keeps) fun _ =>
    .choice _ (.quiet (Reader.fail_keeps _)) (watchKeyValue source)

def watchKeyValues : Watch (keyValues source) :=
  (watchListedKeyValue source).ofList .keyValues

def watchAnnotationBody : Watch (annotationBody source) :=
  .bind (.quiet Reader.peekPastInline_keeps) fun _ =>
    .choice _
      (.bind (.quiet Reader.skipInline_keeps) fun _ =>
        .bind (.quiet (Reader.expect_keeps _ _)) fun _ =>
          .bind (watchKeyValues source) fun _ => .quiet (Reader.pure_keeps _))
      (.choice _ (.quiet (Reader.pure_keeps _))
        (.bind (watchValue source) fun _ => .quiet (Reader.pure_keeps _)))

def watchAnnotationStep : Watch (annotationStep source) :=
  .bind (.quiet (Reader.expect_keeps _ _)) fun _ =>
    .bind (.quiet (Reader.expect_keeps _ _)) fun _ =>
      .bind (watchAnnotationBody source) fun _ => .quiet (Reader.pure_keeps _)

/-- What is seen of one annotation of a row. -/
def annotationPass (tokens : List PlacedToken) : List Event :=
  if atPunct .atSign tokens.head? then (watchAnnotationStep source).events tokens else []

theorem annotationPass_within (tokens : List PlacedToken) :
    AllWithin tokens (annotationPass source tokens) := by
  unfold annotationPass
  split
  · exact (watchAnnotationStep source).within tokens
  · exact .nil

def watchAnnotations : Watch (annotations source) where
  keeps := annotations_keeps source
  events := (annotationLoop source).events .annotations (annotationPass source)
  within := (annotationLoop source).events_within .annotations _ (annotationPass_within source)

/-- The look for a service behind annotations.  At the keyword of a declaration it is
not needed. -/
def lookForService (tokens : List PlacedToken) : List Event :=
  if tokens.head?.any fun placed => isDeclarationKeyword placed.token then []
  else (announceLoop source).events .announcedService (annotationPass source) tokens

theorem lookForService_within (tokens : List PlacedToken) :
    AllWithin tokens (lookForService source tokens) := by
  unfold lookForService
  split
  · exact .nil
  · exact (announceLoop source).events_within .announcedService _ (annotationPass_within source)
      tokens

end Values

section Structs

variable (source : List Char)

def watchFieldOf (name : Spanned String) : Watch (fieldOf source name) :=
  .bind (watchType source) fun _ =>
    .bind (.quiet Reader.skipInline_keeps) fun _ =>
      .bind (.quiet (Reader.optional_keeps _)) fun _ =>
        .bind (.quiet Reader.endOfLine_keeps) fun _ => .quiet (Reader.pure_keeps _)

def watchFieldOrEmbedded (name : Spanned String) : Watch (fieldOrEmbedded source name) :=
  .bind (.quiet Reader.skipInline_keeps) fun _ =>
    .bind (.quiet Reader.peek_keeps) fun _ =>
      .choice _ (.quiet (Reader.pure_keeps _))
        (.choice _ (.quiet (Reader.fail_keeps _)) (watchFieldOf source name))

def watchMember : Watch (member source) :=
  .bind (.quiet (Reader.optional_keeps _)) fun star =>
    .bind (watchName source) fun name =>
      match star with
      | some star => .quiet (embeddedPointer_keeps star name)
      | none => watchFieldOrEmbedded source name

def watchStruct : Watch (structDef source) :=
  .bind (.quiet (Reader.expect_keeps _ _)) fun _ =>
    .bind (.quiet Reader.skipInline_keeps) fun _ =>
      .bind (.quiet structWord_keeps) fun _ =>
        .bind (.quiet (Reader.expect_keeps _ _)) fun opener =>
          .bind (Watch.ofBody source (watchMember source) (fun _ => []) .structBody
            (fun _ => .nil) opener) fun _ => .quiet (Reader.pure_keeps _)

end Structs

section Services

variable (source : List Char)

def watchServiceName : Watch (serviceName source) :=
  .bind (.quiet (Reader.expect_keeps _ _)) fun _ => watchRestOfRun source _ _

def watchRoutePath : Watch (routePath source) :=
  .bind (.quiet (Reader.expect_keeps _ _)) fun _ => watchRestOfRun source _ _

def watchParenthesizedType : Watch (parenthesizedType source) :=
  .bind (.quiet Reader.skipInline_keeps) fun _ =>
    .bind (watchType source) fun _ =>
      .bind (.quiet Reader.skipInline_keeps) fun _ =>
        .bind (.quiet (Reader.expect_keeps _ _)) fun _ => .quiet (Reader.pure_keeps _)

def watchRequest : Watch (routeRequest source) :=
  .bind (.quiet (Reader.optional_keeps _)) fun opener =>
    match opener with
    | none => .quiet (Reader.pure_keeps _)
    | some _ =>
      .bind (watchParenthesizedType source) fun _ =>
        .bind (.quiet Reader.skipInline_keeps) fun _ => .quiet (Reader.pure_keeps _)

def watchResponse : Watch (routeResponse source) :=
  .bind (.quiet (Reader.optional_keeps _)) fun found =>
    match found with
    | none => .quiet (Reader.pure_keeps _)
    | some _ =>
      .bind (.quiet Reader.skipInline_keeps) fun _ =>
        .bind (.quiet (Reader.expect_keeps _ _)) fun _ =>
          .bind (watchParenthesizedType source) fun _ => .quiet (Reader.pure_keeps _)

def watchRestOfRoute (notes : List Annotation) (method : Spanned String) :
    Watch (restOfRoute source notes method) :=
  .bind (.quiet Reader.skipInline_keeps) fun _ =>
    .bind (watchRoutePath source) fun _ =>
      .bind (.quiet Reader.skipInline_keeps) fun _ =>
        .bind (watchRequest source) fun _ =>
          .bind (watchResponse source) fun _ =>
            .bind (.quiet Reader.endOfLine_keeps) fun _ => .quiet (Reader.pure_keeps _)

def watchRoute : Watch (serviceRules source).entry.read :=
  .bind
    (.bind (watchAnnotations source) fun _ =>
      .bind (.quiet (Reader.expect_keeps _ _)) fun _ => watchRestOfRoute source _ _)
    fun _ => .quiet (Reader.pure_keeps _)

def watchRestOfService (notes : List Annotation) (keyword : Span) :
    Watch (restOfService source notes keyword) :=
  .bind (.quiet Reader.skipInline_keeps) fun _ =>
    .bind (watchServiceName source) fun _ =>
      .bind (.quiet Reader.skipTrivia_keeps) fun _ =>
        .bind (.quiet (Reader.expect_keeps _ _)) fun opener =>
          .bind ((watchRoute source).ofBody source (lookForService source) .serviceBody
            (lookForService_within source) opener) fun _ => .quiet (Reader.pure_keeps _)

def watchService : Watch (service source) :=
  .bind (watchAnnotations source) fun _ =>
    .bind (.quiet (Reader.expect_keeps _ _)) fun _ => watchRestOfService source _ _

end Services

section Files

variable (source : List Char)

def watchInfo (start : Span) : Watch (infoDecl source start) :=
  .bind (.quiet Reader.skipTrivia_keeps) fun _ =>
    .bind (.quiet (Reader.expect_keeps _ _)) fun _ =>
      .bind (watchKeyValues source) fun _ => .quiet (Reader.pure_keeps _)

def watchImports (start : Span) : Watch (importDecl start) :=
  .bind (.quiet Reader.skipTrivia_keeps) fun _ =>
    .bind (.quiet (Reader.optional_keeps _)) fun opener =>
      match opener with
      | none =>
        .bind (.quiet (Reader.expect_keeps _ _)) fun _ => .quiet (Reader.pure_keeps _)
      | some _ =>
        .bind (Watch.ofList (.quiet importPath.keeps) .importGroup) fun _ =>
          .quiet (Reader.pure_keeps _)

def watchTypeEntry : Watch (typeGroupRules source).entry.read :=
  .bind (watchStruct source) fun _ => .quiet (Reader.pure_keeps _)

def watchTypes (start : Span) : Watch (typeDecl source start) :=
  .bind (.quiet Reader.skipTrivia_keeps) fun _ =>
    .bind (.quiet (Reader.optional_keeps _)) fun opener =>
      match opener with
      | none => .bind (watchStruct source) fun _ => .quiet (Reader.pure_keeps _)
      | some opener =>
        .bind ((watchTypeEntry source).ofBody source (fun _ => []) .typeGroup (fun _ => .nil)
          opener) fun _ => .quiet (Reader.pure_keeps _)

def watchRestOfDeclaration (word : Keyword) (start : Span) :
    Watch (restOfDeclaration source word start) :=
  match word with
  | .syntaxWord => .quiet (versionDecl_keeps start)
  | .infoWord => watchInfo source start
  | .importWord => watchImports start
  | .typeWord => watchTypes source start
  | .serviceWord => .quiet (Reader.fail_keeps _)
  | .returnsWord => .quiet (Reader.fail_keeps _)

def watchDeclaration : Watch (declaration source) :=
  .bind (.quiet Reader.peek_keeps) fun _ =>
    .choice _ (.bind (watchService source) fun _ => .quiet (Reader.pure_keeps _))
      (.bind (.quiet (Reader.expect_keeps _ _)) fun _ => watchRestOfDeclaration source _ _)

/-- What is seen of one declaration of a file. -/
def filePass (tokens : List PlacedToken) : List Event :=
  if (dropTrivia tokens).isEmpty then []
  else (watchDeclaration source).recovering dropToDeclaration (dropTrivia tokens)

/-- All that is seen while a file is read. -/
def fileEvents (tokens : List PlacedToken) : List Event :=
  (fileLoop source).events .file (filePass source) tokens

theorem fileEvents_within (tokens : List PlacedToken) :
    AllWithin tokens (fileEvents source tokens) := by
  refine (fileLoop source).events_within .file _ (fun tokens => ?_) tokens
  unfold filePass
  split
  · exact .nil
  · refine AllWithin.mono ?_ (dropTrivia_suffix tokens)
    exact (watchDeclaration source).recovering_within (fun _ => List.dropWhile_suffix _) _

end Files

/-- The same with numbers.  A place has the number of the tokens in front of it: it is
not below zero, ranges of places are in order, and what is cut out at their numbers are
the tokens between them. -/
def Event.Progresses (tokens : List PlacedToken) : Event → Prop
  | .loop _ starts =>
    starts.IsChain (fun before after => after.length < before.length) ∧
      starts.length ≤ tokens.length + 1
  | .call caller callee => callee.length < caller.length
  | .index input => input.length ≤ tokens.length
  | .range start stop =>
    start.length ≤ tokens.length ∧ stop.length ≤ tokens.length ∧
      tokens.length - start.length ≤ tokens.length - stop.length ∧
      tokens.length - stop.length ≤ tokens.length ∧
      (tokens.take (tokens.length - stop.length)).drop (tokens.length - start.length) =
        start.take (start.length - stop.length)

/-- A loop has no more iterations than its first one has tokens, and one that leaves
it. -/
theorem length_le_of_isChain {start : List PlacedToken} {others : List (List PlacedToken)}
    (hchain : (start :: others).IsChain Fewer) : (start :: others).length ≤ start.length + 1 := by
  induction others generalizing start with
  | nil => simp
  | cons next others ih =>
      obtain ⟨hnext, hothers⟩ := List.isChain_cons_cons.mp hchain
      have hlength := ih hothers
      have hfewer := hnext.2
      simp only [List.length_cons] at hlength ⊢
      omega

theorem Event.Within.progresses {tokens : List PlacedToken} {event : Event}
    (hwithin : event.Within tokens) : event.Progresses tokens := by
  cases event with
  | loop kind starts =>
      obtain ⟨hinside, hchain⟩ := hwithin
      refine ⟨hchain.imp fun before after hfewer => hfewer.2, ?_⟩
      cases starts with
      | nil => simp
      | cons start others =>
          have hlength := length_le_of_isChain hchain
          have hstart := (hinside start List.mem_cons_self).length_le
          omega
  | call caller callee => exact hwithin.2.2
  | index input => exact List.IsSuffix.length_le hwithin
  | range start stop =>
      obtain ⟨⟨front, rfl⟩, ⟨between, rfl⟩⟩ := hwithin
      have hlast : (front ++ (between ++ stop)).length - stop.length =
          (front ++ between).length := by
        simp only [List.length_append]
        omega
      have hfirst : (front ++ (between ++ stop)).length - (between ++ stop).length =
          front.length := by
        simp
      have hcut : (between ++ stop).length - stop.length = between.length := by simp
      rw [Event.Progresses, hlast, hfirst, hcut, ← List.append_assoc, List.take_left,
        List.drop_left, List.append_assoc, List.take_left]
      refine ⟨?_, ?_, ?_, ?_, rfl⟩
      all_goals
        simp only [List.length_append]
        omega

/-- The recursive readers are runs of the loops whose iterations are seen, and types
call themselves as it is seen. -/
structure MadeOfLoops (source : List Char) : Prop where
  bodies : ∀ {α : Type} (rules : BodyRules α) tokens,
    bodyEntries source rules tokens = (bodyLoop source rules).run tokens
  lists : ∀ {α : Type} (item : ItemReader α) tokens,
    untilRightParen item tokens = listAnswer ((listLoop item).run tokens)
  values : ∀ tokens, valueItems source tokens = valueAnswer ((valueLoop source).run tokens)
  names : ∀ span tokens, extendName span tokens = (nameLoop.run (span, tokens)).2
  runs : ∀ continues span tokens,
    extendRun continues span tokens = ((runLoop continues).run (span, tokens)).2
  rows : ∀ tokens, annotations source tokens = rowAnswer ((annotationLoop source).run tokens)
  announcements : ∀ tokens,
    announcesService source tokens = ((announceLoop source).run tokens).2
  types : ∀ self tokens,
    (∀ callee ∈ typeCalls source tokens, self callee = typeExpr source callee) →
      typeStep source self tokens = typeExpr source tokens

/-- Reading a file makes progress, whatever its tokens are.  The loop over its
declarations gives the tree, one iteration for each of them, and leaves no token; and of
all loops that are entered on the way, each iteration starts with fewer tokens than the
one before it, as does each type that is read within another one. -/
theorem parseTokens_progresses (source : List Char) (tokens : List PlacedToken) :
    MadeOfLoops source ∧
      (fileLoop source).run tokens = ((parseTokens source tokens).declarations, []) ∧
      ((fileLoop source).passes tokens).length =
        (parseTokens source tokens).declarations.length + 1 ∧
      ∀ event ∈ fileEvents source tokens, event.Progresses tokens := by
  have hdeclarations : (parseTokens source tokens).declarations =
      ((fileLoop source).run tokens).1 := declarations_eq_run source tokens
  refine ⟨?_, ?_, ?_, fun event hevent => ?_⟩
  · exact
      { bodies := fun rules => bodyEntries_eq_run source rules
        lists := fun item => untilRightParen_eq_run item
        values := valueItems_eq_run source
        names := extendName_eq_run
        runs := extendRun_eq_run
        rows := annotations_eq_run source
        announcements := announcesService_eq_run source
        types := fun _ _ hself => typeStep_eq source hself }
  · exact Prod.ext hdeclarations.symm (fileLoop_exit source tokens)
  · rw [hdeclarations]
    exact (fileLoop source).length_passes tokens
  · exact (fileEvents_within source tokens event hevent).progresses

/-- Three iterations over the imports of a group, the last of which finds its end, within
the first of two over the declarations of the file. -/
example :
    let source := "import ( \"a\" \"b\" )".toList
    ((fileEvents source (tokenize source)).filterMap fun event =>
        match event with
        | .loop kind starts => some (kind, starts.map List.length)
        | _ => none) = [(.file, [9, 0]), (.importGroup, [6, 4, 2])] := by
  decide +kernel

end ApiLang
