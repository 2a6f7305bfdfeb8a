/-
Reading services and their routes.
-/
import ApiLang.Tree.Annotations
import ApiLang.Tree.TypeExpr

namespace ApiLang

/-- The request methods a route may have. -/
def httpMethods : List String :=
  ["get", "head", "post", "put", "patch", "delete", "connect", "options", "trace"]

/-- Methods are written in any letter case. -/
def isHttpMethod (word : String) : Bool :=
  httpMethods.contains word.toLower

/-- Extends a span by tokens that touch it and satisfy `continues`. -/
def extendRun (continues : Token → Bool) (span : Span) :
    List PlacedToken → Span × List PlacedToken
  | [] => (span, [])
  | placed :: rest =>
    if placed.span.start == span.stop && continues placed.token then
      extendRun continues (span.union placed.span) rest
    else (span, placed :: rest)

theorem extendRun_suffix (continues : Token → Bool) (span : Span)
    (tokens : List PlacedToken) : (extendRun continues span tokens).2 <:+ tokens := by
  induction tokens generalizing span with
  | nil => exact List.suffix_refl _
  | cons placed rest ih =>
    unfold extendRun
    split
    · exact (ih _).trans (List.suffix_cons _ _)
    · exact List.suffix_refl _

/-- The whole text of a run of touching tokens whose first was read. -/
def restOfRun (source : List Char) (continues : Token → Bool) (first : Span) :
    Reader (Spanned String) := fun tokens =>
  let (span, left) := extendRun continues first tokens
  .ok (⟨sliceText source span, span⟩, left)

theorem restOfRun_keeps (source : List Char) (continues : Token → Bool) (first : Span) :
    (restOfRun source continues first).Keeps := by
  intro tokens
  constructor
  · rintro _ _ ⟨⟩
    exact extendRun_suffix continues first tokens
  · rintro _ ⟨⟩

/-- Service names join words and numbers by hyphens and dots. -/
def continuesServiceName : Token → Bool
  | .identifier _ | .keyword _ | .number _ => true
  | .punct mark => mark == .minus || mark == .dot
  | _ => false

/-- A route path goes on until a blank, a parenthesis, a brace, a string or
invalid input. -/
def continuesRoutePath : Token → Bool
  | .punct mark =>
    !(mark == .leftParen || mark == .rightParen || mark == .leftBrace || mark == .rightBrace)
  | .string _ | .rawString _ | .invalid _ => false
  | token => !token.isTrivia

/-- A compound name such as `user-api`, written without blanks. -/
def serviceName (source : List Char) : Reader (Spanned String) := do
  let first ← Reader.word .serviceName
  restOfRun source continuesServiceName first.span

/-- `/segment/:param`, a run of touching tokens behind a slash. -/
def routePath (source : List Char) : Reader (Spanned String) := do
  let slash ← Reader.punct .slash .routePath
  restOfRun source continuesRoutePath slash

/-- A method name. -/
def routeMethod : Reader (Spanned String) :=
  Reader.expect .method fun placed =>
    match placed.token with
    | .identifier name => if isHttpMethod name then some ⟨name, placed.span⟩ else none
    | _ => none

/-- The type and the closing parenthesis behind an opening one. -/
def parenthesizedType (source : List Char) : Reader (TypeExpr × Span) := do
  Reader.skipInline
  let type ← typeExpr source
  Reader.skipInline
  let close ← Reader.punct .rightParen .rightParen
  pure (type, close)

/-- The request type of a route, if it has one. -/
def routeRequest (source : List Char) : Reader (Option (TypeExpr × Span)) := do
  let opener ← Reader.eatPunct .leftParen
  match opener with
  | none => pure none
  | some _ => do
    let request ← parenthesizedType source
    Reader.skipInline
    pure (some request)

/-- The response type of a route, if it has one. -/
def routeResponse (source : List Char) : Reader (Option (TypeExpr × Span)) := do
  let found ← Reader.optional fun placed =>
    if placed.token.isKeyword .returnsWord then some () else none
  match found with
  | none => pure none
  | some _ => do
    Reader.skipInline
    let _ ← Reader.punct .leftParen .leftParen
    let response ← parenthesizedType source
    pure (some response)

/-- The last span of a route: that of its response, else of its request, else of
its path. -/
def routeLast (path : Span) (request response : Option (TypeExpr × Span)) : Span :=
  match response, request with
  | some (_, close), _ => close
  | none, some (_, close) => close
  | none, none => path

/-- The line of a route behind its annotations and its method. -/
def restOfRoute (source : List Char) (annotations : List Annotation) (method : Spanned String) :
    Reader Route := do
  Reader.skipInline
  let path ← routePath source
  Reader.skipInline
  let request ← routeRequest source
  let response ← routeResponse source
  Reader.endOfLine
  pure
    { annotations, method, path
      request := request.map Prod.fst
      response := response.map Prod.fst
      span := spanFrom annotations method.span (routeLast path.span request response) }

/-- `@annotation* METHOD /path (Request) returns (Response)` -/
def route (source : List Char) : Reader Route := do
  let annotations ← annotations source
  let method ← routeMethod
  restOfRoute source annotations method

theorem serviceName_keeps (source : List Char) : (serviceName source).Keeps :=
  Reader.bind_keeps (Reader.expect_keeps _ _) fun _ => restOfRun_keeps source _ _

theorem routePath_keeps (source : List Char) : (routePath source).Keeps :=
  Reader.bind_keeps (Reader.expect_keeps _ _) fun _ => restOfRun_keeps source _ _

theorem parenthesizedType_keeps (source : List Char) : (parenthesizedType source).Keeps :=
  Reader.bind_keeps Reader.skipInline_keeps fun _ =>
    Reader.bind_keeps (typeExpr_keeps source) fun _ =>
      Reader.bind_keeps Reader.skipInline_keeps fun _ =>
        Reader.bind_keeps (Reader.expect_keeps _ _) fun _ => Reader.pure_keeps _

theorem routeRequest_keeps (source : List Char) : (routeRequest source).Keeps := by
  refine Reader.bind_keeps (Reader.optional_keeps _) fun opener => ?_
  cases opener with
  | none => exact Reader.pure_keeps _
  | some _ =>
    exact Reader.bind_keeps (parenthesizedType_keeps source) fun _ =>
      Reader.bind_keeps Reader.skipInline_keeps fun _ => Reader.pure_keeps _

theorem routeResponse_keeps (source : List Char) : (routeResponse source).Keeps := by
  refine Reader.bind_keeps (Reader.optional_keeps _) fun found => ?_
  cases found with
  | none => exact Reader.pure_keeps _
  | some _ =>
    exact Reader.bind_keeps Reader.skipInline_keeps fun _ =>
      Reader.bind_keeps (Reader.expect_keeps _ _) fun _ =>
        Reader.bind_keeps (parenthesizedType_keeps source) fun _ => Reader.pure_keeps _

theorem restOfRoute_keeps (source : List Char) (annotations : List Annotation)
    (method : Spanned String) : (restOfRoute source annotations method).Keeps :=
  Reader.bind_keeps Reader.skipInline_keeps fun _ =>
    Reader.bind_keeps (routePath_keeps source) fun _ =>
      Reader.bind_keeps Reader.skipInline_keeps fun _ =>
        Reader.bind_keeps (routeRequest_keeps source) fun _ =>
          Reader.bind_keeps (routeResponse_keeps source) fun _ =>
            Reader.bind_keeps Reader.endOfLine_keeps fun _ => Reader.pure_keeps _

/-- Whether annotations followed by the word `service` come next, the start of
another service rather than of a route. -/
def announcesService (source : List Char) (tokens : List PlacedToken) : Bool :=
  if atPunct .atSign tokens.head? then
    match _read : annotationStep source tokens with
    | .error _ => false
    | .ok (_, rest) =>
      if (dropTrivia rest).head?.any fun placed => placed.token.isKeyword .serviceWord then true
      else announcesService source (dropTrivia rest)
  else false
termination_by tokens.length
decreasing_by
  have shorter := annotationStep_advances source _ _ _ _read
  have within := (dropTrivia_suffix rest).length_le
  omega

/-- Service bodies end at their brace; without it, at a declaration keyword or at
the annotations of another service. -/
def serviceRules (source : List Char) : BodyRules ServiceEntry where
  closer := .rightBrace
  stops tokens :=
    (tokens.head?.any fun placed => isDeclarationKeyword placed.token) ||
      announcesService source tokens
  entry :=
    { read := do
        let found ← route source
        pure (.route found)
      keeps := Reader.bind_keeps
        (Reader.bind_keeps (annotations_keeps source) fun _ =>
          Reader.bind_keeps (Reader.expect_keeps _ _) fun _ => restOfRoute_keeps source _ _)
        fun _ => Reader.pure_keeps _
      advances := Reader.bind_advances_of_first
        (Reader.bind_advances_of_next (annotations_keeps source) fun _ =>
          Reader.bind_advances_of_first (Reader.expect_advances _ _) fun _ =>
            restOfRoute_keeps source _ _)
        fun _ => Reader.pure_keeps _ }
  skipped := .skipped

/-- A service behind its annotations and its keyword. -/
def restOfService (source : List Char) (annotations : List Annotation) (keyword : Span) :
    Reader Service := do
  Reader.skipInline
  let name ← serviceName source
  Reader.skipTrivia
  let opener ← Reader.punct .leftBrace .leftBrace
  let body ← body source (serviceRules source) opener
  pure { annotations, keyword, name, body }

theorem restOfService_keeps (source : List Char) (annotations : List Annotation)
    (keyword : Span) : (restOfService source annotations keyword).Keeps :=
  Reader.bind_keeps Reader.skipInline_keeps fun _ =>
    Reader.bind_keeps (serviceName_keeps source) fun _ =>
      Reader.bind_keeps Reader.skipTrivia_keeps fun _ =>
        Reader.bind_keeps (Reader.expect_keeps _ _) fun _ =>
          Reader.bind_keeps (body_keeps source _ _) fun _ => Reader.pure_keeps _

/-- `@annotation* service name { routes }` -/
def service (source : List Char) : Reader Service := do
  let annotations ← annotations source
  let keyword ← Reader.keyword .serviceWord .serviceKeyword
  restOfService source annotations keyword

theorem service_keeps (source : List Char) : (service source).Keeps :=
  Reader.bind_keeps (annotations_keeps source) fun _ =>
    Reader.bind_keeps (Reader.expect_keeps _ _) fun _ => restOfService_keeps source _ _

theorem service_advances (source : List Char) : (service source).Advances :=
  Reader.bind_advances_of_next (annotations_keeps source) fun _ =>
    Reader.bind_advances_of_first (Reader.expect_advances _ _) fun _ =>
      restOfService_keeps source _ _

end ApiLang
