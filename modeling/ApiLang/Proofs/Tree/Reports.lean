/-
Reports made while reading.  The parser does not wait for the finished tree to
complain.  The loop over a body or a file reports a mismatch in the iteration in which an
entry failed, and a missing mark in the iteration that leaves the body; apart from these
loops all readers are silent.  Main statement: what the loops report, in the order in
which they do, are the complaints read off the tree.
-/
import ApiLang.Proofs.Tree.Loops
import ApiLang.Token.Lexer
import ApiLang.Tree.Diagnostics

namespace ApiLang

variable {α β : Type}

/-- The report about a mismatch: at the token where reading is stuck, or at the end of
the source. -/
def Mismatch.report (source : List Char) (mismatch : Mismatch) : List Diagnostic :=
  mismatch.expected.diagnostics (byteWidth source) mismatch.rest.head?

/-- The voice of a reader: what it reports while it reads.  If it succeeds, this is all
there is to complain about in what it has read.  If it fails it has reported nothing, and
leaves the report to the loop that called it. -/
structure Voice (reader : Reader α) (complaints : α → List Diagnostic) where
  reports : List PlacedToken → List Diagnostic
  reports_eq : ∀ tokens, reports tokens =
    match reader tokens with
    | .ok (a, _) => complaints a
    | .error _ => []

namespace Voice

variable {reader : Reader α} {complaints : α → List Diagnostic}

def done {a : α} (hnone : complaints a = []) : Voice (pure a) complaints where
  reports _ := []
  reports_eq _ := hnone.symm

def fail {expected : Expected} : Voice (Reader.fail expected) complaints where
  reports _ := []
  reports_eq _ := rfl

/-- A silent reader comes first, and then one that is heard. -/
def behind {first : Reader β} {next : β → Reader α} (voice : ∀ b, Voice (next b) complaints) :
    Voice (first >>= next) complaints where
  reports tokens :=
    match first tokens with
    | .ok (b, rest) => (voice b).reports rest
    | .error _ => []
  reports_eq tokens := by
    simp only [bind, Reader.andThen]
    cases first tokens with
    | ok found => exact (voice found.1).reports_eq found.2
    | error mismatch => rfl

/-- What was read is put to use.  Only this stands behind a reader that is heard: were it
followed by one that can fail, reports would be made of input that is skipped later. -/
def andPure {complaints : β → List Diagnostic} {f : α → β}
    (voice : Voice reader fun a => complaints (f a)) :
    Voice (reader >>= fun a => pure (f a)) complaints where
  reports := voice.reports
  reports_eq tokens := by
    rw [voice.reports_eq]
    simp only [bind, Reader.andThen]
    cases reader tokens <;> rfl

def choice {yes no : Reader α} (test : Prop) [Decidable test] (voiceYes : Voice yes complaints)
    (voiceNo : Voice no complaints) : Voice (if test then yes else no) complaints where
  reports tokens := if test then voiceYes.reports tokens else voiceNo.reports tokens
  reports_eq tokens := by
    split
    · exact voiceYes.reports_eq tokens
    · exact voiceNo.reports_eq tokens

section Loops

variable (source : List Char)

/-- What a loop reports of an entry: all that is heard of its reader, and the mismatch if
that fails. -/
def recovering (voice : Voice reader complaints) (start : List PlacedToken) : List Diagnostic :=
  voice.reports start ++
    match reader start with
    | .ok _ => []
    | .error mismatch => mismatch.report source

/-- The report about an entry that fails is the complaint about what is skipped. -/
theorem recovering_eq (voice : Voice reader complaints) (start : List PlacedToken)
    (left : Mismatch → List PlacedToken) :
    voice.recovering source start =
      match reader start with
      | .ok (a, _) => complaints a
      | .error mismatch =>
        (Skipped.between source start (left mismatch) mismatch).diagnostics (byteWidth source) := by
  rw [recovering, voice.reports_eq]
  cases reader start with
  | ok found => exact List.append_nil _
  | error mismatch => rfl

variable {rules : BodyRules α} (voice : Voice rules.entry.read complaints) (opening : Punct)
  (opener : Span)

/-- What one iteration of the loop over a body reports. -/
def bodyPass (tokens : List PlacedToken) : List Diagnostic :=
  match dropTrivia tokens with
  | [] => [unclosedDiagnostic opener opening rules.closer]
  | placed :: rest =>
    if placed.token.isPunct rules.closer then []
    else if rules.stops (placed :: rest) then [unclosedDiagnostic opener opening rules.closer]
    else voice.recovering source (placed :: rest)

/-- What is left to say of a body when its loop has found the closing mark, or not. -/
def unclosedReport (opener : Span) (opening closing : Punct) : Option Span → List Diagnostic
  | some _ => []
  | none => [unclosedDiagnostic opener opening closing]

/-- An iteration reports what there is to say about the entry that it adds, and the one
that leaves the body reports the missing mark. -/
theorem bodyPass_eq
    (hskipped : ∀ input, complaints (rules.skipped input) = input.diagnostics (byteWidth source))
    (tokens : List PlacedToken) :
    voice.bodyPass source opening opener tokens =
      (bodyStep source rules tokens).elim
        (fun exit => unclosedReport opener opening rules.closer exit.1)
        fun found => complaints found.1 := by
  unfold bodyPass bodyStep
  cases dropTrivia tokens with
  | nil => rfl
  | cons placed rest =>
      dsimp only
      split
      · rfl
      · split
        · rfl
        · rw [voice.recovering_eq source _ fun mismatch =>
            dropLine rules.closer (resumeAfter (placed :: rest) mismatch.rest)]
          cases rules.entry.read (placed :: rest) with
          | ok found => rfl
          | error mismatch => exact (hskipped _).symm

/-- The loop over a body reports what there is to say about the body. -/
def ofBody
    (hskipped : ∀ input, complaints (rules.skipped input) = input.diagnostics (byteWidth source)) :
    Voice (body source rules opener) (Block.diagnostics complaints opening rules.closer) where
  reports tokens :=
    ((bodyLoop source rules).passes tokens).flatMap (voice.bodyPass source opening opener)
  reports_eq tokens := by
    have hpasses := (bodyLoop source rules).flatMap_passes
      (voice.bodyPass_eq source opening opener hskipped) tokens
    rw [hpasses, ← bodyEntries_eq_run]
    rfl

end Loops

end Voice

section Readers

-- The voices follow the readers one by one.  Those that are not named here, such as the
-- readers of types, values and annotations, have no loop that recovers.

variable (source : List Char)

def voiceField (name : Spanned String) :
    Voice (fieldOrEmbedded source name) (Member.diagnostics (byteWidth source)) :=
  .behind fun _ => .behind fun _ =>
    .choice _ (.done rfl)
      (.choice _ .fail
        (.behind fun _ => .behind fun _ => .behind fun _ => .behind fun _ => .done rfl))

def voiceMember : Voice (structRules source).entry.read (Member.diagnostics (byteWidth source)) :=
  .behind fun star => .behind fun name =>
    match star with
    | some _ => .behind fun _ => .done rfl
    | none => voiceField source name

def voiceStruct : Voice (structDef source) (StructDef.diagnostics (byteWidth source)) :=
  .behind fun _ => .behind fun _ => .behind fun _ => .behind fun opener =>
    .andPure ((voiceMember source).ofBody source .leftBrace opener fun _ => rfl)

def voiceTypeEntry :
    Voice (typeGroupRules source).entry.read (TypeEntry.diagnostics (byteWidth source)) :=
  .andPure (voiceStruct source)

def voiceRoute :
    Voice (serviceRules source).entry.read (ServiceEntry.diagnostics (byteWidth source)) :=
  .behind fun _ => .done rfl

def voiceService : Voice (do let found ← service source; pure (.service found))
    (Declaration.diagnostics (byteWidth source)) :=
  .andPure (.behind fun _ => .behind fun _ => .behind fun _ => .behind fun _ => .behind fun _ =>
    .behind fun opener =>
      .andPure ((voiceRoute source).ofBody source .leftBrace opener fun _ => rfl))

def voiceTypes (start : Span) :
    Voice (typeDecl source start) (Declaration.diagnostics (byteWidth source)) :=
  .behind fun _ => .behind fun opener =>
    match opener with
    | none => .andPure (voiceStruct source)
    | some opener =>
      .andPure ((voiceTypeEntry source).ofBody source .leftParen opener fun _ => rfl)

def voiceImports (start : Span) :
    Voice (importDecl start) (Declaration.diagnostics (byteWidth source)) :=
  .behind fun _ => .behind fun opener =>
    match opener with
    | none => .behind fun _ => .done rfl
    | some _ => .behind fun _ => .done rfl

def voiceRestOfDeclaration (word : Keyword) (start : Span) :
    Voice (restOfDeclaration source word start) (Declaration.diagnostics (byteWidth source)) :=
  match word with
  | .syntaxWord =>
    .behind fun _ => .behind fun _ => .behind fun _ => .behind fun _ => .done rfl
  | .infoWord => .behind fun _ => .behind fun _ => .behind fun _ => .done rfl
  | .importWord => voiceImports source start
  | .typeWord => voiceTypes source start
  | .serviceWord => .fail
  | .returnsWord => .fail

def voiceDeclaration : Voice (declaration source) (Declaration.diagnostics (byteWidth source)) :=
  .behind fun _ =>
    .choice _ (voiceService source) (.behind fun _ => voiceRestOfDeclaration source _ _)

end Readers

section Files

variable (source : List Char)

/-- What one iteration of the loop over a file reports. -/
def fileReport (tokens : List PlacedToken) : List Diagnostic :=
  if (dropTrivia tokens).isEmpty then []
  else (voiceDeclaration source).recovering source (dropTrivia tokens)

/-- An iteration reports what there is to say about the declaration that it adds. -/
theorem fileReport_eq (tokens : List PlacedToken) :
    fileReport source tokens =
      (fileStep source tokens).elim (fun _ => []) fun found =>
        found.1.diagnostics (byteWidth source) := by
  unfold fileReport fileStep
  split
  · rfl
  · rw [(voiceDeclaration source).recovering_eq source _ fun mismatch =>
      dropToDeclaration (resumeAfter (dropTrivia tokens) mismatch.rest)]
    cases declaration source (dropTrivia tokens) <;> rfl

/-- All that is reported while a file is read. -/
def fileReports (tokens : List PlacedToken) : List Diagnostic :=
  ((fileLoop source).passes tokens).flatMap (fileReport source)

/-- The complaints about a file are what the loops report while it is read, one report
after the other. -/
theorem parseTokens_reports (tokens : List PlacedToken) :
    (parseTokens source tokens).diagnostics = fileReports source tokens := by
  have hpasses := (fileLoop source).flatMap_passes (fileReport_eq source) tokens
  rw [fileReports, hpasses, ← declarations_eq_run, List.append_nil]
  rfl

/-- The line that fits no rule is reported before the brace that it leaves unclosed. -/
example :
    let source := "type A \x7b\n1\n".toList
    (fileReports source (tokenize source)).map Diagnostic.code =
      [some .unexpectedToken, some .incompleteInput] := by
  decide +kernel

end Files

end ApiLang
