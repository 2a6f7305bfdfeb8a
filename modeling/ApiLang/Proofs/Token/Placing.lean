/-
Tokens at their places.  The lexemes of a source stand side by side, each as wide as its
text, so a row that starts at another byte has the same tokens at other places; and the
complaints about tokens move with them.
-/
import ApiLang.Proofs.Token.Tiling

namespace ApiLang

section Rows

/-- The number of bytes of lexemes in a row. -/
def widthOf (run : List Lexeme) : Nat :=
  byteWidth (textOf run)

@[simp] theorem widthOf_nil : widthOf [] = 0 := rfl

@[simp] theorem widthOf_cons (lexeme : Lexeme) (run : List Lexeme) :
    widthOf (lexeme :: run) = byteWidth lexeme.text + widthOf run := by
  simp [widthOf]

@[simp] theorem widthOf_append (left right : List Lexeme) :
    widthOf (left ++ right) = widthOf left + widthOf right := by
  simp [widthOf]

/-- The span of lexemes in a row, the first at byte `start`. -/
def spanAt (start : Nat) (run : List Lexeme) : Span :=
  ⟨start, start + widthOf run⟩

def lineBreak : Lexeme :=
  ⟨.newline, ['\n']⟩

@[simp] theorem lineBreak_text : lineBreak.text = ['\n'] := rfl

@[simp] theorem placeLexemes_nil (start : Nat) : placeLexemes start [] = [] := rfl

@[simp] theorem placeLexemes_cons (start : Nat) (lexeme : Lexeme) (row : List Lexeme) :
    placeLexemes start (lexeme :: row) =
      ⟨lexeme.token, spanAt start [lexeme]⟩ ::
        placeLexemes (start + widthOf [lexeme]) row := by
  simp [placeLexemes, spanAt]

theorem placeLexemes_append (start : Nat) (run left : List Lexeme) :
    placeLexemes start (run ++ left) =
      placeLexemes start run ++ placeLexemes (start + widthOf run) left := by
  induction run generalizing start with
  | nil => simp
  | cons lexeme others ih => simp [ih, Nat.add_assoc]

@[simp] theorem length_placeLexemes (start : Nat) (row : List Lexeme) :
    (placeLexemes start row).length = row.length := by
  induction row generalizing start with
  | nil => rfl
  | cons lexeme others ih => simp [ih]

theorem getLast?_append_right {α : Type} {last : α} (left : List α) {right : List α}
    (hlast : last ∈ right.getLast?) : last ∈ (left ++ right).getLast? := by
  rw [List.getLast?_append, Option.mem_def.mp hlast]
  rfl

theorem getLast?_placeLexemes (start : Nat) {row : List Lexeme} {last : Lexeme}
    (hlast : last ∈ row.getLast?) :
    ∃ placed ∈ (placeLexemes start row).getLast?, placed.token = last.token := by
  obtain ⟨init, rfl⟩ := List.getLast?_eq_some_iff.mp hlast
  rw [placeLexemes_append]
  exact ⟨_, getLast?_append_right _ rfl, rfl⟩

end Rows

section Shift

namespace Span

@[simp] theorem shift_zero (span : Span) : span.shift 0 = span := rfl

@[simp] theorem start_shift (distance : Nat) (span : Span) :
    (span.shift distance).start = span.start + distance := rfl

@[simp] theorem stop_shift (distance : Nat) (span : Span) :
    (span.shift distance).stop = span.stop + distance := rfl

end Span

def PlacedToken.shift (distance : Nat) (placed : PlacedToken) : PlacedToken :=
  ⟨placed.token, placed.span.shift distance⟩

@[simp] theorem PlacedToken.token_shift (distance : Nat) (placed : PlacedToken) :
    (placed.shift distance).token = placed.token := rfl

@[simp] theorem PlacedToken.span_shift (distance : Nat) (placed : PlacedToken) :
    (placed.shift distance).span = placed.span.shift distance := rfl

/-- Tokens at another place. -/
theorem placeLexemes_shift (distance start : Nat) (run : List Lexeme) :
    placeLexemes (start + distance) run =
      (placeLexemes start run).map (PlacedToken.shift distance) := by
  induction run generalizing start with
  | nil => rfl
  | cons lexeme others ih =>
      have hstart : start + distance + widthOf [lexeme] = start + widthOf [lexeme] + distance := by
        omega
      rw [placeLexemes_cons, placeLexemes_cons, List.map_cons, hstart, ih]
      congr 1
      simp only [PlacedToken.shift, spanAt, Span.shift, PlacedToken.mk.injEq, Span.mk.injEq,
        true_and]
      omega

/-- The diagnostic with all its labels moved. -/
def Diagnostic.shift (distance : Nat) (diagnostic : Diagnostic) : Diagnostic :=
  { diagnostic with
    labels := diagnostic.labels.map fun label => { label with span := label.span.shift distance } }

@[simp] theorem Diagnostic.located_shift (distance : Nat) (severity : Severity)
    (code : DiagnosticCode) (message : String) (span : Span) (remark : String) :
    (located severity code message span remark).shift distance =
      located severity code message (span.shift distance) remark := rfl

@[simp] theorem Diagnostic.withHelp_shift (distance : Nat) (diagnostic : Diagnostic)
    (help : String) :
    (diagnostic.withHelp help).shift distance = (diagnostic.shift distance).withHelp help := rfl

theorem invalidTokenDiagnostic_shift (distance : Nat) (text : String) (span : Span) :
    invalidTokenDiagnostic text (span.shift distance) =
      (invalidTokenDiagnostic text span).shift distance := by
  unfold invalidTokenDiagnostic
  split <;> rfl

theorem tokenDiagnostics_append (tokens others : List PlacedToken) :
    tokenDiagnostics (tokens ++ others) = tokenDiagnostics tokens ++ tokenDiagnostics others :=
  List.filterMap_append

theorem tokenDiagnostics_shift (distance : Nat) (tokens : List PlacedToken) :
    tokenDiagnostics (tokens.map (PlacedToken.shift distance)) =
      (tokenDiagnostics tokens).map (Diagnostic.shift distance) := by
  rw [tokenDiagnostics, tokenDiagnostics, List.filterMap_map, List.map_filterMap]
  refine congrArg (List.filterMap · tokens) (funext fun placed => ?_)
  obtain ⟨token, span⟩ := placed
  cases token with
  | invalid text => exact congrArg some (invalidTokenDiagnostic_shift distance text span)
  | _ => rfl

end Shift

end ApiLang
