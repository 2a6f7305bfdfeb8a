/-
Trees at another place.  Shifting a tree moves every span in it to the right and
leaves the rest alone; the spans and the complaints that are read off a tree move
along.
-/
import ApiLang.Proofs.Token.Placing
import ApiLang.Tree.Diagnostics
import Mathlib.Tactic

namespace ApiLang

variable {α β : Type}

namespace Span

@[simp] theorem union_shift (distance : Nat) (left right : Span) :
    (left.shift distance).union (right.shift distance) = (left.union right).shift distance := by
  simp [union, shift, Nat.add_max_add_right, Nat.add_min_add_right]

end Span

def Spanned.shift (distance : Nat) (spanned : Spanned α) : Spanned α :=
  ⟨spanned.val, spanned.span.shift distance⟩

@[simp] theorem Spanned.val_shift (distance : Nat) (spanned : Spanned α) :
    (spanned.shift distance).val = spanned.val := rfl

@[simp] theorem Spanned.span_shift (distance : Nat) (spanned : Spanned α) :
    (spanned.shift distance).span = spanned.span.shift distance := rfl

def Skipped.shift (distance : Nat) (input : Skipped) : Skipped :=
  { input with
    span := input.span.shift distance
    found := input.found.map (PlacedToken.shift distance) }

/-- The block moved, where `shiftEntry` moves an entry. -/
def Block.shift (shiftEntry : Nat → α → α) (distance : Nat) (block : Block α) : Block α :=
  { opener := block.opener.shift distance
    entries := block.entries.map (shiftEntry distance)
    closer := block.closer.map (Span.shift distance) }

def ValueList.shift (distance : Nat) (value : ValueList) : ValueList :=
  ⟨value.items.map (Spanned.shift distance), value.span.shift distance⟩

def KeyValue.shift (distance : Nat) (entry : KeyValue) : KeyValue :=
  ⟨entry.key.shift distance, entry.value.shift distance, entry.span.shift distance⟩

def AnnotationBody.shift (distance : Nat) : AnnotationBody → AnnotationBody
  | .empty => .empty
  | .inline value => .inline (value.shift distance)
  | .block entries => .block (entries.map (KeyValue.shift distance))

def Annotation.shift (distance : Nat) (note : Annotation) : Annotation :=
  ⟨note.name.shift distance, note.body.shift distance, note.span.shift distance⟩

def TypeExpr.shift (distance : Nat) : TypeExpr → TypeExpr
  | .named name => .named (name.shift distance)
  | .pointer inner span => .pointer (inner.shift distance) (span.shift distance)
  | .slice size element span =>
    .slice (size.map (Spanned.shift distance)) (element.shift distance) (span.shift distance)
  | .map key value span => .map (key.shift distance) (value.shift distance) (span.shift distance)
  | .interface span => .interface (span.shift distance)

def Field.shift (distance : Nat) (field : Field) : Field :=
  ⟨field.name.shift distance, field.type.shift distance, field.tag.map (Spanned.shift distance),
    field.span.shift distance⟩

def Embedded.shift (distance : Nat) (embedded : Embedded) : Embedded :=
  ⟨embedded.pointer, embedded.name.shift distance, embedded.span.shift distance⟩

def Member.shift (distance : Nat) : Member → Member
  | .field line => .field (line.shift distance)
  | .embedded line => .embedded (line.shift distance)
  | .skipped input => .skipped (input.shift distance)

def StructDef.shift (distance : Nat) (struct : StructDef) : StructDef :=
  ⟨struct.name.shift distance, struct.body.shift Member.shift distance⟩

def TypeEntry.shift (distance : Nat) : TypeEntry → TypeEntry
  | .struct definition => .struct (definition.shift distance)
  | .skipped input => .skipped (input.shift distance)

def TypeBody.shift (distance : Nat) : TypeBody → TypeBody
  | .single struct => .single (struct.shift distance)
  | .group block => .group (block.shift TypeEntry.shift distance)

def Route.shift (distance : Nat) (route : Route) : Route :=
  { annotations := route.annotations.map <| Annotation.shift distance
    method := route.method.shift distance
    path := route.path.shift distance
    request := route.request.map (TypeExpr.shift distance)
    response := route.response.map (TypeExpr.shift distance)
    span := route.span.shift distance }

def ServiceEntry.shift (distance : Nat) : ServiceEntry → ServiceEntry
  | .route line => .route (line.shift distance)
  | .skipped input => .skipped (input.shift distance)

def Service.shift (distance : Nat) (service : Service) : Service :=
  { annotations := service.annotations.map <| Annotation.shift distance
    keyword := service.keyword.shift distance
    name := service.name.shift distance
    body := service.body.shift ServiceEntry.shift distance }

def Declaration.shift (distance : Nat) : Declaration → Declaration
  | .version text span => .version (text.shift distance) (span.shift distance)
  | .info entries span => .info (entries.map (KeyValue.shift distance)) (span.shift distance)
  | .imports paths span => .imports (paths.map (Spanned.shift distance)) (span.shift distance)
  | .types keyword body => .types (keyword.shift distance) (body.shift distance)
  | .service block => .service (block.shift distance)
  | .skipped input => .skipped (input.shift distance)

section Zero

theorem map_eq_self {items : List α} {f : α → α} (hf : ∀ a, f a = a) : items.map f = items := by
  rw [funext hf, List.map_id']

theorem option_map_eq_self {item : Option α} {f : α → α} (hf : ∀ a, f a = a) :
    item.map f = item := by
  rw [funext hf, Option.map_id']

@[simp] theorem PlacedToken.shift_zero (placed : PlacedToken) : placed.shift 0 = placed := rfl

@[simp] theorem Spanned.shift_zero (spanned : Spanned α) : spanned.shift 0 = spanned := rfl

@[simp] theorem Skipped.shift_zero (input : Skipped) : input.shift 0 = input := by
  simp [Skipped.shift, option_map_eq_self PlacedToken.shift_zero]

theorem Block.shift_zero {shiftEntry : Nat → α → α} (hentry : ∀ a, shiftEntry 0 a = a)
    (block : Block α) : block.shift shiftEntry 0 = block := by
  simp [Block.shift, map_eq_self hentry, option_map_eq_self Span.shift_zero]

@[simp] theorem ValueList.shift_zero (value : ValueList) : value.shift 0 = value := by
  simp [ValueList.shift, map_eq_self Spanned.shift_zero]

@[simp] theorem KeyValue.shift_zero (entry : KeyValue) : entry.shift 0 = entry := by
  simp [KeyValue.shift]

@[simp] theorem AnnotationBody.shift_zero (body : AnnotationBody) : body.shift 0 = body := by
  cases body <;> simp [AnnotationBody.shift, map_eq_self KeyValue.shift_zero]

@[simp] theorem Annotation.shift_zero (note : Annotation) : note.shift 0 = note := by
  unfold Annotation.shift
  simp

@[simp] theorem TypeExpr.shift_zero (type : TypeExpr) : type.shift 0 = type := by
  induction type with
  | named name => rfl
  | pointer inner span ih => simp [TypeExpr.shift, ih]
  | slice size element span ih =>
      simp [TypeExpr.shift, ih, option_map_eq_self Spanned.shift_zero]
  | map key value span ihKey ihValue => simp [TypeExpr.shift, ihKey, ihValue]
  | interface span => rfl

@[simp] theorem Field.shift_zero (field : Field) : field.shift 0 = field := by
  simp [Field.shift, option_map_eq_self Spanned.shift_zero]

@[simp] theorem Member.shift_zero (line : Member) : line.shift 0 = line := by
  cases line <;> simp [Member.shift, Embedded.shift]

@[simp] theorem StructDef.shift_zero (struct : StructDef) : struct.shift 0 = struct := by
  simp [StructDef.shift, Block.shift_zero Member.shift_zero]

@[simp] theorem TypeEntry.shift_zero (entry : TypeEntry) : entry.shift 0 = entry := by
  cases entry <;> simp [TypeEntry.shift]

@[simp] theorem Route.shift_zero (route : Route) : route.shift 0 = route := by
  simp [Route.shift, map_eq_self Annotation.shift_zero, option_map_eq_self TypeExpr.shift_zero]

@[simp] theorem ServiceEntry.shift_zero (entry : ServiceEntry) : entry.shift 0 = entry := by
  cases entry <;> simp [ServiceEntry.shift]

@[simp] theorem Service.shift_zero (service : Service) : service.shift 0 = service := by
  simp [Service.shift, map_eq_self Annotation.shift_zero,
    Block.shift_zero ServiceEntry.shift_zero]

@[simp] theorem Declaration.shift_zero (found : Declaration) : found.shift 0 = found := by
  cases found with
  | version | skipped | service => simp [Declaration.shift]
  | info => simp [Declaration.shift, map_eq_self KeyValue.shift_zero]
  | imports => simp [Declaration.shift, map_eq_self Spanned.shift_zero]
  | types keyword body =>
      cases body <;>
        simp [Declaration.shift, TypeBody.shift, Block.shift_zero TypeEntry.shift_zero]

end Zero

section Twice

variable (first second : Nat)

theorem Span.shift_shift (span : Span) :
    (span.shift first).shift second = span.shift (first + second) := by
  simp [Span.shift, Nat.add_assoc]

theorem PlacedToken.shift_shift (placed : PlacedToken) :
    (placed.shift first).shift second = placed.shift (first + second) := by
  simp [PlacedToken.shift, Span.shift_shift]

theorem Spanned.shift_shift (spanned : Spanned α) :
    (spanned.shift first).shift second = spanned.shift (first + second) := by
  simp [Spanned.shift, Span.shift_shift]

theorem TypeExpr.shift_shift (type : TypeExpr) :
    (type.shift first).shift second = type.shift (first + second) := by
  induction type with
  | named name => simp [TypeExpr.shift, Spanned.shift_shift]
  | pointer inner span ih => simp [TypeExpr.shift, ih, Span.shift_shift]
  | slice size element span ih =>
      simp [TypeExpr.shift, ih, Span.shift_shift, Function.comp_def, Spanned.shift_shift]
  | map key value span ihKey ihValue => simp [TypeExpr.shift, ihKey, ihValue, Span.shift_shift]
  | interface span => simp [TypeExpr.shift, Span.shift_shift]

theorem Member.shift_shift (line : Member) :
    (line.shift first).shift second = line.shift (first + second) := by
  cases line with
  | field line =>
      simp [Member.shift, Field.shift, Spanned.shift_shift, TypeExpr.shift_shift,
        Span.shift_shift, Function.comp_def]
  | embedded line => simp [Member.shift, Embedded.shift, Spanned.shift_shift, Span.shift_shift]
  | skipped input =>
      simp [Member.shift, Skipped.shift, Span.shift_shift, PlacedToken.shift_shift,
        Function.comp_def]

end Twice

section Spans

variable (distance : Nat)

@[simp] theorem TypeExpr.span_shift (type : TypeExpr) :
    (type.shift distance).span = type.span.shift distance := by
  cases type <;> rfl

theorem Block.last_shift {shiftEntry : Nat → α → α} {spanOf : α → Span}
    (hspan : ∀ entry, spanOf (shiftEntry distance entry) = (spanOf entry).shift distance)
    (block : Block α) :
    (block.shift shiftEntry distance).last spanOf = (block.last spanOf).shift distance := by
  obtain ⟨opener, entries, closer⟩ := block
  cases closer with
  | some closer => rfl
  | none =>
      rw [Block.last, Block.last, Block.shift, List.getLast?_map]
      cases entries.getLast? with
      | none => rfl
      | some entry => exact hspan entry

theorem Member.span_shift (line : Member) :
    (line.shift distance).span = line.span.shift distance := by
  cases line <;> rfl

@[simp] theorem StructDef.span_shift (struct : StructDef) :
    (struct.shift distance).span = struct.span.shift distance := by
  simp [StructDef.span, StructDef.shift, Block.last_shift distance (Member.span_shift distance)]

theorem ServiceEntry.span_shift (entry : ServiceEntry) :
    (entry.shift distance).span = entry.span.shift distance := by
  cases entry <;> rfl

/-- The span of a declaration moves with its annotations, its keyword and its last
piece. -/
theorem spanFrom_shift (notes : List Annotation) (keyword last : Span) :
    spanFrom (notes.map <| Annotation.shift distance) (keyword.shift distance)
        (last.shift distance) =
      (spanFrom notes keyword last).shift distance := by
  cases notes with
  | nil => exact Span.union_shift _ _ _
  | cons note others => exact Span.union_shift _ _ _

@[simp] theorem Service.span_shift (service : Service) :
    (service.shift distance).span = service.span.shift distance := by
  simp [Service.span, Service.shift, Block.last_shift distance (ServiceEntry.span_shift distance),
    spanFrom_shift]

end Spans

section Complaints

variable (distance sourceEnd : Nat)

theorem Skipped.diagnostics_shift (input : Skipped) :
    (input.shift distance).diagnostics (sourceEnd + distance) =
      (input.diagnostics sourceEnd).map (Diagnostic.shift distance) := by
  obtain ⟨text, span, expected, found⟩ := input
  cases found with
  | none => rfl
  | some placed =>
      by_cases hinvalid : placed.token.isInvalid = true <;>
        simp [Skipped.diagnostics, Expected.diagnostics, Skipped.shift, hinvalid]

theorem Block.diagnostics_shift {shiftEntry : Nat → α → α} {ofEntry ofEntry' : α → List Diagnostic}
    (hentry : ∀ entry, ofEntry' (shiftEntry distance entry) =
      (ofEntry entry).map (Diagnostic.shift distance)) (opening closing : Punct)
    (block : Block α) :
    (block.shift shiftEntry distance).diagnostics ofEntry' opening closing =
      (block.diagnostics ofEntry opening closing).map (Diagnostic.shift distance) := by
  obtain ⟨opener, entries, closer⟩ := block
  rw [Block.diagnostics, Block.diagnostics, List.map_append, List.map_flatMap, Block.shift,
    List.flatMap_map]
  simp only [hentry]
  cases closer <;> rfl

theorem StructDef.diagnostics_shift (struct : StructDef) :
    (struct.shift distance).diagnostics (sourceEnd + distance) =
      (struct.diagnostics sourceEnd).map (Diagnostic.shift distance) := by
  refine Block.diagnostics_shift distance (fun line => ?_) _ _ struct.body
  cases line with
  | field | embedded => rfl
  | skipped input => exact input.diagnostics_shift distance sourceEnd

/-- The complaints about a declaration move with it. -/
theorem Declaration.diagnostics_shift (found : Declaration) :
    (found.shift distance).diagnostics (sourceEnd + distance) =
      (found.diagnostics sourceEnd).map (Diagnostic.shift distance) := by
  cases found with
  | version | info | imports => rfl
  | types keyword body =>
      cases body with
      | single struct => exact struct.diagnostics_shift distance sourceEnd
      | group block =>
          refine Block.diagnostics_shift distance (fun entry => ?_) _ _ block
          cases entry with
          | struct struct => exact struct.diagnostics_shift distance sourceEnd
          | skipped input => exact input.diagnostics_shift distance sourceEnd
  | service service =>
      refine Block.diagnostics_shift distance (fun entry => ?_) _ _ service.body
      cases entry with
      | route => rfl
      | skipped input => exact input.diagnostics_shift distance sourceEnd
  | skipped input => exact input.diagnostics_shift distance sourceEnd

end Complaints

end ApiLang
