/-
Maps that remember the order in which their keys came.  A key that comes again
keeps its first place.
-/

namespace ApiLang

/-- Keys with their values, in the order of first insertion. -/
structure OrderedMap (κ α : Type) where
  entries : List (κ × α)
deriving DecidableEq

namespace OrderedMap

variable {κ α : Type} [DecidableEq κ]

/-- Changes the value of `key`, which joins at the end if it is new. -/
def alterEntries (key : κ) (change : Option α → α) : List (κ × α) → List (κ × α)
  | [] => [(key, change none)]
  | (other, a) :: rest =>
    if other = key then (other, change (some a)) :: rest
    else (other, a) :: alterEntries key change rest

def empty : OrderedMap κ α :=
  ⟨[]⟩

def alter (map : OrderedMap κ α) (key : κ) (change : Option α → α) : OrderedMap κ α :=
  ⟨alterEntries key change map.entries⟩

/-- The value is replaced in place, or joins at the end. -/
def set (map : OrderedMap κ α) (key : κ) (a : α) : OrderedMap κ α :=
  map.alter key fun _ => a

/-- Adds to the list kept under the key. -/
def append (map : OrderedMap κ (List α)) (key : κ) (a : α) : OrderedMap κ (List α) :=
  map.alter key fun found => found.getD [] ++ [a]

def find? (map : OrderedMap κ α) (key : κ) : Option α :=
  (map.entries.find? fun entry => entry.1 = key).map Prod.snd

def size (map : OrderedMap κ α) : Nat :=
  map.entries.length

/-- The pairs set one after the other: of a repeated key, the first place and the
last value. -/
def ofList (pairs : List (κ × α)) : OrderedMap κ α :=
  pairs.foldl (fun map pair => map.set pair.1 pair.2) empty

/-- The values of equal keys gathered in order. -/
def group (pairs : List (κ × α)) : OrderedMap κ (List α) :=
  pairs.foldl (fun map pair => map.append pair.1 pair.2) empty

theorem find?_alterEntries_self (key : κ) (change : Option α → α) (entries : List (κ × α)) :
    find? ⟨alterEntries key change entries⟩ key = some (change (find? ⟨entries⟩ key)) := by
  induction entries with
  | nil => simp [alterEntries, find?]
  | cons entry rest ih =>
    by_cases same : entry.1 = key
    · simp [alterEntries, find?, same]
    · simpa [alterEntries, find?, same] using ih

theorem find?_alterEntries_of_ne {key other : κ} (differ : other ≠ key)
    (change : Option α → α) (entries : List (κ × α)) :
    find? ⟨alterEntries key change entries⟩ other = find? ⟨entries⟩ other := by
  induction entries with
  | nil => simp [alterEntries, find?, differ.symm]
  | cons entry rest ih =>
    by_cases same : entry.1 = key
    · simp [alterEntries, find?, same, differ.symm]
    · by_cases found : entry.1 = other
      · simp [alterEntries, find?, found, differ]
      · simpa [alterEntries, find?, same, found] using ih

/-- A key that was changed has the changed value. -/
@[simp] theorem find?_alter_self (map : OrderedMap κ α) (key : κ) (change : Option α → α) :
    (map.alter key change).find? key = some (change (map.find? key)) :=
  find?_alterEntries_self key change map.entries

/-- A change of one key leaves the others alone. -/
theorem find?_alter_of_ne (map : OrderedMap κ α) {key other : κ} (differ : other ≠ key)
    (change : Option α → α) : (map.alter key change).find? other = map.find? other :=
  find?_alterEntries_of_ne differ change map.entries

@[simp] theorem find?_set_self (map : OrderedMap κ α) (key : κ) (a : α) :
    (map.set key a).find? key = some a :=
  find?_alter_self map key _

theorem find?_set_of_ne (map : OrderedMap κ α) {key other : κ} (differ : other ≠ key) (a : α) :
    (map.set key a).find? other = map.find? other :=
  find?_alter_of_ne map differ _

end OrderedMap

end ApiLang
