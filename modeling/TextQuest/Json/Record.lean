import TextQuest.Json.Typed
import TextQuest.Json.Unasked

/-!
Records in JSON. A record stands as an object, whose unknown members are passed over, or as an array of
its fields in their order. It is read field by field into a blank.
-/
namespace TextQuest.Json

structure Field (ρ : Type) where
  name : String
  fill : ρ → Reader ρ

def Field.of {ρ α : Type} (name : String) (value : Reader α) (put : α → ρ → ρ) : Field ρ where
  name
  fill record s := do
    let (found, rest) ← value s
    return (put found record, rest)

structure Form (ρ : Type) where
  name : String
  blank : ρ
  complete : Bool
  fields : List (Field ρ)

namespace Form

variable {ρ : Type} (form : Form ρ)

def wanted : String := "struct " ++ form.name

def wantedItems : String :=
  let count := form.fields.length
  form.wanted ++ " with " ++ toString count ++ (if count = 1 then " element" else " elements")

def itemsInto : List (Field ρ) → Nat → ρ → Reader ρ
  | [], _, record, s => .ok (record, s)
  | field :: later, filled, record, s => do
    match ← nextItem (filled = 0) s with
    | none =>
      if form.complete then .error (.unplaced s (.tooFewFields filled form.wantedItems))
      else return (record, s)
    | some s =>
      let (record, s) ← field.fill record s
      itemsInto later (filled + 1) record s

def memberInto (room : Nat) (filled : List String) (name : String) (record : ρ) : Reader ρ := fun s =>
  match form.fields.find? (·.name = name) with
  | none => do return (record, ← pass room (← colon s))
  | some field =>
    if filled.contains name then .error (.unplaced s (.repeatedField name))
    else do field.fill record (← colon s)

def membersInto (room : Nat) : Nat → Bool → List String → ρ → Reader ρ
  | 0, _, _, _, s => breakBefore s .objectUnclosed
  | left + 1, first, filled, record, s =>
    match nextMember first s with
    | .error found => .error found
    | .ok none =>
      match form.fields.find? fun field => form.complete && !filled.contains field.name with
      | some field => .error (.unplaced s (.missingField field.name))
      | none => .ok (record, s)
    | .ok (some s) =>
      let member := do
        let (name, s) ← textAfterQuote s
        let (record, s) ← form.memberInto room filled name record s
        return ((name, record), s)
      match member with
      | .error found => .error found
      | .ok ((name, record), s) => membersInto room left false (name :: filled) record s

def read (room : Nat) : Reader ρ := fun s =>
  match skip s with
  | '[' :: rest => placeBy pastListEnd do
    let (record, s) ← form.itemsInto form.fields 0 form.blank rest
    return (record, ← listEnd s)
  | '{' :: rest => placeBy pastObjectEnd do
    let (record, s) ← form.membersInto room room true [] form.blank rest
    return (record, ← objectEnd s)
  | s => wrongType form.wanted s

end Form
end TextQuest.Json
