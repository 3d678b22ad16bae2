import TextQuest.Ron.Parser

namespace TextQuest.Ron

abbrev Fields : Type := List (String × Value)

namespace Value

def string? : Value → Option String
  | text found => some found
  | _ => none

def nat? : Value → Option Nat
  | natural n => some n
  | _ => none

def word64? (v : Value) : Option UInt64 := v.nat?.map UInt64.ofNat

def single? : Value → Option Float32
  | single x => some x
  | _ => none

def list? {α : Type} (item? : Value → Option α) : Value → Option (List α)
  | list items => items.mapM item?
  | _ => none

def option? {α : Type} (content? : Value → Option α) : Value → Option (Option α)
  | absent => some none
  | present v => (content? v).map some
  | _ => none

def fields? : Value → Option Fields
  | record fields => some fields
  | _ => none

end Value

namespace Fields

def required {α : Type} (fields : Fields) (name : String) (read? : Value → Option α) : Option α :=
  (fields.lookup name).bind read?

def optional {α : Type} (fields : Fields) (name : String) (read? : Value → Option α)
    (default : α) : Option α :=
  match fields.lookup name with
  | some v => read? v
  | none => some default

end Fields
end TextQuest.Ron
