import TextQuest.Decimal.Whole

namespace TextQuest.Json

inductive Value
  | null
  | bool (value : Bool)
  | number (digits : String)
  | text (text : String)
  | array (items : List Value)
  | object (members : List (String × Value))

namespace Value

def ofInt (n : Int) : Value := number (toString n)

def ofStrings (items : List String) : Value := array (items.map text)

def string? : Value → Option String
  | text found => some found
  | _ => none

def bool? : Value → Option Bool
  | bool b => some b
  | _ => none

def int? (low high : Int) : Value → Option Int
  | number digits => (Decimal.integer? digits.toList).filter fun n => low ≤ n ∧ n ≤ high
  | _ => none

end Value
end TextQuest.Json
