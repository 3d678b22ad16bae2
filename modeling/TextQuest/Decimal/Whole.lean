namespace TextQuest.Decimal

def value (digits : List Char) : Nat :=
  digits.foldl (fun total c => 10 * total + (c.toNat - '0'.toNat)) 0

def digits? (text : List Char) : Option Nat :=
  if text ≠ [] ∧ text.all Char.isDigit then some (value text) else none

def natural? : List Char → Option Nat
  | '+' :: rest => digits? rest
  | text => digits? text

def integer? : List Char → Option Int
  | '-' :: rest => (digits? rest).map fun n => -(n : Int)
  | text => (natural? text).map fun n => (n : Int)

end TextQuest.Decimal
