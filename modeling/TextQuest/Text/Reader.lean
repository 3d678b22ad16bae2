namespace TextQuest.Text

abbrev Reader (α : Type) : Type := List Char → Option (α × List Char)

/-- What stands before the closing quote, latest character first in `seen`. A backslash shields the
character after it, and both are kept. -/
def upToQuote (quote : Char) (seen : List Char) : Reader (List Char)
  | [] => none
  | '\\' :: c :: rest => upToQuote quote (c :: '\\' :: seen) rest
  | c :: rest => if c = quote then some (seen.reverse, rest) else upToQuote quote (c :: seen) rest

def digit? (c : Char) : Option Nat :=
  if '0' ≤ c ∧ c ≤ '9' then some (c.toNat - '0'.toNat)
  else if 'a' ≤ c ∧ c ≤ 'f' then some (c.toNat - 'a'.toNat + 10)
  else if 'A' ≤ c ∧ c ≤ 'F' then some (c.toNat - 'A'.toNat + 10)
  else none

def charOfCode? (code : Nat) : Option Char :=
  if code.isValidChar then some (Char.ofNat code) else none

def expect : List Char → List Char → Option (List Char)
  | [], rest => some rest
  | c :: wanted, d :: rest => if c = d then expect wanted rest else none
  | _ :: _, [] => none

end TextQuest.Text
