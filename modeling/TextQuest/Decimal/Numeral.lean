import TextQuest.Decimal.Whole

namespace TextQuest.Decimal

/-- A number in decimal notation: `digits * 10 ^ place`. -/
structure Numeral where
  negative : Bool
  digits : Nat
  place : Int
  deriving DecidableEq

namespace Numeral

def sign : List Char → Bool × List Char
  | '+' :: rest => (false, rest)
  | '-' :: rest => (true, rest)
  | rest => (false, rest)

def exponent? : List Char → Option Int
  | [] => some 0
  | c :: rest =>
    if c = 'e' ∨ c = 'E' then
      let (negative, digits) := sign rest
      (digits? digits).map fun n => if negative then -(n : Int) else n
    else none

def ofChars? (text : List Char) : Option Numeral :=
  let (negative, rest) := sign text
  let whole := rest.takeWhile Char.isDigit
  let rest := rest.dropWhile Char.isDigit
  let (fraction, rest) := match rest with
    | '.' :: behind => (behind.takeWhile Char.isDigit, behind.dropWhile Char.isDigit)
    | _ => ([], rest)
  if whole = [] ∧ fraction = [] then none
  else (exponent? rest).map fun exponent =>
    ⟨negative, value (whole ++ fraction), exponent - fraction.length⟩

end Numeral
end TextQuest.Decimal
