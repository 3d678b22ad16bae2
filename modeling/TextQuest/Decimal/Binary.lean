namespace TextQuest.Decimal

inductive Binary
  | nan
  | infinite (negative : Bool)
  | finite (negative : Bool) (significand : Nat) (exponent : Int)
  deriving DecidableEq

namespace Binary

/-- Takes a number apart that is given by its bits: `fractionBits` of fraction and `exponentBits` of
exponent below the sign. -/
def ofBits (fractionBits exponentBits : Nat) (bits : Nat) : Binary :=
  let fraction := bits % Nat.pow 2 fractionBits
  let exponent := bits / Nat.pow 2 fractionBits % Nat.pow 2 exponentBits
  let negative := bits / Nat.pow 2 (fractionBits + exponentBits) % 2 = 1
  let least : Int := 2 - Nat.pow 2 (exponentBits - 1) - fractionBits
  if exponent = Nat.pow 2 exponentBits - 1 then
    if fraction = 0 then infinite negative else nan
  else if exponent = 0 then finite negative fraction least
  else finite negative (Nat.pow 2 fractionBits + fraction) (least + (exponent - 1))

def ofFloat (x : Float) : Binary := ofBits 52 11 x.toBits.toNat

def ofSingle (x : Float32) : Binary := ofBits 23 8 x.toBits.toNat

end Binary

/-- The quotient rounded to the nearest whole number; a half goes to the even neighbour. -/
def roundDiv (num den : Nat) : Nat :=
  let quotient := num / den
  let twice := 2 * (num % den)
  if twice < den then quotient
  else if den < twice then quotient + 1
  else quotient + quotient % 2

def scaled (factor base : Nat) (exponent : Int) : Nat × Nat :=
  if 0 ≤ exponent then (factor * Nat.pow base exponent.toNat, 1)
  else (factor, Nat.pow base (-exponent).toNat)

end TextQuest.Decimal
