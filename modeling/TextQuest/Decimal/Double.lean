import TextQuest.Decimal.Whole

/-!
Numbers in decimal notation in double precision, computed in two roundings: one of as many leading
digits as 64 bits hold, and one of their product with a power of ten.
-/
namespace TextQuest.Decimal

def appendDigits (bound : Nat) : Nat → List Char → Nat × Nat
  | significand, [] => (significand, 0)
  | significand, c :: rest =>
    let next := 10 * significand + (c.toNat - '0'.toNat)
    if next < bound then
      let (significand, count) := appendDigits bound next rest
      (significand, count + 1)
    else (significand, 0)

def pastBound? (bound : Nat) : Nat → List Char → Option Nat
  | _, [] => none
  | n, c :: rest =>
    let next := 10 * n + (c.toNat - '0'.toNat)
    if bound < next then some rest.length else pastBound? bound next rest

def powerOfTen (n : Nat) : Float := Float.ofScientific 1 false n

/-- The number `significand * 10 ^ place`, if it is finite. A place below the least power of ten is
reached in two steps. -/
def double? (significand : Nat) (place : Int) : Option Float :=
  let x := significand.toFloat
  if significand = 0 then some x
  else if 308 < place then none
  else if 0 ≤ place then some (x * powerOfTen place.toNat) |>.filter Float.isFinite
  else if -308 ≤ place then some (x / powerOfTen (-place).toNat)
  else if -616 ≤ place then some (x / powerOfTen 308 / powerOfTen (-place - 308).toNat)
  else some 0

end TextQuest.Decimal
