import TextQuest.Decimal.Binary
import TextQuest.Decimal.Numeral

namespace TextQuest.Decimal

/-- The bits of `significand * 2 ^ exponent` without its sign, where the significand has at most 24
binary digits, or is the power of two above them; it has fewer than 24 only at the least exponent. -/
def assembleSingle (significand : Nat) (exponent : Int) : Nat :=
  if significand < Nat.pow 2 23 then significand
  else
    let (significand, exponent) :=
      if significand = Nat.pow 2 24 then (Nat.pow 2 23, exponent + 1) else (significand, exponent)
    if 105 ≤ exponent then 255 * Nat.pow 2 23
    else (exponent + 150).toNat * Nat.pow 2 23 + (significand - Nat.pow 2 23)

def nearestSingle (num den : Nat) : Nat :=
  if num = 0 then 0
  else
    let guess : Int := (num.log2 : Int) - den.log2 - 24
    let quotient (exponent : Int) : Nat × Nat :=
      let (factor, divisor) := scaled 1 2 (-exponent)
      (num * factor, den * divisor)
    let (n, d) := quotient guess
    let exponent := max (if Nat.pow 2 24 ≤ n / d then guess + 1 else guess) (-149)
    let (n, d) := quotient exponent
    assembleSingle (roundDiv n d) exponent

def Numeral.toSingle (number : Numeral) : Float32 :=
  let top : Int := (toString number.digits).length + number.place
  let bits :=
    if number.digits = 0 ∨ top < -60 then 0
    else if 60 < top then 255 * Nat.pow 2 23
    else
      let (num, den) := scaled number.digits 10 number.place
      nearestSingle num den
  Float32.ofBits (UInt32.ofNat (if number.negative then Nat.pow 2 31 + bits else bits))

end TextQuest.Decimal
