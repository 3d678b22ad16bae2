/-!
The numbers a learner computes with. Everything about learning is written over these operations alone;
it runs on single-precision numbers.
-/
namespace TextQuest.Neural

class Scalar (R : Type) extends Add R, Sub R, Mul R, Div R, Neg R where
  zero : R
  one : R
  ofNat : Nat → R
  fraction : UInt32 → R
  sqrt : R → R
  exp : R → R
  ln : R → R
  larger : R → R → R
  less : R → R → Bool
  lowest : R
  leastPositive : R
  shown : R → String

namespace Scalar

variable {R : Type} [Scalar R]

def sum (terms : List R) : R := terms.foldl (· + ·) zero

def ofInt (n : Int) : R := if n < 0 then -ofNat n.natAbs else ofNat n.natAbs

end Scalar
end TextQuest.Neural
