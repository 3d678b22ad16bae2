import TextQuest.Neural.Scalar
import TextQuest.Random.Stream

namespace TextQuest.Neural

variable {R : Type} [Scalar R]

def softmax (scores : List R) : List R :=
  let top := scores.foldl Scalar.larger Scalar.lowest
  let weights := scores.map fun score => Scalar.exp (score - top)
  let total := Scalar.sum weights
  weights.map (· / total)

def argmaxFrom (best : Nat × R) (index : Nat) : List R → Nat
  | [] => best.1
  | value :: rest =>
    argmaxFrom (if Scalar.less best.2 value then (index, value) else best) (index + 1) rest

/-- The first index of a largest value; zero if nothing is larger than the lowest number. -/
def argmax (values : List R) : Nat := argmaxFrom (0, Scalar.lowest) 0 values

/-- The index at which the sum of probabilities first exceeds a target, or else the last one. -/
def pick (target : R) : List R → Nat
  | [] | [_] => 0
  | p :: rest => if Scalar.less target p then 0 else pick (target - p) rest + 1

def entropy (probs : List R) : R :=
  -Scalar.sum ((probs.filter (Scalar.less Scalar.zero ·)).map fun p => p * Scalar.ln p)

end TextQuest.Neural
