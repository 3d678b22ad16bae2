import TextQuest.Random.Stream

namespace TextQuest.Random

/-- How often a draw is repeated before it is taken as it is. What is proved of draws does not rest on this
number: `drawBelow_lt` holds for any, and no law says which of the numbers below the bound is drawn. -/
def patience : Nat := 256

/-- Draws words of `width` bits until one falls in the part that is spread evenly below `bound`: the
high part of its product with the bound is the result if the low part lies below the largest
multiple of the bound by a power of two. -/
def drawBelow {α : Type} (draw : α → Nat × α) (width bound : Nat) : Nat → α → Nat × α
  | 0, g => let (word, g) := draw g; (word * bound / Nat.pow 2 width, g)
  | tries + 1, g =>
    let (word, g) := draw g
    if word * bound % Nat.pow 2 width < bound * Nat.pow 2 (width - 1 - bound.log2) then
      (word * bound / Nat.pow 2 width, g)
    else drawBelow draw width bound tries g

namespace Generator

def below (g : Generator) (bound : Nat) : Nat × Generator :=
  drawBelow (fun g => let (word, g) := g.nextLong; (word.toNat, g)) 64 bound patience g

def belowShort (g : Generator) (bound : Nat) : Nat × Generator :=
  drawBelow (fun g => let (word, g) := g.next; (word.toNat, g)) 32 bound patience g

/-- The exchanges that rearrange a list of the given length: each position from the last to the
second with one that is not behind it. -/
def exchanges : Nat → Generator → List (Nat × Nat) × Generator
  | 0, g | 1, g => ([], g)
  | n + 2, g =>
    let (other, g) := g.belowShort (n + 2)
    let (rest, g) := exchanges (n + 1) g
    ((n + 1, other) :: rest, g)

end Generator

def exchange {α : Type} (xs : Array α) (places : Nat × Nat) : Array α :=
  xs.swapIfInBounds places.1 places.2

def shuffle {α : Type} (xs : Array α) (g : Generator) : Array α × Generator :=
  let (places, g) := g.exchanges xs.size
  (places.foldl exchange xs, g)

end TextQuest.Random
