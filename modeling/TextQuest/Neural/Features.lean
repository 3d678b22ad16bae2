import TextQuest.GameState
import TextQuest.Neural.Bucket
import TextQuest.Neural.Weights
import TextQuest.Sorted
import TextQuest.Text.Alphanumeric
import TextQuest.Text.Lowercase
import TextQuest.Text.Pieces

namespace TextQuest.Neural

def tokens (text : String) : List String :=
  ((Text.pieces (!Text.isAlphanumeric ·) text.toList).filter (!·.isEmpty)).map fun word =>
    String.ofList (Text.toLower word)

def observationTokens (state : GameState) : List String :=
  (state.textFields.flatMap tokens).eraseDups

def observationWords (state : GameState) : List UInt64 := (observationTokens state).map hashText

def commandWords (command : String) : List UInt64 := (tokens command).map hashText

def biasWord : UInt64 := hashText "<bias>"

def observationIndices (count : Nat) (seen : List UInt64) : List Nat :=
  sortedOnce ((seen ++ [biasWord]).map fun word => bucket [hashText "o", word] count)

/-- Where the features of a command lie, for an observation with given words. Each word of the
command has one for itself and one with each word of the observation. -/
def commandIndices (count : Nat) (seen command : List UInt64) : List Nat :=
  sortedOnce
    (command.flatMap (fun word =>
      bucket [hashText "c", word] count ::
        seen.map fun other => bucket [hashText "x", word, other] count) ++
    [bucket [hashText "c", biasWord] count])

structure Features (R : Type) where
  indices : List Nat
  scale : R

namespace Features

variable {R : Type} [Scalar R]

def ofIndices (indices : List Nat) : Features R where
  indices := indices
  scale :=
    if indices.isEmpty then Scalar.zero
    else Scalar.one / Scalar.sqrt (Scalar.ofNat indices.length)

def dot (features : Features R) (weights : Weights R) : R :=
  features.scale * Scalar.sum (features.indices.map weights.get)

def addTo (features : Features R) (coefficient : R) (weights : Weights R) : Weights R :=
  let delta := coefficient * features.scale
  features.indices.foldl (fun weights i => weights.add i delta) weights

end Features

variable {R : Type} [Scalar R]

def observationFeatures (count : Nat) (seen : List UInt64) : Features R :=
  .ofIndices (observationIndices count seen)

def commandFeatures (count : Nat) (seen : List UInt64) (command : String) : Features R :=
  .ofIndices (commandIndices count seen (commandWords command))

end TextQuest.Neural
