import Mathlib.Data.Nat.Basic
import TextQuest.Neural.Learner
import TextQuest.Proofs.Sorted

/-!
Where a learner reads and writes its weights. Features lie among the weights that there are, so that learning
with a check at every access gives the same as learning without one.
-/
namespace TextQuest.Neural

variable {R : Type}

structure Features.Fits (features : Features R) (count : Nat) : Prop where
  increasing : features.indices.Pairwise (· < ·)
  below : ∀ i ∈ features.indices, i < count

structure Decision.Fits (decision : Decision R) (count : Nat) : Prop where
  offered : 0 < decision.candidates.length
  probs : decision.probs.length = decision.candidates.length
  chosen : decision.chosen < decision.candidates.length
  candidates : ∀ candidate ∈ decision.candidates, candidate.Fits count
  observation : decision.observation.Fits count

variable [Scalar R]

theorem observationFeatures_fits {count : Nat} (positive : 0 < count) (seen : List UInt64) :
    (observationFeatures count seen : Features R).Fits count where
  increasing := pairwise_sortedOnce _
  below i member := by
    obtain ⟨word, -, rfl⟩ := List.mem_map.mp (mem_sortedOnce.mp member)
    exact bucket_lt _ positive

theorem commandFeatures_fits {count : Nat} (positive : 0 < count) (seen : List UInt64) (command : String) :
    (commandFeatures count seen command : Features R).Fits count where
  increasing := pairwise_sortedOnce _
  below i member := by
    rcases List.mem_append.mp (mem_sortedOnce.mp member) with words | bias
    · obtain ⟨word, -, places⟩ := List.mem_flatMap.mp words
      rcases List.mem_cons.mp places with rfl | pairs
      · exact bucket_lt _ positive
      · obtain ⟨other, -, rfl⟩ := List.mem_map.mp pairs
        exact bucket_lt _ positive
    · rw [List.mem_singleton.mp bias]
      exact bucket_lt _ positive

namespace Weights

def get? (weights : Weights R) (i : Nat) : Option R :=
  if i < weights.size then some (weights.get i) else none

def add? (i : Nat) (amount : R) (weights : Weights R) : Option (Weights R) :=
  if i < weights.size then some (weights.add i amount) else none

end Weights

namespace Features

def dot? (features : Features R) (weights : Weights R) : Option R := do
  return features.scale * Scalar.sum (← features.indices.mapM weights.get?)

def addTo? (features : Features R) (coefficient : R) (weights : Weights R) : Option (Weights R) :=
  features.indices.foldlM (fun weights i => weights.add? i (coefficient * features.scale)) weights

theorem dot?_eq {features : Features R} {weights : Weights R} (fits : features.Fits weights.size) :
    features.dot? weights = some (features.dot weights) := by
  have reads : features.indices.mapM weights.get? = some (features.indices.map weights.get) := by
    have below := fits.below
    generalize features.indices = indices at below ⊢
    induction indices with
    | nil => rfl
    | cons i rest ih =>
      obtain ⟨bound, below⟩ := List.forall_mem_cons.mp below
      simp [List.mapM_cons, Weights.get?, bound, ih below]
  simp [dot?, reads, dot]

theorem addTo_all (coefficient : R) (indices : List Nat) {weights : Weights R}
    (below : ∀ i ∈ indices, i < weights.size) :
    indices.foldlM (fun weights i => weights.add? i coefficient) weights =
        some (indices.foldl (fun weights i => weights.add i coefficient) weights) ∧
      (indices.foldl (fun weights i => weights.add i coefficient) weights).size = weights.size := by
  induction indices generalizing weights with
  | nil => exact ⟨rfl, rfl⟩
  | cons i rest ih =>
    obtain ⟨bound, below⟩ := List.forall_mem_cons.mp below
    have size := weights.size_add i coefficient
    have within : ∀ j ∈ rest, j < (weights.add i coefficient).size := by simpa [size] using below
    obtain ⟨adds, same⟩ := ih within
    refine ⟨?_, same.trans size⟩
    simpa [List.foldlM_cons, Weights.add?, bound] using adds

theorem addTo?_eq {features : Features R} {weights : Weights R} (coefficient : R)
    (fits : features.Fits weights.size) :
    features.addTo? coefficient weights = some (features.addTo coefficient weights) ∧
      (features.addTo coefficient weights).size = weights.size :=
  addTo_all (coefficient * features.scale) features.indices fits.below

end Features

namespace Params

def learn? (config : Config R) (decision : Decision R) (total : R) (params : Params R) :
    Option (Params R) := do
  let advantage := total - decision.value
  let uncertainty := entropy decision.probs
  let policy ← decision.candidates.zipIdx.foldlM
    (fun weights (candidate, j) => do
      let p ← decision.probs[j]?
      candidate.addTo? (policyCoefficient config advantage uncertainty p (j == decision.chosen)) weights)
    params.policy
  let value ← decision.observation.addTo? (config.learningRate * config.valueCoef * advantage) params.value
  return ⟨policy, value⟩

def update? (config : Config R) : List (Decision R) → R → Params R → Option (Params R)
  | [], _, params => some params
  | decision :: earlier, total, params => do
    let total := decision.reward + config.gamma * total
    update? config earlier total (← params.learn? config decision total)

structure Sized (params : Params R) (count : Nat) : Prop where
  policy : params.policy.size = count
  value : params.value.size = count

theorem foldlM_candidates (coefficient : R → Nat → R) (probs : List R) {candidates : List (Features R)}
    {rest : List R} {first : Nat} {weights : Weights R} (length : rest.length = candidates.length)
    (suffix : probs.drop first = rest) (fits : ∀ candidate ∈ candidates, candidate.Fits weights.size) :
    (candidates.zipIdx first).foldlM
        (fun weights (candidate, j) => do
          let p ← probs[j]?
          candidate.addTo? (coefficient p j) weights) weights =
        some (((candidates.zip rest).zipIdx first).foldl
          (fun weights ((candidate, p), j) => candidate.addTo (coefficient p j) weights) weights) ∧
      (((candidates.zip rest).zipIdx first).foldl
        (fun weights ((candidate, p), j) => candidate.addTo (coefficient p j) weights) weights).size =
        weights.size := by
  induction candidates generalizing rest first weights with
  | nil => exact ⟨rfl, rfl⟩
  | cons candidate candidates ih =>
    cases rest with
    | nil => cases length
    | cons p rest =>
      obtain ⟨here, fits⟩ := List.forall_mem_cons.mp fits
      obtain ⟨adds, size⟩ := Features.addTo?_eq (coefficient p first) here
      have found : probs[first]? = some p := by
        have head := congrArg List.head? suffix
        simpa using head
      have later : probs.drop (first + 1) = rest := by
        have tail := congrArg List.tail suffix
        simpa using tail
      have fits : ∀ other ∈ candidates,
          other.Fits (candidate.addTo (coefficient p first) weights).size := by
        simpa [size] using fits
      obtain ⟨goesOn, same⟩ := ih (Nat.succ.inj length) later fits
      refine ⟨?_, same.trans size⟩
      simpa [List.foldlM_cons, found, adds] using goesOn

theorem learn?_eq {count : Nat} (config : Config R) {decision : Decision R} {params : Params R}
    (sized : params.Sized count) (fits : decision.Fits count) (total : R) :
    params.learn? config decision total = some (params.learn config decision total) ∧
      (params.learn config decision total).Sized count := by
  obtain ⟨policySize, valueSize⟩ := sized
  have candidates : ∀ candidate ∈ decision.candidates, candidate.Fits params.policy.size := by
    simpa [policySize] using fits.candidates
  have observation : decision.observation.Fits params.value.size := by
    simpa [valueSize] using fits.observation
  obtain ⟨policy, samePolicy⟩ := foldlM_candidates
    (fun p j => policyCoefficient config (total - decision.value) (entropy decision.probs) p
      (j == decision.chosen))
    decision.probs fits.probs List.drop_zero candidates
  obtain ⟨value, sameValue⟩ := Features.addTo?_eq
    (config.learningRate * config.valueCoef * (total - decision.value)) observation
  refine ⟨?_, samePolicy.trans policySize, sameValue.trans valueSize⟩
  simp only [learn?, policy, value]
  rfl

theorem update?_eq {count : Nat} {config : Config R} {decisions : List (Decision R)} {params : Params R}
    (sized : params.Sized count) (fits : ∀ decision ∈ decisions, decision.Fits count) (total : R) :
    params.update? config decisions total = some (params.update config decisions total) ∧
      (params.update config decisions total).Sized count := by
  induction decisions generalizing params total with
  | nil => exact ⟨rfl, sized⟩
  | cons decision earlier ih =>
    obtain ⟨here, fits⟩ := List.forall_mem_cons.mp fits
    obtain ⟨learns, sized⟩ := learn?_eq config sized here (decision.reward + config.gamma * total)
    obtain ⟨goesOn, sized⟩ := ih sized fits (decision.reward + config.gamma * total)
    refine ⟨?_, sized⟩
    simpa [update?, learns, update] using goesOn

end Params
end TextQuest.Neural
