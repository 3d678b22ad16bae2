import TextQuest.Neural.Choice
import TextQuest.Neural.Config
import TextQuest.Neural.Features

/-!
A linear actor and critic. The actor scores each command by features of the command and of its words
together with those of the observation; the critic estimates what an observation is worth. Decisions
are kept until their rewards are known and are then learned from, the latest one first, with
discounted returns and a bonus for uncertainty.
-/
namespace TextQuest.Neural

structure Params (R : Type) where
  policy : Weights R
  value : Weights R

structure Decision (R : Type) where
  candidates : List (Features R)
  probs : List R
  chosen : Nat
  observation : Features R
  value : R
  /-- Known only with the call that follows the decision. -/
  reward : R

variable {R : Type} [Scalar R]

namespace Params

def zeros (count : Nat) : Params R := ⟨.zeros count, .zeros count⟩

def policyCoefficient (config : Config R) (advantage uncertainty p : R) (chosen : Bool) : R :=
  let gradient := advantage * ((if chosen then Scalar.one else Scalar.zero) - p)
  let bonus := -p * (Scalar.ln (Scalar.larger p Scalar.leastPositive) + uncertainty)
  config.learningRate * (gradient + config.entropyCoef * bonus)

def learn (config : Config R) (decision : Decision R) (total : R) (params : Params R) : Params R :=
  let advantage := total - decision.value
  let uncertainty := entropy decision.probs
  let policy := ((decision.candidates.zip decision.probs).zipIdx).foldl
    (fun weights ((candidate, p), j) =>
      candidate.addTo (policyCoefficient config advantage uncertainty p (j == decision.chosen))
        weights)
    params.policy
  let value := decision.observation.addTo
    (config.learningRate * config.valueCoef * advantage) params.value
  ⟨policy, value⟩

def update (config : Config R) : List (Decision R) → R → Params R → Params R
  | [], _, params => params
  | decision :: earlier, total, params =>
    let total := decision.reward + config.gamma * total
    update config earlier total (params.learn config decision total)

end Params

structure Stats (R : Type) where
  steps : Nat
  reward : R
  value : R
  entropy : R

def Stats.empty : Stats R := ⟨0, Scalar.zero, Scalar.zero, Scalar.zero⟩

structure Averages (R : Type) where
  decisions : Nat
  reward : R
  value : R
  entropy : R

structure Learner (R : Type) where
  config : Config R
  params : Params R
  random : Random.Generator
  training : Bool
  /-- Decisions that were not learned from yet, the latest first. -/
  buffer : List (Decision R)
  stats : Stats R
  decisions : Nat

namespace Learner

def new (config : Config R) : Learner R where
  config := config
  params := .zeros config.featureDim
  random := .ofSeed config.seed
  training := false
  buffer := []
  stats := .empty
  decisions := 0

def setTraining (on : Bool) (learner : Learner R) : Learner R :=
  { learner with training := on, buffer := if on then learner.buffer else [] }

def observe (learner : Learner R) (seen : List UInt64) : Features R :=
  observationFeatures learner.config.featureDim seen

def valueOf (learner : Learner R) (state : GameState) : R :=
  (learner.observe (observationWords state)).dot learner.params.value

def candidates (learner : Learner R) (state : GameState) : List (Features R) :=
  let seen := observationWords state
  state.admissibleCommands.map (commandFeatures learner.config.featureDim seen)

def probabilities (learner : Learner R) (candidates : List (Features R)) : List R :=
  softmax (candidates.map (·.dot learner.params.policy))

def sample (learner : Learner R) (probs : List R) : Nat × Learner R :=
  if learner.training then
    let (word, random) := learner.random.next
    (pick (Scalar.fraction word) probs, { learner with random })
  else (argmax probs, learner)

def reward (amount : R) (learner : Learner R) : Learner R :=
  { learner with
    buffer := match learner.buffer with
      | [] => []
      | last :: earlier => { last with reward := amount } :: earlier }

def update (bootstrap : R) (learner : Learner R) : Learner R :=
  { learner with
    params := learner.params.update learner.config learner.buffer bootstrap
    buffer := [] }

def count (reward value entropy : R) (learner : Learner R) : Learner R × Option (Averages R) :=
  let decisions := learner.decisions + 1
  let stats : Stats R :=
    ⟨learner.stats.steps + 1, learner.stats.reward + reward, learner.stats.value + value,
      learner.stats.entropy + entropy⟩
  if 0 < learner.config.logFrequency ∧ learner.config.logFrequency ≤ stats.steps then
    let n := Scalar.ofNat stats.steps
    ({ learner with decisions, stats := .empty },
      some ⟨decisions, stats.reward / n, stats.value / n, stats.entropy / n⟩)
  else ({ learner with decisions, stats }, none)

def remember (decision : Decision R) (amount : R) (learner : Learner R) :
    Learner R × Option (Averages R) :=
  let learner := learner.reward amount
  let learner :=
    if learner.config.updateFrequency ≤ learner.buffer.length then learner.update decision.value
    else learner
  let (learner, averages) := learner.count amount decision.value (entropy decision.probs)
  ({ learner with buffer := decision :: learner.buffer }, averages)

def choose (state : GameState) (amount : R) (learner : Learner R) :
    Nat × Learner R × Option (Averages R) :=
  let observation := learner.observe (observationWords state)
  let value := observation.dot learner.params.value
  let candidates := learner.candidates state
  let probs := learner.probabilities candidates
  let (chosen, learner) := learner.sample probs
  if learner.training then
    (chosen, learner.remember ⟨candidates, probs, chosen, observation, value, Scalar.zero⟩ amount)
  else (chosen, learner, none)

def finish (last : GameState) (amount : R) (done : Bool) (learner : Learner R) : Learner R :=
  if learner.training then
    let learner := learner.reward amount
    learner.update (if done then Scalar.zero else learner.valueOf last)
  else learner

end Learner
end TextQuest.Neural
