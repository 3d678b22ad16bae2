import TextQuest.Agent
import TextQuest.Neural.Learner

namespace TextQuest.Agent
open TextQuest.Neural

variable {R : Type} [Scalar R]

def averagesNote (averages : Averages R) : Note where
  level := .debug
  message := "avg. reward: " ++ Scalar.shown averages.reward ++
    "; avg. value: " ++ Scalar.shown averages.value ++
    "; avg. entropy: " ++ Scalar.shown averages.entropy
  fields := [("total_steps", toString averages.decisions)]
  topic := .learning

def amount (reward : Reward) : R := Scalar.ofInt reward.value

def neural : Agent (Learner R) where
  name := "neural"
  decide observation learner :=
    match observation.state.admissibleCommands with
    | [] => ⟨.error .noAdmissibleCommands, learner, []⟩
    | first :: rest =>
      let (index, learner, averages) :=
        learner.choose observation.state (amount observation.reward)
      ⟨.ok ((first :: rest).getD index first), learner, averages.toList.map averagesNote⟩
  finish observation learner :=
    ⟨.ok (), learner.finish observation.state (amount observation.reward) observation.done, []⟩
  setTraining := Learner.setTraining

/-- A learner with settings that can be used, where there is memory for fewer than `memory` weights of
a kind. -/
def newLearner (memory : Nat) (config : Config R) : Except AgentError (Learner R) := do
  config.validate
  if weightLimit < config.featureDim then throw .tooManyWeights
  if memory ≤ config.featureDim then throw (.outOfMemory config.featureDim)
  return .new config

end TextQuest.Agent
