import TextQuest.Agent.Neural

namespace TextQuest.Neural

variable {R : Type}

def rewarded (amount : R) : List (Decision R) → List (Decision R)
  | [] => []
  | latest :: earlier => { latest with reward := amount } :: earlier

@[simp] theorem length_rewarded (amount : R) (decisions : List (Decision R)) :
    (rewarded amount decisions).length = decisions.length := by
  cases decisions <;> rfl

theorem Learner.reward_eq (amount : R) (learner : Learner R) :
    learner.reward amount = { learner with buffer := rewarded amount learner.buffer } := by
  unfold reward
  cases learner.buffer <;> rfl

variable [Scalar R]

namespace Learner

def decision (learner : Learner R) (state : GameState) : Decision R where
  candidates := learner.candidates state
  probs := learner.probabilities (learner.candidates state)
  chosen := (learner.sample (learner.probabilities (learner.candidates state))).1
  observation := learner.observe (observationWords state)
  value := learner.valueOf state
  reward := Scalar.zero

variable {learner : Learner R} {now last : Observation}

theorem count_keeps (reward value entropy : R) (learner : Learner R) :
    let counted := (learner.count reward value entropy).1
    counted.config = learner.config ∧ counted.params = learner.params ∧
      counted.training = learner.training ∧ counted.buffer = learner.buffer := by
  unfold count
  dsimp only
  split <;> exact ⟨rfl, rfl, rfl, rfl⟩

theorem sample_keeps (learner : Learner R) (probs : List R) :
    let sampled := (learner.sample probs).2
    sampled.config = learner.config ∧ sampled.params = learner.params ∧
      sampled.training = learner.training ∧ sampled.buffer = learner.buffer := by
  unfold sample
  split <;> exact ⟨rfl, rfl, rfl, rfl⟩

structure Remembers (learner : Learner R) (decision : Decision R) (amount : R) (after : Learner R) :
    Prop where
  config : after.config = learner.config
  training : after.training = learner.training
  learns : learner.config.updateFrequency ≤ learner.buffer.length →
    after.params =
        learner.params.update learner.config (rewarded amount learner.buffer) decision.value ∧
      after.buffer = [decision]
  keeps : learner.buffer.length < learner.config.updateFrequency →
    after.params = learner.params ∧ after.buffer = decision :: rewarded amount learner.buffer

theorem remembers (learner : Learner R) (decision : Decision R) (amount : R) :
    learner.Remembers decision amount (learner.remember decision amount).1 := by
  unfold remember
  rw [reward_eq]
  dsimp only
  split
  · rename_i enough
    rw [length_rewarded] at enough
    obtain ⟨config, params, training, buffer⟩ := count_keeps amount decision.value (entropy decision.probs)
      (update decision.value { learner with buffer := rewarded amount learner.buffer })
    refine ⟨config, training, fun _ => ⟨params, ?_⟩, fun fewer => absurd enough (Nat.not_le_of_lt fewer)⟩
    rw [buffer]
    rfl
  · rename_i fewer
    rw [length_rewarded] at fewer
    obtain ⟨config, params, training, buffer⟩ := count_keeps amount decision.value (entropy decision.probs)
      { learner with buffer := rewarded amount learner.buffer }
    refine ⟨config, training, fun enough => absurd enough fewer, fun _ => ⟨params, ?_⟩⟩
    rw [buffer]

theorem decide_remembers (training : learner.training = true)
    (offered : now.state.admissibleCommands ≠ []) :
    learner.Remembers (learner.decision now.state) (Agent.amount now.reward)
      (Agent.neural.decide now learner).agent := by
  obtain ⟨first, rest, commands⟩ := List.exists_cons_of_ne_nil offered
  have chosen : (Agent.neural.decide now learner).agent =
      (learner.choose now.state (Agent.amount now.reward)).2.1 := by
    simp only [Agent.neural, commands]
  obtain ⟨config, params, trains, buffer⟩ :=
    learner.sample_keeps (learner.probabilities (learner.candidates now.state))
  have remembers := (learner.sample (learner.probabilities (learner.candidates now.state))).2.remembers
    (learner.decision now.state) (Agent.amount now.reward)
  rw [chosen, choose]
  dsimp only
  rw [if_pos (trains.trans training)]
  constructor
  · exact remembers.config.trans config
  · exact remembers.training.trans trains
  · intro enough
    rw [← config, ← buffer] at enough
    have learns := remembers.learns enough
    rwa [config, params, buffer] at learns
  · intro fewer
    rw [← config, ← buffer] at fewer
    have keeps := remembers.keeps fewer
    rwa [params, buffer] at keeps

theorem finish_training (training : learner.training = true) :
    (Agent.neural.finish last learner).agent =
      { learner with
        params := learner.params.update learner.config
          (rewarded (Agent.amount last.reward) learner.buffer)
          (if last.done then Scalar.zero else learner.valueOf last.state)
        buffer := [] } := by
  simp only [Agent.neural, finish, if_pos training, reward_eq]
  rfl

end Learner

end TextQuest.Neural
