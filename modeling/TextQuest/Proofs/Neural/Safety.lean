import TextQuest.Neural.Checkpoint
import TextQuest.Proofs.Agent.Choice
import TextQuest.Proofs.Neural.Bounds
import TextQuest.Proofs.Neural.Learning

/-!
What holds of a learner whatever was done with it, and whatever its operations on numbers return. Its weights
are as many as its settings say, what it keeps to learn from fits them, and it chooses among what is offered.
-/
namespace TextQuest.Neural

inductive Operation
  | setTraining (on : Bool)
  | decide (now : Observation)
  | finish (last : Observation)
  | load (tree : FileTree) (path : String)

variable {R : Type}

theorem fits_rewarded {decisions : List (Decision R)} {count : Nat}
    (fits : ∀ decision ∈ decisions, decision.Fits count) (amount : R) :
    ∀ decision ∈ rewarded amount decisions, decision.Fits count := by
  cases decisions with
  | nil => exact fits
  | cons latest earlier =>
    obtain ⟨⟨offered, probs, chosen, candidates, observation⟩, fits⟩ := List.forall_mem_cons.mp fits
    exact List.forall_mem_cons.mpr ⟨⟨offered, probs, chosen, candidates, observation⟩, fits⟩

namespace Learner

/-- A learner whose weights and decisions fit its settings. Outside training it keeps no decisions. -/
structure Safe (learner : Learner R) (config : Config R) : Prop where
  settings : learner.config = config
  sized : learner.params.Sized config.featureDim
  buffer : ∀ decision ∈ learner.buffer, decision.Fits config.featureDim
  within : learner.buffer.length ≤ max 1 config.updateFrequency
  idle : learner.training = false → learner.buffer = []

variable [Scalar R]

structure KeepsToWeights (learner : Learner R) : Prop where
  observes : ∀ state, (learner.observe (observationWords state)).Fits learner.config.featureDim ∧
    (learner.observe (observationWords state)).dot? learner.params.value = some (learner.valueOf state)
  scores : ∀ state, ∀ candidate ∈ learner.candidates state, candidate.Fits learner.config.featureDim ∧
    candidate.dot? learner.params.policy = some (candidate.dot learner.params.policy)
  learns : ∀ amount bootstrap,
    learner.params.update? learner.config (rewarded amount learner.buffer) bootstrap =
      some (learner.params.update learner.config (rewarded amount learner.buffer) bootstrap)

structure ChoosesOffered (learner : Learner R) : Prop where
  takes : ∀ now : Observation, now.state.admissibleCommands ≠ [] →
    ∃ command ∈ now.state.admissibleCommands, (Agent.neural.decide now learner).result = .ok command
  refuses : ∀ now : Observation, now.state.admissibleCommands = [] →
    Agent.neural.decide now learner = ⟨.error .noAdmissibleCommands, learner, []⟩

theorem decide_of_none {learner : Learner R} {now : Observation}
    (none : now.state.admissibleCommands = []) :
    Agent.neural.decide now learner = ⟨.error .noAdmissibleCommands, learner, []⟩ := by
  simp only [Agent.neural, none]

theorem choosesOffered (learner : Learner R) : learner.ChoosesOffered where
  takes now offered := Agent.neural_willing.takes now learner offered
  refuses _ none := decide_of_none none

theorem decide_evaluating {learner : Learner R} (evaluating : learner.training = false)
    (now : Observation) : (Agent.neural.decide now learner).agent = learner := by
  cases commands : now.state.admissibleCommands with
  | nil => rw [decide_of_none commands]
  | cons first rest => simp [Agent.neural, commands, choose, sample, evaluating]

theorem finish_evaluating {learner : Learner R} (evaluating : learner.training = false)
    (last : Observation) : (Agent.neural.finish last learner).agent = learner := by
  simp [Agent.neural, finish, evaluating]

theorem observe_fits (learner : Learner R) (positive : 0 < learner.config.featureDim)
    (seen : List UInt64) : (learner.observe seen).Fits learner.config.featureDim :=
  observationFeatures_fits positive seen

theorem candidates_fit (learner : Learner R) (positive : 0 < learner.config.featureDim)
    (state : GameState) :
    ∀ candidate ∈ learner.candidates state, candidate.Fits learner.config.featureDim := by
  intro candidate member
  obtain ⟨command, -, rfl⟩ := List.mem_map.mp member
  exact commandFeatures_fits positive _ command

theorem decision_fits (learner : Learner R) (positive : 0 < learner.config.featureDim)
    {state : GameState} (offered : state.admissibleCommands ≠ []) :
    (learner.decision state).Fits learner.config.featureDim := by
  have length : (learner.candidates state).length = state.admissibleCommands.length := by
    simp [candidates]
  have probs : (learner.probabilities (learner.candidates state)).length =
      (learner.candidates state).length := by
    simp [probabilities, length_softmax]
  have nonempty : 0 < (learner.candidates state).length := by
    rw [length]
    exact List.length_pos_iff.mpr offered
  have chosen := learner.sample_lt (List.length_pos_iff.mp (probs ▸ nonempty))
  exact {
    offered := nonempty
    probs := probs
    chosen := probs ▸ chosen
    candidates := learner.candidates_fit positive state
    observation := learner.observe_fits positive _ }

namespace Safe

variable {learner : Learner R} {config : Config R}

theorem new (config : Config R) : (Learner.new config).Safe config where
  settings := rfl
  sized := ⟨rfl, rfl⟩
  buffer := nofun
  within := Nat.zero_le _
  idle := fun _ => rfl

theorem keepsToWeights (safe : learner.Safe config) (positive : 0 < config.featureDim) :
    learner.KeepsToWeights := by
  obtain ⟨rfl, sized, buffer, -, -⟩ := safe
  constructor
  case observes =>
    intro state
    have fits := learner.observe_fits positive (observationWords state)
    exact ⟨fits, Features.dot?_eq (sized.value.symm ▸ fits)⟩
  case scores =>
    intro state candidate member
    have fits := learner.candidates_fit positive state candidate member
    exact ⟨fits, Features.dot?_eq (sized.policy.symm ▸ fits)⟩
  case learns =>
    intro amount bootstrap
    exact (Params.update?_eq sized (fits_rewarded buffer amount) bootstrap).1

omit [Scalar R] in
theorem setTraining (safe : learner.Safe config) (on : Bool) : (learner.setTraining on).Safe config := by
  obtain ⟨same, sized, buffer, within, -⟩ := safe
  cases on with
  | true => exact ⟨same, sized, buffer, within, nofun⟩
  | false => exact ⟨same, sized, nofun, Nat.zero_le _, fun _ => rfl⟩

theorem decide (safe : learner.Safe config) (positive : 0 < config.featureDim) (now : Observation) :
    (Agent.neural.decide now learner).agent.Safe config := by
  cases training : learner.training with
  | false => rwa [decide_evaluating training]
  | true =>
    by_cases none : now.state.admissibleCommands = []
    · rwa [decide_of_none none]
    · obtain ⟨rfl, sized, buffer, within, -⟩ := safe
      have fits := learner.decision_fits positive none
      have remembers : learner.Remembers _ _ _ := decide_remembers training none
      have trains := remembers.training.trans training
      by_cases enough : learner.config.updateFrequency ≤ learner.buffer.length
      · obtain ⟨params, emptied⟩ := remembers.learns enough
        refine ⟨remembers.config, ?_, ?_, ?_, fun idle => absurd (trains.symm.trans idle) nofun⟩
        · rw [params]
          exact (Params.update?_eq sized (fits_rewarded buffer _) _).2
        · simpa [emptied] using fits
        · rw [emptied]
          exact Nat.le_max_left 1 _
      · obtain ⟨params, kept⟩ := remembers.keeps (Nat.lt_of_not_le enough)
        refine ⟨remembers.config, ?_, ?_, ?_, fun idle => absurd (trains.symm.trans idle) nofun⟩
        · rwa [params]
        · rw [kept]
          exact List.forall_mem_cons.mpr ⟨fits, fits_rewarded buffer _⟩
        · rw [kept, List.length_cons, length_rewarded]
          omega

theorem finish (safe : learner.Safe config) (last : Observation) :
    (Agent.neural.finish last learner).agent.Safe config := by
  cases training : learner.training with
  | false => rwa [finish_evaluating training]
  | true =>
    obtain ⟨rfl, sized, buffer, -, -⟩ := safe
    rw [finish_training training]
    refine ⟨rfl, ?_, nofun, Nat.zero_le _, fun _ => rfl⟩
    exact (Params.update?_eq sized (fits_rewarded buffer _) _).2

theorem load {learner loaded : Learner Float32} {config : Config Float32} (safe : learner.Safe config)
    {tree : FileTree} {path : String} (loads : learner.load tree path = .ok loaded) :
    loaded.Safe config := by
  obtain ⟨rfl, -, buffer, within, idle⟩ := safe
  unfold Learner.load at loads
  split at loads
  · cases loads
  · unfold restore at loads
    split at loads
    · cases loads
    · dsimp only at loads
      split at loads
      · rename_i params _ fits
        cases loads
        exact ⟨rfl, ⟨fits.1, fits.2⟩, buffer, within, idle⟩
      · cases loads

end Safe

variable [Scalar Float32]

def operate (learner : Learner Float32) : Operation → Learner Float32
  | .setTraining on => Agent.neural.setTraining on learner
  | .decide now => (Agent.neural.decide now learner).agent
  | .finish last => (Agent.neural.finish last learner).agent
  | .load tree path => (learner.load tree path).toOption.getD learner

theorem Safe.operate {learner : Learner Float32} {config : Config Float32} (safe : learner.Safe config)
    (positive : 0 < config.featureDim) (operation : Operation) :
    (learner.operate operation).Safe config := by
  cases operation with
  | setTraining on => exact safe.setTraining on
  | decide now => exact safe.decide positive now
  | finish last => exact safe.finish last
  | load tree path =>
    cases loads : learner.load tree path with
    | error _ => simpa [Learner.operate, loads, Except.toOption] using safe
    | ok loaded => simpa [Learner.operate, loads, Except.toOption] using safe.load loads

theorem Safe.operated {learner : Learner Float32} {config : Config Float32} (safe : learner.Safe config)
    (positive : 0 < config.featureDim) (operations : List Operation) :
    (operations.foldl Learner.operate learner).Safe config := by
  induction operations generalizing learner with
  | nil => exact safe
  | cons operation later ih => exact ih (safe.operate positive operation)

end Learner

theorem operated_learner_is_safe [Scalar Float32] (config : Config Float32) (positive : 0 < config.featureDim)
    (operations : List Operation) :
    let learner := operations.foldl Learner.operate (.new config)
    learner.Safe config ∧ learner.KeepsToWeights ∧ learner.ChoosesOffered := by
  have safe := (Learner.Safe.new config).operated positive operations
  exact ⟨safe, safe.keepsToWeights positive, Learner.choosesOffered _⟩

theorem small_learner_is_safe :
    let config : Config Float32 := { Config.standard with featureDim := 3, updateFrequency := 0 }
    let now : Observation := { state := { description := "A hall.", admissibleCommands := ["go", "go on"] } }
    let tree : FileTree := ⟨[(["weights.ron"], .file "(policy: [1, inf, NaN], value: [0, 0, 0])".toUTF8)]⟩
    let operations : List Operation :=
      [.setTraining true, .decide now, .load tree "weights.ron", .decide now,
        .finish { now with reward := .positive, done := true }, .load tree "missing.ron"]
    let learner := operations.foldl Learner.operate (.new config)
    0 < config.featureDim ∧ learner.Safe config ∧ learner.KeepsToWeights ∧ learner.ChoosesOffered := by
  intro config now tree operations learner
  have positive : 0 < config.featureDim := by decide
  exact ⟨positive, operated_learner_is_safe config positive operations⟩

end TextQuest.Neural
