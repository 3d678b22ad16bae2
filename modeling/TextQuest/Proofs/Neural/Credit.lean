import TextQuest.Neural.Single
import TextQuest.Proofs.Neural.Learning

namespace TextQuest

structure CutInto {α : Type} (whole : List α) (size : Nat) (parts : List (List α)) : Prop where
  whole : parts.flatten = whole
  full : ∀ part ∈ parts.dropLast, part.length = size
  within : ∀ part ∈ parts, 0 < part.length ∧ part.length ≤ size

namespace CutInto

variable {α : Type} {size : Nat} {whole part : List α} {parts : List (List α)}

theorem single (nonempty : 0 < part.length) (fits : part.length ≤ size) : CutInto part size [part] where
  whole := by simp
  full := by simp
  within := by simpa using ⟨nonempty, fits⟩

theorem cons (cut : CutInto whole size parts) (positive : 0 < size) (full : part.length = size) :
    CutInto (part ++ whole) size (part :: parts) where
  whole := by rw [List.flatten_cons, cut.whole]
  full := by
    cases parts with
    | nil => simp
    | cons next rest =>
      rw [List.dropLast_cons_cons]
      exact List.forall_mem_cons.mpr ⟨full, cut.full⟩
  within := List.forall_mem_cons.mpr ⟨⟨by omega, by omega⟩, cut.within⟩

end CutInto

namespace Neural

variable {R : Type} [Scalar R]

structure Lesson (R : Type) where
  state : GameState
  decision : Decision R

def Lesson.rewarded {R : Type} (amount : R) (lesson : Lesson R) : Lesson R :=
  { lesson with decision := { lesson.decision with reward := amount } }

theorem rewarded_buffer {R : Type} (amount : R) (earlier : List (Lesson R)) (latest : Lesson R) :
    rewarded amount (latest.decision :: (earlier.map (·.decision)).reverse) =
      ((earlier ++ [latest.rewarded amount]).map (·.decision)).reverse := by
  simp [rewarded, Lesson.rewarded]

variable {R : Type} [Scalar R]

def Params.valueOf (config : Config R) (state : GameState) (params : Params R) : R :=
  (observationFeatures config.featureDim (observationWords state)).dot params.value

/-- Learns from batches of lessons, up to the last observation of the episode. The state after a batch is
the first one of those after it, or the last of all. -/
def Params.learnBatches (config : Config R) (last : Observation) :
    List (List (Lesson R)) → Params R → Params R
  | [], params => params
  | batch :: later, params =>
    let bootstrap :=
      match later.flatten with
      | next :: _ => params.valueOf config next.state
      | [] => if last.done then Scalar.zero else params.valueOf config last.state
    learnBatches config last later
      (params.update config (batch.map (·.decision)).reverse bootstrap)

namespace Learner

def decided : Learner R → List Observation → Learner R
  | learner, [] => learner
  | learner, now :: later => decided (Agent.neural.decide now learner).agent later

def taught (learner : Learner R) (seen : List Observation) (last : Observation) : Learner R :=
  (Agent.neural.finish last (learner.decided seen)).agent

def lesson (learner : Learner R) (state : GameState) : Lesson R := ⟨state, learner.decision state⟩

/-- The decisions for these observations, each as it was made and with the reward of the call after it. -/
def lessons : Learner R → List Observation → Observation → List (Lesson R)
  | _, [], _ => []
  | learner, now :: later, last =>
    (learner.lesson now.state).rewarded (Agent.amount (later.headD last).reward) ::
      lessons (Agent.neural.decide now learner).agent later last

theorem length_lessons (learner : Learner R) (seen : List Observation) (last : Observation) :
    (learner.lessons seen last).length = seen.length := by
  induction seen generalizing learner with
  | nil => rfl
  | cons now later ih => simp [lessons, ih]

/-- What a learner still has to learn in an episode: lessons it keeps, the latest of them without its
reward, and those that follow. -/
theorem learns_in_batches {learner : Learner R} {seen : List Observation} (last : Observation)
    (training : learner.training = true) (offered : ∀ now ∈ seen, now.state.admissibleCommands ≠ [])
    (earlier : List (Lesson R)) (latest : Lesson R)
    (buffer : learner.buffer = latest.decision :: (earlier.map (·.decision)).reverse)
    (fits : earlier.length + 1 ≤ max 1 learner.config.updateFrequency) :
    ∃ batches,
      CutInto (earlier ++ latest.rewarded (Agent.amount (seen.headD last).reward) ::
        learner.lessons seen last) (max 1 learner.config.updateFrequency) batches ∧
      (learner.taught seen last).params = learner.params.learnBatches learner.config last batches ∧
      (learner.taught seen last).buffer = [] := by
  induction seen generalizing learner earlier latest with
  | nil =>
    refine ⟨[earlier ++ [latest.rewarded (Agent.amount last.reward)]], ?_, ?_⟩
    · exact CutInto.single (by simp [lessons]) (by simpa [lessons] using fits)
    · rw [taught, decided, finish_training training, buffer, rewarded_buffer]
      exact ⟨rfl, rfl⟩
  | cons now later ih =>
    obtain ⟨offers, offered⟩ := List.forall_mem_cons.mp offered
    have remembers : learner.Remembers _ _ _ := decide_remembers training offers
    have trains := remembers.training.trans training
    have config := remembers.config
    have owed := rewarded_buffer (Agent.amount now.reward) earlier latest
    have length : learner.buffer.length = earlier.length + 1 := by simp [buffer]
    by_cases enough : learner.config.updateFrequency ≤ learner.buffer.length
    · -- The lessons that are kept are a batch, and the new one is the first of the next.
      obtain ⟨params, emptied⟩ := remembers.learns enough
      obtain ⟨batches, cut, taught, rest⟩ :=
        ih trains offered [] (learner.lesson now.state) emptied (Nat.le_max_left 1 _)
      rw [config] at cut taught
      rw [params, buffer, owed] at taught
      refine ⟨(earlier ++ [latest.rewarded (Agent.amount now.reward)]) :: batches, ?_, ?_, rest⟩
      · have full : (earlier ++ [latest.rewarded (Agent.amount now.reward)]).length =
            max 1 learner.config.updateFrequency := by
          simp
          omega
        simpa [lessons] using cut.cons (by omega) full
      · refine taught.trans ?_
        rw [Params.learnBatches, cut.whole]
        rfl
    · obtain ⟨params, kept⟩ := remembers.keeps (Nat.lt_of_not_le enough)
      rw [buffer, owed] at kept
      obtain ⟨batches, cut, taught, rest⟩ :=
        ih trains offered (earlier ++ [latest.rewarded (Agent.amount now.reward)])
          (learner.lesson now.state) kept (by rw [config]; simp; omega)
      rw [config] at cut taught
      rw [params] at taught
      refine ⟨batches, ?_, taught, rest⟩
      simpa [lessons] using cut

end Learner

theorem episode_learned_in_batches (learner : Learner R) (training : learner.training = true)
    (empty : learner.buffer = []) (seen : List Observation)
    (offered : ∀ now ∈ seen, now.state.admissibleCommands ≠ []) (last : Observation) :
    (learner.lessons seen last).length = seen.length ∧
      ∃ batches,
        CutInto (learner.lessons seen last) (max 1 learner.config.updateFrequency) batches ∧
        (learner.taught seen last).params = learner.params.learnBatches learner.config last batches ∧
        (learner.taught seen last).buffer = [] := by
  refine ⟨learner.length_lessons seen last, ?_⟩
  cases seen with
  | nil =>
    refine ⟨[], ⟨rfl, by simp, by simp⟩, ?_⟩
    rw [Learner.taught, Learner.decided, Learner.finish_training training, empty]
    exact ⟨rfl, rfl⟩
  | cons now later =>
    obtain ⟨offers, offered⟩ := List.forall_mem_cons.mp offered
    have remembers : learner.Remembers _ _ _ := Learner.decide_remembers training offers
    have trains := remembers.training.trans training
    have config := remembers.config
    -- Where no decision is kept there is nothing to learn from, however often the learner learns.
    obtain ⟨params, buffer⟩ :
        (Agent.neural.decide now learner).agent.params = learner.params ∧
          (Agent.neural.decide now learner).agent.buffer = [learner.decision now.state] := by
      have learns := remembers.learns
      have keeps := remembers.keeps
      rw [empty] at learns keeps
      by_cases never : learner.config.updateFrequency ≤ 0
      · exact learns never
      · exact keeps (Nat.lt_of_not_le never)
    obtain ⟨batches, cut, taught, rest⟩ :=
      Learner.learns_in_batches last trains offered [] (learner.lesson now.state) buffer
        (Nat.le_max_left 1 _)
    rw [config] at cut taught
    rw [params] at taught
    exact ⟨batches, cut, taught, rest⟩

theorem three_decisions_learned_in_batches :
    let learner := (Learner.new { Config.standard with updateFrequency := 2 }).setTraining true
    let now : Observation := { state := { admissibleCommands := ["go", "wait"] } }
    let seen := [now, { now with reward := .positive }, now]
    let last : Observation := { state := {}, reward := .negative, done := true }
    learner.training = true ∧ learner.buffer = [] ∧
      (∀ now ∈ seen, now.state.admissibleCommands ≠ []) ∧
      (learner.lessons seen last).length = 3 ∧
      ∃ batches,
        CutInto (learner.lessons seen last) 2 batches ∧
        (learner.taught seen last).params = learner.params.learnBatches learner.config last batches ∧
        (learner.taught seen last).buffer = [] := by
  intro learner now seen last
  have offered : ∀ now ∈ seen, now.state.admissibleCommands ≠ [] := by simp [seen, now]
  exact ⟨rfl, rfl, offered, episode_learned_in_batches learner rfl rfl seen offered last⟩

end Neural
end TextQuest
